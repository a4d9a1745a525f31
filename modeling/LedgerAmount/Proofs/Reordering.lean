import LedgerAmount.Proofs.Tokens
import Mathlib.Data.List.Perm.Subperm

/-!
# What reordering does to the tokens

A conversion to postfix order is a run of steps. Each step is described by a relation that says
which waiting operators it places and why; from it follows what every run keeps: the numbers stay in
order, no operator is lost, and the open parentheses are the ones that wait.
-/

namespace LedgerAmount

namespace Token

@[simp] theorem precedence_operator (op : Operator) :
    (operator op.symbol).precedence = .ok op.precedence := by
  simp [precedence, text]

/-- A waiting operator makes way for an arriving one that binds no tighter. -/
def MakesWayFor (waiting incoming : Token) : Prop :=
  waiting.kind = .operator ∧ ∃ standing arriving, waiting.precedence = .ok standing ∧
    incoming.precedence = .ok arriving ∧ arriving ≤ standing

/-- A waiting token stays below an arriving operator unless it is an operator itself and binds at
least as tightly. -/
def StaysBelow (waiting incoming : Token) : Prop :=
  waiting.kind = .operator → ∃ standing arriving, waiting.precedence = .ok standing ∧
    incoming.precedence = .ok arriving ∧ standing < arriving

end Token

namespace Reordering

open Token

/-! ## One step -/

/-- What taking in a token does to a conversion. -/
inductive Takes : Reordering → Token → Reordering → Prop
  | number {placed waiting : List Token} (text : String) (value : Decimal) :
      Takes ⟨placed, waiting⟩ (.number text value) ⟨.number text value :: placed, waiting⟩
  | operator {placed released rest : List Token} (symbol : String)
      (yield : ∀ t ∈ released, t.MakesWayFor (.operator symbol))
      (stay : ∀ t ∈ rest.head?, t.StaysBelow (.operator symbol)) :
      Takes ⟨placed, released ++ rest⟩ (.operator symbol)
        ⟨released.reverse ++ placed, .operator symbol :: rest⟩
  | leftParen {placed waiting : List Token} (text : String) :
      Takes ⟨placed, waiting⟩ (.leftParen text) ⟨placed, .leftParen text :: waiting⟩
  | rightParen {placed released rest : List Token} {opening : Token} (text : String)
      (inner : ∀ t ∈ released, t.kind ≠ .leftParen) (outer : opening.kind = .leftParen) :
      Takes ⟨placed, released ++ opening :: rest⟩ (.rightParen text)
        ⟨released.reverse ++ placed, rest⟩

/-- The latest waiting token makes way, and the others are looked at, or it stays and so do they. -/
theorem release_cons_eq_ok_iff {incoming top : Token} {placed waiting : List Token}
    {after : Reordering} : release incoming placed (top :: waiting) = .ok after ↔
      top.MakesWayFor incoming ∧ release incoming (top :: placed) waiting = .ok after ∨
      top.StaysBelow incoming ∧ after = ⟨placed, top :: waiting⟩ := by
  rw [release]
  by_cases htop : top.isOperator = true
  · rw [if_pos htop]
    simp only [bind_eq_ok_iff]
    constructor
    · intro h
      obtain ⟨standing, hstanding, arriving, harriving, h⟩ := h
      by_cases hle : arriving ≤ standing
      · rw [if_pos hle] at h
        exact .inl ⟨⟨isOperator_iff.mp htop, standing, arriving, hstanding, harriving, hle⟩, h⟩
      · rw [if_neg hle] at h
        exact .inr ⟨fun _ => ⟨standing, arriving, hstanding, harriving, by omega⟩,
          (Except.ok.inj h).symm⟩
    · intro h
      rcases h with ⟨⟨-, standing, arriving, hstanding, harriving, hle⟩, h⟩ | ⟨hstay, rfl⟩
      · exact ⟨standing, hstanding, arriving, harriving, by rwa [if_pos hle]⟩
      · obtain ⟨standing, arriving, hstanding, harriving, hlt⟩ := hstay (isOperator_iff.mp htop)
        exact ⟨standing, hstanding, arriving, harriving, if_neg (by omega)⟩
  · rw [if_neg htop]
    have hkind : top.kind ≠ .operator := by rwa [Ne, ← isOperator_iff]
    simp [MakesWayFor, StaysBelow, hkind, eq_comm]

/-- Releasing places the longest row of waiting operators that make way. -/
theorem release_eq_ok_iff {incoming : Token} {placed waiting : List Token} {after : Reordering} :
    release incoming placed waiting = .ok after ↔ ∃ released rest, waiting = released ++ rest ∧
      (∀ t ∈ released, t.MakesWayFor incoming) ∧ (∀ t ∈ rest.head?, t.StaysBelow incoming) ∧
      after = ⟨released.reverse ++ placed, rest⟩ := by
  induction waiting generalizing placed with
  | nil =>
    rw [release]
    constructor
    · intro h
      cases h
      exact ⟨[], [], by simp⟩
    · intro h
      obtain ⟨released, rest, hsplit, -, -, rfl⟩ := h
      simp_all
  | cons top waiting ih =>
    rw [release_cons_eq_ok_iff]
    constructor
    · intro h
      rcases h with ⟨hyield, h⟩ | ⟨hstay, rfl⟩
      · obtain ⟨released, rest, rfl, hreleased, hrest, rfl⟩ := ih.mp h
        exact ⟨top :: released, rest, rfl, List.forall_mem_cons.mpr ⟨hyield, hreleased⟩, hrest,
          by simp⟩
      · exact ⟨[], top :: waiting, rfl, by simp, by simpa using hstay, rfl⟩
    · intro h
      obtain ⟨released, rest, hsplit, hyield, hstay, rfl⟩ := h
      cases released with
      | nil =>
        obtain rfl : top :: waiting = rest := hsplit
        exact .inr ⟨hstay top rfl, rfl⟩
      | cons first released =>
        obtain ⟨rfl, rfl⟩ : top = first ∧ waiting = released ++ rest := by simpa using hsplit
        obtain ⟨htop, hreleased⟩ := List.forall_mem_cons.mp hyield
        exact .inl ⟨htop, ih.mpr ⟨released, rest, rfl, hreleased, hstay, by simp⟩⟩

/-- Releasing never fails where every waiting operator is one of the four. -/
theorem exists_release (op : Operator) (placed : List Token) {waiting : List Token}
    (h : ∀ t ∈ waiting, t.IsRanked) :
    ∃ after, release (.operator op.symbol) placed waiting = .ok after := by
  induction waiting generalizing placed with
  | nil => exact ⟨_, rfl⟩
  | cons top waiting ih =>
    simp only [release_cons_eq_ok_iff]
    by_cases hop : top.kind = .operator
    · obtain ⟨standing, rfl⟩ := h top (by simp) hop
      by_cases hle : op.precedence ≤ standing.precedence
      · obtain ⟨after, hafter⟩ := ih (_ :: placed) fun t ht => h t (by simp [ht])
        exact ⟨after, .inl ⟨⟨rfl, _, _, precedence_operator standing, precedence_operator op, hle⟩,
          hafter⟩⟩
      · exact ⟨_, .inr ⟨fun _ => ⟨_, _, precedence_operator standing, precedence_operator op,
          by omega⟩, rfl⟩⟩
    · exact ⟨_, .inr ⟨fun h => absurd h hop, rfl⟩⟩

/-- Closing a group places what waits above its open parenthesis. -/
theorem close_eq_ok_iff {state after : Reordering} :
    close state = .ok after ↔ ∃ released opening rest,
      state.waiting = released ++ opening :: rest ∧ (∀ t ∈ released, t.kind ≠ .leftParen) ∧
      opening.kind = .leftParen ∧ after = ⟨released.reverse ++ state.placed, rest⟩ := by
  constructor
  · intro h
    have hsplit := List.takeWhile_append_dropWhile (p := (!·.isLeftParen)) (l := state.waiting)
    have hhead := List.head?_dropWhile_not (!·.isLeftParen) state.waiting
    rw [close] at h
    split at h
    next => cases h
    next opening rest hdrop =>
      cases h
      rw [hdrop] at hsplit hhead
      refine ⟨_, opening, rest, hsplit.symm, ?_, ?_, rfl⟩
      · intro t ht
        exact not_isLeftParen_iff.mp (List.all_eq_true.mp List.all_takeWhile t ht)
      · simpa [isLeftParen_iff] using hhead
  · intro h
    obtain ⟨released, opening, rest, hsplit, hreleased, hopening, rfl⟩ := h
    have hpos : ∀ t ∈ released, (!t.isLeftParen) = true := by
      intro t ht
      exact not_isLeftParen_iff.mpr (hreleased t ht)
    rw [close, hsplit, List.dropWhile_append_of_pos hpos, List.takeWhile_append_of_pos hpos]
    simp [isLeftParen_iff.mpr hopening]

/-- The steps of a conversion are exactly those that are described. -/
theorem step_eq_ok_iff {state after : Reordering} {token : Token} :
    step state token = .ok after ↔ Takes state token after := by
  obtain ⟨placed, waiting⟩ := state
  constructor
  · intro h
    cases token with
    | number text value => cases h; exact .number text value
    | leftParen text => cases h; exact .leftParen text
    | operator symbol =>
      simp only [step, bind_eq_ok_iff, mapError_eq_ok_iff, release_eq_ok_iff] at h
      obtain ⟨_, ⟨released, rest, rfl, hyield, hstay, rfl⟩, h⟩ := h
      cases h
      exact .operator symbol hyield hstay
    | rightParen text =>
      simp only [step, mapError_eq_ok_iff, close_eq_ok_iff] at h
      obtain ⟨released, opening, rest, rfl, hinner, houter, rfl⟩ := h
      exact .rightParen text hinner houter
  · intro h
    cases h with
    | number => rfl
    | leftParen => rfl
    | operator symbol hyield hstay =>
      simp only [step, bind_eq_ok_iff, mapError_eq_ok_iff, release_eq_ok_iff]
      exact ⟨_, ⟨_, _, rfl, hyield, hstay, rfl⟩, rfl⟩
    | rightParen text hinner houter =>
      simp only [step, mapError_eq_ok_iff, close_eq_ok_iff]
      exact ⟨_, _, _, rfl, hinner, houter, rfl⟩

/-- A closing parenthesis is turned down only where no open one waits. -/
theorem close_eq_error_iff {state : Reordering} {why : Rejection} :
    close state = .error why ↔ why = .strayClosing ∧ count .leftParen state.waiting = 0 := by
  have hdrop : state.waiting.dropWhile (!·.isLeftParen) = [] ↔
      count .leftParen state.waiting = 0 := by
    rw [List.dropWhile_eq_nil_iff, count_eq_zero]
    exact forall₂_congr fun t _ => not_isLeftParen_iff
  rw [← hdrop, close]
  split
  next h => simp [h, eq_comm]
  next h => simp [h]

/-- Every token is taken in, except for a closing parenthesis that closes nothing. -/
theorem step_isRanked {state : Reordering} {token : Token} (htoken : token.IsRanked)
    (hwaiting : ∀ t ∈ state.waiting, t.IsRanked) :
    (∃ after, Takes state token after) ∨
      token.kind = .rightParen ∧ count .leftParen state.waiting = 0 ∧
        step state token = .error (.rejected .strayClosing) := by
  obtain ⟨placed, waiting⟩ := state
  cases token with
  | number text value => exact .inl ⟨_, .number text value⟩
  | operator symbol =>
    obtain ⟨op, hop⟩ := htoken rfl
    cases hop
    obtain ⟨after, h⟩ := exists_release op placed hwaiting
    obtain ⟨released, rest, rfl, hyield, hstay, -⟩ := release_eq_ok_iff.mp h
    exact .inl ⟨_, .operator op.symbol hyield hstay⟩
  | leftParen text => exact .inl ⟨_, .leftParen text⟩
  | rightParen text =>
    cases h : close ⟨placed, waiting⟩ with
    | ok after =>
      exact .inl ⟨after, step_eq_ok_iff.mp (by simp [step, h, Except.mapError])⟩
    | error why =>
      obtain ⟨rfl, hnone⟩ := close_eq_error_iff.mp h
      exact .inr ⟨rfl, hnone, by simp [step, h, Except.mapError]⟩

/-! ## Runs -/

/-- Takes in tokens one after the other. -/
def run (state : Reordering) (tokens : List Token) : Except Stop Reordering :=
  tokens.foldlM step state

@[simp] theorem run_nil (state : Reordering) : run state [] = .ok state := rfl

theorem run_append (state : Reordering) (tokens others : List Token) :
    run state (tokens ++ others) = run state tokens >>= (run · others) :=
  List.foldlM_append ..

theorem run_cons_eq_ok_iff {state after : Reordering} {token : Token} {tokens : List Token} :
    run state (token :: tokens) = .ok after ↔
      ∃ next, Takes state token next ∧ run next tokens = .ok after := by
  rw [run, List.foldlM_cons, bind_eq_ok_iff]
  simp only [step_eq_ok_iff]
  rfl

theorem run_append_eq_ok_iff {state after : Reordering} {tokens others : List Token} :
    run state (tokens ++ others) = .ok after ↔
      ∃ next, run state tokens = .ok next ∧ run next others = .ok after := by
  rw [run_append, bind_eq_ok_iff]

/-- A conversion ends with what waits, unless an open parenthesis does. -/
theorem finish_eq_ok_iff {state : Reordering} {ordered : List Token} :
    finish state = .ok ordered ↔ count .leftParen state.waiting = 0 ∧
      ordered = state.placed.reverse ++ state.waiting := by
  rw [finish]
  by_cases hopen : state.waiting.any (·.isLeftParen) = true
  · simp [hopen, any_isLeftParen_iff.mp hopen]
  · have hnone : count .leftParen state.waiting = 0 := by rwa [any_isLeftParen_iff, not_not] at hopen
    simp [hopen, hnone, eq_comm]

theorem finish_eq_error_iff {state : Reordering} {why : Rejection} :
    finish state = .error why ↔ count .leftParen state.waiting ≠ 0 ∧ why = .unclosed := by
  rw [finish]
  by_cases hopen : state.waiting.any (·.isLeftParen) = true
  · simp [hopen, any_isLeftParen_iff.mp hopen, eq_comm]
  · have hnone : count .leftParen state.waiting = 0 := by rwa [any_isLeftParen_iff, not_not] at hopen
    simp [hopen, hnone]

/-- The tokens are in postfix order once they are all taken in and no open parenthesis waits. -/
theorem toPostfix_eq_ok_iff {tokens ordered : List Token} :
    toPostfix tokens = .ok ordered ↔ ∃ state, run start tokens = .ok state ∧
      count .leftParen state.waiting = 0 ∧ ordered = state.placed.reverse ++ state.waiting := by
  simp only [toPostfix, bind_eq_ok_iff, mapError_eq_ok_iff, finish_eq_ok_iff]
  rfl

/-- A conversion accounts for the tokens that it has taken in: the numbers are placed in order, the
operators are placed or wait, and an open parenthesis waits for every one not yet closed. -/
structure Accounts (state : Reordering) (seen : List Token) : Prop where
  numbers : select .number state.placed = (select .number seen).reverse
  operators : (select .operator (state.placed ++ state.waiting)).Perm (select .operator seen)
  placed_kind : ∀ t ∈ state.placed, t.kind = .number ∨ t.kind = .operator
  waiting_kind : ∀ t ∈ state.waiting, t.kind = .operator ∨ t.kind = .leftParen
  parens : count .leftParen state.waiting + count .rightParen seen = count .leftParen seen

theorem accounts_start : Accounts start [] := by
  constructor <;> simp [start]

/-- Placing waiting operators changes nothing in the account. -/
theorem Accounts.place {placed released rest seen : List Token}
    (hs : Accounts ⟨placed, released ++ rest⟩ seen) (hr : ∀ t ∈ released, t.kind = .operator) :
    Accounts ⟨released.reverse ++ placed, rest⟩ seen := by
  have hnone : ∀ kind, kind ≠ TokenKind.operator → select kind released = [] := by
    intro kind hkind
    rw [select_eq_nil]
    intro t ht
    rw [hr t ht]
    exact hkind.symm
  constructor
  · simpa [hnone] using hs.numbers
  · have hperm : (released.reverse ++ placed ++ rest).Perm (placed ++ (released ++ rest)) := by
      rw [List.perm_iff_count]
      intro t
      simp only [List.count_append, List.count_reverse]
      omega
    exact (select_perm hperm).trans hs.operators
  · intro t ht
    rcases List.mem_append.mp ht with ht | ht
    · exact .inr (hr t (List.mem_reverse.mp ht))
    · exact hs.placed_kind t ht
  · intro t ht
    exact hs.waiting_kind t (List.mem_append_right _ ht)
  · simpa [count, hnone] using hs.parens

/-- Every step keeps the account. -/
theorem Takes.accounts {state after : Reordering} {token : Token} {seen : List Token}
    (h : Takes state token after) (hs : Accounts state seen) :
    Accounts after (seen ++ [token]) := by
  cases h with
  | number text value =>
    constructor
    · simpa [select_cons] using hs.numbers
    · simpa [select_cons] using hs.operators
    · simpa using hs.placed_kind
    · exact hs.waiting_kind
    · simpa [count_cons] using hs.parens
  | operator symbol yield stay =>
    have hplaced := hs.place fun t ht => (yield t ht).1
    constructor
    · simpa [select_cons] using hplaced.numbers
    · have hperm := hplaced.operators
      simp only [select_append, select_cons, select_nil, kind_operator, if_true] at hperm ⊢
      refine List.perm_middle.trans ((hperm.cons _).trans ?_)
      exact (List.perm_append_singleton _ _).symm
    · exact hplaced.placed_kind
    · simpa using hplaced.waiting_kind
    · simpa [count_cons] using hplaced.parens
  | leftParen text =>
    constructor
    · simpa [select_cons] using hs.numbers
    · simpa [select_cons] using hs.operators
    · exact hs.placed_kind
    · simpa using hs.waiting_kind
    · have hparens := hs.parens
      simp [count_cons] at hparens ⊢
      omega
  | rightParen text inner outer =>
    have hplaced := hs.place fun t ht =>
      (hs.waiting_kind t (List.mem_append_left _ ht)).resolve_right (inner t ht)
    constructor
    · simpa [select_cons] using hplaced.numbers
    · simpa [select_cons, outer] using hplaced.operators
    · exact hplaced.placed_kind
    · exact fun t ht => hplaced.waiting_kind t (List.mem_cons_of_mem _ ht)
    · have hparens := hplaced.parens
      simp [count_cons, outer] at hparens ⊢
      omega

/-- What every step keeps is kept by every run. -/
theorem run_induction {motive : Reordering → List Token → Prop}
    (keep : ∀ {state after : Reordering} {token : Token} {seen : List Token},
      Takes state token after → motive state seen → motive after (seen ++ [token]))
    {state after : Reordering} {tokens seen : List Token} (h : run state tokens = .ok after)
    (hs : motive state seen) : motive after (seen ++ tokens) := by
  induction tokens generalizing state seen with
  | nil =>
    cases h
    simpa using hs
  | cons token tokens ih =>
    obtain ⟨next, hnext, hrest⟩ := run_cons_eq_ok_iff.mp h
    simpa using ih hrest (keep hnext hs)

/-- So every run keeps the account. -/
theorem run_accounts {state after : Reordering} {tokens seen : List Token}
    (h : run state tokens = .ok after) (hs : Accounts state seen) :
    Accounts after (seen ++ tokens) :=
  run_induction Takes.accounts h hs

/-- The operators that wait come from the tokens seen. -/
theorem Accounts.mem_of_mem_waiting {state : Reordering} {seen : List Token}
    (hs : Accounts state seen) {t : Token} (ht : t ∈ state.waiting) (hop : t.kind = .operator) :
    t ∈ seen := by
  have hmem : t ∈ select .operator (state.placed ++ state.waiting) :=
    mem_select.mpr ⟨List.mem_append_right _ ht, hop⟩
  exact (mem_select.mp (hs.operators.mem_iff.mp hmem)).1

/-- A run goes through, unless some part from the start closes more than it opens. -/
theorem run_isRanked {state : Reordering} {seen tokens : List Token} (hs : Accounts state seen)
    (h : ∀ t ∈ seen ++ tokens, t.IsRanked) :
    (∃ after, run state tokens = .ok after) ∨
      run state tokens = .error (.rejected .strayClosing) ∧ ClosesEarly (seen ++ tokens) := by
  induction tokens generalizing state seen with
  | nil => exact .inl ⟨state, rfl⟩
  | cons token tokens ih =>
    have hwaiting : ∀ t ∈ state.waiting, t.IsRanked := fun t ht hop =>
      h t (List.mem_append_left _ (hs.mem_of_mem_waiting ht hop)) hop
    rcases step_isRanked (h token (by simp)) hwaiting with ⟨next, hnext⟩ | ⟨hkind, hnone, hstep⟩
    · have hrun : run state (token :: tokens) = run next tokens := by
        rw [run, List.foldlM_cons, step_eq_ok_iff.mpr hnext]
        rfl
      have happend : seen ++ token :: tokens = seen ++ [token] ++ tokens := by simp
      rw [hrun, happend]
      exact ih (hnext.accounts hs) (by simpa using h)
    · refine .inr ⟨?_, seen ++ [token], tokens, by simp, ?_⟩
      · rw [run, List.foldlM_cons, hstep]
        rfl
      · have hparens := hs.parens
        simp [count_cons, hkind]
        omega

/-! ## The whole conversion -/

/-- Tokens in postfix order are the numbers of the expression in order and its operators in some
order, and the parentheses of the expression pair up. -/
structure Reordered (tokens ordered : List Token) : Prop where
  numbers : select .number ordered = select .number tokens
  operators : (select .operator ordered).Perm (select .operator tokens)
  ordered_kind : ∀ t ∈ ordered, t.kind = .number ∨ t.kind = .operator
  balanced : Balanced tokens

open scoped List in
/-- Postfix order is an order of the numbers and the operators of the expression. -/
theorem Reordered.perm {tokens ordered : List Token} (h : Reordered tokens ordered) :
    ordered ~ withoutParens tokens :=
  calc ordered
    _ = withoutParens ordered := (withoutParens_eq_self h.ordered_kind).symm
    _ ~ select .number ordered ++ select .operator ordered := (select_append_select_perm _).symm
    _ ~ select .number tokens ++ select .operator tokens := by
      rw [h.numbers]
      exact h.operators.append_left _
    _ ~ withoutParens tokens := select_append_select_perm _

/-- So it takes its tokens from the expression, none more often than it is there. -/
theorem Reordered.subperm {tokens ordered : List Token} (h : Reordered tokens ordered) :
    ordered.Subperm tokens :=
  h.perm.subperm.trans List.filter_sublist.subperm

theorem Reordered.subset {tokens ordered : List Token} (h : Reordered tokens ordered) :
    ∀ t ∈ ordered, t ∈ tokens :=
  h.subperm.subset

/-- What has been taken in closes no more than it opens. -/
theorem not_closesEarly_of_run {tokens : List Token} {state : Reordering}
    (h : run start tokens = .ok state) : ¬ClosesEarly tokens := by
  rintro ⟨before, after, rfl, hlt⟩
  obtain ⟨next, hnext, -⟩ := run_append_eq_ok_iff.mp h
  have hparens := (run_accounts hnext accounts_start).parens
  simp only [List.nil_append] at hparens
  omega

/-- Postfix order is one that an evaluation can take in. -/
theorem Reordered.isEvaluable {tokens ordered : List Token} (h : Reordered tokens ordered)
    (hranked : ∀ t ∈ tokens, t.IsRanked) : ∀ t ∈ ordered, t.IsEvaluable :=
  fun t ht => (hranked t (h.subset t ht)).isEvaluable (h.ordered_kind t ht)

theorem reordered_of_toPostfix {tokens ordered : List Token} (h : toPostfix tokens = .ok ordered) :
    Reordered tokens ordered := by
  obtain ⟨state, hrun, hclosed, rfl⟩ := toPostfix_eq_ok_iff.mp h
  have hstate := run_accounts hrun accounts_start
  have hwaiting : ∀ t ∈ state.waiting, t.kind = .operator := fun t ht =>
    (hstate.waiting_kind t ht).resolve_right (count_eq_zero.mp hclosed t ht)
  constructor
  · have hnone : select .number state.waiting = [] :=
      select_eq_nil.mpr fun t ht => by simp [hwaiting t ht]
    simpa [hnone] using congrArg List.reverse hstate.numbers
  · have hperm : (state.placed.reverse ++ state.waiting).Perm (state.placed ++ state.waiting) :=
      (List.reverse_perm _).append_right _
    simpa using (select_perm hperm).trans hstate.operators
  · intro t ht
    rcases List.mem_append.mp ht with ht | ht
    · exact hstate.placed_kind t (List.mem_reverse.mp ht)
    · exact .inr (hwaiting t ht)
  · refine balanced_iff.mpr ⟨not_closesEarly_of_run hrun, ?_⟩
    have hparens := hstate.parens
    simp only [List.nil_append] at hparens
    omega

/-- Tokens are turned down exactly for a closing parenthesis that comes too early, or else for an
opening one that is left over. -/
theorem toPostfix_eq_error_iff {tokens : List Token} (h : ∀ t ∈ tokens, t.IsRanked) {stop : Stop} :
    toPostfix tokens = .error stop ↔
      ClosesEarly tokens ∧ stop = .rejected .strayClosing ∨
      ¬ClosesEarly tokens ∧ ¬Balanced tokens ∧ stop = .rejected .unclosed := by
  have hfold : toPostfix tokens =
      run start tokens >>= fun state => state.finish.mapError .rejected := rfl
  rw [hfold]
  rcases run_isRanked accounts_start (by simpa using h) with ⟨state, hrun⟩ | ⟨hrun, hearly⟩
  · have htimely := not_closesEarly_of_run hrun
    have hopen : count .leftParen state.waiting ≠ 0 ↔ ¬Balanced tokens := by
      have hparens := (run_accounts hrun accounts_start).parens
      simp only [List.nil_append] at hparens
      simp only [balanced_iff, htimely, not_false_iff, true_and]
      omega
    simp only [hrun, bind, Except.bind, mapError_eq_error_iff, finish_eq_error_iff, hopen]
    simp [htimely, eq_comm]
  · rw [List.nil_append] at hearly
    simp [hrun, hearly, bind, Except.bind, eq_comm]

/-- Tokens have a postfix order exactly if their parentheses pair up. -/
theorem exists_toPostfix_iff_balanced {tokens : List Token} (h : ∀ t ∈ tokens, t.IsRanked) :
    (∃ ordered, toPostfix tokens = .ok ordered) ↔ Balanced tokens := by
  constructor
  · intro hordered
    obtain ⟨ordered, hordered⟩ := hordered
    exact (reordered_of_toPostfix hordered).balanced
  · intro hbalanced
    cases horder : toPostfix tokens with
    | ok ordered => exact ⟨ordered, rfl⟩
    | error stop =>
      rcases (toPostfix_eq_error_iff h).mp horder with ⟨hearly, -⟩ | ⟨-, hunbalanced, -⟩
      · exact absurd hearly (balanced_iff.mp hbalanced).1
      · exact absurd hbalanced hunbalanced

theorem isEvaluable_of_tokenize {text : String} {tokens ordered : List Token}
    (ht : tokenize text = .ok tokens) (ho : toPostfix tokens = .ok ordered) :
    ∀ t ∈ ordered, t.IsEvaluable :=
  (reordered_of_toPostfix ho).isEvaluable fun t hmem => (isTyped_of_tokenize ht t hmem).isRanked

/-- Typed tokens have a postfix order exactly if their parentheses pair up. -/
theorem exists_toPostfix_iff {tokens : List Token} (h : ∀ t ∈ tokens, t.IsTyped) :
    (∃ ordered, toPostfix tokens = .ok ordered) ↔ Balanced tokens :=
  exists_toPostfix_iff_balanced fun t ht => (h t ht).isRanked

/-- Typed tokens without a postfix order are turned down for a parenthesis without a partner. -/
theorem kind_of_toPostfix {tokens : List Token} (h : ∀ t ∈ tokens, t.IsTyped) {stop : Stop}
    (hstop : toPostfix tokens = .error stop) :
    ∃ why, stop = .rejected why ∧ why.kind = .unmatchedParen := by
  rcases (toPostfix_eq_error_iff fun t ht => (h t ht).isRanked).mp hstop with
    ⟨-, rfl⟩ | ⟨-, -, rfl⟩
  · exact ⟨_, rfl, rfl⟩
  · exact ⟨_, rfl, rfl⟩

/-- A conversion of typed tokens is never broken off. -/
theorem toPostfix_ne_broken {tokens : List Token} (h : ∀ t ∈ tokens, t.IsTyped) (defect : Defect) :
    toPostfix tokens ≠ .error (.broken defect) := by
  intro hbroken
  obtain ⟨why, hwhy, -⟩ := kind_of_toPostfix h hbroken
  cases hwhy

/-- Tokens in any arrangement, the operators being among the four, have a postfix order exactly if
their parentheses pair up; otherwise a parenthesis without a partner is named, a closing one that
comes too early before an opening one that is left over. The postfix order consists of the numbers
in their order and of the operators, and has no parentheses. -/
theorem toPostfix_of_isRanked {tokens : List Token} (h : ∀ t ∈ tokens, t.IsRanked) :
    ((∃ stop, toPostfix tokens = .error stop) ↔ ¬Balanced tokens) ∧
    (∀ stop, toPostfix tokens = .error stop ↔
      ClosesEarly tokens ∧
        stop = .rejected (.unmatchedParen "Closing parenthesis without a matching '('") ∨
      ¬ClosesEarly tokens ∧ ¬Balanced tokens ∧
        stop = .rejected (.unmatchedParen "Unclosed parenthesis '('")) ∧
    ∀ ordered, toPostfix tokens = .ok ordered → Reordered tokens ordered := by
  refine ⟨?_, fun stop => toPostfix_eq_error_iff h, fun ordered => reordered_of_toPostfix⟩
  rw [← exists_toPostfix_iff_balanced h]
  cases toPostfix tokens <;> simp

/-- An arrangement of operators is not looked at: `* ( 1 + ) 2` has a postfix order. In `) (` there
are as many parentheses of either kind, and yet the closing one has no partner. -/
theorem toPostfix_of_isRanked_nonsense :
    let one : Token := .number "1" ⟨false, 1, 0⟩
    let two : Token := .number "2" ⟨false, 2, 0⟩
    let tokens : List Token :=
      [.operator "*", .leftParen "(", one, .operator "+", .rightParen ")", two]
    let crossed : List Token := [.rightParen ")", .leftParen "("]
    (∀ t ∈ tokens, t.IsRanked) ∧ (∀ t ∈ crossed, t.IsRanked) ∧
      toPostfix tokens = .ok [one, .operator "+", two, .operator "*"] ∧
      Reordered tokens [one, .operator "+", two, .operator "*"] ∧ ¬Balanced crossed ∧
      toPostfix crossed =
        .error (.rejected (.unmatchedParen "Closing parenthesis without a matching '('")) := by
  intro one two tokens crossed
  have htokens : ∀ t ∈ tokens, t.IsTyped := by decide
  have hcrossed : ∀ t ∈ crossed, t.IsTyped := by decide
  have hranked := fun t ht => (htokens t ht).isRanked
  have hcrossedRanked := fun t ht => (hcrossed t ht).isRanked
  have horder : toPostfix tokens = .ok [one, .operator "+", two, .operator "*"] := by decide +kernel
  have hearly : ClosesEarly crossed := ⟨[.rightParen ")"], [.leftParen "("], rfl, by decide⟩
  have hstop := ((toPostfix_of_isRanked hcrossedRanked).2.1 _).mpr (.inl ⟨hearly, rfl⟩)
  exact ⟨hranked, hcrossedRanked, horder, (toPostfix_of_isRanked hranked).2.2 _ horder,
    (toPostfix_of_isRanked hcrossedRanked).1.mp ⟨_, hstop⟩, hstop⟩

end Reordering

end LedgerAmount
