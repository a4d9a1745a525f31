import LedgerAmount.Proofs.Acceptance
import Mathlib.Data.List.Chain

/-!
# Operands side by side

Where no operand stands directly beside another, the balances of numbers, operators and parentheses
are all that the grammar asks for. So a list of tokens that has a value although it is no expression
of the grammar has two operands side by side, as in `1 2 +`.
-/

namespace LedgerAmount

open Token

namespace Token

/-- A token that an operand can end with. -/
def EndsOperand (token : Token) : Prop := token.kind = .number ∨ token.kind = .rightParen

/-- A token that an operand can begin with. -/
def StartsOperand (token : Token) : Prop := token.kind = .number ∨ token.kind = .leftParen

/-- Two tokens of which the second does not begin an operand where the first ends one. -/
def Apart (first second : Token) : Prop := ¬(first.EndsOperand ∧ second.StartsOperand)

end Token

/-- Some operand begins directly behind the end of another. -/
def SideBySide (tokens : List Token) : Prop :=
  ∃ before first second after, tokens = before ++ first :: second :: after ∧
    first.EndsOperand ∧ second.StartsOperand

/-- Tokens that are an expression of the grammar. -/
def Derivable (tokens : List Token) : Prop := ∃ tree, Derives .expression tokens tree

theorem isChain_apart_iff {tokens : List Token} :
    tokens.IsChain Apart ↔ ¬SideBySide tokens := by
  rw [List.isChain_iff_forall_rel_of_append_cons_cons]
  constructor
  · rintro h ⟨before, first, second, after, hsplit, hadjacent⟩
    exact h hsplit hadjacent
  · intro h first second before after hsplit hadjacent
    exact h ⟨before, first, second, after, hsplit, hadjacent⟩

/-! ## What derivations have -/

/-- An operator stands between the operands of every phrase. -/
theorem Derives.isChain {phrase : Phrase} {tokens : List Token} {tree : Tree}
    (h : Derives phrase tokens tree) : tokens.IsChain Apart := by
  have hbinary : ∀ {lefts rights : List Token} (op : Operator), lefts.IsChain Apart →
      rights.IsChain Apart → (lefts ++ .operator op.symbol :: rights).IsChain Apart := by
    intro lefts rights op hl hr
    refine hl.append (hr.cons ?_) ?_
    · intro t _
      simp [Apart, EndsOperand]
    · rintro s _ t ⟨⟩
      simp [Apart, StartsOperand]
  induction h with
  | number text value => exact .singleton _
  | group _ ih =>
    refine (ih.append (.singleton _) ?_).cons ?_
    · rintro s _ t ⟨⟩
      simp [Apart, StartsOperand]
    · intro t _
      simp [Apart, EndsOperand]
  | factor _ ih => exact ih
  | product op _ _ _ ihl ihr => exact hbinary op ihl ihr
  | term _ ih => exact ih
  | sum op _ _ _ ihl ihr => exact hbinary op ihl ihr

/-- Operands side by side are no expression of the grammar. -/
theorem SideBySide.not_derivable {tokens : List Token} (h : SideBySide tokens) :
    ¬Derivable tokens := by
  intro h
  obtain ⟨tree, htree⟩ := h
  exact isChain_apart_iff.mp htree.isChain h

/-! ## Building derivations -/

namespace Derivable

theorem number (text : String) (value : Decimal) : Derivable [.number text value] :=
  ⟨_, .term (.factor (.number text value))⟩

theorem group {tokens : List Token} (h : Derivable tokens) :
    Derivable (.leftParen "(" :: (tokens ++ [.rightParen ")"])) :=
  let ⟨_, htree⟩ := h
  ⟨_, .term (.factor (.group htree))⟩

/-- An operator that multiplies two terms makes one of them. -/
theorem term_of_terms {lefts rights : List Token} {left right : Tree} (op : Operator)
    (hop : op = .times ∨ op = .divide) (hl : Derives .term lefts left)
    (hr : Derives .term rights right) :
    ∃ tree, Derives .term (lefts ++ .operator op.symbol :: rights) tree := by
  -- products lean to the left, so the operator goes in front of the first factor of the right term
  generalize hphrase : Phrase.term = phrase at hr
  induction hr with
  | factor hfactor => exact ⟨_, .product op hop hl hfactor⟩
  | product next hnext hfirst hlast ih _ =>
    obtain ⟨tree, htree⟩ := ih rfl
    exact ⟨_, by simpa using Derives.product next hnext htree hlast⟩
  | _ => cases hphrase

/-- Any operator between two expressions makes one of them, whichever way they are grouped. -/
theorem binary {lefts rights : List Token} (op : Operator) (hl : Derivable lefts)
    (hr : Derivable rights) : Derivable (lefts ++ .operator op.symbol :: rights) := by
  obtain ⟨left, hl⟩ := hl
  obtain ⟨right, hr⟩ := hr
  generalize hphrase : Phrase.expression = phrase at hr
  induction hr with
  | sum next hnext hfirst hlast ih _ =>
    obtain ⟨tree, htree⟩ := ih rfl
    exact ⟨_, by simpa using Derives.sum next hnext htree hlast⟩
  | term hterm =>
    by_cases hop : op = .plus ∨ op = .minus
    · exact ⟨_, .sum op hop hl hterm⟩
    · have hmultiplies : op = .times ∨ op = .divide := by cases op <;> simp_all
      cases hl with
      | term hl =>
        obtain ⟨tree, htree⟩ := term_of_terms op hmultiplies hl hterm
        exact ⟨_, .term htree⟩
      | sum next hnext hfirst hlast =>
        obtain ⟨tree, htree⟩ := term_of_terms op hmultiplies hlast hterm
        exact ⟨_, by simpa using Derives.sum next hnext hfirst htree⟩
  | _ => cases hphrase

end Derivable

/-- The beginning of an expression in front of an operand, with a number of open groups. -/
inductive Begins : Nat → List Token → Prop
  | start : Begins 0 []
  | group {depth : Nat} {tokens : List Token} (h : Begins depth tokens) :
      Begins (depth + 1) (tokens ++ [.leftParen "("])
  | operator {depth : Nat} {tokens operand : List Token} (op : Operator) (h : Begins depth tokens)
      (ho : Derivable operand) : Begins depth (tokens ++ operand ++ [.operator op.symbol])

/-- An operand completes a beginning without open groups. -/
theorem Begins.complete {tokens operand : List Token} (h : Begins 0 tokens)
    (ho : Derivable operand) : Derivable (tokens ++ operand) := by
  generalize hdepth : 0 = depth at h
  induction h generalizing operand with
  | start => exact ho
  | group => cases hdepth
  | operator op _ hfirst ih => simpa using ih (hfirst.binary op ho) hdepth

/-- An operand and a closing parenthesis complete the latest open group. -/
theorem Begins.close {depth : Nat} {tokens operand : List Token} (h : Begins (depth + 1) tokens)
    (ho : Derivable operand) : ∃ earlier group, Begins depth earlier ∧ Derivable group ∧
      tokens ++ operand ++ [.rightParen ")"] = earlier ++ group := by
  generalize hdepth : depth + 1 = inner at h
  induction h generalizing operand with
  | start => cases hdepth
  | group h =>
    cases hdepth
    exact ⟨_, _, h, ho.group, by simp⟩
  | operator op _ hfirst ih =>
    obtain ⟨earlier, group, hearlier, hgroup, hsplit⟩ := ih (hfirst.binary op ho) hdepth
    exact ⟨earlier, group, hearlier, hgroup, by simpa using hsplit⟩

/-! ## The grammar by counting -/

/-- Apart from one another, numbers are at most one more than operators, and no more than these
where an operand ends before them. -/
theorem count_number_le {tokens : List Token} (h : tokens.IsChain Apart) :
    count .number tokens ≤ count .operator tokens + 1 ∧
      ((∀ t ∈ tokens.head?, ¬t.StartsOperand) →
        count .number tokens ≤ count .operator tokens) := by
  induction tokens with
  | nil => simp
  | cons token tokens ih =>
    rw [List.isChain_cons] at h
    obtain ⟨hfirst, hchain⟩ := h
    obtain ⟨hle, hle'⟩ := ih hchain
    have hends : token.EndsOperand → count .number tokens ≤ count .operator tokens :=
      fun hend => hle' fun t ht hstart => hfirst t ht ⟨hend, hstart⟩
    simp only [count_cons, List.head?_cons, Option.mem_some_iff, forall_eq']
    cases hkind : token.kind <;>
      simp only [StartsOperand, EndsOperand, hkind] at hends ⊢ <;> simp at hends ⊢ <;> omega

/-- What is left of an expression closes the open groups and pairs up its own parentheses. -/
structure Closes (depth : Nat) (tokens : List Token) : Prop where
  closed_le : ∀ before after, tokens = before ++ after →
    count .rightParen before ≤ count .leftParen before + depth
  opened_eq : count .leftParen tokens + depth = count .rightParen tokens

theorem Closes.tail {depth inner : Nat} {token : Token} {tokens : List Token}
    (h : Closes depth (token :: tokens))
    (hdepth : depth + count .leftParen [token] = inner + count .rightParen [token]) :
    Closes inner tokens := by
  simp only [count_cons, count_nil] at hdepth
  constructor
  · rintro before after rfl
    have hclosed := h.closed_le (token :: before) after rfl
    simp only [count_cons] at hclosed
    omega
  · have hopened := h.opened_eq
    simp only [count_cons] at hopened
    omega

/-- The rest of a list completes every beginning with a number of open groups, in front of an
operand or behind one, if it has as many numbers as that takes. -/
structure Completes (depth : Nat) (rest : List Token) : Prop where
  before : ∀ seen, Begins depth seen → count .number rest = count .operator rest + 1 →
    Derivable (seen ++ rest)
  behind : ∀ seen operand, Begins depth seen → Derivable operand →
    (∀ t ∈ rest.head?, ¬t.StartsOperand) → count .number rest = count .operator rest →
    Derivable (seen ++ operand ++ rest)

namespace Completes

variable {depth : Nat} {rest : List Token}

theorem nil : Completes 0 [] := by
  constructor
  · intro seen _ hcount
    cases hcount
  · intro seen operand hseen hoperand _ _
    simpa using hseen.complete hoperand

/-- A number in front of an operand is that operand. -/
theorem number (text : String) (value : Decimal) (h : Completes depth rest)
    (hhead : ∀ t ∈ rest.head?, ¬t.StartsOperand) :
    Completes depth (.number text value :: rest) := by
  constructor
  · intro seen hseen hcount
    simp [count_cons] at hcount
    simpa using h.behind seen _ hseen (.number text value) hhead (by omega)
  · intro seen operand _ _ hfirst _
    exact absurd (.inl rfl) (hfirst _ rfl)

/-- An operator goes on behind an operand; in front of one, numbers are too few ever after. -/
theorem operator (op : Operator) (h : Completes depth rest)
    (hle : count .number rest ≤ count .operator rest + 1) :
    Completes depth (.operator op.symbol :: rest) := by
  constructor
  · intro seen _ hcount
    simp [count_cons] at hcount
    omega
  · intro seen operand hseen hoperand _ hcount
    simp [count_cons] at hcount
    simpa using h.before _ (hseen.operator op hoperand) (by omega)

theorem leftParen (h : Completes (depth + 1) rest) :
    Completes depth (.leftParen "(" :: rest) := by
  constructor
  · intro seen hseen hcount
    simp [count_cons] at hcount
    simpa using h.before _ hseen.group (by omega)
  · intro seen operand _ _ hfirst _
    exact absurd (.inr rfl) (hfirst _ rfl)

/-- A closing parenthesis completes a group behind an operand; in front of one, numbers are too few
ever after. -/
theorem rightParen (h : Completes depth rest) (hhead : ∀ t ∈ rest.head?, ¬t.StartsOperand)
    (hle : count .number rest ≤ count .operator rest) :
    Completes (depth + 1) (.rightParen ")" :: rest) := by
  constructor
  · intro seen _ hcount
    simp [count_cons] at hcount
    omega
  · intro seen operand hseen hoperand _ hcount
    simp [count_cons] at hcount
    obtain ⟨earlier, group, hearlier, hgroup, hsplit⟩ := hseen.close hoperand
    have hderivable := h.behind earlier group hearlier hgroup hhead (by omega)
    rw [← hsplit] at hderivable
    simpa using hderivable

end Completes

/-- Whatever closes the open groups completes a beginning, if no operands stand side by side. -/
theorem Closes.completes {depth : Nat} {rest : List Token} (hcloses : Closes depth rest)
    (htyped : ∀ t ∈ rest, t.IsTyped) (hchain : rest.IsChain Apart) : Completes depth rest := by
  induction rest generalizing depth with
  | nil =>
    obtain rfl : 0 = depth := by simpa using hcloses.opened_eq.symm
    exact .nil
  | cons token rest ih =>
    rw [List.isChain_cons] at hchain
    obtain ⟨hapart, hchain⟩ := hchain
    have hrest : ∀ t ∈ rest, t.IsTyped := fun t ht => htyped t (by simp [ht])
    have hhead : token.EndsOperand → ∀ t ∈ rest.head?, ¬t.StartsOperand :=
      fun hend t ht hstart => hapart t ht ⟨hend, hstart⟩
    obtain ⟨hle, hle'⟩ := count_number_le hchain
    rcases (htyped token (by simp)).cases with ⟨text, value, -, rfl⟩ | ⟨op, rfl⟩ | rfl | rfl
    · exact .number text value (ih (hcloses.tail rfl) hrest hchain) (hhead (.inl rfl))
    · exact .operator op (ih (hcloses.tail rfl) hrest hchain) hle
    · exact .leftParen (ih (hcloses.tail rfl) hrest hchain)
    · have hopen := hcloses.closed_le [.rightParen ")"] rest rfl
      simp [count_cons] at hopen
      obtain ⟨outer, rfl⟩ : ∃ outer, depth = outer + 1 := ⟨depth - 1, by omega⟩
      have hfirst := hhead (.inr rfl)
      exact .rightParen (ih (hcloses.tail rfl) hrest hchain) hfirst (hle' hfirst)

/-- Typed tokens are an expression of the grammar exactly if their parentheses pair up, the numbers
are one more than the operators, and no operands stand side by side. -/
theorem derivable_iff {tokens : List Token} (h : ∀ t ∈ tokens, t.IsTyped) :
    Derivable tokens ↔ Balanced tokens ∧ count .number tokens = count .operator tokens + 1 ∧
      ¬SideBySide tokens := by
  constructor
  · intro hderivable
    obtain ⟨tree, htree⟩ := hderivable
    have horder := htree.toPostfix_eq
    exact ⟨(Reordering.reordered_of_toPostfix horder).balanced, count_of_toPostfix horder,
      fun hadjacent => hadjacent.not_derivable ⟨tree, htree⟩⟩
  · intro h
    obtain ⟨hbalanced, hcount, hapart⟩ := h
    have hcloses : Closes 0 tokens := ⟨hbalanced.closed_le, hbalanced.opened_eq⟩
    exact (hcloses.completes h (isChain_apart_iff.mpr hapart)).before [] .start hcount

/-! ## Success outside of the grammar -/

/-- A text that is no expression of the grammar has a value exactly if some operands stand side by
side and its postfix order still lists a tree that has a value. -/
theorem evaluate_underivable {settings : EvaluatorSettings} {text : String}
    (h : ∀ tokens, tokenize text = .ok tokens → ¬Derivable tokens) :
    (∃ v, evaluate settings.rule text = .ok ⟨text, .ok v⟩) ↔
      ∃ tokens, tokenize text = .ok tokens ∧ SideBySide tokens ∧
        ∃ tree : Tree, toPostfix tokens = .ok tree.postorder ∧
          ∃ v, tree.value settings.rule = .ok v := by
  simp only [evaluate_eq_ok_iff, evaluateText_eq_ok_iff, evaluateTokens_eq_ok_iff]
  constructor
  · intro h
    obtain ⟨v, tokens, ht, tree, horder, hvalue⟩ := h
    refine ⟨tokens, ht, ?_, tree, horder, v, hvalue⟩
    by_contra hapart
    have hbalanced := (Reordering.reordered_of_toPostfix horder).balanced
    exact h tokens ht ((derivable_iff (isTyped_of_tokenize ht)).mpr
      ⟨hbalanced, count_of_toPostfix horder, hapart⟩)
  · intro h
    obtain ⟨tokens, ht, -, tree, horder, v, hvalue⟩ := h
    exact ⟨v, tokens, ht, tree, horder, hvalue⟩

/-- The tokens of `2 (3 +) 4 *` have operands side by side and list a tree in postfix order. -/
theorem evaluate_underivable_group :
    let text := "2 (3 +) 4 *"
    (∀ tokens, tokenize text = .ok tokens → ¬Derivable tokens) ∧
      ((∃ v, evaluate EvaluatorSettings.default.rule text = .ok ⟨text, .ok v⟩) ↔
        ∃ tokens, tokenize text = .ok tokens ∧ SideBySide tokens ∧
          ∃ tree : Tree, toPostfix tokens = .ok tree.postorder ∧
            ∃ v, tree.value EvaluatorSettings.default.rule = .ok v) ∧
      evaluate EvaluatorSettings.default.rule text = .ok ⟨text, .ok ⟨false, 20, 0⟩⟩ := by
  intro text
  have htokens : tokenize text = .ok (.number "2" ⟨false, 2, 0⟩ :: .leftParen "(" ::
      [.number "3" ⟨false, 3, 0⟩, .operator "+", .rightParen ")", .number "4" ⟨false, 4, 0⟩,
        .operator "*"]) := by
    decide +kernel
  have hunderivable : ∀ tokens, tokenize text = .ok tokens → ¬Derivable tokens := by
    intro tokens ht
    obtain rfl := Except.ok.inj (htokens.symm.trans ht)
    exact SideBySide.not_derivable ⟨[], _, _, _, rfl, .inl rfl, .inr rfl⟩
  refine ⟨hunderivable, evaluate_underivable hunderivable, evaluate_eq_ok_iff.mpr ?_⟩
  decide +kernel

/-- The text `1 2 +` is no expression of the grammar, and yet evaluating it succeeds. -/
theorem evaluate_operator_last :
    (∀ tokens, tokenize "1 2 +" = .ok tokens → ¬Derivable tokens) ∧
      evaluate EvaluatorSettings.default.rule "1 2 +" = .ok ⟨"1 2 +", .ok ⟨false, 3, 0⟩⟩ := by
  have htokens : tokenize "1 2 +" = .ok (.number "1" ⟨false, 1, 0⟩ ::
      .number "2" ⟨false, 2, 0⟩ :: [.operator "+"]) := by
    decide +kernel
  constructor
  · intro tokens ht
    obtain rfl := Except.ok.inj (htokens.symm.trans ht)
    exact SideBySide.not_derivable ⟨[], _, _, _, rfl, .inl rfl, .inl rfl⟩
  · rw [evaluate_eq_ok_iff]
    decide +kernel

end LedgerAmount
