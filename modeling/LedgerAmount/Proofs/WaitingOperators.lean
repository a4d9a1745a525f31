import LedgerAmount.Proofs.Reordering
import Mathlib.Data.List.Chain

/-!
# The operators that wait

Few operators wait at any time of a conversion. An operator comes to wait above another one only if
it binds tighter, so of the operators that wait without an open parenthesis between them there are
at most two. What waits is bounded by the number of open parentheses, however long the expression is
and whether or not it makes sense.
-/

namespace LedgerAmount

namespace Token

/-- How many parentheses are open after tokens that close no more than they open. -/
def openCount (tokens : List Token) : Nat := count .leftParen tokens - count .rightParen tokens

/-! ## Operators that bind ever tighter -/

/-- An operator that binds tighter than another one. -/
def BindsTighter (upper lower : Token) : Prop :=
  ∃ tight loose, upper.precedence = .ok tight ∧ lower.precedence = .ok loose ∧ loose < tight

theorem BindsTighter.trans {upper middle lower : Token} (h : upper.BindsTighter middle)
    (h' : middle.BindsTighter lower) : upper.BindsTighter lower := by
  obtain ⟨tight, between, htight, hbetween, hlt⟩ := h
  obtain ⟨between', loose, hbetween', hloose, hlt'⟩ := h'
  obtain rfl : between = between' := Except.ok.inj (hbetween.symm.trans hbetween')
  exact ⟨tight, loose, htight, hloose, hlt'.trans hlt⟩

instance : Trans BindsTighter BindsTighter BindsTighter := ⟨.trans⟩

/-- There are two precedences. -/
theorem precedence_bounds {token : Token} {n : Nat} (h : token.precedence = .ok n) :
    1 ≤ n ∧ n ≤ 2 := by
  rw [precedence] at h
  split at h
  next op _ =>
    cases h
    cases op <;> decide
  next => cases h

/-- So there are no three operators that bind ever tighter. -/
theorem length_le_of_isChain {tokens : List Token} (h : tokens.IsChain BindsTighter) :
    tokens.length ≤ 2 := by
  rcases tokens with _ | ⟨upper, _ | ⟨middle, _ | ⟨lower, rest⟩⟩⟩
  · simp
  · simp
  · simp
  · obtain ⟨⟨tight, between, htight, hbetween, hlt⟩, hrest⟩ := List.isChain_cons_cons.mp h
    obtain ⟨⟨between', loose, hbetween', hloose, hlt'⟩, -⟩ := List.isChain_cons_cons.mp hrest
    obtain rfl : between = between' := Except.ok.inj (hbetween.symm.trans hbetween')
    have hmost := (precedence_bounds htight).2
    have hleast := (precedence_bounds hloose).1
    omega

/-- Where there are at most two tokens in a row without an open parenthesis, the open parentheses
bound the number of tokens. -/
theorem length_le_of_segments {tokens : List Token}
    (h : ∀ segment, segment <:+: tokens → count .leftParen segment = 0 → segment.length ≤ 2) :
    tokens.length ≤ 3 * count .leftParen tokens + 2 := by
  -- Any open parenthesis splits the tokens into two parts that have fewer of them.
  induction hn : count .leftParen tokens using Nat.strongRecOn generalizing tokens with
  | ind n ih =>
    by_cases hnone : count .leftParen tokens = 0
    · have hlength := h tokens List.infix_rfl hnone
      omega
    · obtain ⟨opening, hmem, hopening⟩ : ∃ t ∈ tokens, t.kind = .leftParen := by
        simpa [count_eq_zero] using hnone
      obtain ⟨above, below, rfl⟩ := List.append_of_mem hmem
      rw [count_append, count_cons, if_pos hopening] at hn
      have habove := ih (count .leftParen above) (by omega) (fun segment hsegment =>
        h segment (hsegment.trans (List.prefix_append ..).isInfix)) rfl
      have hbelow := ih (count .leftParen below) (by omega) (fun segment hsegment =>
        h segment (hsegment.trans ((List.suffix_cons ..).trans (List.suffix_append ..)).isInfix))
        rfl
      rw [List.length_append, List.length_cons]
      omega

end Token

namespace Reordering

open Token

/-! ## The order of what waits -/

/-- Tokens wait in order, the latest first, if an operator always stays below the next one. -/
def InOrder (waiting : List Token) : Prop :=
  waiting.IsChain fun upper lower => upper.kind = .operator → lower.StaysBelow upper

/-- Every step keeps the order: an arriving operator waits above one that stays below it, and a
closing parenthesis lays bare what was in order before its partner arrived. -/
theorem Takes.inOrder {state after : Reordering} {token : Token} (h : Takes state token after)
    (hs : InOrder state.waiting) : InOrder after.waiting := by
  cases h with
  | number text value => exact hs
  | operator symbol yield stay =>
    exact List.isChain_cons.mpr ⟨fun lower hlower _ => stay lower hlower, hs.right_of_append⟩
  | leftParen text =>
    refine List.isChain_cons.mpr ⟨fun lower _ hoperator => ?_, hs⟩
    cases hoperator
  | rightParen text inner outer => exact hs.right_of_append.tail

/-- So does every run. -/
theorem run_inOrder {state after : Reordering} {tokens : List Token}
    (h : run state tokens = .ok after) (hs : InOrder state.waiting) : InOrder after.waiting :=
  @run_induction (fun state _ => InOrder state.waiting) Takes.inOrder state after tokens [] h hs

/-- In a row of operators that wait in order each binds tighter than those below it. -/
theorem InOrder.isChain {segment : List Token} (h : InOrder segment)
    (hoperators : ∀ t ∈ segment, t.kind = .operator) : segment.IsChain BindsTighter := by
  refine h.imp_of_mem_imp fun upper lower hupper hlower hstay => ?_
  obtain ⟨loose, tight, hloose, htight, hlt⟩ :=
    hstay (hoperators upper hupper) (hoperators lower hlower)
  exact ⟨tight, loose, htight, hloose, hlt⟩

open scoped List in
/-- What is placed is, together with the operators that wait, what is to be placed in the end. -/
theorem Accounts.perm {state : Reordering} {seen : List Token} (hs : Accounts state seen) :
    state.placed ++ select .operator state.waiting ~ withoutParens seen := by
  have hplaced := select_append_select_perm state.placed
  rw [withoutParens_eq_self hs.placed_kind] at hplaced
  have hoperators := hs.operators
  rw [select_append] at hoperators
  calc state.placed ++ select .operator state.waiting
    _ ~ select .number state.placed ++ select .operator state.placed ++
        select .operator state.waiting := hplaced.symm.append_right _
    _ = select .number state.placed ++
        (select .operator state.placed ++ select .operator state.waiting) := List.append_assoc ..
    _ ~ select .number seen ++ select .operator seen := by
      rw [hs.numbers]
      exact (List.reverse_perm _).append hoperators
    _ ~ withoutParens seen := select_append_select_perm seen

/-- A conversion that keeps few tokens waiting, and these in order. A row of waiting tokens without
an open parenthesis lies between two neighbouring ones, or above or below all of them; in such a row
each operator binds tighter than those below it. The latest token is the first of a row. -/
structure IsTidy (state : Reordering) (seen : List Token) : Prop where
  kinds : ∀ t ∈ state.waiting, t.kind = .operator ∨ t.kind = .leftParen
  opened : count .leftParen state.waiting = openCount seen
  rising : ∀ segment, segment <:+: state.waiting → count .leftParen segment = 0 →
    segment.Pairwise BindsTighter ∧ segment.length ≤ 2
  length_le : state.waiting.length ≤ 3 * openCount seen + 2
  perm : (state.placed ++ select .operator state.waiting).Perm (withoutParens seen)

/-- An account of tokens that wait in order is a tidy one. -/
theorem Accounts.isTidy {state : Reordering} {seen : List Token} (hs : Accounts state seen)
    (horder : InOrder state.waiting) : IsTidy state seen := by
  have hopened : count .leftParen state.waiting = openCount seen := by
    have hparens := hs.parens
    rw [openCount]
    omega
  have hrising : ∀ segment, segment <:+: state.waiting → count .leftParen segment = 0 →
      segment.IsChain BindsTighter := by
    intro segment hsegment hnone
    have hpart : InOrder segment := List.IsChain.infix horder hsegment
    refine hpart.isChain fun t ht => ?_
    exact (hs.waiting_kind t (hsegment.subset ht)).resolve_right (count_eq_zero.mp hnone t ht)
  refine ⟨hs.waiting_kind, hopened, fun segment hsegment hnone => ?_, ?_, hs.perm⟩
  · have hchain := hrising segment hsegment hnone
    exact ⟨hchain.pairwise, length_le_of_isChain hchain⟩
  · rw [← hopened]
    exact length_le_of_segments fun segment hsegment hnone =>
      length_le_of_isChain (hrising segment hsegment hnone)

/-- Tokens in any arrangement, the operators being among the four, are taken in as long as they
close no more than they open. After each of them the open parentheses are those that wait, the
operators above each other without one between them bind ever tighter and are at most two, what
waits is bounded by the open parentheses, and every number and operator is placed or waits. -/
theorem isTidy_of_run {tokens seen : List Token} (h : ∀ t ∈ tokens, t.IsRanked)
    (hseen : seen <+: tokens) :
    ((∃ state, run start seen = .ok state) ↔ ¬ClosesEarly seen) ∧
      ∀ state, run start seen = .ok state → IsTidy state seen := by
  refine ⟨⟨fun hrun => ?_, fun htimely => ?_⟩, fun state hrun => ?_⟩
  · obtain ⟨state, hrun⟩ := hrun
    exact not_closesEarly_of_run hrun
  · have hranked : ∀ t ∈ [] ++ seen, t.IsRanked := fun t ht => h t (hseen.subset ht)
    exact (run_isRanked accounts_start hranked).resolve_right fun hearly => htimely hearly.2
  · exact (run_accounts hrun accounts_start).isTidy (run_inOrder hrun .nil)

/-- In `+ * ( - / ( + * ) 1` all of the first eight tokens wait, which is as many as can with two
open parentheses; the closing one then leaves five of them, as many as can with one. -/
theorem isTidy_of_run_full :
    let outer : List Token := [.operator "+", .operator "*", .leftParen "(", .operator "-",
      .operator "/"]
    let inner : List Token := [.leftParen "(", .operator "+", .operator "*"]
    let rest : List Token := [.rightParen ")", .number "1" ⟨false, 1, 0⟩]
    let full : Reordering := ⟨[], (outer ++ inner).reverse⟩
    let closed : Reordering := ⟨[.operator "+", .operator "*"], outer.reverse⟩
    (∀ t ∈ outer ++ inner ++ rest, t.IsRanked) ∧ outer ++ inner <+: outer ++ inner ++ rest ∧
      run start (outer ++ inner) = .ok full ∧ IsTidy full (outer ++ inner) ∧
      openCount (outer ++ inner) = 2 ∧ full.waiting.length = 8 ∧
      run start (outer ++ inner ++ [.rightParen ")"]) = .ok closed ∧
      IsTidy closed (outer ++ inner ++ [.rightParen ")"]) ∧
      openCount (outer ++ inner ++ [.rightParen ")"]) = 1 ∧ closed.waiting.length = 5 := by
  intro outer inner rest full closed
  have htyped : ∀ t ∈ outer ++ inner ++ rest, t.IsTyped := by decide
  have hranked := fun t ht => (htyped t ht).isRanked
  have hseen : outer ++ inner <+: outer ++ inner ++ rest := List.prefix_append ..
  have hfull : run start (outer ++ inner) = .ok full := by decide +kernel
  have hclosed : run start (outer ++ inner ++ [.rightParen ")"]) = .ok closed := by decide +kernel
  have hseen' : outer ++ inner ++ [.rightParen ")"] <+: outer ++ inner ++ rest := by decide
  exact ⟨hranked, hseen, hfull, (isTidy_of_run hranked hseen).2 _ hfull, by decide, rfl, hclosed,
    (isTidy_of_run hranked hseen').2 _ hclosed, by decide, rfl⟩

end Reordering

end LedgerAmount
