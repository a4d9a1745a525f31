import LedgerAmount.Proofs.Lexemes
import LedgerAmount.Proofs.Verdict

/-!
# Groups

Parentheses keep what they enclose apart from what stands around it: while a group is converted, its
open parenthesis is a barrier above the operators that waited before, and while it is evaluated, the
operands below its own are not reached. So an expression in parentheses means what it means alone,
and an operator between two of them is applied to their values, whatever they are made of.
-/

namespace LedgerAmount

open Token

/-- Tokens in parentheses. -/
def Token.group (tokens : List Token) : List Token :=
  .leftParen "(" :: (tokens ++ [.rightParen ")"])

/-- A text in parentheses. -/
def grouped (text : String) : String := "(" ++ text ++ ")"

/-- An operator between two texts in parentheses. -/
def operation (op : Operator) (left right : String) : String :=
  grouped left ++ op.symbol ++ grouped right

/-! ## Conversion -/

namespace Reordering

variable {tokens ordered : List Token}

/-- A step above a waiting open parenthesis leaves alone what waits below it and what was placed
before. -/
theorem Takes.above {state after : Reordering} {token barrier : Token}
    (h : Takes state token after) (hb : barrier.kind = .leftParen) (placed waiting : List Token) :
    Takes ⟨state.placed ++ placed, state.waiting ++ barrier :: waiting⟩ token
      ⟨after.placed ++ placed, after.waiting ++ barrier :: waiting⟩ := by
  cases h with
  | number text value => exact .number text value
  | leftParen text => exact .leftParen text
  | @operator _ released rest symbol yield stay =>
    -- where nothing else waits in the group, the barrier stops the release as an empty stack would
    have hstay : ∀ t ∈ (rest ++ barrier :: waiting).head?, t.StaysBelow (.operator symbol) := by
      cases rest with
      | nil =>
        rintro t ⟨⟩ hop
        simp [hb] at hop
      | cons top rest => exact stay
    simpa using Takes.operator symbol yield hstay
  | rightParen text inner outer => simpa using Takes.rightParen text inner outer

/-- So does a run. -/
theorem run_above {state after : Reordering} {barrier : Token}
    (h : run state tokens = .ok after) (hb : barrier.kind = .leftParen)
    (placed waiting : List Token) :
    run ⟨state.placed ++ placed, state.waiting ++ barrier :: waiting⟩ tokens =
      .ok ⟨after.placed ++ placed, after.waiting ++ barrier :: waiting⟩ := by
  induction tokens generalizing state with
  | nil =>
    cases h
    rfl
  | cons token tokens ih =>
    obtain ⟨next, hnext, hrest⟩ := run_cons_eq_ok_iff.mp h
    exact run_cons_eq_ok_iff.mpr ⟨_, hnext.above hb placed waiting, ih hrest⟩

/-- A group is placed in its postfix order, and nothing of it waits. -/
theorem run_group (h : toPostfix tokens = .ok ordered) (placed waiting : List Token) :
    run ⟨placed, waiting⟩ (group tokens) = .ok ⟨ordered.reverse ++ placed, waiting⟩ := by
  obtain ⟨state, hrun, hclosed, rfl⟩ := toPostfix_eq_ok_iff.mp h
  have hinner : ∀ t ∈ state.waiting, t.kind ≠ .leftParen := count_eq_zero.mp hclosed
  refine run_cons_eq_ok_iff.mpr ⟨_, .leftParen "(", ?_⟩
  refine run_append_eq_ok_iff.mpr ⟨_, run_above hrun rfl placed waiting, ?_⟩
  refine run_cons_eq_ok_iff.mpr ⟨_, .rightParen ")" hinner rfl, ?_⟩
  simp

/-- Parentheses around a whole expression do not change its postfix order. -/
theorem toPostfix_group (h : toPostfix tokens = .ok ordered) :
    toPostfix (group tokens) = .ok ordered :=
  toPostfix_eq_ok_iff.mpr ⟨_, run_group h [] [], by simp, by simp⟩

/-- The postfix order of an operation is that of its operands, and then the operator. -/
theorem toPostfix_operation (op : Operator) {lefts rights first last : List Token}
    (hl : toPostfix lefts = .ok first) (hr : toPostfix rights = .ok last) :
    toPostfix (group lefts ++ .operator op.symbol :: group rights) =
      .ok (first ++ last ++ [.operator op.symbol]) := by
  refine toPostfix_eq_ok_iff.mpr
    ⟨⟨last.reverse ++ (first.reverse ++ []), [.operator op.symbol]⟩, ?_, ?_, by simp⟩
  · refine run_append_eq_ok_iff.mpr ⟨_, run_group hl [] [], ?_⟩
    have htakes : Takes ⟨first.reverse ++ [], [] ++ []⟩ (.operator op.symbol)
        ⟨[].reverse ++ (first.reverse ++ []), [.operator op.symbol]⟩ :=
      takes_operator op (by simp) (by simp)
    exact run_cons_eq_ok_iff.mpr ⟨_, htakes, run_group hr _ _⟩
  · simp [count_cons]

end Reordering

/-! ## Evaluation -/

namespace OperandStack

variable {α : Type} {arithmetic : Arithmetic α} {stack after : OperandStack α}

/-- Operands below those that a step needs stay as they are. -/
theorem Takes.above {token : Token} (h : Takes arithmetic stack token after)
    (base : OperandStack α) : Takes arithmetic (stack ++ base) token (after ++ base) := by
  cases h with
  | number text value => exact .number text value
  | operator applies => exact .operator applies

/-- So do the operands below those that a run needs. -/
theorem run_above {tokens : List Token} (h : run arithmetic stack tokens = .ok after)
    (base : OperandStack α) : run arithmetic (stack ++ base) tokens = .ok (after ++ base) := by
  induction tokens generalizing stack with
  | nil =>
    cases h
    rfl
  | cons token tokens ih =>
    obtain ⟨next, hnext, hrest⟩ := run_cons_eq_ok_iff.mp h
    exact run_cons_eq_ok_iff.mpr ⟨_, hnext.above base, ih hrest⟩

/-- A run that stops for anything but a missing operand stops there also above other operands. -/
theorem run_above_of_error {tokens : List Token} {stop : Stop}
    (h : run arithmetic stack tokens = .error stop)
    (hstop : ∀ symbol, stop ≠ .rejected (.missingOperand symbol)) (base : OperandStack α) :
    run arithmetic (stack ++ base) tokens = .error stop := by
  obtain ⟨before, token, rest, reached, rfl, hrun, hstep⟩ := foldlM_eq_error_iff.mp h
  refine foldlM_eq_error_iff.mpr ⟨before, token, rest, _, rfl, run_above hrun base, ?_⟩
  cases token with
  | number text value => cases hstep
  | leftParen text => exact hstep
  | rightParen text => exact hstep
  | operator symbol =>
    -- an operator that found both of its operands does not look below them
    rcases reached with _ | ⟨right, _ | ⟨left, reached⟩⟩
    · exact absurd (Except.error.inj hstep).symm (hstop symbol)
    · exact absurd (Except.error.inj hstep).symm (hstop symbol)
    · simp only [List.cons_append, step, bind_eq_error_iff] at hstep ⊢
      rcases hstep with happly | ⟨_, _, hpure⟩
      · exact .inl happly
      · cases hpure

end OperandStack

/-! ## Texts -/

theorem lexemes_grouped (text : String) :
    lexemes (grouped text) = "(" :: (lexemes text ++ [")"]) := by
  have hchars : (grouped text).toList = [] ++ '(' :: (text.toList ++ ')' :: []) := by
    simp [grouped]
  rw [lexemes, hchars, lexemeChars_append_delimiter _ _ (by decide) (by decide),
    lexemeChars_append_delimiter _ _ (by decide) (by decide)]
  simp [lexemes]

theorem lexemes_operation (op : Operator) (left right : String) :
    lexemes (operation op left right) =
      lexemes (grouped left) ++ op.symbol :: lexemes (grouped right) := by
  have hdelimiter : isDelimiter op.char = true ∧ op.char ≠ ' ' := by cases op <;> decide
  have hsymbol : op.symbol.toList = [op.char] ∧ String.ofList [op.char] = op.symbol := by
    cases op <;> decide
  have hchars : (operation op left right).toList =
      (grouped left).toList ++ op.char :: (grouped right).toList := by
    simp [operation, hsymbol.1]
  rw [lexemes, hchars, lexemeChars_append_delimiter _ _ hdelimiter.1 hdelimiter.2]
  simp [lexemes, hsymbol.2]

/-- The tokens of a text in parentheses are its own in parentheses. -/
theorem tokenize_grouped {text : String} {tokens : List Token} (h : tokenize text = .ok tokens) :
    tokenize (grouped text) = .ok (group tokens) := by
  obtain ⟨htexts, htyped⟩ := tokenize_eq_ok_iff.mp h
  refine tokenize_eq_ok_iff.mpr ⟨?_, ?_⟩
  · simp [lexemes_grouped, group, Token.text, htexts]
  · intro t ht
    simp only [group, List.mem_cons, List.mem_append, List.not_mem_nil, or_false] at ht
    rcases ht with rfl | ht | rfl
    · rfl
    · exact htyped t ht
    · rfl

/-- A text in parentheses has the same first lexeme that means nothing. -/
theorem tokenize_grouped_of_error {text : String} {why : Rejection}
    (h : tokenize text = .error why) : tokenize (grouped text) = .error why := by
  obtain ⟨before, lexeme, after, hsplit, hbefore, hlexeme, rfl⟩ := tokenize_eq_error_iff.mp h
  have hopening : IsMeaningful "(" := .inr (.inl rfl)
  refine tokenize_eq_error_iff.mpr
    ⟨"(" :: before, lexeme, after ++ [")"], ?_, ?_, hlexeme, rfl⟩
  · simp [lexemes_grouped, hsplit]
  · exact List.forall_mem_cons.mpr ⟨hopening, hbefore⟩

theorem tokenize_operation (op : Operator) {left right : String} {lefts rights : List Token}
    (hl : tokenize left = .ok lefts) (hr : tokenize right = .ok rights) :
    tokenize (operation op left right) =
      .ok (group lefts ++ .operator op.symbol :: group rights) := by
  obtain ⟨hlefts, hltyped⟩ := tokenize_eq_ok_iff.mp (tokenize_grouped hl)
  obtain ⟨hrights, hrtyped⟩ := tokenize_eq_ok_iff.mp (tokenize_grouped hr)
  refine tokenize_eq_ok_iff.mpr ⟨?_, ?_⟩
  · simp [lexemes_operation, hlefts, hrights, Token.text]
  · intro t ht
    rcases List.mem_append.mp ht with ht | ht
    · exact hltyped t ht
    · rcases List.mem_cons.mp ht with rfl | ht
      · exact isTyped_operator op
      · exact hrtyped t ht

variable {settings : EvaluatorSettings} {rule : DivisionRule} {text : String}

/-- A text in parentheses has the value of the text, or stops where the text does, unless its own
parentheses do not pair up. -/
theorem evaluateText_grouped (h : ∀ why, evaluateText rule text = .error (.rejected why) →
    why.kind ≠ .unmatchedParen) : evaluateText rule (grouped text) = evaluateText rule text := by
  cases ht : tokenize text with
  | error why =>
    rw [evaluateText, evaluateText, ht, tokenize_grouped_of_error ht]
  | ok tokens =>
    rw [evaluateText_eq ht] at h
    rw [evaluateText_eq ht, evaluateText_eq (tokenize_grouped ht)]
    cases horder : toPostfix tokens with
    | error stop =>
      obtain ⟨why, rfl, hkind⟩ := Reordering.kind_of_toPostfix (isTyped_of_tokenize ht) horder
      exact absurd hkind (h why (by rw [evaluateTokens, horder]; rfl))
    | ok ordered => rw [evaluateTokens, evaluateTokens, horder, Reordering.toPostfix_group horder]

/-- The same evaluation under another text has the same outcome but for the text. -/
theorem Outcome.ofEvaluation_map (text other : String) (evaluation : Except Stop Decimal) :
    (ofEvaluation text evaluation).map (fun outcome => { outcome with expression := other }) =
      ofEvaluation other evaluation := by
  rcases evaluation with (why | defect) | value <;> rfl

/-- Parentheses around a whole text change nothing but the text that the outcome names, unless the
text has a parenthesis without a partner. -/
theorem evaluate_grouped (h : ∀ outcome, evaluate settings.rule text = .ok outcome →
      outcome.kind? ≠ some .unmatchedParen) :
    evaluate settings.rule (grouped text) =
      (evaluate settings.rule text).map
        fun outcome => { outcome with expression := grouped text } := by
  have hkind : ∀ why, evaluateText settings.rule text = .error (.rejected why) →
      why.kind ≠ .unmatchedParen := by
    intro why hwhy hkind
    exact h ⟨text, .error why⟩ (evaluate_eq_rejected_iff.mpr hwhy) (by simp [hkind])
  rw [evaluate, evaluate, Outcome.ofEvaluation_map, evaluateText_grouped hkind]

/-- In `(1 2)`, as in `1 2`, an operator is missing. -/
theorem evaluate_grouped_sideBySide :
    (∀ outcome, evaluate EvaluatorSettings.default.rule "1 2" = .ok outcome →
      outcome.kind? ≠ some .unmatchedParen) ∧
    evaluate EvaluatorSettings.default.rule "(1 2)" = .ok ⟨"(1 2)", .error .missingOperator⟩ := by
  have hvalue : evaluate EvaluatorSettings.default.rule "1 2" =
      .ok ⟨"1 2", .error .missingOperator⟩ :=
    evaluate_eq_rejected_iff.mpr (by decide +kernel)
  have hkind : ∀ outcome, evaluate EvaluatorSettings.default.rule "1 2" = .ok outcome →
      outcome.kind? ≠ some .unmatchedParen := by
    intro outcome h
    obtain rfl := Except.ok.inj (hvalue.symm.trans h)
    decide
  refine ⟨hkind, ?_⟩
  calc
    evaluate EvaluatorSettings.default.rule (grouped "1 2") =
        (evaluate EvaluatorSettings.default.rule "1 2").map
          fun outcome => { outcome with expression := grouped "1 2" } := evaluate_grouped hkind
    _ = .ok ⟨"(1 2)", .error .missingOperator⟩ := by
      rw [hvalue]
      rfl

/-! ## Operations on groups -/

/-- The value of an operation on two texts is that of the operator on their values. -/
theorem evaluateText_operation (op : Operator) {left right : String} {a b : Decimal}
    (hl : evaluateText rule left = .ok a) (hr : evaluateText rule right = .ok b) :
    evaluateText rule (operation op left right) = op.apply rule a b := by
  obtain ⟨lefts, htl, hlefts⟩ := evaluateText_eq_ok_iff.mp hl
  obtain ⟨rights, htr, hrights⟩ := evaluateText_eq_ok_iff.mp hr
  obtain ⟨first, hfirst, ha⟩ := evaluateTokens_eq_ok_iff.mp hlefts
  obtain ⟨last, hlast, hb⟩ := evaluateTokens_eq_ok_iff.mp hrights
  rw [evaluateText_eq (tokenize_operation op htl htr), evaluateTokens,
    Reordering.toPostfix_operation op hfirst hlast]
  calc
    evaluatePostfix (.exact rule) (first.postorder ++ last.postorder ++ [.operator op.symbol]) =
        (Tree.binary op first last).value rule :=
      evaluatePostfix_postorder rule (.binary op first last)
    _ = op.apply rule a b := by
      rw [Tree.value, ha, hb]
      rfl

/-- The outcome of a text is a division by zero. -/
def ComesToDivisionByZero (rule : DivisionRule) (text : String) : Prop :=
  ∃ outcome, evaluate rule text = .ok outcome ∧ outcome.kind? = some .divisionByZero

/-- A text comes to a division by zero in its postfix order. -/
theorem ComesToDivisionByZero.run (h : ComesToDivisionByZero settings.rule text) :
    ∃ tokens ordered, tokenize text = .ok tokens ∧ toPostfix tokens = .ok ordered ∧
      OperandStack.run (.exact settings.rule) [] ordered = .error (.rejected .divisionByZero) := by
  obtain ⟨outcome, h, hkind⟩ := h
  rw [evaluate] at h
  rcases Outcome.ofEvaluation_eq_ok_iff.mp h with ⟨value, -, rfl⟩ | ⟨why, hwhy, rfl⟩
  · simp at hkind
  rw [Outcome.kind?_error, Option.some.injEq] at hkind
  cases ht : tokenize text with
  | error unknown =>
    obtain ⟨_, _, _, -, -, -, rfl⟩ := tokenize_eq_error_iff.mp ht
    rw [evaluateText, ht] at hwhy
    cases hwhy
    cases hkind
  | ok tokens =>
    have htyped := isTyped_of_tokenize ht
    rw [evaluateText_eq ht] at hwhy
    rcases bind_eq_error_iff.mp hwhy with horder | ⟨ordered, horder, hvalue⟩
    · obtain ⟨_, hstop, hunmatched⟩ := Reordering.kind_of_toPostfix htyped horder
      obtain rfl := Stop.rejected.inj hstop
      cases hkind.symm.trans hunmatched
    · rcases kind_of_evaluatePostfix (Reordering.isEvaluable_of_tokenize ht horder) hvalue with
        hmalformed | ⟨rfl, hrun⟩
      · cases hkind.symm.trans hmalformed
      · exact ⟨tokens, ordered, rfl, horder, hrun⟩

/-- An operation stops where the postfix order of its operands does. -/
theorem evaluate_operation_of_run (op : Operator) {left right : String}
    {lefts rights first last : List Token} (htl : tokenize left = .ok lefts)
    (htr : tokenize right = .ok rights) (hl : toPostfix lefts = .ok first)
    (hr : toPostfix rights = .ok last) {why : Rejection}
    (h : OperandStack.run (.exact rule) [] (first ++ last) = .error (.rejected why)) :
    evaluate rule (operation op left right) = .ok ⟨operation op left right, .error why⟩ := by
  have hrun : OperandStack.run (.exact rule) [] (first ++ last ++ [.operator op.symbol]) =
      .error (.rejected why) := by
    rw [OperandStack.run_append, h]
    rfl
  have hvalue : evaluateText rule (operation op left right) = .error (.rejected why) := by
    rw [evaluateText_eq (tokenize_operation op htl htr), evaluateTokens,
      Reordering.toPostfix_operation op hl hr]
    change evaluatePostfix (.exact rule) (first ++ last ++ [.operator op.symbol]) = _
    exact bind_eq_error_iff.mpr (.inl hrun)
  exact evaluate_eq_rejected_iff.mpr hvalue

/-- An operator between two texts in parentheses is applied to their values, whatever the texts are
made of, and has the outcome of that. A division by zero in the left text comes before all else that
can happen in a right text with a postfix order, and one in the right text comes after a left text
with a value. -/
theorem evaluate_operation (settings : EvaluatorSettings) (op : Operator) (left right : String) :
    (∀ a b, evaluate settings.rule left = .ok ⟨left, .ok a⟩ →
      evaluate settings.rule right = .ok ⟨right, .ok b⟩ →
      evaluate settings.rule (operation op left right) =
        Outcome.ofEvaluation (operation op left right)
          (applySymbol settings.rule op.symbol a b)) ∧
    (∀ tokens, ComesToDivisionByZero settings.rule left → tokenize right = .ok tokens →
      Balanced tokens → ComesToDivisionByZero settings.rule (operation op left right)) ∧
    (∀ a, evaluate settings.rule left = .ok ⟨left, .ok a⟩ →
      ComesToDivisionByZero settings.rule right →
      ComesToDivisionByZero settings.rule (operation op left right)) := by
  refine ⟨?_, ?_, ?_⟩
  · intro a b hl hr
    rw [evaluate, evaluateText_operation op (evaluate_eq_ok_iff.mp hl) (evaluate_eq_ok_iff.mp hr),
      ← OperandStack.apply_symbol]
    rfl
  · intro rights hl htr hbalanced
    obtain ⟨lefts, first, htl, hfirst, hrun⟩ := hl.run
    obtain ⟨last, hlast⟩ :=
      (Reordering.exists_toPostfix_iff (isTyped_of_tokenize htr)).mpr hbalanced
    have hstop : OperandStack.run (.exact settings.rule) [] (first ++ last) =
        .error (.rejected .divisionByZero) := by
      rw [OperandStack.run_append, hrun]
      rfl
    exact ⟨_, evaluate_operation_of_run op htl htr hfirst hlast hstop, rfl⟩
  · intro a hl hr
    obtain ⟨lefts, htl, hlefts⟩ := evaluateText_eq_ok_iff.mp (evaluate_eq_ok_iff.mp hl)
    obtain ⟨tree, hfirst, ha⟩ := evaluateTokens_eq_ok_iff.mp hlefts
    obtain ⟨rights, last, htr, hlast, hrun⟩ := hr.run
    have hzero : ∀ symbol, Stop.rejected .divisionByZero ≠ .rejected (.missingOperand symbol) := by
      simp [Rejection.divisionByZero, Rejection.missingOperand, Rejection.malformed]
    have hstop : OperandStack.run (.exact settings.rule) [] (tree.postorder ++ last) =
        .error (.rejected .divisionByZero) := by
      rw [OperandStack.run_append, OperandStack.run_postorder, ha]
      exact OperandStack.run_above_of_error hrun hzero [a]
    exact ⟨_, evaluate_operation_of_run op htl htr hfirst hlast hstop, rfl⟩

/-- Operands need not be expressions of the grammar: `(1 2 +)*(3 (4) -)` is `3 * -1`. A division by
zero in `1/0` comes before the missing operator of `2 2`, and after the value of `1 2 +`. -/
theorem evaluate_operation_malformed :
    let rule := EvaluatorSettings.default.rule
    evaluate rule "1 2 +" = .ok ⟨"1 2 +", .ok ⟨false, 3, 0⟩⟩ ∧
      evaluate rule "3 (4) -" = .ok ⟨"3 (4) -", .ok ⟨true, 1, 0⟩⟩ ∧
      evaluate rule "(1 2 +)*(3 (4) -)" = .ok ⟨"(1 2 +)*(3 (4) -)", .ok ⟨true, 3, 0⟩⟩ ∧
      ComesToDivisionByZero rule "(1/0)-(2 2)" ∧ ComesToDivisionByZero rule "(1 2 +)/(1/0)" := by
  intro rule
  have hl : evaluate rule "1 2 +" = .ok ⟨"1 2 +", .ok ⟨false, 3, 0⟩⟩ :=
    evaluate_eq_ok_iff.mpr (by decide +kernel)
  have hr : evaluate rule "3 (4) -" = .ok ⟨"3 (4) -", .ok ⟨true, 1, 0⟩⟩ :=
    evaluate_eq_ok_iff.mpr (by decide +kernel)
  have hzero : ComesToDivisionByZero rule "1/0" :=
    ⟨⟨"1/0", .error .divisionByZero⟩, evaluate_eq_rejected_iff.mpr (by decide +kernel), rfl⟩
  let sides : List Token := [.number "2" ⟨false, 2, 0⟩, .number "2" ⟨false, 2, 0⟩]
  have htokens : tokenize "2 2" = .ok sides := by decide +kernel
  have horder : toPostfix sides = .ok sides := by decide +kernel
  have hbalanced : Balanced sides :=
    (Reordering.exists_toPostfix_iff (isTyped_of_tokenize htokens)).mp ⟨sides, horder⟩
  have hproduct := (evaluate_operation .default .times "1 2 +" "3 (4) -").1 _ _ hl hr
  refine ⟨hl, hr, hproduct.trans ?_, ?_, ?_⟩
  · have hvalue : applySymbol rule "*" ⟨false, 3, 0⟩ ⟨true, 1, 0⟩ = .ok ⟨true, 3, 0⟩ := by
      decide +kernel
    rw [show Operator.times.symbol = "*" from rfl, hvalue]
    rfl
  · exact (evaluate_operation .default .minus "1/0" "2 2").2.1 _ hzero htokens hbalanced
  · exact (evaluate_operation .default .divide "1 2 +" "1/0").2.2 _ hl hzero

end LedgerAmount
