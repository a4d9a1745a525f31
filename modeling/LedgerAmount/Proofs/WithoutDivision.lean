import LedgerAmount.Proofs.Entry
import LedgerAmount.Proofs.Groups

/-!
# Expressions without divisions

Divisions are all that settings have a say in, all that is rounded, and all that can break off an
evaluation or divide by zero. A text without a slash has one outcome, whatever the settings, and a
value that it has is exact: it is what the operators make of the literals as rational numbers.
-/

namespace LedgerAmount

variable {rule other : DivisionRule} {text : String} {tokens : List Token}

/-! ## Exact values -/

/-- What an operator makes of two rational numbers. -/
def Operator.onRat : Operator → ℚ → ℚ → ℚ
  | plus, a, b => a + b
  | minus, a, b => a - b
  | times, a, b => a * b
  | divide, a, b => a / b

/-- The rational number that a tree stands for if nothing is rounded. -/
def Tree.exact : Tree → ℚ
  | number _ value => value.toRat
  | binary op left right => op.onRat left.exact right.exact

/-- Every operator but division is exact. -/
theorem Operator.toRat_apply {op : Operator} {a b c : Decimal} (hop : op ≠ .divide)
    (h : op.apply rule a b = .ok c) : c.toRat = op.onRat a.toRat b.toRat := by
  cases op with
  | plus =>
    cases h
    exact Decimal.toRat_add a b
  | minus =>
    cases h
    exact Decimal.toRat_sub a b
  | times =>
    cases h
    exact Decimal.toRat_mul a b
  | divide => exact absurd rfl hop

/-- The value of a tree without divisions is exact. -/
theorem Tree.toRat_value {tree : Tree} {v : Decimal} (hfree : .operator "/" ∉ tree.postorder)
    (h : tree.value rule = .ok v) : v.toRat = tree.exact := by
  induction tree generalizing v with
  | number text value =>
    cases h
    rfl
  | binary op left right ihl ihr =>
    simp only [postorder, List.mem_append, List.mem_singleton, not_or] at hfree
    obtain ⟨⟨hleft, hright⟩, hop⟩ := hfree
    rw [value] at h
    obtain ⟨a, ha, h⟩ := bind_eq_ok_iff.mp h
    obtain ⟨b, hb, h⟩ := bind_eq_ok_iff.mp h
    have hne : op ≠ .divide := by
      rintro rfl
      exact hop rfl
    rw [Operator.toRat_apply hne h, ihl hleft ha, ihr hright hb, exact]

/-! ## Independence of the rule -/

/-- Only a division looks at its rule. -/
theorem applySymbol_congr {symbol : String} (h : symbol ≠ "/") :
    applySymbol rule symbol = applySymbol other symbol := by
  funext a b
  cases hsymbol : Operator.ofSymbol? symbol with
  | none => simp only [applySymbol, Operator.ofSymbol, hsymbol, Except.bind]
  | some op =>
    rw [Operator.ofSymbol?_eq_some_iff] at hsymbol
    subst hsymbol
    have hsame : op.apply rule a b = op.apply other a b := by
      cases op with
      | divide => exact absurd rfl h
      | _ => simp only [Operator.apply]
    simp only [applySymbol, Operator.ofSymbol, Operator.ofSymbol?_symbol, Except.bind, hsame]

namespace OperandStack

variable {α : Type} {one two : Arithmetic α}

/-- Two arithmetics that agree on the operators of a sequence evaluate it alike. -/
theorem run_congr (hnumber : one.ofDecimal = two.ofDecimal)
    (happly : ∀ symbol, .operator symbol ∈ tokens → one.apply symbol = two.apply symbol)
    (stack : OperandStack α) : run one stack tokens = run two stack tokens := by
  induction tokens generalizing stack with
  | nil => rfl
  | cons token tokens ih =>
    have hstep : step one stack token = step two stack token := by
      cases token with
      | number text value => rw [step, step, hnumber]
      | operator symbol =>
        simp only [step, happly symbol List.mem_cons_self]
      | leftParen text => rfl
      | rightParen text => rfl
    have hrest : ∀ next, run one next tokens = run two next tokens :=
      ih fun symbol hsymbol => happly symbol (List.mem_cons_of_mem _ hsymbol)
    simp only [run_cons, hstep, hrest]

theorem evaluatePostfix_congr (hnumber : one.ofDecimal = two.ofDecimal)
    (happly : ∀ symbol, .operator symbol ∈ tokens → one.apply symbol = two.apply symbol) :
    evaluatePostfix one tokens = evaluatePostfix two tokens := by
  have hrun := run_congr hnumber happly []
  rw [run, run] at hrun
  rw [evaluatePostfix, evaluatePostfix, hrun]

end OperandStack

/-! ## Texts without a slash -/

/-- A text without a slash has no division among its tokens. -/
theorem not_mem_of_tokenize (h : '/' ∉ text.toList) (ht : tokenize text = .ok tokens) :
    .operator "/" ∉ tokens := by
  intro hmem
  have hdivide : .operator Operator.divide.symbol ∈ tokens := hmem
  exact h (char_mem_of_tokenize ht hdivide)

/-- The evaluation of a text without a slash is the same for every rule, down to its rejection. -/
theorem evaluateText_congr (h : '/' ∉ text.toList) :
    evaluateText rule text = evaluateText other text := by
  cases ht : tokenize text with
  | error why => simp only [evaluateText, ht, Except.mapError, bind, Except.bind]
  | ok tokens =>
    rw [evaluateText_eq ht, evaluateText_eq ht, evaluateTokens, evaluateTokens]
    cases horder : toPostfix tokens with
    | error stop => simp only [bind, Except.bind]
    | ok ordered =>
      have hsame :
          evaluatePostfix (.exact rule) ordered = evaluatePostfix (.exact other) ordered := by
        refine OperandStack.evaluatePostfix_congr rfl fun symbol hsymbol => ?_
        refine applySymbol_congr ?_
        rintro rfl
        exact not_mem_of_tokenize h ht ((Reordering.reordered_of_toPostfix horder).subset _ hsymbol)
      simp only [bind, Except.bind, hsame]

theorem evaluate_congr (h : '/' ∉ text.toList) : evaluate rule text = evaluate other text := by
  rw [evaluate, evaluate, evaluateText_congr h]

/-- All that stops an evaluation but a missing operand is a division. -/
theorem Obstacle.eq_or_eq {before : List Token} {token : Token} {stop : Stop}
    (h : Obstacle rule before token stop) :
    stop = .rejected (.missingOperand token.text) ∨ token = .operator "/" := by
  cases h with
  | missingOperand => exact .inl rfl
  | zeroDivisor hzero => exact .inr hzero.1
  | longQuotient hlong => exact .inr hlong.1

/-- A text without a slash does not come to a division by zero. -/
theorem ComesToDivisionByZero.slash_mem {settings : EvaluatorSettings}
    (h : ComesToDivisionByZero settings.rule text) : '/' ∈ text.toList := by
  obtain ⟨tokens, ordered, ht, horder, hrun⟩ := h.run
  have hordered := Reordering.reordered_of_toPostfix horder
  obtain ⟨before, token, hfirst, hobstacle⟩ :=
    OperandStack.exists_firstAt_of_run (Reordering.isEvaluable_of_tokenize ht horder) hrun
  obtain ⟨after, rfl⟩ := hfirst.split
  rcases hobstacle.eq_or_eq with hmisses | rfl
  · simp [Rejection.divisionByZero, Rejection.missingOperand, Rejection.malformed] at hmisses
  · have hdivide : .operator Operator.divide.symbol ∈ tokens :=
      hordered.subset (.operator "/") (by simp)
    exact char_mem_of_tokenize ht hdivide

/-- The value of a text without a slash is exact. -/
theorem toRat_of_evaluateText {v : Decimal} (h : '/' ∉ text.toList)
    (hv : evaluateText rule text = .ok v) : ∃ tokens tree, tokenize text = .ok tokens ∧
      toPostfix tokens = .ok (Tree.postorder tree) ∧ v.toRat = tree.exact := by
  obtain ⟨tokens, ht, hv⟩ := evaluateText_eq_ok_iff.mp hv
  obtain ⟨tree, horder, hv⟩ := evaluateTokens_eq_ok_iff.mp hv
  have hordered := Reordering.reordered_of_toPostfix horder
  refine ⟨tokens, tree, ht, horder, Tree.toRat_value ?_ hv⟩
  intro hmem
  exact not_mem_of_tokenize h ht (hordered.subset _ hmem)

/-- A text without a slash is evaluated by any valid settings to one and the same outcome, which is
not a division by zero. A value is the exact result of the operations on the literals, which are
taken as they are typed. -/
theorem enter_without_division (h : '/' ∉ text.toList) : ∃ outcome : Outcome,
    (∀ (settings : EvaluatorSettings) (logger : Session.Logger) (session : Session),
      Call.runIn (Session.enter .expression text (some settings) (some logger)) session =
        (.ok outcome, { session with
          log := session.log ++ logger.records [.ofOutcome .expression outcome] })) ∧
    outcome.expression = text ∧ outcome.kind? ≠ some .divisionByZero ∧
    ∀ v, outcome.answer = .ok v → ∃ tokens tree, tokenize text = .ok tokens ∧
      (∀ literal value, .number literal value ∈ tokens → value = .asTyped literal.toList) ∧
      toPostfix tokens = .ok (Tree.postorder tree) ∧ v.toRat = tree.exact := by
  -- The outcome by the default settings is the one by any others.
  cases houtcome : evaluate EvaluatorSettings.default.rule text with
  | error defect =>
    obtain ⟨-, hlong⟩ := evaluateText_eq_broken_iff.mp (evaluate_eq_error_iff.mp houtcome)
    exact absurd hlong.slash_mem h
  | ok outcome =>
    have hexpression := expression_of_evaluate houtcome
    refine ⟨outcome, ?_, hexpression, ?_, ?_⟩
    · intro settings logger session
      rw [Session.runIn_enter, Subject.outcome, evaluate_congr h, houtcome]
      rfl
    · intro hkind
      exact h (ComesToDivisionByZero.slash_mem ⟨outcome, houtcome, hkind⟩)
    · intro v hv
      obtain rfl : outcome = ⟨text, .ok v⟩ := by rw [← hv, ← hexpression]
      obtain ⟨tokens, tree, ht, horder, hexact⟩ :=
        toRat_of_evaluateText h (evaluate_eq_ok_iff.mp houtcome)
      refine ⟨tokens, tree, ht, ?_, horder, hexact⟩
      intro literal value hmem
      exact (isTyped_of_tokenize ht _ hmem).eq_asTyped

/-- By any settings `1.10*(2-3.3)+.05` is -1.380, with all places of the product. -/
theorem enter_without_division_places :
    let text := "1.10*(2-3.3)+.05"
    '/' ∉ text.toList ∧ ∀ settings logger session,
      (Call.runIn (Session.enter .expression text (some settings) (some logger)) session).1 =
        .ok ⟨text, .ok ⟨true, 1380, -3⟩⟩ := by
  intro text
  have h : '/' ∉ text.toList := by decide
  refine ⟨h, fun settings logger session => ?_⟩
  have hvalue : evaluate EvaluatorSettings.default.rule text = .ok ⟨text, .ok ⟨true, 1380, -3⟩⟩ :=
    evaluate_eq_ok_iff.mpr (by decide +kernel)
  obtain ⟨outcome, hrun, -⟩ := enter_without_division h
  have hdefault := hrun .default logger session
  rw [Session.runIn_enter, Subject.outcome, hvalue] at hdefault
  obtain rfl := Except.ok.inj (Prod.mk.inj hdefault).1
  rw [hrun]

end LedgerAmount
