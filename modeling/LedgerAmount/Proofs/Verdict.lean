import LedgerAmount.Proofs.Obstacles

/-!
# Which rejection a text gets

A text may have several faults at once. They are looked for in a fixed order: lexemes that mean
nothing, then parentheses without a partner, then operators that cannot be applied, in postfix
order, and at last the number of operands that are left. The first fault found decides the
rejection, and a text without any has a value.
-/

namespace LedgerAmount

open Token

namespace Outcome

/-- The kind of the rejection, if there is one. -/
def kind? (outcome : Outcome) : Option RejectionKind := outcome.rejection?.map (·.kind)

/-- The lexeme at fault, if there is a rejection that names one. -/
def symbol? (outcome : Outcome) : Option String := outcome.rejection?.bind (·.symbol)

@[simp] theorem kind?_ok (text : String) (value : Decimal) :
    (Outcome.mk text (.ok value)).kind? = none := rfl
@[simp] theorem kind?_error (text : String) (why : Rejection) :
    (Outcome.mk text (.error why)).kind? = some why.kind := rfl
@[simp] theorem symbol?_error (text : String) (why : Rejection) :
    (Outcome.mk text (.error why)).symbol? = why.symbol := rfl

end Outcome

/-! ## The order of the faults -/

/-- An operator that cannot be applied: it misses an operand, or it divides by zero. -/
def IsFault (rule : DivisionRule) (before : List Token) (token : Token) : Prop :=
  MissesOperand before token ∨ DividesByZero rule before token

/-- How the outcome follows from the tokens in postfix order: from the first operator that cannot be
applied, and where there is none from the operands that are left, which are the numbers less the
operators. -/
structure OrderVerdict (rule : DivisionRule) (ordered : List Token) (outcome : Outcome) :
    Prop where
  missingOperand : ∀ before token, FirstAt (IsFault rule) ordered before token →
    MissesOperand before token → outcome.kind? = some .malformedExpression
  zeroDivisor : ∀ before token, FirstAt (IsFault rule) ordered before token →
    DividesByZero rule before token → outcome.kind? = some .divisionByZero
  malformed : (∀ before token, ¬FirstAt (IsFault rule) ordered before token) →
    (outcome.kind? = some .malformedExpression ↔
      count .number ordered ≠ count .operator ordered + 1)
  success : (∀ before token, ¬FirstAt (IsFault rule) ordered before token) →
    count .number ordered = count .operator ordered + 1 → ∃ value, outcome.answer = .ok value

/-- How the outcome follows from the tokens: from parentheses that do not pair up, and otherwise
from the postfix order. -/
structure TokenVerdict (rule : DivisionRule) (tokens : List Token) (outcome : Outcome) :
    Prop where
  unmatchedParen : outcome.kind? = some .unmatchedParen ↔ ¬Balanced tokens
  ordered : Balanced tokens →
    ∃ ordered, toPostfix tokens = .ok ordered ∧ OrderVerdict rule ordered outcome

/-- How the outcome follows from the text: from the leftmost lexeme that means nothing, and
otherwise from the tokens. -/
structure Verdict (rule : DivisionRule) (text : String) (outcome : Outcome) : Prop where
  expression : outcome.expression = text
  unknownSymbol : outcome.kind? = some .unknownSymbol ↔
    ∃ lexeme ∈ lexemes text, ¬IsMeaningful lexeme
  leftmost : ∀ before lexeme after, lexemes text = before ++ lexeme :: after →
    (∀ earlier ∈ before, IsMeaningful earlier) → ¬IsMeaningful lexeme →
    outcome.symbol? = some lexeme
  tokens : (∀ lexeme ∈ lexemes text, IsMeaningful lexeme) →
    ∃ tokens, tokenize text = .ok tokens ∧ TokenVerdict rule tokens outcome

/-! ## Postfix sequences -/

variable {settings : EvaluatorSettings} {text : String} {outcome : Outcome}

section Ordered

variable {tokens ordered : List Token}

/-- The rejections of a postfix sequence: it does not have the operands that it needs, or has too
many, or it comes to a division by zero. -/
theorem rejection_of_evaluatePostfix (hordered : ∀ t ∈ ordered, t.IsEvaluable) {why : Rejection}
    (h : evaluatePostfix (.exact settings.rule) ordered = .error (.rejected why)) :
    ((∃ symbol, why = .missingOperand symbol) ∨ why = .emptyExpression ∨ why = .missingOperator) ∨
      why = .divisionByZero ∧
        OperandStack.run (.exact settings.rule) [] ordered = .error (.rejected why) := by
  rcases bind_eq_error_iff.mp h with hrun | ⟨stack, -, hresult⟩
  · obtain ⟨before, token, -, hobstacle⟩ := OperandStack.exists_firstAt_of_run hordered hrun
    cases hobstacle with
    | missingOperand => exact .inl (.inl ⟨token.text, rfl⟩)
    | zeroDivisor => exact .inr ⟨rfl, hrun⟩
  · obtain ⟨_, hresult, hwhy⟩ := mapError_eq_error_iff.mp hresult
    cases hwhy
    rcases OperandStack.result_eq_error_iff.mp hresult with ⟨-, rfl⟩ | ⟨-, rfl⟩
    · exact .inl (.inr (.inl rfl))
    · exact .inl (.inr (.inr rfl))

/-- So a postfix sequence is malformed or divides by zero. -/
theorem kind_of_evaluatePostfix (hordered : ∀ t ∈ ordered, t.IsEvaluable) {why : Rejection}
    (h : evaluatePostfix (.exact settings.rule) ordered = .error (.rejected why)) :
    why.kind = .malformedExpression ∨
      why = .divisionByZero ∧
        OperandStack.run (.exact settings.rule) [] ordered = .error (.rejected why) := by
  refine (rejection_of_evaluatePostfix hordered h).imp_left ?_
  rintro (⟨symbol, rfl⟩ | rfl | rfl)
  · rfl
  · rfl
  · rfl

/-- An operator that cannot be applied is an obstacle. -/
theorem IsFault.obstructed {rule : DivisionRule} {before : List Token} {token : Token}
    (h : IsFault rule before token) : Obstructed rule before token := by
  rcases h with hmisses | hzero
  · exact ⟨_, .missingOperand hmisses⟩
  · exact ⟨_, .zeroDivisor hzero⟩

/-- An obstacle that leads to a rejection is an operator that cannot be applied. -/
theorem Obstacle.isFault {rule : DivisionRule} {before : List Token} {token : Token}
    {why : Rejection} (h : Obstacle rule before token (.rejected why)) :
    IsFault rule before token := by
  cases h with
  | missingOperand hmisses => exact .inl hmisses
  | zeroDivisor hzero => exact .inr hzero

/-- A rejection on the way decides the outcome at the first fault. -/
theorem orderVerdict_of_run_error (hordered : ∀ t ∈ ordered, t.IsEvaluable) {why : Rejection}
    (h : OperandStack.run (.exact settings.rule) [] ordered = .error (.rejected why)) :
    OrderVerdict settings.rule ordered ⟨text, .error why⟩ := by
  obtain ⟨before, token, hfirst, hobstacle⟩ := OperandStack.exists_firstAt_of_run hordered h
  have hfault : FirstAt (IsFault settings.rule) ordered before token :=
    hfirst.of_imp hobstacle.isFault fun _ _ => IsFault.obstructed
  have hdecides : ∀ earlier other stop, FirstAt (IsFault settings.rule) ordered earlier other →
      Obstacle settings.rule earlier other stop → stop = .rejected why := by
    intro earlier other stop hearlier hstop
    obtain ⟨rfl, rfl⟩ := hfault.unique hearlier
    have hrun := (OperandStack.run_eq_error_iff hordered).mpr ⟨_, _, hfirst, hstop⟩
    exact Except.error.inj (hrun.symm.trans h)
  constructor
  · intro earlier other hearlier hmisses
    obtain rfl := Stop.rejected.inj (hdecides _ _ _ hearlier (.missingOperand hmisses))
    rfl
  · intro earlier other hearlier hzero
    obtain rfl := Stop.rejected.inj (hdecides _ _ _ hearlier (.zeroDivisor hzero))
    rfl
  · intro hnone
    exact absurd hfault (hnone before token)
  · intro hnone
    exact absurd hfault (hnone before token)

/-- Without a fault on the way, the operands that are left decide the outcome. -/
theorem orderVerdict_of_run_ok (hordered : ∀ t ∈ ordered, t.IsEvaluable) {stack : OperandStack Decimal}
    (h : OperandStack.run (.exact settings.rule) [] ordered = .ok stack) :
    OrderVerdict settings.rule ordered ⟨text, stack.result⟩ := by
  have hnone : ∀ before token, ¬FirstAt (IsFault settings.rule) ordered before token := by
    rintro before token ⟨⟨after, rfl⟩, hfault, -⟩
    obtain ⟨stop, hobstacle⟩ := hfault.obstructed
    exact OperandStack.not_obstacle_of_run (hordered token (by simp)) h hobstacle
  have hlength := OperandStack.length_run h
  constructor
  · intro before token hfirst
    exact absurd hfirst (hnone before token)
  · intro before token hfirst
    exact absurd hfirst (hnone before token)
  · intro _
    rcases stack with _ | ⟨value, _ | ⟨other, rest⟩⟩
    all_goals
      simp [OperandStack.result, Rejection.emptyExpression, Rejection.missingOperator,
        Rejection.malformed] at hlength ⊢
      omega
  · intro _ hcount
    rcases stack with _ | ⟨value, _ | ⟨other, rest⟩⟩
    · simp at hlength
      omega
    · exact ⟨value, rfl⟩
    · simp at hlength
      omega

/-- The outcome of a postfix sequence follows from its first fault, or from what is left. -/
theorem orderVerdict (hordered : ∀ t ∈ ordered, t.IsEvaluable)
    (h : Outcome.ofEvaluation text (evaluatePostfix (.exact settings.rule) ordered) = .ok outcome) :
    OrderVerdict settings.rule ordered outcome := by
  cases hrun : OperandStack.run (.exact settings.rule) [] ordered with
  | error stop =>
    have hstop : evaluatePostfix (.exact settings.rule) ordered = .error stop :=
      bind_eq_error_iff.mpr (.inl hrun)
    rcases Outcome.ofEvaluation_eq_ok_iff.mp h with ⟨value, hvalue, -⟩ | ⟨why, hwhy, rfl⟩
    · cases hstop.symm.trans hvalue
    · cases hstop.symm.trans hwhy
      exact orderVerdict_of_run_error hordered hrun
  | ok stack =>
    have hstack : evaluatePostfix (.exact settings.rule) ordered =
        stack.result.mapError .rejected := by
      change OperandStack.run (.exact settings.rule) [] ordered >>= _ = _
      rw [hrun]
      rfl
    have houtcome : outcome = ⟨text, stack.result⟩ := by
      rw [hstack] at h
      cases hresult : stack.result <;> rw [hresult] at h <;> exact (Except.ok.inj h).symm
    rw [houtcome]
    exact orderVerdict_of_run_ok hordered hrun

end Ordered

/-! ## Tokens and texts -/

section Tokens

variable {tokens : List Token}

/-- Tokens are turned down for anything but a lexeme that means nothing. -/
theorem kind_of_evaluateTokens (htyped : ∀ t ∈ tokens, t.IsTyped) {why : Rejection}
    (h : evaluateTokens settings.rule tokens = .error (.rejected why)) :
    why.kind ≠ .unknownSymbol := by
  rcases bind_eq_error_iff.mp h with horder | ⟨ordered, horder, hvalue⟩
  · obtain ⟨_, hwhy, hkind⟩ := Reordering.kind_of_toPostfix htyped horder
    obtain rfl := Stop.rejected.inj hwhy
    simp [hkind]
  · have hordered := (Reordering.reordered_of_toPostfix horder).isEvaluable
      fun t ht => (htyped t ht).isRanked
    rcases kind_of_evaluatePostfix hordered hvalue with hkind | ⟨rfl, -⟩
    · simp [hkind]
    · simp [Rejection.divisionByZero]

/-- The outcome of tokens follows from their parentheses, or from their postfix order. -/
theorem tokenVerdict (htyped : ∀ t ∈ tokens, t.IsTyped)
    (h : Outcome.ofEvaluation text (evaluateTokens settings.rule tokens) = .ok outcome) :
    TokenVerdict settings.rule tokens outcome := by
  cases horder : toPostfix tokens with
  | error stop =>
    obtain ⟨why, rfl, hkind⟩ := Reordering.kind_of_toPostfix htyped horder
    have hunbalanced : ¬Balanced tokens := by
      intro hbalanced
      obtain ⟨ordered, hordered⟩ := (Reordering.exists_toPostfix_iff htyped).mpr hbalanced
      cases horder.symm.trans hordered
    rw [evaluateTokens, horder] at h
    obtain rfl := Except.ok.inj h
    exact ⟨by simp [hkind, hunbalanced], fun hbalanced => absurd hbalanced hunbalanced⟩
  | ok ordered =>
    have hordered := Reordering.reordered_of_toPostfix horder
    have hevaluable := hordered.isEvaluable fun t ht => (htyped t ht).isRanked
    have hvalue : evaluateTokens settings.rule tokens =
        evaluatePostfix (.exact settings.rule) ordered := by
      rw [evaluateTokens, horder]
      rfl
    rw [hvalue] at h
    refine ⟨?_, fun _ => ⟨ordered, horder, orderVerdict hevaluable h⟩⟩
    rcases Outcome.ofEvaluation_eq_ok_iff.mp h with ⟨value, -, rfl⟩ | ⟨why, hwhy, rfl⟩
    · simp [hordered.balanced]
    · rcases kind_of_evaluatePostfix hevaluable hwhy with hkind | ⟨rfl, -⟩
      · simp [hkind, hordered.balanced]
      · simp [Rejection.divisionByZero, hordered.balanced]

end Tokens

/-- Every outcome follows from its text in the order of the faults. -/
theorem verdict_of_evaluate (h : evaluate settings.rule text = .ok outcome) :
    Verdict settings.rule text outcome := by
  have hexpression := expression_of_evaluate h
  cases ht : tokenize text with
  | error why =>
    rw [evaluate, evaluateText, ht] at h
    obtain rfl := Except.ok.inj h
    obtain ⟨before, lexeme, after, hsplit, hbefore, hlexeme, rfl⟩ := tokenize_eq_error_iff.mp ht
    have hmem : lexeme ∈ lexemes text := by simp [hsplit]
    constructor
    · exact hexpression
    · exact ⟨fun _ => ⟨lexeme, hmem, hlexeme⟩, fun _ => rfl⟩
    · intro before' lexeme' after' hsplit' hbefore' hlexeme'
      have hfirst := tokenize_eq_error_iff.mpr
        ⟨before', lexeme', after', hsplit', hbefore', hlexeme', rfl⟩
      rw [Except.error.inj (ht.symm.trans hfirst)]
      rfl
    · intro hall
      exact absurd (hall lexeme hmem) hlexeme
  | ok tokens =>
    have htyped := isTyped_of_tokenize ht
    have hall : ∀ lexeme ∈ lexemes text, IsMeaningful lexeme := exists_tokenize_iff.mp ⟨tokens, ht⟩
    rw [evaluate, evaluateText_eq ht] at h
    constructor
    · exact hexpression
    · have hnone : ¬∃ lexeme ∈ lexemes text, ¬IsMeaningful lexeme := by
        push Not
        exact hall
      refine iff_of_false ?_ hnone
      rcases Outcome.ofEvaluation_eq_ok_iff.mp h with ⟨value, -, rfl⟩ | ⟨why, hwhy, rfl⟩
      · simp
      · simp [kind_of_evaluateTokens htyped hwhy]
    · intro before lexeme after hsplit _ hlexeme
      exact absurd (hall lexeme (by simp [hsplit])) hlexeme
    · exact fun _ => ⟨tokens, ht, tokenVerdict htyped h⟩

/-- In `7/(2-2)+` the division by zero comes before the missing operand. -/
theorem verdict_of_evaluate_twoFaults :
    let text := "7/(2-2)+"
    let outcome : Outcome := ⟨text, .error .divisionByZero⟩
    evaluate EvaluatorSettings.default.rule text = .ok outcome ∧
      Verdict EvaluatorSettings.default.rule text outcome := by
  intro text outcome
  have h : evaluate EvaluatorSettings.default.rule text = .ok outcome :=
    evaluate_eq_rejected_iff.mpr (by decide +kernel)
  exact ⟨h, verdict_of_evaluate h⟩

end LedgerAmount
