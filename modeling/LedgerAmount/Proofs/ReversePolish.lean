import LedgerAmount.Proofs.Obstacles
import LedgerAmount.Proofs.WithinBounds

/-!
# Reverse Polish notation

A sequence of numbers and operators has a value exactly if it lists an expression tree, operands
before operators, and the tree has one; the sequence lists no other tree. Any other sequence is
stopped at the first obstacle, or else by the number of operands that are left over.
-/

namespace LedgerAmount

open Token

variable {settings : EvaluatorSettings} {tokens : List Token}

/-- A sequence without an obstacle is turned down if it is empty or if more than one operand is
left. -/
theorem evaluatePostfix_eq_error_of_run {stack : OperandStack Decimal} {stop : Stop}
    (h : OperandStack.run (.exact settings.rule) [] tokens = .ok stack) :
    evaluatePostfix (.exact settings.rule) tokens = .error stop ↔
      tokens = [] ∧ stop = .rejected .emptyExpression ∨
        count .operator tokens + 2 ≤ count .number tokens ∧ stop = .rejected .missingOperator := by
  have hfold : evaluatePostfix (.exact settings.rule) tokens =
      OperandStack.run (.exact settings.rule) [] tokens >>= (·.result.mapError .rejected) := rfl
  have hlength : 2 ≤ stack.length ↔ count .operator tokens + 2 ≤ count .number tokens := by
    have hcount := OperandStack.length_run h
    rw [List.length_nil] at hcount
    omega
  have hempty : stack = [] ↔ tokens = [] := by simp [OperandStack.run_eq_nil_iff h]
  rw [hfold, h]
  simp only [bind, Except.bind, mapError_eq_error_iff, OperandStack.result_eq_error_iff, hlength,
    hempty]
  constructor
  · rintro ⟨why, ⟨hnil, rfl⟩ | ⟨hmany, rfl⟩, rfl⟩
    · exact .inl ⟨hnil, rfl⟩
    · exact .inr ⟨hmany, rfl⟩
  · rintro (⟨hnil, rfl⟩ | ⟨hmany, rfl⟩)
    · exact ⟨_, .inl ⟨hnil, rfl⟩, rfl⟩
    · exact ⟨_, .inr ⟨hmany, rfl⟩, rfl⟩

/-- The values of a sequence are those of the tree that it lists, and there is only one such tree.
Without a value, a sequence is turned down or broken off by the first obstacle; where there is none,
it is empty or has at least two numbers more than operators. All this is so within the bounds of
exponents as well, as long as the sequence leaves room. -/
theorem evaluatePostfix_of_isEvaluable (h : ∀ t ∈ tokens, t.IsEvaluable) :
    (∀ v, evaluatePostfix (.exact settings.rule) tokens = .ok v ↔
      ∃ tree : Tree, (∀ other : Tree, other.postorder = tokens ↔ other = tree) ∧
        tree.value settings.rule = .ok v) ∧
    (∀ stop, evaluatePostfix (.exact settings.rule) tokens = .error stop ↔
      (∃ before token, FirstAt (Obstructed settings.rule) tokens before token ∧
        Obstacle settings.rule before token stop) ∨
      (∀ before token, ¬FirstAt (Obstructed settings.rule) tokens before token) ∧
        (tokens = [] ∧ stop = .rejected (.malformed "Expression is empty") ∨
          count .operator tokens + 2 ≤ count .number tokens ∧
            stop = .rejected
              (.malformed "Expression has numbers with no operator between them"))) ∧
    ((∀ t ∈ tokens, t.IsPlain) → totalWidth settings.rule tokens < Decimal.greatestDistance →
      evaluatePostfix (.bounded settings.rule) tokens =
        (evaluatePostfix (.exact settings.rule) tokens).map .finite) := by
  refine ⟨?_, ?_, evaluatePostfix_bounded⟩
  · intro v
    rw [evaluatePostfix_eq_ok_iff]
    refine exists_congr fun tree => and_congr_left fun _ => ?_
    constructor
    · rintro rfl other
      exact Tree.postorder_injective.eq_iff
    · intro honly
      exact ((honly tree).mpr rfl).symm
  · intro stop
    rw [← OperandStack.run_eq_error_iff h, ← OperandStack.exists_run_iff h]
    cases hrun : OperandStack.run (.exact settings.rule) [] tokens with
    | ok stack =>
      rw [evaluatePostfix_eq_error_of_run hrun]
      simp [Rejection.emptyExpression, Rejection.missingOperator]
    | error early =>
      have hstop : evaluatePostfix (.exact settings.rule) tokens = .error early :=
        bind_eq_error_iff.mpr (.inl hrun)
      simp [hstop]

/-- `10 4 - 0.30 *` lists the tree of `(10 - 4) * 0.30` and no other. In `1 + 5 0.00 /` the `+` is
in front of the zero divisor and lacks an operand. -/
theorem evaluatePostfix_of_isEvaluable_earlier :
    let rule := EvaluatorSettings.default.rule
    let ten : Token := .number "10" ⟨false, 10, 0⟩
    let four : Token := .number "4" ⟨false, 4, 0⟩
    let part : Token := .number "0.30" ⟨false, 30, -2⟩
    let listing : List Token := [ten, four, .operator "-", part, .operator "*"]
    let one : Token := .number "1" ⟨false, 1, 0⟩
    let five : Token := .number "5" ⟨false, 5, 0⟩
    let zero : Token := .number "0.00" ⟨false, 0, -2⟩
    let stuck : List Token := [one, .operator "+", five, zero, .operator "/"]
    (∀ t ∈ listing, t.IsEvaluable) ∧ (∀ t ∈ stuck, t.IsEvaluable) ∧
      (∃ tree : Tree, (∀ other : Tree, other.postorder = listing ↔ other = tree) ∧
        tree.value rule = .ok ⟨false, 180, -2⟩) ∧
      evaluatePostfix (.exact rule) stuck = .error (.rejected (.missingOperand "+")) ∧
      evaluatePostfix (.bounded rule) stuck = .error (.rejected (.missingOperand "+")) := by
  intro rule ten four part listing one five zero stuck
  have evaluable : ∀ tokens : List Token, (∀ t ∈ tokens, t.IsTyped) →
      (∀ t ∈ tokens, t.kind = .number ∨ t.kind = .operator) → ∀ t ∈ tokens, t.IsEvaluable :=
    fun tokens htyped hkind t ht => (htyped t ht).isRanked.isEvaluable (hkind t ht)
  have hlisting := evaluable listing (by decide) (by decide)
  have hstuck := evaluable stuck (by decide) (by decide)
  have hvalue : evaluatePostfix (.exact rule) listing = .ok ⟨false, 180, -2⟩ := by decide +kernel
  have hmisses : MissesOperand [one] (.operator "+") := ⟨rfl, by decide⟩
  have hfirst : FirstAt (Obstructed rule) stuck [one] (.operator "+") := by
    refine ⟨⟨_, rfl⟩, ⟨_, .missingOperand hmisses⟩, ?_⟩
    rintro earlier other between hsplit ⟨stop, hstop⟩
    have hother := hstop.kind_eq
    have hmem : other ∈ [one] := by simp [hsplit]
    rw [List.mem_singleton.mp hmem] at hother
    cases hother
  have hstop := ((evaluatePostfix_of_isEvaluable hstuck).2.1 _).mpr
    (.inl ⟨_, _, hfirst, .missingOperand hmisses⟩)
  have hbounded : evaluatePostfix (.bounded rule) stuck =
      (evaluatePostfix (.exact rule) stuck).map .finite :=
    (evaluatePostfix_of_isEvaluable hstuck).2.2 (by decide) (by decide)
  refine ⟨hlisting, hstuck, ((evaluatePostfix_of_isEvaluable hlisting).1 _).mp hvalue, hstop, ?_⟩
  rw [hbounded, hstop]
  rfl

end LedgerAmount
