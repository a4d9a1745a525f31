import LedgerAmount.Proofs.Grammar
import Mathlib.Data.List.Perm.Basic

/-!
# Which token lists have a value

A list of tokens has a value only if its numbers are one more than its operators and its parentheses
pair up. These two balances are the whole protection against a token that is missing or that is one
too many: any single one upsets them.
-/

namespace LedgerAmount

open Token

variable {rule other : DivisionRule} {tokens : List Token} {v w : Decimal}

/-- A list has a value exactly if its postfix order lists a tree with that value. -/
theorem evaluateTokens_eq_ok_iff : evaluateTokens rule tokens = .ok v ↔
    ∃ tree : Tree, toPostfix tokens = .ok tree.postorder ∧ tree.value rule = .ok v := by
  simp only [evaluateTokens, bind_eq_ok_iff, evaluatePostfix_eq_ok_iff]
  constructor
  · intro h
    obtain ⟨_, horder, tree, rfl, hvalue⟩ := h
    exact ⟨tree, horder, hvalue⟩
  · intro h
    obtain ⟨tree, horder, hvalue⟩ := h
    exact ⟨_, horder, tree, rfl, hvalue⟩

/-- A text has the value of its tokens. -/
theorem evaluateText_eq_ok_iff {text : String} : evaluateText rule text = .ok v ↔
    ∃ tokens, tokenize text = .ok tokens ∧ evaluateTokens rule tokens = .ok v := by
  rw [evaluateText, bind_eq_ok_iff]
  simp only [mapError_eq_ok_iff]
  rfl

/-- An evaluation has an outcome unless it is broken off. -/
theorem Outcome.ofEvaluation_eq_ok_iff {text : String} {evaluation : Except Stop Decimal}
    {outcome : Outcome} : ofEvaluation text evaluation = .ok outcome ↔
      (∃ value, evaluation = .ok value ∧ outcome = ⟨text, .ok value⟩) ∨
      ∃ why, evaluation = .error (.rejected why) ∧ outcome = ⟨text, .error why⟩ := by
  rcases evaluation with (why | defect) | value <;> simp [ofEvaluation, eq_comm]

/-- An outcome is a success exactly if the text has a value. -/
theorem evaluate_eq_ok_iff {text : String} :
    evaluate rule text = .ok ⟨text, .ok v⟩ ↔ evaluateText rule text = .ok v := by
  rw [evaluate, Outcome.ofEvaluation_eq_ok_iff]
  simp

/-- An outcome is a rejection exactly if the evaluation ends in it. -/
theorem evaluate_eq_rejected_iff {text : String} {why : Rejection} :
    evaluate rule text = .ok ⟨text, .error why⟩ ↔
      evaluateText rule text = .error (.rejected why) := by
  rw [evaluate, Outcome.ofEvaluation_eq_ok_iff]
  simp

/-- There is no outcome exactly if the evaluation is broken off. -/
theorem evaluate_eq_error_iff {text : String} {defect : Defect} :
    evaluate rule text = .error defect ↔ evaluateText rule text = .error (.broken defect) := by
  rw [evaluate]
  cases evaluateText rule text with
  | ok value => simp [Outcome.ofEvaluation]
  | error stop => cases stop <;> simp [Outcome.ofEvaluation]

/-- An outcome names the text as it was typed. -/
theorem expression_of_evaluate {text : String} {outcome : Outcome}
    (h : evaluate rule text = .ok outcome) : outcome.expression = text := by
  rcases Outcome.ofEvaluation_eq_ok_iff.mp h with ⟨_, -, rfl⟩ | ⟨_, -, rfl⟩
  · rfl
  · rfl

/-- The operators of a list whose postfix order lists a tree are one fewer than its numbers. -/
theorem count_of_toPostfix {tree : Tree} (h : toPostfix tokens = .ok tree.postorder) :
    count .number tokens = count .operator tokens + 1 := by
  have hordered := Reordering.reordered_of_toPostfix h
  calc
    count .number tokens = count .number tree.postorder := by
      rw [count, ← hordered.numbers, count]
    _ = count .operator tree.postorder + 1 := tree.count_postorder
    _ = count .operator tokens + 1 := by rw [count, hordered.operators.length_eq, count]

/-- No two lists that have a value differ by one token, wherever it stands and whatever else is
moved. -/
theorem not_perm_cons_of_values {token : Token} {others : List Token}
    (h : evaluateTokens rule tokens = .ok v) (h' : evaluateTokens other others = .ok w) :
    ¬(token :: tokens).Perm others := by
  intro hperm
  obtain ⟨tree, horder, -⟩ := evaluateTokens_eq_ok_iff.mp h
  obtain ⟨tree', horder', -⟩ := evaluateTokens_eq_ok_iff.mp h'
  have hnumbers := count_of_toPostfix horder
  have hnumbers' := count_of_toPostfix horder'
  have hparens := (Reordering.reordered_of_toPostfix horder).balanced.opened_eq
  have hparens' := (Reordering.reordered_of_toPostfix horder').balanced.opened_eq
  simp only [← count_perm hperm, count_cons] at hnumbers' hparens'
  cases hkind : token.kind <;> simp [hkind] at hnumbers' hparens' <;> omega

/-- A list that has a value has none under any rule once a single token is taken out or put in. -/
theorem no_value_of_single_edit (h : evaluateTokens rule tokens = .ok v) :
    (∀ i < tokens.length, ∀ other w, evaluateTokens other (tokens.eraseIdx i) ≠ .ok w) ∧
      ∀ i ≤ tokens.length, ∀ token other w,
        evaluateTokens other (tokens.insertIdx i token) ≠ .ok w := by
  constructor
  · intro i hi other w h'
    exact not_perm_cons_of_values h' h (List.getElem_cons_eraseIdx_perm hi)
  · intro i hi token other w h'
    exact not_perm_cons_of_values h h' (List.perm_insertIdx token tokens hi).symm

/-- The hypotheses can be met: what is left of `2*(3)` or grows out of it has no value. -/
theorem no_value_of_single_edit_product :
    let tokens : List Token := [.number "2" ⟨false, 2, 0⟩, .operator "*", .leftParen "(",
      .number "3" ⟨false, 3, 0⟩, .rightParen ")"]
    evaluateTokens EvaluatorSettings.default.rule tokens = .ok ⟨false, 6, 0⟩ ∧
      (∀ i < tokens.length, ∀ other w, evaluateTokens other (tokens.eraseIdx i) ≠ .ok w) ∧
      ∀ i ≤ tokens.length, ∀ token other w,
        evaluateTokens other (tokens.insertIdx i token) ≠ .ok w := by
  intro tokens
  have h : evaluateTokens EvaluatorSettings.default.rule tokens = .ok ⟨false, 6, 0⟩ := by
    decide +kernel
  exact ⟨h, no_value_of_single_edit h⟩

end LedgerAmount
