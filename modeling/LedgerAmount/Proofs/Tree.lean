import LedgerAmount.Proofs.Tokens

/-!
# Expression trees

The meaning of an expression without stacks: a tree whose leaves are numbers and whose nodes apply
an operator to the values of two subtrees, the left one first. A postfix sequence has a value
exactly if it lists such a tree, operands before operators, and then it is the value of the tree.
-/

namespace LedgerAmount

/-- An expression as a tree. -/
inductive Tree where
  /-- A number as it was typed, with its value. -/
  | number (text : String) (value : Decimal)
  /-- An operator between two operands. -/
  | binary (op : Operator) (left right : Tree)
  deriving DecidableEq, Repr

namespace Tree

/-- The value of a tree: that of the left operand, then that of the right one, then what the
operator makes of both. The first of these that has no value decides. -/
def value (rule : DivisionRule) : Tree → Except Stop Decimal
  | number _ value => .ok value
  | binary op left right => do
    let a ← left.value rule
    let b ← right.value rule
    op.apply rule a b

/-- The tokens of a tree, the operator of a node behind its operands. -/
def postorder : Tree → List Token
  | number text value => [.number text value]
  | binary op left right => left.postorder ++ right.postorder ++ [.operator op.symbol]

/-- A tree has one more number than operators. -/
theorem count_postorder (tree : Tree) :
    Token.count .number tree.postorder = Token.count .operator tree.postorder + 1 := by
  induction tree with
  | number text value => rfl
  | binary op left right ihl ihr =>
    simp only [postorder, Token.count_append, ihl, ihr]
    simp [Token.count_cons]
    omega

/-- Tokens list at most one tree at their end, so what stands in front of it can be told as well. -/
theorem append_postorder_inj {tree other : Tree} {before earlier : List Token}
    (h : before ++ tree.postorder = earlier ++ other.postorder) :
    before = earlier ∧ tree = other := by
  induction tree generalizing other before earlier with
  | number text value =>
    cases other with
    | number text' value' =>
      obtain ⟨hbefore, hlast⟩ := List.append_inj' h rfl
      simp_all [postorder]
    | binary op left right =>
      rw [postorder, postorder, ← List.append_assoc] at h
      obtain ⟨-, hlast⟩ := List.append_inj' h rfl
      cases hlast
  | binary op left right ihl ihr =>
    cases other with
    | number text value =>
      rw [postorder, postorder, ← List.append_assoc] at h
      obtain ⟨-, hlast⟩ := List.append_inj' h rfl
      cases hlast
    | binary op' left' right' =>
      simp only [postorder, ← List.append_assoc] at h
      obtain ⟨hoperands, hlast⟩ := List.append_inj' h rfl
      have hop : op = op' := Operator.symbol_injective (by simpa using hlast)
      obtain ⟨hleft, rfl⟩ := ihr hoperands
      obtain ⟨rfl, rfl⟩ := ihl hleft
      exact ⟨rfl, by rw [hop]⟩

theorem postorder_injective : Function.Injective postorder := by
  intro tree other h
  exact (append_postorder_inj (show [] ++ tree.postorder = [] ++ other.postorder from h)).2

end Tree

namespace OperandStack

open Token

/-! ## Runs -/

section Runs

variable {α : Type} {arithmetic : Arithmetic α}

/-- Takes in tokens one after the other. -/
def run (arithmetic : Arithmetic α) (stack : OperandStack α) (tokens : List Token) :
    Except Stop (OperandStack α) :=
  tokens.foldlM (step arithmetic) stack

@[simp] theorem run_nil (stack : OperandStack α) : run arithmetic stack [] = .ok stack := rfl

theorem run_cons (stack : OperandStack α) (token : Token) (tokens : List Token) :
    run arithmetic stack (token :: tokens) =
      step arithmetic stack token >>= (run arithmetic · tokens) :=
  List.foldlM_cons ..

theorem run_append (stack : OperandStack α) (tokens others : List Token) :
    run arithmetic stack (tokens ++ others) =
      run arithmetic stack tokens >>= (run arithmetic · others) :=
  List.foldlM_append ..

/-- What taking in a token does to the operands. -/
inductive Takes (arithmetic : Arithmetic α) :
    OperandStack α → Token → OperandStack α → Prop
  | number {stack : OperandStack α} (text : String) (value : Decimal) :
      Takes arithmetic stack (.number text value) (arithmetic.ofDecimal value :: stack)
  | operator {left right result : α} {rest : OperandStack α} {symbol : String}
      (applies : arithmetic.apply symbol left right = .ok result) :
      Takes arithmetic (right :: left :: rest) (.operator symbol) (result :: rest)

/-- The steps of an evaluation are exactly those that are described. -/
theorem step_eq_ok_iff {stack after : OperandStack α} {token : Token} :
    step arithmetic stack token = .ok after ↔ Takes arithmetic stack token after := by
  constructor
  · intro h
    cases token with
    | number text value => cases h; exact .number text value
    | leftParen text => cases h
    | rightParen text => cases h
    | operator symbol =>
      match stack, h with
      | right :: left :: rest, h =>
        simp only [step, bind_eq_ok_iff] at h
        obtain ⟨result, happly, h⟩ := h
        cases h
        exact .operator happly
  · rintro (⟨text, value⟩ | happly)
    · rfl
    · simp only [step, bind_eq_ok_iff]
      exact ⟨_, happly, rfl⟩

theorem run_cons_eq_ok_iff {stack after : OperandStack α} {token : Token} {tokens : List Token} :
    run arithmetic stack (token :: tokens) = .ok after ↔
      ∃ next, Takes arithmetic stack token next ∧ run arithmetic next tokens = .ok after := by
  simp only [run_cons, bind_eq_ok_iff, step_eq_ok_iff]

/-- A number adds an operand and an operator uses one up. -/
theorem length_run {stack after : OperandStack α} {tokens : List Token}
    (h : run arithmetic stack tokens = .ok after) :
    after.length + count .operator tokens = stack.length + count .number tokens := by
  induction tokens generalizing stack with
  | nil =>
    cases h
    rfl
  | cons token tokens ih =>
    obtain ⟨next, hnext, hrest⟩ := run_cons_eq_ok_iff.mp h
    have hlength := ih hrest
    cases hnext <;> simp [count_cons] at hlength ⊢ <;> omega

/-- A run ends without operands only if it starts without any and takes in nothing. -/
theorem run_eq_nil_iff {stack after : OperandStack α} {tokens : List Token}
    (h : run arithmetic stack tokens = .ok after) : after = [] ↔ stack = [] ∧ tokens = [] := by
  induction tokens generalizing stack with
  | nil =>
    cases h
    simp
  | cons token tokens ih =>
    obtain ⟨next, hnext, hrest⟩ := run_cons_eq_ok_iff.mp h
    have hne : next ≠ [] := by cases hnext <;> simp
    simp [ih hrest, hne]

theorem result_eq_error_iff {stack : OperandStack α} {why : Rejection} :
    result stack = .error why ↔ stack = [] ∧ why = .emptyExpression ∨
      2 ≤ stack.length ∧ why = .missingOperator := by
  rcases stack with _ | ⟨value, _ | ⟨other, rest⟩⟩ <;> simp [result, eq_comm]

/-- A postfix sequence has a value if one operand is left. -/
theorem evaluatePostfix_eq_ok_iff_run {tokens : List Token} {a : α} :
    evaluatePostfix arithmetic tokens = .ok a ↔ run arithmetic [] tokens = .ok [a] := by
  simp only [evaluatePostfix, bind_eq_ok_iff, mapError_eq_ok_iff]
  constructor
  · intro h
    obtain ⟨stack, hrun, hresult⟩ := h
    match stack, hresult with
    | [_], rfl => exact hrun
  · intro h
    exact ⟨[a], h, rfl⟩

end Runs

/-! ## Trees on the stack -/

variable {rule : DivisionRule}

@[simp] theorem apply_symbol (op : Operator) (a b : Decimal) :
    (Arithmetic.exact rule).apply op.symbol a b = op.apply rule a b := by
  simp [Arithmetic.exact, applySymbol, Operator.ofSymbol, Except.bind]

/-- Only one of the four operators can be applied. -/
theorem exists_operator_of_apply {symbol : String} {a b c : Decimal}
    (h : (Arithmetic.exact rule).apply symbol a b = .ok c) :
    ∃ op : Operator, symbol = op.symbol ∧ op.apply rule a b = .ok c := by
  change (Operator.ofSymbol symbol >>= _) = _ at h
  obtain ⟨op, hop, happly⟩ := bind_eq_ok_iff.mp h
  refine ⟨op, ?_, happly⟩
  rw [Operator.ofSymbol] at hop
  split at hop
  next hsymbol =>
    cases hop
    exact Operator.ofSymbol?_eq_some_iff.mp hsymbol
  next => cases hop

/-- Evaluating the tokens of a tree puts its value on the stack, or stops where the tree does. -/
theorem run_postorder (tree : Tree) (stack : OperandStack Decimal) :
    run (.exact rule) stack tree.postorder = (tree.value rule).map (· :: stack) := by
  induction tree generalizing stack with
  | number text value => rfl
  | binary op left right ihl ihr =>
    rw [Tree.postorder, run_append, run_append, ihl, Tree.value]
    cases left.value rule with
    | error stop => rfl
    | ok a =>
      change (run (.exact rule) (a :: stack) right.postorder >>= _) = _
      rw [ihr]
      cases right.value rule with
      | error stop => rfl
      | ok b =>
        change run (.exact rule) (b :: a :: stack) [.operator op.symbol] =
          (op.apply rule a b).map (· :: stack)
        simp only [run_cons, step, apply_symbol]
        cases op.apply rule a b <;> rfl

/-- The trees whose values are on the stack, the latest first, list the tokens seen. -/
structure Builds (rule : DivisionRule) (stack : OperandStack Decimal) (seen : List Token)
    (trees : List Tree) : Prop where
  values : List.Forall₂ (fun tree value => tree.value rule = .ok value) trees stack
  tokens : seen = trees.reverse.flatMap Tree.postorder

/-- Every step keeps the stack one of tree values. -/
theorem Takes.builds {stack after : OperandStack Decimal} {token : Token} {seen : List Token}
    {trees : List Tree} (h : Takes (.exact rule) stack token after)
    (hs : Builds rule stack seen trees) :
    ∃ trees, Builds rule after (seen ++ [token]) trees := by
  obtain ⟨values, rfl⟩ := hs
  cases h with
  | number text value =>
    refine ⟨.number text value :: trees, .cons rfl values, ?_⟩
    simp [Tree.postorder]
  | operator applies =>
    obtain ⟨op, rfl, happly⟩ := exists_operator_of_apply applies
    cases values with
    | @cons right _ _ _ hright values =>
      cases values with
      | @cons left _ trees _ hleft values =>
        refine ⟨.binary op left right :: trees, .cons ?_ values, ?_⟩
        · simp only [Tree.value, bind_eq_ok_iff]
          exact ⟨_, hleft, _, hright, happly⟩
        · simp [Tree.postorder]

/-- So does every run. -/
theorem run_builds {stack after : OperandStack Decimal} {tokens seen : List Token}
    {trees : List Tree} (h : run (.exact rule) stack tokens = .ok after)
    (hs : Builds rule stack seen trees) :
    ∃ trees, Builds rule after (seen ++ tokens) trees := by
  induction tokens generalizing stack seen trees with
  | nil =>
    cases h
    exact ⟨trees, by simpa using hs⟩
  | cons token tokens ih =>
    obtain ⟨next, hnext, hrest⟩ := run_cons_eq_ok_iff.mp h
    obtain ⟨grown, hgrown⟩ := hnext.builds hs
    simpa using ih hrest hgrown

end OperandStack

/-- A postfix sequence has a value exactly if it lists a tree with that value. -/
theorem evaluatePostfix_eq_ok_iff {rule : DivisionRule} {tokens : List Token} {v : Decimal} :
    evaluatePostfix (.exact rule) tokens = .ok v ↔
      ∃ tree : Tree, tokens = tree.postorder ∧ tree.value rule = .ok v := by
  rw [OperandStack.evaluatePostfix_eq_ok_iff_run]
  constructor
  · intro h
    obtain ⟨trees, hvalues, htokens⟩ := OperandStack.run_builds h ⟨.nil, rfl⟩
    match trees, hvalues with
    | [tree], .cons hvalue .nil => exact ⟨tree, by simpa using htokens, hvalue⟩
  · intro h
    obtain ⟨tree, rfl, hvalue⟩ := h
    rw [OperandStack.run_postorder, hvalue]
    rfl

end LedgerAmount
