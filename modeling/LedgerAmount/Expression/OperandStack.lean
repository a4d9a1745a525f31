import LedgerAmount.Expression.Operation
import LedgerAmount.Expression.Token

/-!
# Evaluation of a postfix sequence

Numbers are pushed on a stack of operands and every operator replaces the two latest by its value.
A sequence has a value if it ends with one operand on the stack.
-/

namespace LedgerAmount

/-- Operands, the latest first. -/
abbrev OperandStack (α : Type) := List α

namespace OperandStack

variable {α : Type}

/-- Takes in one token. The latest operand is the right one. -/
def step (arithmetic : Arithmetic α) (stack : OperandStack α) :
    Token → Except Stop (OperandStack α)
  | .number _ value => .ok (arithmetic.ofDecimal value :: stack)
  | .operator symbol =>
    match stack with
    | right :: left :: rest => do return (← arithmetic.apply symbol left right) :: rest
    | _ => .error (.rejected (.missingOperand symbol))
  | .leftParen text | .rightParen text => .error (.broken (.unexpectedToken text))

/-- The operand left at the end. -/
def result : OperandStack α → Except Rejection α
  | [] => .error .emptyExpression
  | [value] => .ok value
  | _ :: _ :: _ => .error .missingOperator

end OperandStack

/-- The value of a postfix sequence in an arithmetic. -/
def evaluatePostfix {α : Type} (arithmetic : Arithmetic α) (tokens : List Token) :
    Except Stop α := do
  let stack ← tokens.foldlM (OperandStack.step arithmetic) []
  stack.result.mapError .rejected

end LedgerAmount
