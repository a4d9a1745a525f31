import LedgerAmount.Decimal.Extended
import LedgerAmount.Expression.Operator
import LedgerAmount.Expression.Stop

/-!
# Operations

Applying an operator to two operands. A zero divisor is the user's doing and a rejection; sums,
differences and products of the decimals in an expression always have a value. Operands that are
given in writing may be anything that a text names, and their operations may fail.
-/

namespace LedgerAmount

/-- The operator of a text, which has to be one of the four. -/
def Operator.ofSymbol (symbol : String) : Except Stop Operator :=
  match Operator.ofSymbol? symbol with
  | some op => .ok op
  | none => .error (.broken (.unsupportedOperator symbol))

/-- An outcome of arithmetic as that of an operation. -/
def Stop.ofArithmetic {α : Type} (outcome : Except ArithmeticFault α) : Except Stop α :=
  outcome.mapError (.broken ∘ .arithmetic)

/-- The value of an operation on decimals. -/
def Operator.apply (rule : DivisionRule) (a b : Decimal) : Operator → Except Stop Decimal
  | plus => .ok (a + b)
  | minus => .ok (a - b)
  | times => .ok (a * b)
  | divide =>
    if b.isZero then .error (.rejected .divisionByZero)
    else Stop.ofArithmetic (a.divide rule b)

/-- Applies the operator of a text. -/
def applySymbol (rule : DivisionRule) (symbol : String) (a b : Decimal) : Except Stop Decimal :=
  (Operator.ofSymbol symbol).bind (Operator.apply rule a b)

/-- The value of an operation on extended decimals. -/
def Extended.operate (rule : DivisionRule) (a b : Extended) : Operator → Except Stop Extended
  | .plus => Stop.ofArithmetic (a.add b)
  | .minus => Stop.ofArithmetic (a.sub b)
  | .times => Stop.ofArithmetic (a.mul b)
  | .divide => do
    if ← Stop.ofArithmetic b.equalsZero then .error (.rejected .divisionByZero)
    else Stop.ofArithmetic (a.divide rule b)

/-- Applies the operator of a text to extended decimals. -/
def Extended.applySymbol (rule : DivisionRule) (symbol : String) (a b : Extended) :
    Except Stop Extended :=
  (Operator.ofSymbol symbol).bind (Extended.operate rule a b)

/-- An arithmetic: how numbers are taken and what the operator of a text makes of two of them. -/
structure Arithmetic (α : Type) where
  ofDecimal : Decimal → α
  apply : String → α → α → Except Stop α

namespace Arithmetic

/-- The arithmetic of expressions, which knows no bounds. -/
def exact (rule : DivisionRule) : Arithmetic Decimal := ⟨id, applySymbol rule⟩

/-- The arithmetic of numbers given in writing, within the bounds of exponents. -/
def bounded (rule : DivisionRule) : Arithmetic Extended := ⟨.finite, Extended.applySymbol rule⟩

end Arithmetic

end LedgerAmount
