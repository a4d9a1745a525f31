import LedgerAmount.Decimal.ArithmeticFault
import LedgerAmount.Expression.Rejection

/-!
# How an evaluation stops short

An evaluation without a value was either turned down for what the user typed or broken off by a
defect: a token list that no expression gives, a rule that names no rounding mode, or a quotient
beyond the digit limit.
-/

namespace LedgerAmount

/-- Why an evaluation was broken off. -/
inductive Defect where
  /-- An operator without a precedence met another one. -/
  | unrankedOperator (symbol : String)
  /-- A parenthesis stands in a postfix sequence. -/
  | unexpectedToken (text : String)
  /-- An operator that is none of the four was applied. -/
  | unsupportedOperator (symbol : String)
  /-- An operation had no result. -/
  | arithmetic (fault : ArithmeticFault)
  deriving DecidableEq, Repr

/-- The wording of a defect. -/
def Defect.message : Defect → String
  | unrankedOperator symbol => Text.quote symbol
  | unexpectedToken text => "Unexpected token in postfix sequence: " ++ Text.quote text
  | unsupportedOperator symbol => "Unsupported operator: " ++ Text.quote symbol
  | arithmetic fault => fault.message

/-- Why an evaluation has no value. -/
inductive Stop where
  | rejected (why : Rejection)
  | broken (defect : Defect)
  deriving DecidableEq, Repr

end LedgerAmount
