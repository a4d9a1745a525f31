/-!
# Faults of arithmetic

What can keep an operation on decimals from having a result. A user who types an amount can cause
only one of these faults: a quotient that grows beyond the digit limit.
-/

namespace LedgerAmount

/-- The most digits of a quotient that is cut off behind its last place. -/
def digitLimit : Nat := 4300

/-- Why an operation has no result. -/
inductive ArithmeticFault where
  /-- The divisor is zero. -/
  | zeroDivisor
  /-- A quotient that is cut off behind its last place has more than `digitLimit` digits. -/
  | digitLimit
  /-- The rule for a quotient names no rounding mode. -/
  | invalidRounding
  /-- An operand of a division is not a number. -/
  | notANumber
  /-- An operand of a division is infinite. -/
  | infinite
  /-- The operands have no sum, difference, product or comparison. -/
  | invalidOperation
  /-- A result is greater than the bounds of exponents allow. -/
  | overflow
  /-- A result has more digits than can be written down. -/
  | tooManyDigits
  /-- A text names no number. -/
  | unreadable
  /-- A text names a number beyond the bounds of exponents. -/
  | outOfBounds
  deriving DecidableEq, Repr

/-- The wording of a fault. -/
def ArithmeticFault.message : ArithmeticFault → String
  | zeroDivisor => "integer division or modulo by zero"
  | digitLimit => "Exceeds the limit (" ++ toString LedgerAmount.digitLimit ++
      " digits) for integer string conversion; " ++
      "use sys.set_int_max_str_digits() to increase the limit"
  | invalidRounding => "valid values for rounding are:\n" ++
      "  [ROUND_CEILING, ROUND_FLOOR, ROUND_UP, ROUND_DOWN,\n" ++
      "   ROUND_HALF_UP, ROUND_HALF_DOWN, ROUND_HALF_EVEN,\n" ++
      "   ROUND_05UP]"
  | notANumber => "cannot convert NaN to integer ratio"
  | infinite => "cannot convert Infinity to integer ratio"
  | invalidOperation | outOfBounds => "[<class 'decimal.InvalidOperation'>]"
  | overflow => "[<class 'decimal.Overflow'>]"
  | tooManyDigits => ""
  | unreadable => "[<class 'decimal.ConversionSyntax'>]"

end LedgerAmount
