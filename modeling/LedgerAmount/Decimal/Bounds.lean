import LedgerAmount.Decimal.Notation
import LedgerAmount.Decimal.Quotient

/-!
# Bounds of exponents

Decimals that are given in writing have exponents within bounds, and operations on them stay within
these bounds. A result that is too great has no decimal; one that reaches below the last place is
rounded to it. Sums of numbers that lie too far apart have too many digits to be written down.

Amounts typed digit by digit never come near the bounds, so the arithmetic of expressions does
without them.
-/

namespace LedgerAmount.Decimal

/-- The greatest adjusted exponent. -/
def greatestExponent : Int := 999999999999999999

/-- The exponent of the last place. -/
def leastExponent : Int := -1999999999999999997

/-- The most places that the digits of two addends may lie apart. -/
def greatestDistance : Int := 1000000000

/-- Whether a decimal is within the bounds. -/
def isWithinBounds (d : Decimal) : Bool :=
  leastExponent ≤ d.exponent && d.adjustedExponent ≤ greatestExponent

/-- A number other than zero rounded to the last place, a half to the even neighbour. Of less
than a tenth of that place nothing is left. -/
def roundToLastPlace (d : Decimal) : Decimal :=
  if d.exponent + (digitsOf d.coefficient).length < leastExponent then
    ⟨d.negative, 0, leastExponent⟩
  else roundedQuotient .halfEven leastExponent.natAbs d (ofInt 1)

/-- A result within the bounds. A zero takes the nearest exponent. -/
def fit (d : Decimal) : Except ArithmeticFault Decimal :=
  if d.isZero then .ok { d with exponent := max leastExponent (min d.exponent greatestExponent) }
  else if greatestExponent < d.adjustedExponent then .error .overflow
  else if d.exponent < leastExponent then .ok d.roundToLastPlace
  else .ok d

/-- Whether two addends lie too far apart. A zero in the higher place needs no digits. -/
def isFarFrom (a b : Decimal) : Bool :=
  let higher := if a.exponent < b.exponent then b else a
  !higher.isZero && greatestDistance < (a.exponent - b.exponent).natAbs

/-- The sum within the bounds. -/
def addWithinBounds (a b : Decimal) : Except ArithmeticFault Decimal :=
  if a.isFarFrom b then .error .tooManyDigits else (a + b).fit

/-- The product within the bounds. -/
def mulWithinBounds (a b : Decimal) : Except ArithmeticFault Decimal := (a * b).fit

/-- What is within the bounds fits as it is. -/
theorem fit_of_isWithinBounds {d : Decimal} (h : d.isWithinBounds = true) : d.fit = .ok d := by
  simp only [isWithinBounds, Bool.and_eq_true, decide_eq_true_eq] at h
  have hpos : 0 < (digitsOf d.coefficient).length := Nat.length_toDigits_pos
  have hle : d.exponent ≤ d.adjustedExponent := by simp only [adjustedExponent]; omega
  rw [fit]
  split
  · rw [Int.min_eq_left (by omega), Int.max_eq_right (by omega)]
  · rw [if_neg (by omega), if_neg (by omega)]

end LedgerAmount.Decimal
