import LedgerAmount.Decimal.ArithmeticFault
import LedgerAmount.Decimal.Basic
import LedgerAmount.Decimal.Rounding

/-!
# Rounded quotients

A quotient of decimals seldom has a finite decimal form, so a division rule says how many
fractional digits to keep and how to round to them. The quotient is cut off one digit later than
that, and one more digit tells whether anything was cut; this is enough to round as the exact
quotient would. A cut quotient with too many digits is refused.
-/

namespace LedgerAmount

/-- How to round a quotient: to `scale` fractional digits, in the mode named `rounding`. -/
structure DivisionRule where
  scale : Nat
  rounding : String
  deriving DecidableEq, Repr

namespace Decimal

/-- The absolute quotient in units of `10 ^ -(scale + 1)`, as a fraction of whole numbers. -/
def scaledFraction (a b : Decimal) (scale : Nat) : Nat × Nat :=
  let shift := a.exponent - b.exponent + (scale + 1)
  (a.coefficient * powerOfTen shift.toNat, b.coefficient * powerOfTen (-shift).toNat)

/-- The lower number of the fraction is not zero either if the divisor is none. -/
theorem scaledFraction_snd_pos {a b : Decimal} (hb : b.isZero = false) (scale : Nat) :
    0 < (a.scaledFraction b scale).2 := by
  have hcoefficient : b.coefficient ≠ 0 := by simpa [isZero] using hb
  exact Nat.mul_pos (Nat.pos_of_ne_zero hcoefficient) (powerOfTen_pos _)

/-- The digits of the absolute quotient one place past `scale`, and a last digit that is 1 if
anything is left of it and 0 otherwise. -/
def cutQuotient (a b : Decimal) (scale : Nat) : Nat :=
  if a.isZero then 0
  else
    let fraction := a.scaledFraction b scale
    10 * (fraction.1 / fraction.2) + if fraction.1 % fraction.2 = 0 then 0 else 1

/-- The cut quotient by its fraction, of which a zero is no exception. -/
theorem cutQuotient_eq (a b : Decimal) (scale : Nat) :
    a.cutQuotient b scale = 10 * ((a.scaledFraction b scale).1 / (a.scaledFraction b scale).2) +
      if (a.scaledFraction b scale).1 % (a.scaledFraction b scale).2 = 0 then 0 else 1 := by
  rw [cutQuotient]
  split
  · rename_i h
    simp [scaledFraction, eq_of_beq h]
  · rfl

/-- The quotient rounded to `scale` fractional digits. A quotient that is zero before rounding has
no sign; one that only rounds to zero keeps its sign. -/
def roundedQuotient (mode : RoundingMode) (scale : Nat) (a b : Decimal) : Decimal :=
  let cut := a.cutQuotient b scale
  let negative := cut != 0 && (a.negative != b.negative)
  ⟨negative, mode.roundHundredths negative cut, -(scale : Int)⟩

/-- Divides by a rule. -/
def divide (rule : DivisionRule) (a b : Decimal) : Except ArithmeticFault Decimal :=
  if b.isZero then .error .zeroDivisor
  else if powerOfTen digitLimit ≤ a.cutQuotient b rule.scale then .error .digitLimit
  else match RoundingMode.ofName? rule.rounding with
    | none => .error .invalidRounding
    | some mode => .ok (roundedQuotient mode rule.scale a b)

end Decimal

end LedgerAmount
