import LedgerAmount.Expression.Operation
import Mathlib.Algebra.Order.Field.Power
import Mathlib.Data.Rat.Cast.Order
import Mathlib.Tactic.Positivity
import Mathlib.Tactic.Ring

/-!
# Exact arithmetic

A decimal stands for a rational number. Sums, differences and products stand for those of the
operands, without rounding; their exponents and the signs of zeros follow rules of their own.
-/

namespace LedgerAmount

namespace Decimal

/-- The rational number that a decimal stands for. -/
def toRat (d : Decimal) : ℚ := d.signedCoefficient * (10 : ℚ) ^ d.exponent

variable {c d : Decimal}

/-! ## Signs -/

private theorem power_pos (e : Int) : (0 : ℚ) < 10 ^ e := zpow_pos (by norm_num) e

theorem toRat_eq_zero_iff : d.toRat = 0 ↔ d.signedCoefficient = 0 := by
  rw [toRat, mul_eq_zero, or_iff_left (power_pos _).ne', Int.cast_eq_zero]

theorem toRat_neg_iff : d.toRat < 0 ↔ d.signedCoefficient < 0 := by
  rw [toRat, ← not_le, mul_nonneg_iff_of_pos_right (power_pos _), not_le, Int.cast_lt_zero]

theorem natAbs_signedCoefficient (d : Decimal) : d.signedCoefficient.natAbs = d.coefficient := by
  rw [signedCoefficient]
  split <;> simp

/-- The numbers that count as zero are those that stand for it. -/
theorem isZero_iff : d.isZero = true ↔ d.toRat = 0 := by
  rw [toRat_eq_zero_iff, ← Int.natAbs_eq_zero, natAbs_signedCoefficient, isZero, beq_iff_eq]

/-- Any number but zero has the sign of what it stands for. -/
theorem negative_of_toRat_ne_zero (h : d.toRat ≠ 0) : d.negative = decide (d.toRat < 0) := by
  have hcoefficient : d.coefficient ≠ 0 := by
    intro hzero
    exact h (isZero_iff.mp (by simp [isZero, hzero]))
  simp only [toRat_neg_iff, signedCoefficient]
  cases d.negative with
  | true => simp; omega
  | false => simp

/-! ## Operations -/

theorem cast_powerOfTen (k : Nat) : ((powerOfTen k : Nat) : ℚ) = 10 ^ k := by
  induction k with
  | zero => simp
  | succ k ih => rw [powerOfTen_succ, Nat.cast_mul, ih, pow_succ, Nat.cast_ofNat]

/-- Writing a number with a smaller exponent keeps what it stands for. -/
theorem alignedTo_mul_zpow {e : Int} (h : e ≤ d.exponent) :
    (d.alignedTo e : ℚ) * 10 ^ e = d.toRat := by
  have hplaces : ((d.exponent - e).toNat : Int) + e = d.exponent := by omega
  rw [alignedTo_eq, Int.cast_mul, Int.cast_natCast, cast_powerOfTen, mul_assoc, ← zpow_natCast,
    ← zpow_add₀ (by norm_num), hplaces, toRat]

theorem toRat_add (a b : Decimal) : (a + b).toRat = a.toRat + b.toRat := by
  rw [toRat, signedCoefficient_add, Int.cast_add, add_mul, exponent_add,
    alignedTo_mul_zpow (min_le_left _ _), alignedTo_mul_zpow (min_le_right _ _)]

theorem toRat_neg (a : Decimal) : (-a).toRat = -a.toRat := by
  rw [toRat, signedCoefficient_neg, Int.cast_neg, neg_mul, exponent_neg, toRat]

theorem toRat_sub (a b : Decimal) : (a - b).toRat = a.toRat - b.toRat := by
  rw [sub_eq_add_neg, ← toRat_neg, ← toRat_add]
  rfl

theorem toRat_mul (a b : Decimal) : (a * b).toRat = a.toRat * b.toRat := by
  rw [toRat, signedCoefficient_mul, Int.cast_mul, exponent_mul, zpow_add₀ (by norm_num), toRat,
    toRat]
  ring

/-- A sum that is zero is negative only if both addends are. -/
theorem negative_add (a b : Decimal) : (a + b).negative =
    if (a + b).toRat = 0 then a.negative && b.negative else decide ((a + b).toRat < 0) := by
  simp only [toRat_eq_zero_iff, toRat_neg_iff, signedCoefficient_add]
  rfl

/-! ## Exact results -/

/-- A decimal is the exact result of an operation: it stands for the value, its exponent is the one
asked for, and so is its sign if the value is zero. -/
structure IsExact (result : Decimal) (value : ℚ) (exponent : Int) (signOfZero : Bool) : Prop where
  toRat_eq : result.toRat = value
  exponent_eq : result.exponent = exponent
  negative_eq : result.negative = if value = 0 then signOfZero else decide (value < 0)

/-- There is only one exact result. -/
theorem IsExact.unique {value : ℚ} {exponent : Int} {signOfZero : Bool}
    (hc : c.IsExact value exponent signOfZero) (hd : d.IsExact value exponent signOfZero) :
    c = d := by
  have hsigned : c.signedCoefficient = d.signedCoefficient := by
    have hvalue : c.toRat = d.toRat := hc.toRat_eq.trans hd.toRat_eq.symm
    rw [toRat, toRat, hc.exponent_eq, hd.exponent_eq] at hvalue
    exact_mod_cast mul_right_cancel₀ (power_pos exponent).ne' hvalue
  obtain ⟨negative, coefficient, places⟩ := c
  obtain ⟨negative', coefficient', places'⟩ := d
  obtain rfl : negative = negative' := hc.negative_eq.trans hd.negative_eq.symm
  obtain rfl : places = places' := hc.exponent_eq.trans hd.exponent_eq.symm
  obtain rfl : coefficient = coefficient' := by
    have habs := congrArg Int.natAbs hsigned
    rwa [natAbs_signedCoefficient, natAbs_signedCoefficient] at habs
  rfl

theorem isExact_add (a b : Decimal) : (a + b).IsExact (a.toRat + b.toRat)
    (min a.exponent b.exponent) (a.negative && b.negative) := by
  refine ⟨toRat_add a b, rfl, ?_⟩
  rw [← toRat_add]
  exact negative_add a b

theorem isExact_sub (a b : Decimal) : (a - b).IsExact (a.toRat - b.toRat)
    (min a.exponent b.exponent) (a.negative && !b.negative) := by
  refine ⟨toRat_sub a b, rfl, ?_⟩
  rw [← toRat_sub]
  exact negative_add a (-b)

theorem isExact_mul (a b : Decimal) : (a * b).IsExact (a.toRat * b.toRat)
    (a.exponent + b.exponent) (a.negative != b.negative) := by
  refine ⟨toRat_mul a b, rfl, ?_⟩
  rw [← toRat_mul]
  split
  next => rfl
  next h => exact negative_of_toRat_ne_zero h

end Decimal

/-! ## What the operators make of two decimals -/

namespace Operator

/-- What each operator gives: the first three the exact result, the last one a rejection where the
divisor is zero and the quotient of the rule elsewhere. -/
def Gives (rule : DivisionRule) (a b : Decimal) (outcome : Except Stop Decimal) : Operator → Prop
  | plus => ∃ c, outcome = .ok c ∧ c.IsExact (a.toRat + b.toRat) (min a.exponent b.exponent)
      (a.negative && b.negative)
  | minus => ∃ c, outcome = .ok c ∧ c.IsExact (a.toRat - b.toRat) (min a.exponent b.exponent)
      (a.negative && !b.negative)
  | times => ∃ c, outcome = .ok c ∧ c.IsExact (a.toRat * b.toRat) (a.exponent + b.exponent)
      (a.negative != b.negative)
  | divide => (b.toRat = 0 ∧ outcome = .error (.rejected .divisionByZero)) ∨
      (b.toRat ≠ 0 ∧ outcome = Stop.ofArithmetic (a.divide rule b))

theorem apply_gives (rule : DivisionRule) (a b : Decimal) (op : Operator) :
    op.Gives rule a b (op.apply rule a b) := by
  cases op with
  | plus => exact ⟨_, rfl, Decimal.isExact_add a b⟩
  | minus => exact ⟨_, rfl, Decimal.isExact_sub a b⟩
  | times => exact ⟨_, rfl, Decimal.isExact_mul a b⟩
  | divide =>
    by_cases hzero : b.isZero = true
    · exact .inl ⟨Decimal.isZero_iff.mp hzero, if_pos hzero⟩
    · exact .inr ⟨fun h => hzero (Decimal.isZero_iff.mpr h), if_neg hzero⟩

end Operator

end LedgerAmount
