/-!
# Decimal numbers

A decimal keeps its sign, its digits and the place of its last digit: `2.50` and `2.5` are equal in
value and differ as decimals, and so do `0` and `-0`. Sums, differences and products are exact,
whatever their length.
-/

namespace LedgerAmount

/-- A one with `k` zeros. -/
def powerOfTen (k : Nat) : Nat := Nat.pow 10 k

@[simp] theorem powerOfTen_zero : powerOfTen 0 = 1 := rfl

/-- One more zero multiplies by ten. -/
theorem powerOfTen_succ (k : Nat) : powerOfTen (k + 1) = powerOfTen k * 10 := rfl

theorem powerOfTen_pos (k : Nat) : 0 < powerOfTen k := Nat.pow_pos (by decide)

theorem powerOfTen_le {j k : Nat} (h : j ≤ k) : powerOfTen j ≤ powerOfTen k :=
  Nat.pow_le_pow_right (by decide) h

theorem powerOfTen_add (j k : Nat) : powerOfTen (j + k) = powerOfTen j * powerOfTen k :=
  Nat.pow_add 10 j k

/-- The number `± coefficient · 10 ^ exponent`, with its sign also where it is zero. -/
structure Decimal where
  negative : Bool
  coefficient : Nat
  exponent : Int
  deriving DecidableEq, Inhabited, Repr

namespace Decimal

/-- A whole number. -/
def ofInt (n : Int) : Decimal := ⟨decide (n < 0), n.natAbs, 0⟩

/-- Whether the number is zero, of either sign and any exponent. -/
def isZero (d : Decimal) : Bool := d.coefficient == 0

/-- The coefficient with its sign; zero has none. -/
def signedCoefficient (d : Decimal) : Int :=
  if d.negative then -(d.coefficient : Int) else d.coefficient

/-- The signed coefficient after writing the number with exponent `e`, which is at most its own. A
zero has the same one with any exponent. -/
def alignedTo (d : Decimal) (e : Int) : Int :=
  if d.isZero then 0 else d.signedCoefficient * powerOfTen (d.exponent - e).toNat

/-- Writing a number with a smaller exponent appends zeros to its coefficient. -/
theorem alignedTo_eq (d : Decimal) (e : Int) :
    d.alignedTo e = d.signedCoefficient * powerOfTen (d.exponent - e).toNat := by
  rw [alignedTo]
  split
  · rename_i h
    simp [signedCoefficient, eq_of_beq h]
  · rfl

/-- The whole number that a decimal equals, if there is one. -/
def toInt? (d : Decimal) : Option Int :=
  let unit := powerOfTen (-d.exponent).toNat
  if d.coefficient % unit = 0 then
    some (d.signedCoefficient * powerOfTen d.exponent.toNat / unit)
  else none

/-- The number of opposite sign. -/
def neg (d : Decimal) : Decimal := { d with negative := !d.negative }

/-- The exact sum, to the last place of either addend. A zero sum is negative only if both addends
are negative zeros. -/
def add (a b : Decimal) : Decimal :=
  let e := min a.exponent b.exponent
  let sum := a.alignedTo e + b.alignedTo e
  ⟨if sum = 0 then a.negative && b.negative else decide (sum < 0), sum.natAbs, e⟩

/-- The exact difference: the sum with the opposite of the right operand. -/
def sub (a b : Decimal) : Decimal := a.add b.neg

/-- The exact product. Signs multiply also where it is zero. -/
def mul (a b : Decimal) : Decimal :=
  ⟨a.negative != b.negative, a.coefficient * b.coefficient, a.exponent + b.exponent⟩

instance : Neg Decimal := ⟨neg⟩
instance : Add Decimal := ⟨add⟩
instance : Sub Decimal := ⟨sub⟩
instance : Mul Decimal := ⟨mul⟩

@[simp] theorem exponent_neg (a : Decimal) : (-a).exponent = a.exponent := rfl
@[simp] theorem coefficient_neg (a : Decimal) : (-a).coefficient = a.coefficient := rfl
@[simp] theorem negative_neg (a : Decimal) : (-a).negative = !a.negative := rfl

@[simp] theorem exponent_add (a b : Decimal) :
    (a + b).exponent = min a.exponent b.exponent := rfl
@[simp] theorem exponent_sub (a b : Decimal) :
    (a - b).exponent = min a.exponent b.exponent := rfl
@[simp] theorem exponent_mul (a b : Decimal) : (a * b).exponent = a.exponent + b.exponent := rfl

@[simp] theorem coefficient_mul (a b : Decimal) :
    (a * b).coefficient = a.coefficient * b.coefficient := rfl
@[simp] theorem negative_mul (a b : Decimal) :
    (a * b).negative = (a.negative != b.negative) := rfl

/-- The opposite number has the opposite value. -/
@[simp] theorem signedCoefficient_neg (a : Decimal) :
    (-a).signedCoefficient = -a.signedCoefficient := by
  show (neg a).signedCoefficient = _
  cases h : a.negative <;> simp [signedCoefficient, neg, h]

/-- The sum has the value of the addends, each taken to the last place of either. -/
theorem signedCoefficient_add (a b : Decimal) :
    (a + b).signedCoefficient =
      a.alignedTo (min a.exponent b.exponent) + b.alignedTo (min a.exponent b.exponent) := by
  show (add a b).signedCoefficient = _
  simp only [add, signedCoefficient]
  split <;> split at * <;> grind

/-- The product has the product of the values. -/
@[simp] theorem signedCoefficient_mul (a b : Decimal) :
    (a * b).signedCoefficient = a.signedCoefficient * b.signedCoefficient := by
  obtain ⟨p, m, j⟩ := a
  obtain ⟨q, n, k⟩ := b
  cases p <;> cases q
  · rfl
  · exact (Int.mul_neg m n).symm
  · exact (Int.neg_mul m n).symm
  · exact (Int.neg_mul_neg m n).symm

end Decimal

end LedgerAmount
