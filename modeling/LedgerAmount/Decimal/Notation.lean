import LedgerAmount.Decimal.Basic

/-!
# The written form of a decimal

A decimal is written with all its digits, so that reading the text back can restore its sign,
coefficient and exponent. Numbers that are neither tiny nor scaled up are written plainly, the
others with one digit before the point and an exponent of ten.
-/

namespace LedgerAmount

/-- The decimal digits of a number. -/
def digitsOf (n : Nat) : List Char := Nat.toDigits 10 n

/-- A number with at most `k` digits is less than a one with `k` zeros. -/
theorem length_digitsOf_le_iff {n k : Nat} (hk : 0 < k) :
    (digitsOf n).length ≤ k ↔ n < powerOfTen k :=
  Nat.length_toDigits_le_iff (by decide) hk

/-- The number that a row of digits stands for. -/
def ofDigits (cs : List Char) : Nat := cs.foldl (fun n c => 10 * n + (c.toNat - 48)) 0

@[simp] theorem ofDigits_nil : ofDigits [] = 0 := rfl

/-- One more digit shifts the others by one place. -/
@[simp] theorem ofDigits_append_singleton (cs : List Char) (c : Char) :
    ofDigits (cs ++ [c]) = 10 * ofDigits cs + (c.toNat - 48) := by
  simp [ofDigits, List.foldl_append]

namespace Decimal

/-- The exponent of the leading digit. -/
def adjustedExponent (d : Decimal) : Int :=
  d.exponent + (digitsOf d.coefficient).length - 1

/-- The least adjusted exponent of a number that is written plainly. -/
def leastPlainExponent : Int := -6

/-- The sign as it is written: nothing before a number that is not negative. -/
def signChars (d : Decimal) : List Char := if d.negative then ['-'] else []

/-- Digits with a point before the last `places` of them, and at least one digit before it. -/
def withPoint (digits : List Char) (places : Nat) : List Char :=
  let padded := List.replicate (places + 1 - digits.length) '0' ++ digits
  padded.take (padded.length - places) ++ '.' :: padded.drop (padded.length - places)

/-- The form without an exponent, of digits of which the last `places` stand behind the point. -/
def plainChars (digits : List Char) (places : Nat) : List Char :=
  if places = 0 then digits else withPoint digits places

/-- An exponent of ten, always with its sign. -/
def exponentChars (x : Int) : List Char :=
  'E' :: (if x < 0 then '-' else '+') :: digitsOf x.natAbs

/-- The form with one digit before the point, whose exponent of ten is `x`. -/
def scientificChars (digits : List Char) (x : Int) : List Char :=
  (match digits with
    | first :: second :: rest => first :: '.' :: second :: rest
    | digits => digits) ++ exponentChars x

/-- The written form of a decimal. -/
def toChars (d : Decimal) : List Char :=
  let digits := digitsOf d.coefficient
  let adjusted := d.exponent + digits.length - 1
  d.signChars ++
    if d.exponent ≤ 0 ∧ leastPlainExponent ≤ adjusted then plainChars digits (-d.exponent).toNat
    else scientificChars digits adjusted

/-- The written form of a decimal, as text. -/
protected def toString (d : Decimal) : String := String.ofList d.toChars

instance : ToString Decimal := ⟨Decimal.toString⟩

end Decimal

end LedgerAmount
