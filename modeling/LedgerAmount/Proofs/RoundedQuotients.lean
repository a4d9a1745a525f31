import LedgerAmount.Decimal.Notation
import LedgerAmount.Decimal.Quotient
import LedgerAmount.Proofs.Exactness
import Mathlib.Algebra.Order.Floor.Semifield
import Mathlib.Data.Rat.Floor
import Mathlib.Tactic.Linarith

/-!
# Quotients are rounded once

The exact quotient of two decimals is a rational number, and a division gives the decimal that this
number rounds to. The number itself is never at hand: it is cut off one place late, and a last digit
marks whether anything was left. Nothing is rounded twice by this, since what the rounding modes ask
of a number can be told from the cut as well.
-/

namespace LedgerAmount

/-! ## Rounding an exact number -/

/-- The whole number next to an exact one, on the side of zero. -/
def towardZero (q : ℚ) : ℤ := if q < 0 then ⌈q⌉ else ⌊q⌋

/-- The whole number next to an exact one, on the side that faces away from zero. -/
def awayFromZero (q : ℚ) : ℤ := if q < 0 then ⌊q⌋ else ⌈q⌉

/-- A whole number is nearest to an exact one, and `tie` holds if another one is as near. -/
def IsNearest (q : ℚ) (n : ℤ) (tie : Prop) : Prop := |q - n| ≤ 1 / 2 ∧ (|q - n| = 1 / 2 → tie)

/-- An exact number is rounded to a whole one in a mode. -/
def RoundingMode.Rounds (q : ℚ) (n : ℤ) : RoundingMode → Prop
  | down => n = towardZero q
  | up => n = awayFromZero q
  | ceiling => n = ⌈q⌉
  | floor => n = ⌊q⌋
  | halfUp => IsNearest q n (|q| < |n|)
  | halfDown => IsNearest q n (|n| < |q|)
  | halfEven => IsNearest q n (Even n)
  | zeroFiveUp => n = if 5 ∣ towardZero q then awayFromZero q else towardZero q

/-- There is only one nearest number, unless the condition on ties holds on both sides of a
middle. -/
theorem IsNearest.unique {q : ℚ} {m n : ℤ} (tie : ℤ → Prop)
    (hties : ∀ k : ℤ, q = k + 1 / 2 → ¬(tie k ∧ tie (k + 1))) (hm : IsNearest q m (tie m))
    (hn : IsNearest q n (tie n)) : m = n := by
  by_contra hne
  wlog hlt : m < n generalizing m n
  · exact this hn hm (Ne.symm hne) (lt_of_le_of_ne (not_lt.mp hlt) (Ne.symm hne))
  have hsucc : (m : ℚ) + 1 ≤ n := by exact_mod_cast hlt
  have habove := (abs_le.mp hm.1).2
  have hbelow := (abs_le.mp hn.1).1
  have hmiddle : q = m + 1 / 2 := by linarith
  obtain rfl : n = m + 1 := by
    have hn' : (n : ℚ) = m + 1 := by linarith
    exact_mod_cast hn'
  refine hties m hmiddle ⟨hm.2 ?_, hn.2 ?_⟩
  · rw [hmiddle, add_sub_cancel_left, abs_of_pos (by norm_num)]
  · rw [hmiddle, Int.cast_add, Int.cast_one, abs_sub_comm, abs_of_pos (by linarith)]
    ring

/-- Of the two whole numbers around a middle, one is nearer to zero and the other farther away. -/
theorem abs_middle {q : ℚ} {k : ℤ} (h : q = k + 1 / 2) :
    ((|k| : ℤ) : ℚ) < |q| ∧ |q| < (|k + 1| : ℤ) ∨ ((|k + 1| : ℤ) : ℚ) < |q| ∧ |q| < (|k| : ℤ) := by
  subst h
  rcases le_or_gt 0 k with hk | hk
  · have hk' : (0 : ℚ) ≤ k := by exact_mod_cast hk
    left
    rw [abs_of_nonneg hk, abs_of_nonneg (by omega : 0 ≤ k + 1), abs_of_nonneg (by linarith)]
    push_cast
    constructor <;> linarith
  · have hk' : (k : ℚ) + 1 ≤ 0 := by exact_mod_cast hk
    right
    rw [abs_of_neg hk, abs_of_nonpos (by omega : k + 1 ≤ 0), abs_of_neg (by linarith)]
    push_cast
    constructor <;> linarith

/-- Every number is rounded to only one whole number. -/
theorem RoundingMode.Rounds.unique {mode : RoundingMode} {q : ℚ} {m n : ℤ} (hm : mode.Rounds q m)
    (hn : mode.Rounds q n) : m = n := by
  cases mode with
  | down | up | ceiling | floor | zeroFiveUp => exact Eq.trans hm (Eq.symm hn)
  | halfUp =>
    refine IsNearest.unique (fun k => |q| < |k|) ?_ hm hn
    intro k hmiddle hboth
    rcases abs_middle hmiddle with ⟨hnear, -⟩ | ⟨hnear, -⟩
    · exact hnear.not_gt hboth.1
    · exact hnear.not_gt hboth.2
  | halfDown =>
    refine IsNearest.unique (fun k => |k| < |q|) ?_ hm hn
    intro k hmiddle hboth
    rcases abs_middle hmiddle with ⟨-, hfar⟩ | ⟨-, hfar⟩
    · exact hfar.not_gt hboth.2
    · exact hfar.not_gt hboth.1
  | halfEven =>
    refine IsNearest.unique Even ?_ hm hn
    rintro k - ⟨hk, hsucc⟩
    exact Int.even_add_one.mp hsucc hk

/-! ## Signs -/

/-- A number with a sign. -/
def withSign {α : Type} [Neg α] (negative : Bool) (x : α) : α := if negative then -x else x

variable {negative : Bool} {y : ℚ}

theorem abs_withSign (hy : 0 ≤ y) : |withSign negative y| = y := by
  cases negative <;> simp [withSign, hy]

theorem abs_withSign_natCast (n : ℕ) : |withSign negative (n : ℤ)| = n := by
  cases negative <;> simp [withSign]

theorem abs_withSign_sub (n : ℕ) :
    |withSign negative y - (withSign negative (n : ℤ) : ℤ)| = |y - n| := by
  cases negative with
  | false => simp [withSign]
  | true =>
    have hneg : withSign true y - (withSign true (n : ℤ) : ℤ) = -(y - n) := by
      simp [withSign]
      ring
    rw [hneg, abs_neg]

theorem even_withSign {n : ℕ} : Even (withSign negative (n : ℤ)) ↔ Even n := by
  cases negative <;> simp [withSign]

theorem dvd_withSign {k n : ℕ} : (k : ℤ) ∣ withSign negative (n : ℤ) ↔ k ∣ n := by
  cases negative <;> simp [withSign, Int.natCast_dvd_natCast]

theorem floor_withSign (hy : 0 ≤ y) : ⌊withSign negative y⌋ =
    withSign negative ((if negative then ⌈y⌉₊ else ⌊y⌋₊ : ℕ) : ℤ) := by
  cases negative with
  | false => exact (Int.natCast_floor_eq_floor hy).symm
  | true =>
    show ⌊-y⌋ = -(⌈y⌉₊ : ℤ)
    rw [Int.floor_neg, Int.natCast_ceil_eq_ceil hy]

theorem ceil_withSign (hy : 0 ≤ y) : ⌈withSign negative y⌉ =
    withSign negative ((if negative then ⌊y⌋₊ else ⌈y⌉₊ : ℕ) : ℤ) := by
  cases negative with
  | false => exact (Int.natCast_ceil_eq_ceil hy).symm
  | true =>
    show ⌈-y⌉ = -(⌊y⌋₊ : ℤ)
    rw [Int.ceil_neg, Int.natCast_floor_eq_floor hy]

/-- Only a number other than zero lies on the side of its sign. -/
theorem withSign_neg_iff (hy : 0 ≤ y) : withSign negative y < 0 ↔ negative = true ∧ y ≠ 0 := by
  cases negative with
  | false => simp [withSign, hy]
  | true => simp [withSign, hy.lt_iff_ne, ne_comm]

theorem towardZero_withSign (hy : 0 ≤ y) :
    towardZero (withSign negative y) = withSign negative (⌊y⌋₊ : ℤ) := by
  rw [towardZero, ceil_withSign hy, floor_withSign hy]
  -- The sign of zero cannot be told from the number, and makes no difference.
  by_cases hzero : y = 0
  · subst hzero
    cases negative <;> simp [withSign]
  · cases negative <;> simp [withSign_neg_iff hy, hzero]

theorem awayFromZero_withSign (hy : 0 ≤ y) :
    awayFromZero (withSign negative y) = withSign negative (⌈y⌉₊ : ℤ) := by
  rw [awayFromZero, ceil_withSign hy, floor_withSign hy]
  by_cases hzero : y = 0
  · subst hzero
    cases negative <;> simp [withSign]
  · cases negative <;> simp [withSign_neg_iff hy, hzero]

/-! ## Which neighbour a number goes to -/

/-- The whole number above is the one below, or the next one if anything is left. -/
theorem ceil_eq_ite (hy : 0 ≤ y) :
    ⌈y⌉₊ = if (⌊y⌋₊ : ℚ) = y then ⌊y⌋₊ else ⌊y⌋₊ + 1 := by
  split
  next h => rw [← h, Nat.ceil_natCast, Nat.floor_natCast]
  next h =>
    have hlt : (⌊y⌋₊ : ℚ) < y := lt_of_le_of_ne (Nat.floor_le hy) h
    rw [Nat.ceil_eq_iff (Nat.succ_ne_zero _)]
    exact ⟨by simpa using hlt, by simpa using (Nat.lt_floor_add_one y).le⟩

/-- A choice that goes to the number below up to the middle, and to the one above from there on,
goes to the nearest. -/
theorem isNearest_of_half (tie : ℕ → Prop) (away : Ordering → Bool) (hy : 0 ≤ y)
    (hbelow : away .lt = false) (habove : away .gt = true)
    (htie : y - ⌊y⌋₊ = 1 / 2 → tie (if away .eq then ⌊y⌋₊ + 1 else ⌊y⌋₊)) :
    let chosen := if away (compare (y - ⌊y⌋₊) (1 / 2)) then ⌊y⌋₊ + 1 else ⌊y⌋₊
    IsNearest (withSign negative y) (withSign negative (chosen : ℤ)) (tie chosen) := by
  have hfloor : |y - ⌊y⌋₊| = y - ⌊y⌋₊ := abs_of_nonneg (sub_nonneg.mpr (Nat.floor_le hy))
  have hnext : |y - (⌊y⌋₊ + 1 : ℕ)| = 1 - (y - ⌊y⌋₊) := by
    have hlt : y < ⌊y⌋₊ + 1 := Nat.lt_floor_add_one y
    rw [Nat.cast_succ, abs_of_neg (by linarith)]
    ring
  intro chosen
  rw [IsNearest, abs_withSign_sub]
  rcases lt_trichotomy (y - ⌊y⌋₊) (1 / 2) with h | h | h
  · have hchosen : chosen = ⌊y⌋₊ := by simp only [chosen, compare_lt_iff_lt.mpr h, hbelow]; rfl
    rw [hchosen, hfloor]
    exact ⟨h.le, fun hmiddle => absurd hmiddle h.ne⟩
  · have hchosen : chosen = if away .eq then ⌊y⌋₊ + 1 else ⌊y⌋₊ := by
      simp only [chosen, compare_eq_iff_eq.mpr h]
    refine ⟨?_, fun _ => hchosen ▸ htie h⟩
    rw [hchosen]
    split
    · rw [hnext, h]; norm_num
    · rw [hfloor, h]
  · have hchosen : chosen = ⌊y⌋₊ + 1 := by simp only [chosen, compare_gt_iff_gt.mpr h, habove]; rfl
    rw [hchosen, hnext]
    exact ⟨by linarith, fun hmiddle => absurd hmiddle (by linarith)⟩

/-- A mode picks the neighbour that the number rounds to, if it is told of the number itself what
it asks for. -/
theorem RoundingMode.rounds_withSign (mode : RoundingMode) (hy : 0 ≤ y) :
    mode.Rounds (withSign negative y) (withSign negative
      ((if mode.goesAway negative ⌊y⌋₊ (decide ((⌊y⌋₊ : ℚ) ≠ y)) (compare (y - ⌊y⌋₊) (1 / 2))
        then ⌊y⌋₊ + 1 else ⌊y⌋₊ : ℕ) : ℤ)) := by
  have hceil := ceil_eq_ite hy
  cases mode with
  | down =>
    rw [Rounds, towardZero_withSign hy]
    rfl
  | up =>
    rw [Rounds, awayFromZero_withSign hy, hceil]
    by_cases h : (⌊y⌋₊ : ℚ) = y <;> simp [goesAway, h]
  | ceiling =>
    rw [Rounds, ceil_withSign hy, hceil]
    by_cases h : (⌊y⌋₊ : ℚ) = y <;> cases negative <;> simp [goesAway, h]
  | floor =>
    rw [Rounds, floor_withSign hy, hceil]
    by_cases h : (⌊y⌋₊ : ℚ) = y <;> cases negative <;> simp [goesAway, h]
  | halfUp =>
    rw [Rounds, abs_withSign hy, abs_withSign_natCast]
    refine isNearest_of_half (fun n => y < ((n : ℤ) : ℚ)) _ hy rfl rfl fun _ => ?_
    exact_mod_cast Nat.lt_floor_add_one y
  | halfDown =>
    rw [Rounds, abs_withSign hy, abs_withSign_natCast]
    refine isNearest_of_half (fun n => ((n : ℤ) : ℚ) < y) _ hy rfl rfl fun hmiddle => ?_
    have hlt : (⌊y⌋₊ : ℚ) < y := by linarith
    exact_mod_cast hlt
  | halfEven =>
    rw [Rounds, even_withSign]
    refine isNearest_of_half Even _ hy rfl rfl fun _ => ?_
    rcases Nat.mod_two_eq_zero_or_one ⌊y⌋₊ with heven | hodd
    · simp [goesAway, heven, Nat.even_iff]
    · simp [goesAway, hodd, Nat.even_add_one, Nat.even_iff]
  | zeroFiveUp =>
    have hfive : (5 : ℤ) ∣ withSign negative (⌊y⌋₊ : ℤ) ↔ 5 ∣ ⌊y⌋₊ := dvd_withSign
    rw [Rounds, towardZero_withSign hy, awayFromZero_withSign hy, hceil]
    simp only [hfive, goesAway, Nat.dvd_iff_mod_eq_zero]
    by_cases h : (⌊y⌋₊ : ℚ) = y <;> by_cases hdvd : ⌊y⌋₊ % 5 = 0 <;> simp [h, hdvd]

/-! ## The mark of a cut number -/

/-- A number cut off behind its whole part, with one more digit that marks whether anything was
left. -/
def cutAndMark (x : ℚ) : ℕ := 10 * ⌊x⌋₊ + if (⌊x⌋₊ : ℚ) = x then 0 else 1

/-- Cut one place late, a number shows its whole part, the first digit behind it, and a mark of the
rest. -/
theorem cutAndMark_mul_ten (hy : 0 ≤ y) : ∃ (digit mark : ℕ) (rest : ℚ),
    cutAndMark (y * 10) = 100 * ⌊y⌋₊ + 10 * digit + mark ∧ (y - ⌊y⌋₊) * 10 = digit + rest ∧
      digit < 10 ∧ rest < 1 ∧ (mark = 0 ∧ rest = 0 ∨ mark = 1 ∧ 0 < rest) := by
  have hle : (⌊y * 10⌋₊ : ℚ) ≤ y * 10 := Nat.floor_le (by positivity)
  have hlt : y * 10 < ⌊y * 10⌋₊ + 1 := Nat.lt_floor_add_one _
  obtain ⟨whole, digit, hdigit, hsplit⟩ : ∃ whole digit, digit < 10 ∧
      ⌊y * 10⌋₊ = 10 * whole + digit :=
    ⟨_, _, Nat.mod_lt _ (by decide), (Nat.div_add_mod ⌊y * 10⌋₊ 10).symm⟩
  have hdigit' : (digit : ℚ) + 1 ≤ 10 := by exact_mod_cast hdigit
  have hdigit0 : (0 : ℚ) ≤ digit := Nat.cast_nonneg _
  rw [hsplit, Nat.cast_add, Nat.cast_mul, Nat.cast_ofNat] at hle hlt
  have hwhole : ⌊y⌋₊ = whole := (Nat.floor_eq_iff hy).mpr ⟨by linarith, by linarith⟩
  have hcut : ∀ mark, (if (⌊y * 10⌋₊ : ℚ) = y * 10 then 0 else 1) = mark →
      cutAndMark (y * 10) = 100 * ⌊y⌋₊ + 10 * digit + mark := by
    rintro mark rfl
    rw [cutAndMark, hwhole]
    omega
  have hleft : (y - ⌊y⌋₊) * 10 = digit + (y * 10 - (10 * whole + digit)) := by
    rw [hwhole]
    ring
  rw [hsplit, Nat.cast_add, Nat.cast_mul, Nat.cast_ofNat] at hcut
  -- The mark is zero exactly if the cut left nothing.
  rcases hle.eq_or_lt with hexact | hrest
  · exact ⟨digit, 0, _, hcut 0 (if_pos hexact), hleft, hdigit, by linarith,
      .inl ⟨rfl, by linarith⟩⟩
  · exact ⟨digit, 1, _, hcut 1 (if_neg hrest.ne), hleft, hdigit, by linarith,
      .inr ⟨rfl, by linarith⟩⟩

theorem cutAndMark_eq_zero_iff {x : ℚ} (hx : 0 ≤ x) : cutAndMark x = 0 ↔ x = 0 := by
  constructor
  · intro h
    have hfloor : ⌊x⌋₊ = 0 := by rw [cutAndMark] at h; omega
    by_contra hne
    rw [cutAndMark, hfloor, if_neg (by simpa using Ne.symm hne)] at h
    omega
  · rintro rfl
    simp [cutAndMark]

theorem cutAndMark_div (hy : 0 ≤ y) : cutAndMark (y * 10) / 100 = ⌊y⌋₊ := by
  obtain ⟨digit, mark, rest, hcut, -, hdigit, -, hmark⟩ := cutAndMark_mul_ten hy
  omega

/-- Nothing stands behind the whole part exactly if nothing is left. -/
theorem cutAndMark_mod_eq_zero_iff (hy : 0 ≤ y) :
    cutAndMark (y * 10) % 100 = 0 ↔ (⌊y⌋₊ : ℚ) = y := by
  obtain ⟨digit, mark, rest, hcut, hleft, hdigit, -, hmark⟩ := cutAndMark_mul_ten hy
  have hmod : cutAndMark (y * 10) % 100 = 0 ↔ digit = 0 ∧ mark = 0 := by omega
  have hdigit0 : (0 : ℚ) ≤ digit := Nat.cast_nonneg _
  rw [hmod]
  rcases hmark with ⟨rfl, rfl⟩ | ⟨rfl, hrest⟩
  · rw [and_iff_left rfl, ← Nat.cast_eq_zero (R := ℚ)]
    constructor <;> intro h <;> linarith
  · refine iff_of_false (by simp) fun h => ?_
    linarith

/-- What stands behind the whole part compares with one half as what is left does. -/
theorem compare_cutAndMark_mod (hy : 0 ≤ y) :
    compare (cutAndMark (y * 10) % 100) 50 = compare (y - ⌊y⌋₊) (1 / 2) := by
  obtain ⟨digit, mark, rest, hcut, hleft, hdigit, hrest1, hmark⟩ := cutAndMark_mul_ten hy
  have hmod : cutAndMark (y * 10) % 100 = 10 * digit + mark := by omega
  rw [hmod]
  rcases lt_trichotomy digit 5 with h | rfl | h
  · have hdigit' : (digit : ℚ) + 1 ≤ 5 := by exact_mod_cast h
    rw [compare_lt_iff_lt.mpr (by omega), compare_lt_iff_lt.mpr (by linarith)]
  · rw [Nat.cast_ofNat] at hleft
    rcases hmark with ⟨rfl, rfl⟩ | ⟨rfl, hrest⟩
    · rw [compare_eq_iff_eq.mpr rfl, compare_eq_iff_eq.mpr (by linarith)]
    · rw [compare_gt_iff_gt.mpr (by decide), compare_gt_iff_gt.mpr (by linarith)]
  · have hdigit' : (5 : ℚ) + 1 ≤ digit := by exact_mod_cast h
    have hrest0 : 0 ≤ rest := by rcases hmark with ⟨-, rfl⟩ | ⟨-, hrest⟩ <;> linarith
    rw [compare_gt_iff_gt.mpr (by omega), compare_gt_iff_gt.mpr (by linarith)]

/-- A mode is told the same by the cut as by the number itself. -/
theorem RoundingMode.roundHundredths_cutAndMark (mode : RoundingMode) (hy : 0 ≤ y) :
    mode.roundHundredths negative (cutAndMark (y * 10)) =
      if mode.goesAway negative ⌊y⌋₊ (decide ((⌊y⌋₊ : ℚ) ≠ y)) (compare (y - ⌊y⌋₊) (1 / 2))
        then ⌊y⌋₊ + 1 else ⌊y⌋₊ := by
  have hinexact : (cutAndMark (y * 10) % 100 != 0) = decide ((⌊y⌋₊ : ℚ) ≠ y) := by
    rw [Bool.eq_iff_iff, bne_iff_ne, decide_eq_true_iff, Ne, Ne, cutAndMark_mod_eq_zero_iff hy]
  rw [roundHundredths, cutAndMark_div hy, compare_cutAndMark_mod hy, hinexact]

/-! ## Quotients -/

namespace Decimal

variable {a b : Decimal}

theorem abs_toRat (d : Decimal) : |d.toRat| = d.coefficient * (10 : ℚ) ^ d.exponent := by
  have hpos : (0 : ℚ) < 10 ^ d.exponent := zpow_pos (by norm_num) _
  rw [toRat, abs_mul, abs_of_pos hpos, ← natAbs_signedCoefficient, Nat.cast_natAbs, Int.cast_abs]

/-- The fraction of whole numbers that is cut off is the absolute quotient, scaled. -/
theorem abs_quotient (a b : Decimal) (scale : ℕ) :
    |a.toRat / b.toRat| * 10 ^ (scale + 1) =
      ((a.scaledFraction b scale).1 : ℚ) / (a.scaledFraction b scale).2 := by
  have hten : (10 : ℚ) ≠ 0 := by norm_num
  have hshift : (10 : ℚ) ^ a.exponent / 10 ^ b.exponent * 10 ^ (scale + 1) =
      10 ^ (a.exponent - b.exponent + (scale + 1)).toNat /
        10 ^ (-(a.exponent - b.exponent + (scale + 1))).toNat := by
    rw [← zpow_natCast, ← zpow_natCast, ← zpow_natCast, ← zpow_sub₀ hten, ← zpow_add₀ hten,
      ← zpow_sub₀ hten]
    congr 1
    push_cast
    omega
  simp only [scaledFraction, abs_div, abs_toRat, Nat.cast_mul, cast_powerOfTen]
  rw [mul_div_mul_comm, mul_div_mul_comm, mul_assoc, hshift]

/-- A fraction of whole numbers is whole exactly if nothing is left of the division. -/
theorem cast_div_eq_iff {m n : ℕ} (hn : 0 < n) : ((m / n : ℕ) : ℚ) = m / n ↔ m % n = 0 := by
  have hsplit : m / n * n + m % n = m := Nat.div_add_mod' m n
  rw [eq_div_iff (Nat.cast_ne_zero.mpr hn.ne'), ← Nat.cast_mul, Nat.cast_inj]
  generalize m / n * n = whole at hsplit
  omega

theorem cutQuotient_eq_cutAndMark (hb : b.isZero = false) (scale : ℕ) :
    a.cutQuotient b scale = cutAndMark (|a.toRat / b.toRat| * 10 ^ (scale + 1)) := by
  rw [cutQuotient_eq, abs_quotient, cutAndMark, Nat.floor_div_eq_div]
  simp only [cast_div_eq_iff (scaledFraction_snd_pos hb scale)]

/-- A decimal of a sign, digits and a scale, as a number. -/
theorem toRat_of_scale (negative : Bool) (coefficient scale : ℕ) :
    toRat ⟨negative, coefficient, -scale⟩ =
      (withSign negative (coefficient : ℤ) : ℤ) / 10 ^ scale := by
  rw [toRat, zpow_neg, zpow_natCast, div_eq_mul_inv]
  rfl

/-- The sign of a rounded quotient is that of the exact one. -/
theorem negative_roundedQuotient (hb : b.isZero = false) (mode : RoundingMode) (scale : ℕ) :
    (roundedQuotient mode scale a b).negative = decide (a.toRat / b.toRat < 0) := by
  have hb' : b.toRat ≠ 0 := fun h => by simp [isZero_iff.mpr h] at hb
  have hscaled : |a.toRat / b.toRat| * 10 ^ (scale + 1) = 0 ↔ a.toRat = 0 := by
    simp [hb']
  show (a.cutQuotient b scale != 0 && (a.negative != b.negative)) = _
  rw [cutQuotient_eq_cutAndMark hb]
  by_cases ha : a.toRat = 0
  · simp [ha, cutAndMark]
  · have hcut : (cutAndMark (|a.toRat / b.toRat| * 10 ^ (scale + 1)) != 0) = true := by
      rw [bne_iff_ne, Ne, cutAndMark_eq_zero_iff (by positivity), hscaled]
      exact ha
    rw [hcut, Bool.true_and, negative_of_toRat_ne_zero ha, negative_of_toRat_ne_zero hb',
      Bool.eq_iff_iff, bne_iff_ne, Ne, decide_eq_decide, decide_eq_true_iff, div_neg_iff]
    rcases lt_or_gt_of_ne ha with ha | ha <;> rcases lt_or_gt_of_ne hb' with hb | hb <;>
      simp [ha, hb, ha.not_gt, hb.not_gt]

/-- A rounded quotient stands for the whole number, in units of the scale, that the exact quotient
is rounded to. -/
theorem toRat_roundedQuotient_eq_iff (hb : b.isZero = false) (mode : RoundingMode) (scale : ℕ)
    (n : ℤ) : (roundedQuotient mode scale a b).toRat = n / 10 ^ scale ↔
      mode.Rounds (a.toRat / b.toRat * 10 ^ scale) n := by
  let q := a.toRat / b.toRat
  let y := |q| * 10 ^ scale
  let whole := mode.roundHundredths (decide (q < 0)) (cutAndMark (y * 10))
  -- The absolute quotient is rounded, and the mode is told its sign.
  have hresult : roundedQuotient mode scale a b = ⟨decide (q < 0), whole, -scale⟩ := by
    have hcut : a.cutQuotient b scale = cutAndMark (y * 10) := by
      rw [cutQuotient_eq_cutAndMark hb, pow_succ, ← mul_assoc]
    have hnegative : (a.cutQuotient b scale != 0 && (a.negative != b.negative)) =
        decide (q < 0) := negative_roundedQuotient hb mode scale
    rw [hcut] at hnegative
    simp only [roundedQuotient, hcut, hnegative, whole]
  have hy : withSign (decide (q < 0)) y = q * 10 ^ scale := by
    rcases lt_or_ge q 0 with hq | hq
    · simp [withSign, y, hq, abs_of_neg hq]
    · simp [withSign, y, hq.not_gt, abs_of_nonneg hq]
  have hrounds : mode.Rounds (q * 10 ^ scale) (withSign (decide (q < 0)) (whole : ℤ)) := by
    rw [← hy]
    simp only [whole, mode.roundHundredths_cutAndMark (by positivity : 0 ≤ y)]
    exact mode.rounds_withSign (by positivity)
  rw [hresult, toRat_of_scale, div_left_inj' (by positivity), Int.cast_inj]
  constructor
  · rintro rfl
    exact hrounds
  · intro hn
    exact hrounds.unique hn

/-- A division by a number other than zero rounds the exact quotient once, in the mode and to the
scale of the rule. The result has the sign of the quotient also where it is rounded to zero. Only
a quotient that is cut off to more digits than the limit has no result. -/
theorem divide_rounds_once (a b : Decimal) (hb : b.toRat ≠ 0) (scale : ℕ) (mode : RoundingMode) :
    let quotient := a.toRat / b.toRat
    let cut := cutAndMark (|quotient| * 10 ^ (scale + 1))
    ((digitsOf cut).length ≤ digitLimit → ∃ result,
      a.divide ⟨scale, mode.name⟩ b = .ok result ∧ result.exponent = -scale ∧
        (result.negative = true ↔ quotient < 0) ∧
        ∀ n : ℤ, result.toRat = n / 10 ^ scale ↔ mode.Rounds (quotient * 10 ^ scale) n) ∧
    (digitLimit < (digitsOf cut).length →
      a.divide ⟨scale, mode.name⟩ b = .error .digitLimit) := by
  have hzero : b.isZero = false := by
    rw [Bool.eq_false_iff]
    exact fun h => hb (isZero_iff.mp h)
  intro quotient cut
  have hcut : a.cutQuotient b scale = cut := cutQuotient_eq_cutAndMark hzero scale
  have hlength : (digitsOf cut).length ≤ digitLimit ↔ ¬powerOfTen digitLimit ≤ cut :=
    (length_digitsOf_le_iff (by decide)).trans not_le.symm
  rw [divide, hzero, RoundingMode.ofName?_name, hcut]
  constructor
  · intro hshort
    rw [if_neg Bool.false_ne_true, if_neg (hlength.mp hshort)]
    refine ⟨_, rfl, rfl, ?_, toRat_roundedQuotient_eq_iff hzero mode scale⟩
    rw [negative_roundedQuotient hzero, decide_eq_true_iff]
  · intro hlong
    rw [if_neg Bool.false_ne_true, if_pos (not_not.mp (hlength.not.mp hlong.not_ge))]

/-- Just beside a middle, the even neighbour does not win. -/
theorem divide_rounds_once_besideMiddle :
    toRat ⟨false, 100000, 0⟩ ≠ 0 ∧ ∃ result,
      divide ⟨2, RoundingMode.halfEven.name⟩ ⟨true, 501, 0⟩ ⟨false, 100000, 0⟩ = .ok result ∧
        result.exponent = -2 ∧ result.negative = true ∧ result.toRat = -1 / 100 := by
  have hquotient : toRat ⟨true, 501, 0⟩ / toRat ⟨false, 100000, 0⟩ = -501 / 100000 := by
    norm_num [toRat, signedCoefficient]
  have hb : toRat ⟨false, 100000, 0⟩ ≠ 0 := by norm_num [toRat, signedCoefficient]
  have hfloor : ⌊(501 / 100 : ℚ)⌋₊ = 5 := by norm_num
  have hcut : cutAndMark (|-501 / 100000| * 10 ^ (2 + 1)) = 51 := by
    have habs : |(-501 / 100000 : ℚ)| * 10 ^ (2 + 1) = 501 / 100 := by norm_num [abs_of_neg]
    norm_num [habs, cutAndMark, hfloor]
  obtain ⟨hshort, -⟩ := divide_rounds_once ⟨true, 501, 0⟩ ⟨false, 100000, 0⟩ hb 2 .halfEven
  rw [hquotient, hcut] at hshort
  obtain ⟨result, hresult, hexponent, hnegative, hvalue⟩ := hshort (by decide)
  refine ⟨hb, result, hresult, hexponent, hnegative.mpr (by norm_num), ?_⟩
  have hrounds : RoundingMode.halfEven.Rounds (-501 / 100000 * 10 ^ 2) (-1) := by
    norm_num [RoundingMode.Rounds, IsNearest, abs_of_pos]
  rw [(hvalue (-1)).mpr hrounds]
  norm_num

end Decimal

end LedgerAmount
