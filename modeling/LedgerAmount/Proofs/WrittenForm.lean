import LedgerAmount.Decimal.NumericText
import LedgerAmount.Proofs.Lexemes

/-!
# Reading back what is written

The written form of a decimal names just this decimal: read as numeric text it has the same sign,
the same coefficient and the same exponent. So no two decimals are written alike, be they equal in
value.
-/

namespace LedgerAmount

/-! ## Digits -/

theorem isDigit_of_mem_digitsOf {n : Nat} {c : Char} (h : c ∈ digitsOf n) : c.isDigit = true :=
  Nat.isDigit_of_mem_toDigits (by decide) (by decide) h

theorem digitsOf_ne_nil (n : Nat) : digitsOf n ≠ [] := by
  rw [digitsOf, Nat.toDigits_eq_if (by decide)]
  split <;> simp

/-- The digits of a number stand for it. -/
@[simp] theorem ofDigits_digitsOf (n : Nat) : ofDigits (digitsOf n) = n := by
  -- The digits are made from the last one on, so the induction is on the number without it.
  induction n using Nat.strongRecOn with
  | ind n ih =>
    rw [digitsOf, Nat.toDigits_eq_if (by decide)]
    split
    next h =>
      change ofDigits ([] ++ [Nat.digitChar n]) = n
      rw [ofDigits_append_singleton, Nat.toNat_digitChar_sub_48_of_lt_ten h, ofDigits_nil]
      omega
    next h =>
      have hrest : ofDigits (Nat.toDigits 10 (n / 10)) = n / 10 := ih (n / 10) (by omega)
      rw [ofDigits_append_singleton, Nat.toNat_digitChar_sub_48_of_lt_ten (by omega), hrest]
      omega

/-- Zeros in front of a row of digits do not count. -/
theorem ofDigits_replicate_append (zeros : Nat) (cs : List Char) :
    ofDigits (List.replicate zeros '0' ++ cs) = ofDigits cs := by
  induction zeros with
  | zero => rfl
  | succ zeros ih =>
    rw [← ih, List.replicate_succ]
    rfl

namespace Decimal

/-! ## Unsigned forms -/

/-- An unsigned literal that shows these digits, so many of them behind the point and at least one
before it. Zeros may stand in front. -/
def ShowsDigits (cs digits : List Char) (places : Nat) : Prop :=
  ∃ whole fraction, LiteralDigits cs whole fraction ∧ whole ≠ [] ∧
    ofDigits (whole ++ fraction) = ofDigits digits ∧ fraction.length = places

namespace ShowsDigits

variable {cs digits : List Char} {places : Nat}

/-- A literal is read with the digits and places that it shows. -/
theorem read (h : ShowsDigits cs digits places) (negative : Bool) :
    ofUnsignedLiteral? negative cs = some ⟨negative, ofDigits digits, -(places : Int)⟩ := by
  obtain ⟨whole, fraction, hliteral, -, hdigits, rfl⟩ := h
  rw [hliteral.read, hdigits]

theorem isDigit_or_point (h : ShowsDigits cs digits places) :
    ∀ c ∈ cs, c.isDigit = true ∨ c = '.' := by
  obtain ⟨whole, fraction, hliteral, -⟩ := h
  exact hliteral.isDigit_or_point

theorem head (h : ShowsDigits cs digits places) : ∃ c rest, cs = c :: rest ∧ c.isDigit = true := by
  obtain ⟨whole, fraction, hliteral, hne, -⟩ := h
  obtain ⟨c, whole, rfl⟩ := List.exists_cons_of_ne_nil hne
  cases hliteral with
  | plain digit => exact ⟨c, whole, rfl, digit c (by simp)⟩
  | pointed digit => exact ⟨c, whole ++ '.' :: fraction, rfl, digit c (by simp)⟩

end ShowsDigits

variable {digits : List Char}

/-- Digits are shown with a point by filling them up with zeros. -/
theorem showsDigits_withPoint (h : ∀ c ∈ digits, c.isDigit = true) (places : Nat) :
    ShowsDigits (withPoint digits places) digits places := by
  let padded := List.replicate (places + 1 - digits.length) '0' ++ digits
  let split := padded.length - places
  have hlength : places < padded.length := by
    simp only [padded, List.length_append, List.length_replicate]
    omega
  have hpadded : padded.take split ++ padded.drop split = padded := List.take_append_drop ..
  refine ⟨padded.take split, padded.drop split, .pointed ?_ ?_, ?_, ?_, ?_⟩
  · intro c hc
    rw [hpadded] at hc
    rcases List.mem_append.mp hc with hc | hc
    · rw [List.eq_of_mem_replicate hc]
      decide
    · exact h c hc
  · rw [hpadded]
    exact List.ne_nil_of_length_pos (by omega)
  · apply List.ne_nil_of_length_pos
    rw [List.length_take]
    omega
  · rw [hpadded, ofDigits_replicate_append]
  · rw [List.length_drop]
    omega

theorem showsDigits_plainChars (h : ∀ c ∈ digits, c.isDigit = true) (ne : digits ≠ [])
    (places : Nat) : ShowsDigits (plainChars digits places) digits places := by
  rw [plainChars]
  split
  next hplaces => exact ⟨digits, [], .plain h ne, ne, by simp, hplaces.symm⟩
  next => exact showsDigits_withPoint h places

/-- The scientific form shows the digits with a point behind the first of them, if there are more,
and then the exponent. -/
theorem scientificChars_eq (h : ∀ c ∈ digits, c.isDigit = true) (ne : digits ≠ []) (x : Int) :
    ∃ lead, scientificChars digits x = lead ++ exponentChars x ∧
      ShowsDigits lead digits (digits.length - 1) := by
  rcases digits with _ | ⟨first, _ | ⟨second, rest⟩⟩
  · exact absurd rfl ne
  · exact ⟨[first], rfl, [first], [], .plain h ne, ne, rfl, rfl⟩
  · have hlead : LiteralDigits ([first] ++ '.' :: second :: rest) [first] (second :: rest) :=
      .pointed h (by simp)
    exact ⟨_, rfl, _, _, hlead, by simp, rfl, rfl⟩

/-- A decimal is written behind its sign: plainly, or with its leading digit and an exponent. -/
theorem toChars_cases (d : Decimal) :
    (d.exponent ≤ 0 ∧ leastPlainExponent ≤ d.adjustedExponent ∧
      ∃ cs, d.toChars = d.signChars ++ cs ∧
        ShowsDigits cs (digitsOf d.coefficient) (-d.exponent).toNat) ∨
    (¬(d.exponent ≤ 0 ∧ leastPlainExponent ≤ d.adjustedExponent) ∧
      ∃ lead, d.toChars = d.signChars ++ (lead ++ exponentChars d.adjustedExponent) ∧
        ShowsDigits lead (digitsOf d.coefficient) ((digitsOf d.coefficient).length - 1)) := by
  have hdigit : ∀ c ∈ digitsOf d.coefficient, c.isDigit = true := fun _ => isDigit_of_mem_digitsOf
  have hne := digitsOf_ne_nil d.coefficient
  by_cases hplain : d.exponent ≤ 0 ∧ leastPlainExponent ≤ d.adjustedExponent
  · exact .inl ⟨hplain.1, hplain.2, _, by rw [toChars, ← adjustedExponent, if_pos hplain],
      showsDigits_plainChars hdigit hne _⟩
  · obtain ⟨lead, hlead, hshows⟩ := scientificChars_eq hdigit hne d.adjustedExponent
    exact .inr ⟨hplain, lead, by rw [toChars, ← adjustedExponent, if_neg hplain, hlead], hshows⟩

end Decimal

/-! ## Numeric text -/

namespace Extended

variable {cs digits : List Char} {places : Nat} {negative : Bool}

/-- The characters of written forms: digits, signs, the point and the mark of the exponent. -/
def IsNumeral (c : Char) : Prop := c.isDigit = true ∨ c ∈ ['.', '-', '+', 'E']

/-- Written forms are ASCII, without blanks or underscores. -/
theorem IsNumeral.plain {c : Char} (h : IsNumeral c) :
    Text.isBlank c = false ∧ (c != '_') = true ∧ (0 < c.toNat && c.toNat < 0x80) = true := by
  rcases h with h | h
  · have hrange := toNat_of_isDigit h
    have hunderscore : c ≠ '_' := Decimal.ne_of_isDigit h (by decide)
    refine ⟨(not_blank_of_isDigit h).1, bne_iff_ne.mpr hunderscore, ?_⟩
    simp only [Bool.and_eq_true, decide_eq_true_eq]
    omega
  · simp only [List.mem_cons, List.not_mem_nil, or_false] at h
    rcases h with rfl | rfl | rfl | rfl <;> decide

/-- Written forms are taken as they are. -/
theorem normalize?_eq_some (h : ∀ c ∈ cs, IsNumeral c) : normalize? cs = some cs := by
  have hstrip : Text.strip cs = cs := Text.strip_of_not_blank fun c hc => (h c hc).plain.1
  have hfilter : cs.filter (· != '_') = cs :=
    List.filter_eq_self.mpr fun c hc => (h c hc).plain.2.1
  rw [normalize?, hstrip, hfilter]
  clear hstrip hfilter
  induction cs with
  | nil => rfl
  | cons c cs ih =>
    have hrest := ih fun d hd => h d (by simp [hd])
    rw [List.mapM_cons, hrest, if_pos (h c (by simp)).plain.2.2]
    rfl

/-- No digit has a case. -/
theorem toLower_of_isDigit {c : Char} (h : c.isDigit = true) : c.toLower = c := by
  rw [Char.isDigit, Bool.and_eq_true, decide_eq_true_eq, decide_eq_true_eq] at h
  refine dif_neg ?_
  intro hupper
  exact absurd (UInt32.le_trans hupper.1 h.2) (by decide)

/-- The name of no value begins with a digit, so what begins with one is read as a number. -/
theorem unsigned?_eq_number? {c : Char} (h : c.isDigit = true) (rest : List Char) :
    unsigned? negative (c :: rest) = number? negative (c :: rest) := by
  have hletter : ∀ letter : Char, letter.isDigit = false → c ≠ letter := fun _ =>
    Decimal.ne_of_isDigit h
  rw [unsigned?.eq_def, List.map_cons, toLower_of_isDigit h]
  split
  next heq => exact absurd (List.cons.inj heq).1 (hletter 'i' (by decide))
  next heq => exact absurd (List.cons.inj heq).1 (hletter 'i' (by decide))
  next heq => exact absurd (List.cons.inj heq).1 (hletter 'n' (by decide))
  next heq => exact absurd (List.cons.inj heq).1 (hletter 's' (by decide))
  next => rfl

/-- An exponent is read with its sign. -/
theorem exponent?_digitsOf (x : Int) :
    exponent? ((if x < 0 then '-' else '+') :: digitsOf x.natAbs) = some x := by
  have hall : (digitsOf x.natAbs).all Char.isDigit = true :=
    List.all_eq_true.mpr fun c hc => isDigit_of_mem_digitsOf hc
  have hread : (!(digitsOf x.natAbs).isEmpty && (digitsOf x.natAbs).all Char.isDigit) = true := by
    simp [hall, digitsOf_ne_nil]
  split
  next h =>
    simp only [exponent?, hread, if_true, ofDigits_digitsOf, Option.bind_eq_bind,
      Option.bind_some, Option.pure_def, Option.map_some, Option.some.injEq]
    omega
  next h =>
    simp only [exponent?, hread, if_true, ofDigits_digitsOf, Option.bind_eq_bind,
      Option.bind_some, Option.pure_def, Option.map_some, Option.some.injEq]
    omega

/-- Neither a digit nor the point is the mark of an exponent. -/
private theorem not_mark {c : Char} (h : c.isDigit = true ∨ c = '.') :
    (!(c == 'e' || c == 'E')) = true := by
  simp only [Bool.not_eq_true', Bool.or_eq_false_iff, beq_eq_false_iff_ne]
  constructor
  all_goals
    rintro rfl
    revert h
    decide

/-- A literal is read as a number with the digits and places that it shows. -/
theorem number?_of_showsDigits (h : Decimal.ShowsDigits cs digits places) (negative : Bool) :
    number? negative cs = some (finite ⟨negative, ofDigits digits, -(places : Int)⟩) := by
  have hmark := fun c hc => not_mark (h.isDigit_or_point c hc)
  simp only [number?, List.takeWhile_eq_self_iff.mpr hmark, List.dropWhile_eq_nil_iff.mpr hmark,
    h.read]

/-- A literal with an exponent is read as a number whose places are shifted by it. -/
theorem number?_append_exponentChars (h : Decimal.ShowsDigits cs digits places) (negative : Bool)
    (x : Int) : number? negative (cs ++ Decimal.exponentChars x) =
      some (finite ⟨negative, ofDigits digits, -(places : Int) + x⟩) := by
  have hmark := fun c hc => not_mark (h.isDigit_or_point c hc)
  simp only [number?, Decimal.exponentChars, List.takeWhile_append_of_pos hmark,
    List.dropWhile_append_of_pos hmark]
  simp [h.read, exponent?_digitsOf]

/-! ## Written forms -/

theorem isNumeral_exponentChars {x : Int} {c : Char} (h : c ∈ Decimal.exponentChars x) :
    IsNumeral c := by
  rcases List.mem_cons.mp h with rfl | h
  · exact .inr (by decide)
  rcases List.mem_cons.mp h with rfl | h
  · right
    split <;> decide
  · exact .inl (isDigit_of_mem_digitsOf h)

/-- What is written of a decimal behind its sign begins with a digit and is read as the decimal. -/
theorem exists_toChars (d : Decimal) : ∃ c rest, d.toChars = d.signChars ++ c :: rest ∧
    c.isDigit = true ∧ (∀ x ∈ c :: rest, IsNumeral x) ∧
    number? d.negative (c :: rest) = some (finite d) := by
  have hliteral : ∀ {cs places}, Decimal.ShowsDigits cs (digitsOf d.coefficient) places →
      ∀ x ∈ cs, IsNumeral x := by
    intro cs places hshows x hx
    rcases hshows.isDigit_or_point x hx with hx | rfl
    · exact .inl hx
    · exact .inr (by decide)
  rcases d.toChars_cases with ⟨hexponent, -, cs, hcs, hshows⟩ | ⟨-, lead, hcs, hshows⟩
  · obtain ⟨c, rest, rfl, hdigit⟩ := hshows.head
    refine ⟨c, rest, hcs, hdigit, hliteral hshows, ?_⟩
    have hplaces : -(((-d.exponent).toNat : Nat) : Int) = d.exponent := by omega
    rw [number?_of_showsDigits hshows, ofDigits_digitsOf, hplaces]
  · obtain ⟨c, rest, rfl, hdigit⟩ := hshows.head
    refine ⟨c, rest ++ Decimal.exponentChars d.adjustedExponent, hcs, hdigit, ?_, ?_⟩
    · intro x hx
      rw [← List.cons_append] at hx
      rcases List.mem_append.mp hx with hx | hx
      · exact hliteral hshows x hx
      · exact isNumeral_exponentChars hx
    · have hpos := List.length_pos_of_ne_nil (digitsOf_ne_nil d.coefficient)
      have hplaces : -(((digitsOf d.coefficient).length - 1 : Nat) : Int) + d.adjustedExponent =
          d.exponent := by
        rw [Decimal.adjustedExponent]
        omega
      rw [← List.cons_append, number?_append_exponentChars hshows, ofDigits_digitsOf, hplaces]

/-- Nothing else is written of a decimal. -/
theorem isNumeral_toChars (d : Decimal) : ∀ c ∈ d.toChars, IsNumeral c := by
  obtain ⟨first, rest, hcs, -, hnumeral, -⟩ := exists_toChars d
  intro c hc
  rw [hcs] at hc
  rcases List.mem_append.mp hc with hc | hc
  · rw [Decimal.signChars] at hc
    split at hc
    · exact .inr (by simp_all)
    · cases hc
  · exact hnumeral c hc

/-- The written form of a decimal is read as the decimal, with its sign, coefficient and
exponent. -/
theorem ofText?_toString (d : Decimal) : ofText? (toString d) = some (finite d) := by
  obtain ⟨c, rest, hcs, hdigit, -, hnumber⟩ := exists_toChars d
  have hunsigned : unsigned? d.negative (c :: rest) = some (finite d) := by
    rw [unsigned?_eq_number? hdigit, hnumber]
  have hnormal : normalize? d.toChars = some d.toChars :=
    normalize?_eq_some (isNumeral_toChars d)
  change (normalize? (String.ofList d.toChars).toList).bind _ = _
  rw [String.toList_ofList, hnormal, hcs, Decimal.signChars]
  cases hnegative : d.negative with
  | true =>
    rw [hnegative] at hunsigned
    exact hunsigned
  | false =>
    rw [hnegative] at hunsigned
    simp only [Bool.false_eq_true, if_false, List.nil_append, Option.bind_some]
    split
    next heq =>
      obtain ⟨rfl, -⟩ := List.cons.inj heq
      exact absurd hdigit (by decide)
    next heq =>
      obtain ⟨rfl, -⟩ := List.cons.inj heq
      exact absurd hdigit (by decide)
    next => exact hunsigned

end Extended

/-- No two decimals are written alike. -/
theorem Decimal.toString_injective : Function.Injective (toString : Decimal → String) := by
  intro c d h
  have hread := Extended.ofText?_toString c
  rw [h, Extended.ofText?_toString] at hread
  exact (Extended.finite.inj (Option.some.inj hread)).symm

end LedgerAmount
