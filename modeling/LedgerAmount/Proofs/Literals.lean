import LedgerAmount.Decimal.Literal
import Mathlib.Data.List.TakeWhile

/-!
# What a literal says

A literal is a row of digits, or two rows with a point between them that are not both empty. Its
value keeps every digit and counts the places behind the point.
-/

namespace LedgerAmount.Decimal

/-- A digit is none of the other characters. -/
theorem ne_of_isDigit {c d : Char} (h : c.isDigit = true) (hd : d.isDigit = false) : c ≠ d := by
  rintro rfl
  rw [h] at hd
  cases hd

/-- An unsigned literal with its digits before and behind the point. -/
inductive LiteralDigits : List Char → List Char → List Char → Prop
  | plain {digits : List Char} (digit : ∀ c ∈ digits, c.isDigit = true) (ne : digits ≠ []) :
      LiteralDigits digits digits []
  | pointed {whole fraction : List Char} (digit : ∀ c ∈ whole ++ fraction, c.isDigit = true)
      (ne : whole ++ fraction ≠ []) : LiteralDigits (whole ++ '.' :: fraction) whole fraction

private theorem takeWhile_point {whole : List Char} (h : ∀ c ∈ whole, c.isDigit = true)
    (fraction : List Char) :
    (whole ++ '.' :: fraction).takeWhile Char.isDigit = whole ∧
      (whole ++ '.' :: fraction).dropWhile Char.isDigit = '.' :: fraction := by
  rw [List.takeWhile_append_of_pos h, List.dropWhile_append_of_pos h]
  have hp : Char.isDigit '.' = false := by decide
  simp [hp]

/-- A literal is read with all of its digits and the number of places behind the point. -/
theorem LiteralDigits.read {cs whole fraction : List Char} (h : LiteralDigits cs whole fraction)
    (negative : Bool) : ofUnsignedLiteral? negative cs =
      some ⟨negative, ofDigits (whole ++ fraction), -(fraction.length : Int)⟩ := by
  cases h with
  | plain digit ne =>
    have htake : cs.takeWhile Char.isDigit = cs := List.takeWhile_eq_self_iff.mpr digit
    have hdrop : cs.dropWhile Char.isDigit = [] := List.dropWhile_eq_nil_iff.mpr digit
    simp [ofUnsignedLiteral?, htake, hdrop, ne]
  | pointed digit ne =>
    have hwhole : ∀ c ∈ whole, c.isDigit = true := fun c hc => digit c (by simp [hc])
    obtain ⟨htake, hdrop⟩ := takeWhile_point hwhole fraction
    have hfraction : fraction.all Char.isDigit = true :=
      List.all_eq_true.mpr fun c hc => digit c (by simp [hc])
    simp only [ofUnsignedLiteral?, htake, hdrop]
    rw [if_pos]
    exact ⟨trivial, hfraction, by simpa using ne⟩

/-- Nothing but a literal is read. -/
theorem ofUnsignedLiteral?_eq_some_iff {negative : Bool} {cs : List Char} {d : Decimal} :
    ofUnsignedLiteral? negative cs = some d ↔ ∃ whole fraction, LiteralDigits cs whole fraction ∧
      d = ⟨negative, ofDigits (whole ++ fraction), -(fraction.length : Int)⟩ := by
  constructor
  · intro h
    have hsplit := List.takeWhile_append_dropWhile (p := Char.isDigit) (l := cs)
    have hwhole : ∀ c ∈ cs.takeWhile Char.isDigit, c.isDigit = true := by
      intro c hc
      exact List.all_eq_true.mp List.all_takeWhile c hc
    rw [ofUnsignedLiteral?] at h
    generalize cs.takeWhile Char.isDigit = whole at h hsplit hwhole
    generalize cs.dropWhile Char.isDigit = rest at h hsplit
    subst hsplit
    cases rest with
    | nil =>
      have hne : whole ≠ [] := by
        intro hnil
        simp [hnil] at h
      refine ⟨whole, [], ?_, ?_⟩
      · simpa using LiteralDigits.plain hwhole hne
      · simp_all
    | cons point fraction =>
      simp only [Option.ite_none_right_eq_some, Option.some.injEq] at h
      obtain ⟨⟨rfl, hfraction, hne⟩, rfl⟩ := h
      refine ⟨whole, fraction, .pointed ?_ ?_, rfl⟩
      · intro c hc
        rcases List.mem_append.mp hc with hc | hc
        · exact hwhole c hc
        · exact List.all_eq_true.mp hfraction c hc
      · simpa using hne
  · intro h
    obtain ⟨whole, fraction, hdigits, rfl⟩ := h
    exact hdigits.read negative

/-- A literal has nothing but digits and points. -/
theorem LiteralDigits.isDigit_or_point {cs whole fraction : List Char}
    (h : LiteralDigits cs whole fraction) : ∀ c ∈ cs, c.isDigit = true ∨ c = '.' := by
  intro c hc
  cases h with
  | plain digit ne => exact .inl (digit c hc)
  | pointed digit ne =>
    rcases List.mem_append.mp hc with hc | hc
    · exact .inl (digit c (by simp [hc]))
    · rcases List.mem_cons.mp hc with rfl | hc
      · exact .inr rfl
      · exact .inl (digit c (by simp [hc]))

/-- A literal is not empty. -/
theorem LiteralDigits.ne_nil {cs whole fraction : List Char} (h : LiteralDigits cs whole fraction) :
    cs ≠ [] := by
  cases h with
  | plain digit ne => exact ne
  | pointed digit ne => simp

/-- An unsigned literal is read without looking for a sign. -/
theorem LiteralDigits.ofLiteralChars?_eq {cs whole fraction : List Char}
    (h : LiteralDigits cs whole fraction) : ofLiteralChars? cs =
      some ⟨false, ofDigits (whole ++ fraction), -(fraction.length : Int)⟩ := by
  rw [ofLiteralChars?.eq_def]
  split
  next => exact absurd (h.isDigit_or_point '-' (by simp)) (by decide)
  next => exact absurd (h.isDigit_or_point '+' (by simp)) (by decide)
  next => exact h.read false

/-- A literal: an unsigned one, behind a sign or without. -/
inductive IsLiteral : List Char → Prop
  | unsigned {cs whole fraction : List Char} (digits : LiteralDigits cs whole fraction) :
      IsLiteral cs
  | plus {cs whole fraction : List Char} (digits : LiteralDigits cs whole fraction) :
      IsLiteral ('+' :: cs)
  | minus {cs whole fraction : List Char} (digits : LiteralDigits cs whole fraction) :
      IsLiteral ('-' :: cs)

/-- Literals, and nothing else, have a value. -/
theorem exists_ofLiteral?_iff {s : String} :
    (∃ d, ofLiteral? s = some d) ↔ IsLiteral s.toList := by
  rw [ofLiteral?]
  generalize s.toList = cs
  constructor
  · intro h
    obtain ⟨d, h⟩ := h
    rw [ofLiteralChars?.eq_def] at h
    split at h
    all_goals obtain ⟨whole, fraction, hdigits, -⟩ := ofUnsignedLiteral?_eq_some_iff.mp h
    · exact .minus hdigits
    · exact .plus hdigits
    · exact .unsigned hdigits
  · intro h
    cases h with
    | plus hdigits => exact ⟨_, hdigits.read false⟩
    | minus hdigits => exact ⟨_, hdigits.read true⟩
    | unsigned hdigits => exact ⟨_, hdigits.ofLiteralChars?_eq⟩

/-- A row of digits is read as a whole number. -/
theorem ofLiteral?_of_digits {cs : List Char} (digit : ∀ c ∈ cs, c.isDigit = true)
    (ne : cs ≠ []) : ofLiteral? (String.ofList cs) = some ⟨false, ofDigits cs, 0⟩ := by
  rw [ofLiteral?, String.toList_ofList]
  simpa using (LiteralDigits.plain digit ne).ofLiteralChars?_eq

/-- The number that a literal shows: its sign, all of its digits, and a place for every digit
behind the point. -/
def asTyped (cs : List Char) : Decimal :=
  ⟨cs.head? == some '-', ofDigits (cs.filter Char.isDigit),
    -(((cs.dropWhile (· != '.')).drop 1).length : Int)⟩

/-- The digits of an unsigned literal are the digits of its text, and those behind the point stand
behind the only point. -/
theorem LiteralDigits.shown {cs whole fraction : List Char} (h : LiteralDigits cs whole fraction) :
    whole ++ fraction = cs.filter Char.isDigit ∧
      fraction = (cs.dropWhile (· != '.')).drop 1 ∧ cs.head? ≠ some '-' := by
  have hminus : Char.isDigit '-' = false := by decide
  have hpoint : ∀ c : Char, c.isDigit = true → (c != '.') = true := fun c hc =>
    bne_iff_ne.mpr (ne_of_isDigit hc (by decide))
  cases h with
  | plain digit ne =>
    have hdrop : cs.dropWhile (· != '.') = [] :=
      List.dropWhile_eq_nil_iff.mpr fun c hc => hpoint c (digit c hc)
    refine ⟨by simp [List.filter_eq_self.mpr digit], by simp [hdrop], ?_⟩
    intro hhead
    have := digit '-' (List.mem_of_mem_head? hhead)
    simp [hminus] at this
  | pointed digit ne =>
    have hdot : Char.isDigit '.' = false := by decide
    have hdrop : (whole ++ '.' :: fraction).dropWhile (· != '.') = '.' :: fraction := by
      rw [List.dropWhile_append_of_pos fun c hc => hpoint c (digit c (by simp [hc]))]
      simp
    refine ⟨?_, by simp [hdrop], ?_⟩
    · have hfilter := List.filter_eq_self.mpr digit
      rw [List.filter_append] at hfilter
      simp [hdot, hfilter]
    · cases whole with
      | nil => simp
      | cons c whole =>
        intro hhead
        have := digit '-' (by simp_all)
        simp [hminus] at this

/-- A literal has the value that it shows. -/
theorem eq_asTyped_of_ofLiteral? {s : String} {d : Decimal} (h : ofLiteral? s = some d) :
    d = asTyped s.toList := by
  have hshown : ∀ {negative : Bool} {cs : List Char}, ofUnsignedLiteral? negative cs = some d →
      d = { asTyped cs with negative := negative } ∧ cs.head? ≠ some '-' := by
    intro negative cs hread
    obtain ⟨whole, fraction, hdigits, rfl⟩ := ofUnsignedLiteral?_eq_some_iff.mp hread
    obtain ⟨hall, hplaces, hhead⟩ := hdigits.shown
    exact ⟨by rw [hall, hplaces]; rfl, hhead⟩
  rw [ofLiteral?] at h
  generalize s.toList = cs at h
  have hplus : Char.isDigit '+' = false := by decide
  have hminus : Char.isDigit '-' = false := by decide
  unfold ofLiteralChars? at h
  split at h
  next cs => exact (hshown h).1.trans (by simp [asTyped, hminus])
  next cs => exact (hshown h).1.trans (by simp [asTyped, hplus])
  next => exact (hshown h).1.trans (by simp [asTyped, (hshown h).2])

end LedgerAmount.Decimal
