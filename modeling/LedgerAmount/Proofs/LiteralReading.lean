import LedgerAmount.Proofs.Spacing
import Mathlib.Data.Nat.Digits.Defs

/-!
# Literals and the numbers they show

A text is a literal exactly if it has the form of one, and its value is the number that it shows:
the digits are read by their places, the places behind the point are counted, and a minus in front
is the sign. Inside an expression a sign is never part of a literal: every plus and minus of a text
is an operator of its own.
-/

namespace LedgerAmount

/-! ## The value of a literal -/

/-- A row of digits is read by places, the last digit being that of the ones. -/
theorem ofDigits_eq_ofDigits (cs : List Char) :
    ofDigits cs = Nat.ofDigits 10 (cs.reverse.map fun c => c.toNat - '0'.toNat) := by
  induction cs using List.reverseRecOn with
  | nil => rfl
  | append_singleton cs c ih =>
    rw [ofDigits_append_singleton, List.reverse_append, List.reverse_singleton,
      List.singleton_append, List.map_cons, Nat.ofDigits_cons, ← ih]
    exact Nat.add_comm ..

namespace Decimal

/-- The number that a text shows: a minus in front is its sign, all digits together are its
coefficient, and those behind the point are its places. -/
structure IsShownBy (cs : List Char) (d : Decimal) : Prop where
  negative : d.negative = true ↔ cs.head? = some '-'
  coefficient : d.coefficient =
    Nat.ofDigits 10 ((cs.filter Char.isDigit).reverse.map fun c => c.toNat - '0'.toNat)
  exponent : d.exponent = -((cs.dropWhile (· != '.')).countP Char.isDigit : Int)

variable {cs whole fraction : List Char} {d e : Decimal} {s : String}

/-- A text shows only one number. -/
theorem IsShownBy.unique (hd : IsShownBy cs d) (he : IsShownBy cs e) : d = e := by
  obtain ⟨negative, coefficient, exponent⟩ := d
  obtain ⟨negative', coefficient', exponent'⟩ := e
  obtain rfl : negative = negative' :=
    Bool.eq_iff_iff.mpr (hd.negative.trans he.negative.symm)
  obtain rfl : coefficient = coefficient' := hd.coefficient.trans he.coefficient.symm
  obtain rfl : exponent = exponent' := hd.exponent.trans he.exponent.symm
  rfl

/-- Nothing but digits stands behind the point of a literal. -/
theorem LiteralDigits.countP_places (h : LiteralDigits cs whole fraction) :
    (cs.dropWhile (· != '.')).countP Char.isDigit =
      ((cs.dropWhile (· != '.')).drop 1).length := by
  have hpoint : Char.isDigit '.' = false := by decide
  have hne : ∀ c : Char, c.isDigit = true → (c != '.') = true := fun c hc =>
    bne_iff_ne.mpr (ne_of_isDigit hc hpoint)
  cases h with
  | plain digit ne =>
    rw [List.dropWhile_eq_nil_iff.mpr fun c hc => hne c (digit c hc)]
    rfl
  | pointed digit ne =>
    have hfraction : fraction.countP Char.isDigit = fraction.length :=
      List.countP_eq_length.mpr fun c hc => digit c (by simp [hc])
    rw [List.dropWhile_append_of_pos fun c hc => hne c (digit c (by simp [hc]))]
    simp [hpoint, hfraction]

theorem IsLiteral.countP_places (h : IsLiteral cs) :
    (cs.dropWhile (· != '.')).countP Char.isDigit =
      ((cs.dropWhile (· != '.')).drop 1).length := by
  cases h with
  | unsigned digits => exact digits.countP_places
  | plus digits => exact digits.countP_places
  | minus digits => exact digits.countP_places

/-- The value of a literal is the number that it shows. -/
theorem isShownBy_of_ofLiteral? (h : ofLiteral? s = some d) : d.IsShownBy s.toList := by
  have hliteral : IsLiteral s.toList := exists_ofLiteral?_iff.mp ⟨d, h⟩
  rw [eq_asTyped_of_ofLiteral? h]
  refine ⟨?_, ?_, ?_⟩
  · rw [asTyped, beq_iff_eq]
  · rw [asTyped, ofDigits_eq_ofDigits]
  · rw [asTyped, hliteral.countP_places]

/-- A text has a value exactly if it is a literal, and then it is the number that it shows. -/
theorem ofLiteral?_eq_some_iff :
    ofLiteral? s = some d ↔ IsLiteral s.toList ∧ d.IsShownBy s.toList := by
  constructor
  · intro h
    exact ⟨exists_ofLiteral?_iff.mp ⟨d, h⟩, isShownBy_of_ofLiteral? h⟩
  · rintro ⟨hliteral, hshown⟩
    obtain ⟨value, hvalue⟩ := exists_ofLiteral?_iff.mpr hliteral
    rw [hvalue, (isShownBy_of_ofLiteral? hvalue).unique hshown]

end Decimal

/-! ## The literals of a text -/

variable {p : Char → Bool} {text lexeme : String} {tokens : List Token} {value : Decimal}

/-- The sign of a number is no part of the lexeme that the number is. -/
theorem exists_literalDigits_of_mem_lexemes (h : lexeme ∈ lexemes text)
    (hl : Decimal.IsLiteral lexeme.toList) :
    ∃ whole fraction, Decimal.LiteralDigits lexeme.toList whole fraction := by
  have hsigned : ∀ (op : Operator) {cs : List Char}, lexeme.toList = op.char :: cs → cs = [] := by
    intro op cs hcs
    have hdelimiter : isDelimiter op.char = true := isDelimiter_iff.mpr (.inl ⟨op, rfl⟩)
    rcases isLexemeForm_of_mem_lexemes h with ⟨other, rfl⟩ | rfl | rfl | hrun
    · cases other <;> exact (List.cons.inj hcs).2.symm
    · exact (List.cons.inj hcs).2.symm
    · exact (List.cons.inj hcs).2.symm
    · have hop := hrun.delimiter op.char (by simp [hcs])
      rw [hdelimiter] at hop
      cases hop
  generalize lexeme.toList = cs at hl hsigned
  cases hl with
  | unsigned digits => exact ⟨_, _, digits⟩
  | plus digits => exact absurd (hsigned .plus rfl) digits.ne_nil
  | minus digits => exact absurd (hsigned .minus rfl) digits.ne_nil

/-! ## The delimiters of a text -/

/-- The pieces that hold a certain delimiter are these delimiters, in order. -/
theorem filter_pieces (hp : ∀ c, p c = true → isDelimiter c = true) (cs : List Char) :
    (pieces cs).filter (·.any p) = (cs.filter p).map ([·]) := by
  induction cs with
  | nil => rfl
  | cons c cs ih =>
    by_cases hc : isDelimiter c = true
    · cases hpc : p c <;> simp [pieces, hc, hpc, ih]
    · have hnone : ∀ d, isDelimiter d = false → p d = false := by
        intro d hd
        rw [← Bool.not_eq_true] at hd ⊢
        exact mt (hp d) hd
      have hpc : p c = false := hnone c (by simpa using hc)
      cases hsplit : pieces cs with
      | nil => exact absurd hsplit (pieces_ne_nil cs)
      | cons run rest =>
        have hrun : run.any p = false := List.any_eq_false.mpr fun d hd => by
          simp [hnone d (pieces_eq_cons hsplit d hd)]
        simp only [hsplit, List.filter_cons, hrun, Bool.false_eq_true, if_false] at ih
        simp [pieces, hc, hsplit, hpc, hrun, ih]

/-- So are the lexemes that hold one, unless it is a space. -/
theorem filter_lexemeChars (hp : ∀ c, p c = true → isDelimiter c = true ∧ c ≠ ' ')
    (cs : List Char) : (lexemeChars cs).filter (·.any p) = (cs.filter p).map ([·]) := by
  have hblank : ∀ c, p c = true → Text.isBlank c = false := fun c hc =>
    not_blank_of_isDelimiter (hp c hc).1 (hp c hc).2
  have hstrip : ∀ piece : List Char, (Text.strip piece).any p = piece.any p := by
    intro piece
    rw [Bool.eq_iff_iff, List.any_eq_true, List.any_eq_true]
    constructor
    · rintro ⟨c, hc, hpc⟩
      exact ⟨c, Text.mem_of_mem_strip hc, hpc⟩
    · rintro ⟨c, hc, hpc⟩
      have hkept : c ∈ piece.filter (!Text.isBlank ·) :=
        List.mem_filter.mpr ⟨hc, by simp [hblank c hpc]⟩
      rw [← Text.filter_strip] at hkept
      exact ⟨c, (List.mem_filter.mp hkept).1, hpc⟩
  calc
    (lexemeChars cs).filter (·.any p) = ((pieces cs).map Text.strip).filter (·.any p) := by
      rw [lexemeChars, List.filter_filter]
      refine List.filter_congr fun l _ => ?_
      cases l <;> simp
    _ = ((pieces cs).filter (·.any p)).map Text.strip := by
      rw [List.filter_map]
      exact congrArg _ (List.filter_congr fun piece _ => hstrip piece)
    _ = ((cs.filter p).map ([·])).map Text.strip := by
      rw [filter_pieces fun c hc => (hp c hc).1]
    _ = (cs.filter p).map ([·]) := by
      rw [List.map_map]
      refine List.map_congr_left fun c hc => ?_
      have hc := hblank c (List.mem_filter.mp hc).2
      exact Text.strip_of_not_blank (List.forall_mem_singleton.mpr hc)

/-! ## The signs of a text -/

/-- The characters that are signs in front of a number. -/
def isSign (c : Char) : Bool := c == '+' || c == '-'

/-- The operator that a sign is between two numbers. -/
def Token.ofSign (c : Char) : Token := .operator (String.ofList [c])

/-- A token that is one of the two operators typed like signs. -/
def Token.isSign (token : Token) : Bool := token == .operator "+" || token == .operator "-"

theorem isDelimiter_of_isSign {c : Char} (h : isSign c = true) :
    isDelimiter c = true ∧ c ≠ ' ' := by
  rw [isSign, Bool.or_eq_true, beq_iff_eq, beq_iff_eq] at h
  rcases h with rfl | rfl <;> decide

theorem Token.eq_operator_of_isSign {token : Token} (h : token.isSign = true) :
    token = .operator token.text := by
  rw [isSign, Bool.or_eq_true, beq_iff_eq, beq_iff_eq] at h
  rcases h with rfl | rfl <;> rfl

/-- A token of a text is one of these operators exactly if its text holds a sign. -/
theorem Token.IsTyped.isSign_eq {token : Token} (h : token.IsTyped)
    (hmem : token.text ∈ lexemes text) :
    token.isSign = token.text.toList.any LedgerAmount.isSign := by
  rcases h.cases with ⟨lexeme, value, hvalue, rfl⟩ | ⟨op, rfl⟩ | rfl | rfl
  · obtain ⟨whole, fraction, hdigits⟩ :=
      exists_literalDigits_of_mem_lexemes hmem (Decimal.exists_ofLiteral?_iff.mp ⟨value, hvalue⟩)
    refine (List.any_eq_false.mpr fun c hc => ?_).symm
    rcases hdigits.isDigit_or_point c hc with hdigit | rfl
    · have hdelimiter := (not_blank_of_isDigit hdigit).2
      intro hsign
      rw [(isDelimiter_of_isSign hsign).1] at hdelimiter
      cases hdelimiter
    · decide
  · cases op <;> decide
  · decide
  · decide

/-- The signs of a text are its operators of sums and differences, in order. -/
theorem map_ofSign_filter (h : tokenize text = .ok tokens) :
    (text.toList.filter isSign).map Token.ofSign = tokens.filter Token.isSign := by
  obtain ⟨htexts, htyped⟩ := tokenize_eq_ok_iff.mp h
  have hsign : ∀ t ∈ tokens, t.isSign = t.text.toList.any isSign := fun t ht =>
    (htyped t ht).isSign_eq (htexts ▸ List.mem_map_of_mem ht)
  symm
  calc
    tokens.filter Token.isSign = (tokens.filter Token.isSign).map (.operator ·.text) := by
      refine (List.map_id _).symm.trans (List.map_congr_left fun t ht => ?_)
      exact Token.eq_operator_of_isSign (List.mem_filter.mp ht).2
    _ = ((tokens.map Token.text).filter (·.toList.any isSign)).map .operator := by
      rw [List.filter_congr hsign, List.filter_map, List.map_map]
      rfl
    _ = ((lexemeChars text.toList).filter (·.any isSign)).map (.operator ∘ String.ofList) := by
      rw [htexts, lexemes, List.filter_map, List.map_map]
      refine congrArg _ (List.filter_congr fun l _ => ?_)
      rw [Function.comp_apply, String.toList_ofList]
    _ = (text.toList.filter isSign).map Token.ofSign := by
      rw [filter_lexemeChars fun c hc => isDelimiter_of_isSign hc, List.map_map]
      rfl

/-- Texts are read as numbers exactly if they are literals, and then as the number that they show.
In a text with tokens every number is an unsigned literal with the value that it shows, and the
signs are the operators of sums and differences, one for one and in order. -/
theorem literals_of_text :
    (∀ s d, Decimal.ofLiteral? s = some d ↔
      Decimal.IsLiteral s.toList ∧ d.IsShownBy s.toList) ∧
    ∀ text tokens, tokenize text = .ok tokens →
      (∀ lexeme value, .number lexeme value ∈ tokens →
        (∃ whole fraction, Decimal.LiteralDigits lexeme.toList whole fraction) ∧
          Decimal.ofLiteral? lexeme = some value ∧ value.IsShownBy lexeme.toList) ∧
      (text.toList.filter isSign).map Token.ofSign = tokens.filter Token.isSign := by
  refine ⟨fun s d => Decimal.ofLiteral?_eq_some_iff, fun text tokens h => ⟨?_, map_ofSign_filter h⟩⟩
  intro lexeme value hmem
  obtain ⟨htexts, htyped⟩ := tokenize_eq_ok_iff.mp h
  have hlexeme : lexeme ∈ lexemes text := htexts ▸ List.mem_map_of_mem hmem
  have hvalue := Token.isTyped_number_iff.mp (htyped _ hmem)
  obtain ⟨hliteral, hshown⟩ := Decimal.ofLiteral?_eq_some_iff.mp hvalue
  exact ⟨exists_literalDigits_of_mem_lexemes hlexeme hliteral, hvalue, hshown⟩

/-- `-.50` is a literal with its sign, and in `-.50+007` the same sign is an operator. -/
theorem literals_of_text_signs :
    let tokens : List Token := [.operator "-", .number ".50" ⟨false, 50, -2⟩, .operator "+",
      .number "007" ⟨false, 7, 0⟩]
    Decimal.ofLiteral? "-.50" = some ⟨true, 50, -2⟩ ∧
      Decimal.IsShownBy "-.50".toList ⟨true, 50, -2⟩ ∧
      tokenize "-.50+007" = .ok tokens ∧
      (∃ whole fraction, Decimal.LiteralDigits ".50".toList whole fraction) ∧
      Decimal.IsShownBy "007".toList ⟨false, 7, 0⟩ ∧
      ("-.50+007".toList.filter isSign).map Token.ofSign = [.operator "-", .operator "+"] := by
  intro tokens
  have hvalue : Decimal.ofLiteral? "-.50" = some ⟨true, 50, -2⟩ := by decide +kernel
  have ht : tokenize "-.50+007" = .ok tokens := by decide +kernel
  obtain ⟨hliteral, htext⟩ := literals_of_text
  obtain ⟨hnumbers, hsigns⟩ := htext _ _ ht
  refine ⟨hvalue, ((hliteral _ _).mp hvalue).2, ht, ?_, ?_, hsigns.trans (by decide)⟩
  · exact (hnumbers ".50" ⟨false, 50, -2⟩ (by simp [tokens])).1
  · exact (hnumbers "007" ⟨false, 7, 0⟩ (by simp [tokens])).2.2

end LedgerAmount
