import LedgerAmount.Proofs.Literals
import LedgerAmount.Expression.Lexeme
import Mathlib.Data.List.Basic
import Mathlib.Data.List.Induction

/-!
# The lexemes of a text

Lexemes only have characters of their text. A delimiter separates the lexemes before it from those
behind it, and blanks at the ends of a text belong to none. A row of digits is a lexeme of its own
between delimiters, since no digit is a blank or a delimiter.
-/

namespace LedgerAmount

/-! ## Stripping -/

namespace Text

/-- Nothing is stripped of a text that neither starts nor ends with a blank. -/
theorem strip_eq_self {cs : List Char} (hfirst : ∀ c ∈ cs.head?, isBlank c = false)
    (hlast : ∀ c ∈ cs.getLast?, isBlank c = false) : strip cs = cs := by
  have hkeep : ∀ ds : List Char, (∀ c ∈ ds.head?, isBlank c = false) →
      ds.dropWhile isBlank = ds := by
    intro ds hds
    cases ds with
    | nil => rfl
    | cons d ds => rw [List.dropWhile_cons_of_neg (by simp [hds d rfl])]
  rw [strip, stripLeft, hkeep cs hfirst, stripRight, hkeep cs.reverse (by simpa using hlast),
    List.reverse_reverse]

/-- Nothing is stripped where no character is blank. -/
theorem strip_of_not_blank {cs : List Char} (h : ∀ c ∈ cs, isBlank c = false) : strip cs = cs :=
  strip_eq_self (fun c hc => h c (List.mem_of_mem_head? hc))
    fun c hc => h c (List.mem_of_mem_getLast? hc)

theorem strip_sublist (cs : List Char) : (strip cs).Sublist cs := by
  have hright : (stripRight (stripLeft cs)).reverse.Sublist (stripLeft cs).reverse := by
    rw [stripRight, List.reverse_reverse]
    exact List.dropWhile_sublist _
  exact (List.reverse_sublist.mp hright).trans (List.dropWhile_sublist _)

theorem mem_of_mem_strip {cs : List Char} {c : Char} (h : c ∈ strip cs) : c ∈ cs :=
  (strip_sublist cs).subset h

/-- A stripped text does not start with a blank. -/
theorem head?_strip (cs : List Char) : ∀ c ∈ (strip cs).head?, isBlank c = false := by
  intro c hc
  have hprefix : strip cs <+: stripLeft cs := by
    rw [← List.reverse_suffix, strip, stripRight, List.reverse_reverse]
    exact List.dropWhile_suffix _
  obtain ⟨rest, hsplit⟩ := hprefix
  have hhead := List.head?_dropWhile_not isBlank cs
  rw [← stripLeft, ← hsplit, List.head?_append_of_ne_nil _ (by rintro h; simp [h] at hc)] at hhead
  rw [Option.mem_def.mp hc] at hhead
  exact hhead

/-- A stripped text does not end with a blank. -/
theorem getLast?_strip (cs : List Char) : ∀ c ∈ (strip cs).getLast?, isBlank c = false := by
  intro c hc
  have hhead := List.head?_dropWhile_not isBlank (stripLeft cs).reverse
  rw [strip, stripRight, List.getLast?_reverse] at hc
  rw [Option.mem_def.mp hc] at hhead
  exact hhead

@[simp] theorem strip_strip (cs : List Char) : strip (strip cs) = strip cs :=
  strip_eq_self (head?_strip cs) (getLast?_strip cs)

theorem strip_cons_of_blank {c : Char} (h : isBlank c = true) (cs : List Char) :
    strip (c :: cs) = strip cs := by
  rw [strip, stripLeft, List.dropWhile_cons_of_pos h]
  rfl

theorem strip_append_of_blank {c : Char} (h : isBlank c = true) (cs : List Char) :
    strip (cs ++ [c]) = strip cs := by
  rw [strip, stripLeft, List.dropWhile_append]
  split
  next hnil =>
    rw [List.dropWhile_cons_of_pos h, strip, stripLeft, List.isEmpty_iff.mp hnil]
    rfl
  next =>
    rw [stripRight, List.reverse_append]
    simp [h, strip, stripRight, stripLeft]

/-- Only blanks are stripped. -/
theorem filter_strip (cs : List Char) :
    (strip cs).filter (!isBlank ·) = cs.filter (!isBlank ·) := by
  have hdrop : ∀ ds : List Char,
      (ds.dropWhile isBlank).filter (!isBlank ·) = ds.filter (!isBlank ·) := by
    intro ds
    induction ds with
    | nil => rfl
    | cons d ds ih => by_cases hd : isBlank d = true <;> simp [hd, ih]
  rw [strip, stripRight, List.filter_reverse, hdrop, List.filter_reverse, List.reverse_reverse,
    stripLeft, hdrop]

end Text

/-! ## Delimiters and pieces -/

theorem isOperatorChar_iff {c : Char} :
    isOperatorChar c = true ↔ ∃ op : Operator, c = op.char := by
  constructor
  · intro h
    obtain ⟨op, -, hop⟩ := List.any_eq_true.mp h
    exact ⟨op, (eq_of_beq hop).symm⟩
  · rintro ⟨op, rfl⟩
    cases op <;> decide

theorem isDelimiter_iff {c : Char} : isDelimiter c = true ↔
    (∃ op : Operator, c = op.char) ∨ c = '(' ∨ c = ')' ∨ c = ' ' := by
  simp only [isDelimiter, Bool.or_eq_true, isOperatorChar_iff, beq_iff_eq, or_assoc]

/-- The space is the only delimiter that is a blank. -/
theorem not_blank_of_isDelimiter {c : Char} (h : isDelimiter c = true) (hc : c ≠ ' ') :
    Text.isBlank c = false := by
  rcases isDelimiter_iff.mp h with ⟨op, rfl⟩ | rfl | rfl | rfl
  · cases op <;> decide
  · decide
  · decide
  · exact absurd rfl hc

/-- A run without delimiters is one piece. -/
theorem pieces_of_run {cs : List Char} (h : ∀ c ∈ cs, isDelimiter c = false) :
    pieces cs = [cs] := by
  induction cs with
  | nil => rfl
  | cons c cs ih =>
    rw [pieces, ih fun d hd => h d (by simp [hd])]
    simp [h c]

/-- A run without delimiters at the end of a text goes to its last piece. -/
theorem pieces_append_run (cs : List Char) {run : List Char}
    (h : ∀ c ∈ run, isDelimiter c = false) : ∃ init last, pieces cs = init ++ [last] ∧
      pieces (cs ++ run) = init ++ [last ++ run] := by
  induction cs with
  | nil => exact ⟨[], [], rfl, by simpa using pieces_of_run h⟩
  | cons x cs ih =>
    obtain ⟨init, last, hcs, hrun⟩ := ih
    by_cases hx : isDelimiter x = true
    · exact ⟨[] :: [x] :: init, last, by simp [pieces, hx, hcs], by simp [pieces, hx, hrun]⟩
    · cases init with
      | nil => exact ⟨[], x :: last, by simp [pieces, hx, hcs], by simp [pieces, hx, hrun]⟩
      | cons first init =>
        exact ⟨(x :: first) :: init, last, by simp [pieces, hx, hcs], by simp [pieces, hx, hrun]⟩

/-- The first piece is a run without delimiters. -/
theorem pieces_eq_cons {cs run : List Char} {rest : List (List Char)}
    (h : pieces cs = run :: rest) : ∀ c ∈ run, isDelimiter c = false := by
  induction cs generalizing run rest with
  | nil =>
    cases h
    simp
  | cons c cs ih =>
    by_cases hc : isDelimiter c = true
    · rw [pieces, if_pos hc] at h
      cases h
      simp
    · cases hp : pieces cs with
      | nil => exact absurd hp (pieces_ne_nil cs)
      | cons first others =>
        rw [pieces, if_neg hc, hp] at h
        cases h
        exact List.forall_mem_cons.mpr ⟨by simpa using hc, ih hp⟩

/-- A piece is a run without delimiters, or a delimiter alone. -/
theorem mem_pieces_cases {cs piece : List Char} (h : piece ∈ pieces cs) :
    (∀ c ∈ piece, isDelimiter c = false) ∨ ∃ c, isDelimiter c = true ∧ piece = [c] := by
  induction cs with
  | nil =>
    obtain rfl : piece = [] := by simpa [pieces] using h
    exact .inl (by simp)
  | cons c cs ih =>
    cases hp : pieces (c :: cs) with
    | nil => exact absurd hp (pieces_ne_nil _)
    | cons first rest =>
      rw [hp, List.mem_cons] at h
      rcases h with rfl | hrest
      · exact .inl (pieces_eq_cons hp)
      · by_cases hc : isDelimiter c = true
        · rw [pieces, if_pos hc] at hp
          cases hp
          rcases List.mem_cons.mp hrest with rfl | hcs
          · exact .inr ⟨c, hc, rfl⟩
          · exact ih hcs
        · cases hcs : pieces cs with
          | nil => exact absurd hcs (pieces_ne_nil cs)
          | cons run others =>
            rw [pieces, if_neg hc, hcs] at hp
            cases hp
            exact ih (by simp [hcs, hrest])

/-! ## Lexemes -/

/-- A lexeme only has characters of the text. -/
theorem mem_of_mem_lexemeChars {cs lexeme : List Char} {c : Char} (h : lexeme ∈ lexemeChars cs)
    (hc : c ∈ lexeme) : c ∈ cs := by
  simp only [lexemeChars, List.mem_map, List.mem_filter] at h
  obtain ⟨⟨piece, hpiece, rfl⟩, -⟩ := h
  rw [← flatten_pieces cs]
  exact List.mem_flatten.mpr ⟨piece, hpiece, Text.mem_of_mem_strip hc⟩

theorem mem_of_mem_lexemes {text lexeme : String} {c : Char} (h : lexeme ∈ lexemes text)
    (hc : c ∈ lexeme.toList) : c ∈ text.toList := by
  obtain ⟨cs, hcs, rfl⟩ := List.mem_map.mp h
  rw [String.toList_ofList] at hc
  exact mem_of_mem_lexemeChars hcs hc

@[simp] theorem lexemeChars_nil : lexemeChars [] = [] := rfl

/-- A delimiter but the space is a lexeme between those before it and those behind it. -/
theorem lexemeChars_append_delimiter (before after : List Char) {c : Char}
    (h : isDelimiter c = true) (hc : c ≠ ' ') :
    lexemeChars (before ++ c :: after) = lexemeChars before ++ [c] :: lexemeChars after := by
  have hstrip : Text.strip [c] = [c] :=
    Text.strip_of_not_blank (by simpa using not_blank_of_isDelimiter h hc)
  simp [lexemeChars, pieces_append_delimiter before after h, hstrip]

/-- A space only separates the lexemes before it from those behind it. -/
theorem lexemeChars_append_space (before after : List Char) :
    lexemeChars (before ++ ' ' :: after) = lexemeChars before ++ lexemeChars after := by
  have hdelimiter : isDelimiter ' ' = true := by decide
  have hstrip : Text.strip [' '] = [] := by decide
  simp [lexemeChars, pieces_append_delimiter before after hdelimiter, hstrip]

/-- The lexemes before an end or a delimiter are kept apart from those behind it. -/
theorem lexemeChars_append {before after : List Char}
    (h : (∀ c ∈ before.getLast?, isDelimiter c = true) ∨ ∀ c ∈ after.head?, isDelimiter c = true) :
    lexemeChars (before ++ after) = lexemeChars before ++ lexemeChars after := by
  rcases h with hlast | hfirst
  · rcases List.eq_nil_or_concat' before with rfl | ⟨before, c, rfl⟩
    · rfl
    · have hpieces : ∀ after, pieces (before ++ [c] ++ after) =
          pieces before ++ ([[c]] ++ pieces after) := by
        intro after
        rw [List.append_assoc]
        exact pieces_append_delimiter before after (hlast c (by simp))
      have hbefore := hpieces []
      rw [List.append_nil] at hbefore
      simp only [lexemeChars, hpieces after, hbefore, List.map_append, List.filter_append]
      simp [pieces]
  · cases after with
    | nil => simp
    | cons c after =>
      have hc := hfirst c rfl
      simp [lexemeChars, pieces_append_delimiter before after hc, pieces, hc]

theorem lexemeChars_cons_of_blank {c : Char} (h : Text.isBlank c = true) (cs : List Char) :
    lexemeChars (c :: cs) = lexemeChars cs := by
  by_cases hc : c = ' '
  · subst hc
    exact lexemeChars_append_space [] cs
  · have hdelimiter : ¬isDelimiter c = true := by
      intro hdelimiter
      simp [not_blank_of_isDelimiter hdelimiter hc] at h
    rw [lexemeChars, pieces, if_neg hdelimiter]
    split
    next hnil => exact absurd hnil (pieces_ne_nil cs)
    next run rest hsplit => simp [lexemeChars, hsplit, Text.strip_cons_of_blank h]

theorem lexemeChars_append_of_blank {c : Char} (h : Text.isBlank c = true) (cs : List Char) :
    lexemeChars (cs ++ [c]) = lexemeChars cs := by
  by_cases hc : c = ' '
  · subst hc
    simpa using lexemeChars_append_space cs []
  · have hdelimiter : ∀ d ∈ [c], isDelimiter d = false := by
      rw [List.forall_mem_singleton]
      by_contra hdelimiter
      simp [not_blank_of_isDelimiter (by simpa using hdelimiter) hc] at h
    obtain ⟨init, last, hcs, hrun⟩ := pieces_append_run cs hdelimiter
    simp [lexemeChars, hcs, hrun, Text.strip_append_of_blank h]

/-- Blanks behind a text belong to no lexeme. -/
theorem lexemeChars_append_blanks (cs : List Char) {blanks : List Char}
    (h : ∀ c ∈ blanks, Text.isBlank c = true) : lexemeChars (cs ++ blanks) = lexemeChars cs := by
  induction blanks generalizing cs with
  | nil => rw [List.append_nil]
  | cons c blanks ih =>
    obtain ⟨hc, hblanks⟩ := List.forall_mem_cons.mp h
    rw [← List.singleton_append, ← List.append_assoc, ih _ hblanks, lexemeChars_append_of_blank hc]

/-- Nor do blanks in front of it. -/
theorem lexemeChars_blanks_append (cs : List Char) {blanks : List Char}
    (h : ∀ c ∈ blanks, Text.isBlank c = true) : lexemeChars (blanks ++ cs) = lexemeChars cs := by
  induction blanks with
  | nil => rfl
  | cons c blanks ih =>
    obtain ⟨hc, hblanks⟩ := List.forall_mem_cons.mp h
    rw [List.cons_append, lexemeChars_cons_of_blank hc, ih hblanks]

/-- Blanks at the ends of a text belong to no lexeme. -/
theorem lexemeChars_strip (cs : List Char) : lexemeChars (Text.strip cs) = lexemeChars cs := by
  have hblank : ∀ ds : List Char, ∀ c ∈ ds.takeWhile Text.isBlank, Text.isBlank c = true :=
    fun ds c hc => List.all_eq_true.mp List.all_takeWhile c hc
  have hleft : lexemeChars (Text.stripLeft cs) = lexemeChars cs := by
    rw [Text.stripLeft, ← lexemeChars_blanks_append _ (hblank cs),
      List.takeWhile_append_dropWhile]
  have hright : ∀ ds, lexemeChars (Text.stripRight ds) = lexemeChars ds := by
    intro ds
    have hsplit : Text.stripRight ds ++ (ds.reverse.takeWhile Text.isBlank).reverse = ds := by
      rw [Text.stripRight, ← List.reverse_append, List.takeWhile_append_dropWhile,
        List.reverse_reverse]
    rw [← lexemeChars_append_blanks (Text.stripRight ds) fun c hc =>
      hblank ds.reverse c (List.mem_reverse.mp hc), hsplit]
  rw [Text.strip, hright, hleft]

/-- Only a text of blanks has no lexemes. -/
theorem lexemeChars_eq_nil_iff {cs : List Char} :
    lexemeChars cs = [] ↔ ∀ c ∈ cs, Text.isBlank c = true := by
  constructor
  · intro h c hc
    by_contra hblank
    rw [← flatten_pieces cs] at hc
    obtain ⟨piece, hpiece, hmem⟩ := List.mem_flatten.mp hc
    have hstrip : Text.strip piece = [] := by
      simpa using List.filter_eq_nil_iff.mp h _ (List.mem_map_of_mem hpiece)
    exact hblank (Text.strip_eq_nil_iff.mp hstrip c hmem)
  · intro h
    have hstrip := lexemeChars_strip cs
    rw [Text.strip_eq_nil_iff.mpr h] at hstrip
    exact hstrip.symm

/-- A run of characters that are neither blank nor delimiters is one lexeme. -/
theorem lexemeChars_of_run {cs : List Char}
    (h : ∀ c ∈ cs, Text.isBlank c = false ∧ isDelimiter c = false) (ne : cs ≠ []) :
    lexemeChars cs = [cs] := by
  have hstrip : Text.strip cs = cs := Text.strip_of_not_blank fun c hc => (h c hc).1
  rw [lexemeChars, pieces_of_run fun c hc => (h c hc).2]
  simp [hstrip, ne]

/-- A stripped text with one lexeme, without delimiters, is that lexeme: a space inside it would
have a lexeme on either side. -/
theorem eq_of_lexemeChars_eq_singleton {cs lexeme : List Char} (hs : Text.strip cs = cs)
    (h : lexemeChars cs = [lexeme]) (hl : ∀ c ∈ lexeme, isDelimiter c = false) : cs = lexeme := by
  by_cases hrun : ∀ c ∈ cs, isDelimiter c = false
  · have hmem : lexeme ∈ lexemeChars cs := by simp [h]
    rw [lexemeChars, pieces_of_run hrun, List.map_singleton, hs] at hmem
    exact (List.mem_singleton.mp (List.mem_filter.mp hmem).1).symm
  · push Not at hrun
    obtain ⟨c, hc, hdelimiter⟩ := hrun
    obtain ⟨before, after, rfl⟩ := List.append_of_mem hc
    rw [ne_eq, Bool.not_eq_false] at hdelimiter
    by_cases hspace : c = ' '
    · subst hspace
      have hbefore : lexemeChars before ≠ [] := by
        rw [Ne, lexemeChars_eq_nil_iff]
        intro hblank
        have hhead := Text.head?_strip (before ++ ' ' :: after)
        rw [hs] at hhead
        cases before with
        | nil => exact absurd (hhead ' ' rfl) (by decide)
        | cons x before => simp [hblank x] at hhead
      have hafter : lexemeChars after ≠ [] := by
        rw [Ne, lexemeChars_eq_nil_iff]
        intro hblank
        have hlast := Text.getLast?_strip (before ++ ' ' :: after)
        rw [hs] at hlast
        rcases List.eq_nil_or_concat' after with rfl | ⟨after, x, rfl⟩
        · exact absurd (hlast ' ' (by simp)) (by decide)
        · exact absurd (hlast x (by simp [List.getLast?_cons])) (by simp [hblank x])
      rw [lexemeChars_append_space, List.append_eq_singleton_iff] at h
      rcases h with ⟨hnil, -⟩ | ⟨-, hnil⟩
      · exact absurd hnil hbefore
      · exact absurd hnil hafter
    · have hmem : [c] ∈ lexemeChars (before ++ c :: after) := by
        simp [lexemeChars_append_delimiter before after hdelimiter hspace]
      rw [h, List.mem_singleton] at hmem
      simp [← hmem, hdelimiter] at hl

/-! ## Rows of digits -/

/-- The codes of the digits. -/
theorem toNat_of_isDigit {c : Char} (h : c.isDigit = true) : 48 ≤ c.toNat ∧ c.toNat ≤ 57 := by
  simpa [Char.isDigit, UInt32.le_iff_toNat_le] using h

/-- No digit is a blank or a delimiter. -/
theorem not_blank_of_isDigit {c : Char} (h : c.isDigit = true) :
    Text.isBlank c = false ∧ isDelimiter c = false := by
  have hrange := toNat_of_isDigit h
  constructor
  · rw [Text.isBlank]
    generalize c.toNat = n at hrange
    simp only [Bool.or_eq_false_iff, Bool.and_eq_false_iff, decide_eq_false_iff_not,
      beq_eq_false_iff_ne]
    omega
  · by_contra hdelimiter
    have hless : c.toNat < 48 := by
      rcases isDelimiter_iff.mp (by simpa using hdelimiter) with ⟨op, rfl⟩ | rfl | rfl | rfl
      · cases op <;> decide
      all_goals decide
    omega

/-- Two rows of digits around an operator are cut into three lexemes. -/
theorem lexemes_digits_operator (op : Operator) {lefts rights : List Char}
    (hl : ∀ c ∈ lefts, c.isDigit = true) (hr : ∀ c ∈ rights, c.isDigit = true)
    (hl' : lefts ≠ []) (hr' : rights ≠ []) :
    lexemes (String.ofList (lefts ++ op.char :: rights)) =
      [String.ofList lefts, op.symbol, String.ofList rights] := by
  have hdelimiter : isDelimiter op.char = true ∧ op.char ≠ ' ' := by cases op <;> decide
  have hsymbol : String.ofList [op.char] = op.symbol := by cases op <;> decide
  rw [lexemes, String.toList_ofList,
    lexemeChars_append_delimiter lefts rights hdelimiter.1 hdelimiter.2,
    lexemeChars_of_run (fun c hc => not_blank_of_isDigit (hl c hc)) hl',
    lexemeChars_of_run (fun c hc => not_blank_of_isDigit (hr c hc)) hr']
  simp [hsymbol]

end LedgerAmount
