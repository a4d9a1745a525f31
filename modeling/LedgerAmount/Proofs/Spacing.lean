import LedgerAmount.Proofs.Groups
import Mathlib.Logic.Relation

/-!
# Spacing

Nothing but blanks is lost between a text and its lexemes, and lexemes that are written down with
spaces between them are read back. Which blanks stand at the ends of a text or beside a delimiter
makes no difference to its outcome; inside a run of other characters only a space separates.
-/

namespace LedgerAmount

open Token

/-! ## The form of a lexeme -/

/-- Characters that stay together: no delimiters, and no blanks at either end. Blanks other than the
space may stand between them. -/
structure IsRun (cs : List Char) : Prop where
  ne_nil : cs ≠ []
  delimiter : ∀ c ∈ cs, isDelimiter c = false
  first : ∀ c ∈ cs.head?, Text.isBlank c = false
  last : ∀ c ∈ cs.getLast?, Text.isBlank c = false

/-- What can be a lexeme, whether it means something or not: an operator, a parenthesis or a run. -/
def IsLexemeForm (lexeme : String) : Prop :=
  (∃ op : Operator, lexeme = op.symbol) ∨ lexeme = "(" ∨ lexeme = ")" ∨ IsRun lexeme.toList

/-- A delimiter but the space is a lexeme. -/
theorem isLexemeForm_of_isDelimiter {c : Char} (h : isDelimiter c = true) (hc : c ≠ ' ') :
    IsLexemeForm (String.ofList [c]) := by
  rcases isDelimiter_iff.mp h with ⟨op, rfl⟩ | rfl | rfl | rfl
  · exact .inl ⟨op, rfl⟩
  · exact .inr (.inl rfl)
  · exact .inr (.inr (.inl rfl))
  · exact absurd rfl hc

/-- The lexemes of a text have the form of lexemes. -/
theorem isLexemeForm_of_mem_lexemes {text lexeme : String} (h : lexeme ∈ lexemes text) :
    IsLexemeForm lexeme := by
  simp only [lexemes, lexemeChars, List.mem_map, List.mem_filter] at h
  obtain ⟨_, ⟨⟨piece, hpiece, rfl⟩, hne⟩, rfl⟩ := h
  rw [Bool.not_eq_true', List.isEmpty_eq_false_iff] at hne
  rcases mem_pieces_cases hpiece with hrun | ⟨c, hc, rfl⟩
  · refine .inr (.inr (.inr ?_))
    rw [String.toList_ofList]
    exact ⟨hne, fun c hc => hrun c (Text.mem_of_mem_strip hc), Text.head?_strip piece,
      Text.getLast?_strip piece⟩
  · by_cases hspace : c = ' '
    · subst hspace
      exact absurd (by decide) hne
    · rw [Text.strip_of_not_blank (by simpa using not_blank_of_isDelimiter hc hspace)]
      exact isLexemeForm_of_isDelimiter hc hspace

/-- A text without its blanks has the characters of its lexemes without theirs. -/
theorem filter_join_lexemes (text : String) :
    (String.join (lexemes text)).toList.filter (!Text.isBlank ·) =
      text.toList.filter (!Text.isBlank ·) := by
  have hstrip : ∀ piece : List Char, (List.filter (!Text.isBlank ·) ∘ Text.strip) piece =
      piece.filter (!Text.isBlank ·) := Text.filter_strip
  have hjoin : (String.join (lexemes text)).toList = (lexemeChars text.toList).flatten := by
    simp [lexemes, List.flatMap_def, Function.comp_def]
  calc
    (String.join (lexemes text)).toList.filter (!Text.isBlank ·) =
        ((pieces text.toList).map Text.strip).flatten.filter (!Text.isBlank ·) := by
      rw [hjoin, lexemeChars, List.flatten_filter_not_isEmpty]
    _ = (pieces text.toList).flatten.filter (!Text.isBlank ·) := by
      rw [List.filter_flatten, List.filter_flatten, List.map_map, funext hstrip]
    _ = text.toList.filter (!Text.isBlank ·) := by rw [flatten_pieces]

/-! ## Lexemes with spaces between them -/

/-- Words with spaces between them, at least one between any two. -/
inductive Spaced : List String → String → Prop
  | nil : Spaced [] ""
  | single (word : String) : Spaced [word] word
  | cons (word : String) (gap : Nat) {next : String} {words : List String} {rest : String}
      (tail : Spaced (next :: words) rest) :
      Spaced (word :: next :: words) (word ++ String.ofList (List.replicate (gap + 1) ' ') ++ rest)

theorem spaced_intercalate (words : List String) : Spaced words (String.intercalate " " words) := by
  induction words with
  | nil => exact .nil
  | cons word words ih =>
    cases words with
    | nil =>
      rw [String.intercalate_singleton]
      exact .single word
    | cons next words =>
      rw [String.intercalate_cons_cons]
      exact .cons word 0 ih

/-- What has the form of a lexeme is the only lexeme of itself. -/
theorem IsLexemeForm.lexemes_eq {word : String} (h : IsLexemeForm word) :
    lexemes word = [word] := by
  rcases h with ⟨op, rfl⟩ | rfl | rfl | hrun
  · cases op <;> decide
  · decide
  · decide
  · rw [lexemes, lexemeChars, pieces_of_run hrun.delimiter]
    simp [Text.strip_eq_self hrun.first hrun.last, hrun.ne_nil]

/-- Spaces between two texts separate their lexemes. -/
theorem lexemes_append_spaces (before after : String) (gap : Nat) :
    lexemes (before ++ String.ofList (List.replicate (gap + 1) ' ') ++ after) =
      lexemes before ++ lexemes after := by
  have hspaces : ∀ c ∈ List.replicate gap ' ', Text.isBlank c = true := by
    intro c hc
    rw [List.eq_of_mem_replicate hc]
    decide
  have hchars : (before ++ String.ofList (List.replicate (gap + 1) ' ') ++ after).toList =
      before.toList ++ ' ' :: (List.replicate gap ' ' ++ after.toList) := by
    simp [List.replicate_succ]
  rw [lexemes, hchars, lexemeChars_append_space, lexemeChars_blanks_append _ hspaces,
    List.map_append, lexemes, lexemes]

/-- Words of the form of lexemes are read back, however many spaces stand between them. -/
theorem Spaced.lexemes_eq {words : List String} {text : String} (h : Spaced words text)
    (hform : ∀ word ∈ words, IsLexemeForm word) : lexemes text = words := by
  induction h with
  | nil => rfl
  | single word => exact (hform word (by simp)).lexemes_eq
  | cons word gap tail ih =>
    have hword := (hform word (by simp)).lexemes_eq
    have htail := ih fun other hother => hform other (List.mem_cons_of_mem _ hother)
    rw [lexemes_append_spaces, hword, htail]
    rfl

/-- Tokens are read back from their texts with spaces between them. -/
theorem tokenize_intercalate {text : String} {tokens : List Token}
    (h : tokenize text = .ok tokens) :
    tokenize (String.intercalate " " (tokens.map Token.text)) = .ok tokens := by
  obtain ⟨htexts, htyped⟩ := tokenize_eq_ok_iff.mp h
  have hform : ∀ word ∈ tokens.map Token.text, IsLexemeForm word := by
    intro word hword
    rw [htexts] at hword
    exact isLexemeForm_of_mem_lexemes hword
  exact tokenize_eq_ok_iff.mpr ⟨((spaced_intercalate _).lexemes_eq hform).symm, htyped⟩

/-- Cutting a text into lexemes loses nothing but blanks and undoes writing lexemes down with spaces
between them. -/
theorem lexemes_lossless :
    (∀ text, (∀ lexeme ∈ lexemes text, IsLexemeForm lexeme) ∧
      (String.join (lexemes text)).toList.filter (!Text.isBlank ·) =
        text.toList.filter (!Text.isBlank ·)) ∧
    (∀ words text, (∀ word ∈ words, IsLexemeForm word) → Spaced words text →
      lexemes text = words) ∧
    ∀ text tokens, tokenize text = .ok tokens →
      tokenize (String.intercalate " " (tokens.map Token.text)) = .ok tokens := by
  refine ⟨fun text => ⟨fun lexeme => isLexemeForm_of_mem_lexemes, filter_join_lexemes text⟩, ?_, ?_⟩
  · intro words text hform hspaced
    exact hspaced.lexemes_eq hform
  · intro text tokens ht
    exact tokenize_intercalate ht

/-- A tab inside a run stays in its lexeme, and tokens without spaces are read back with them. -/
theorem lexemes_lossless_tab :
    let words := ["1\t2", "(", "-"]
    let tokens : List Token := [.number "1.50" ⟨false, 150, -2⟩, .operator "*", .leftParen "("]
    (∀ word ∈ words, IsLexemeForm word) ∧ Spaced words ("1\t2" ++ "   " ++ ("(" ++ " " ++ "-")) ∧
      lexemes ("1\t2" ++ "   " ++ ("(" ++ " " ++ "-")) = words ∧
      tokenize "1.50\n*(" = .ok tokens ∧ tokenize "1.50 * (" = .ok tokens := by
  intro words tokens
  have hself : ∀ word ∈ words, word ∈ lexemes word := by decide +kernel
  have hform : ∀ word ∈ words, IsLexemeForm word := fun word hword =>
    isLexemeForm_of_mem_lexemes (hself word hword)
  have hspaced : Spaced words ("1\t2" ++ "   " ++ ("(" ++ " " ++ "-")) :=
    .cons "1\t2" 2 (.cons "(" 0 (.single "-"))
  have ht : tokenize "1.50\n*(" = .ok tokens := by decide +kernel
  exact ⟨hform, hspaced, lexemes_lossless.2.1 _ _ hform hspaced, ht, lexemes_lossless.2.2 _ _ ht⟩

/-! ## Blanks beside delimiters -/

/-- A place between two texts that is an end of the whole text or lies beside a delimiter. -/
def IsBorder (before after : String) : Prop :=
  (∀ c ∈ before.toList.getLast?, isDelimiter c = true) ∨
    ∀ c ∈ after.toList.head?, isDelimiter c = true

/-- A text, and the same text with blanks put in at an end of it or beside a delimiter. -/
inductive PutIn : String → String → Prop
  | mk (before blanks after : String) (blank : ∀ c ∈ blanks.toList, Text.isBlank c = true)
      (border : IsBorder before after) : PutIn (before ++ after) (before ++ blanks ++ after)

/-- Blanks beside a delimiter belong to no lexeme. -/
theorem PutIn.lexemes_eq {text other : String} (h : PutIn text other) :
    lexemes other = lexemes text := by
  obtain ⟨before, blanks, after, blank, border⟩ := h
  have hchars : lexemeChars (before.toList ++ blanks.toList ++ after.toList) =
      lexemeChars (before.toList ++ after.toList) := by
    rw [lexemeChars_append border]
    rcases border with hlast | hfirst
    · rw [List.append_assoc, lexemeChars_append (.inl hlast), lexemeChars_blanks_append _ blank]
    · rw [lexemeChars_append (.inr hfirst), lexemeChars_append_blanks _ blank]
  rw [lexemes, lexemes, String.toList_append, String.toList_append, hchars, String.toList_append]

/-- Texts that come from one another by putting blanks in and taking them out have the same
lexemes. -/
theorem lexemes_eq_of_eqvGen {text other : String} (h : Relation.EqvGen PutIn text other) :
    lexemes other = lexemes text := by
  induction h with
  | rel text other hput => exact hput.lexemes_eq
  | refl text => rfl
  | symm text other _ ih => exact ih.symm
  | trans text between other _ _ ih ih' => exact ih'.trans ih

variable {settings : EvaluatorSettings}

/-- Blanks at the ends of a text and beside its delimiters, put in or taken out any number of times,
change nothing but the text that the outcome names. -/
theorem evaluate_respaced {text other : String} (h : Relation.EqvGen PutIn text other) :
    evaluate settings.rule other =
      (evaluate settings.rule text).map fun outcome => { outcome with expression := other } := by
  have htokens : tokenize other = tokenize text := by
    rw [tokenize, tokenize, lexemes_eq_of_eqvGen h]
  have hvalue : evaluateText settings.rule other = evaluateText settings.rule text := by
    rw [evaluateText, evaluateText, htokens]
  rw [evaluate, evaluate, Outcome.ofEvaluation_map, hvalue]

/-- The space before the operator is taken out and a no-break space put in behind it: `x` is still the
symbol that means nothing. -/
theorem evaluate_respaced_unknown :
    let rule := EvaluatorSettings.default.rule
    Relation.EqvGen PutIn "2 +x" "2+\u00a0x" ∧
      evaluate rule "2 +x" = .ok ⟨"2 +x", .error (.unknownSymbol "x")⟩ ∧
      evaluate rule "2+\u00a0x" = .ok ⟨"2+\u00a0x", .error (.unknownSymbol "x")⟩ := by
  intro rule
  have hfront : IsBorder "2" "+x" := .inr (by rintro _ ⟨⟩; decide)
  have hbehind : IsBorder "2+" "x" := .inl (by rintro _ ⟨⟩; decide)
  have hout : PutIn "2+x" "2 +x" :=
    .mk "2" " " "+x" (List.forall_mem_singleton.mpr (by decide)) hfront
  have hin : PutIn "2+x" "2+\u00a0x" :=
    .mk "2+" "\u00a0" "x" (List.forall_mem_singleton.mpr (by decide)) hbehind
  have h : Relation.EqvGen PutIn "2 +x" "2+\u00a0x" :=
    .trans _ _ _ (.symm _ _ (.rel _ _ hout)) (.rel _ _ hin)
  have hvalue : evaluate rule "2 +x" = .ok ⟨"2 +x", .error (.unknownSymbol "x")⟩ :=
    evaluate_eq_rejected_iff.mpr (by decide +kernel)
  refine ⟨h, hvalue, ?_⟩
  rw [evaluate_respaced h, hvalue]
  rfl

end LedgerAmount
