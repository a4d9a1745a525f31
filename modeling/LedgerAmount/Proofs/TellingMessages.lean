import LedgerAmount.Expression.Outcome
import Mathlib.Algebra.Group.Nat.Defs
import Mathlib.Data.List.Basic

/-!
# Messages that tell a rejection

What the prompt says of a rejected amount can be taken apart again: it tells what is wrong, the
symbol at fault and the expression. The parts stand one after the other without any mark of their
lengths, so each of them has to show where it ends. A quoted text does, whatever marks, escapes and
words it holds.
-/

namespace LedgerAmount

namespace Text

/-! ## Writing that shows where it ends -/

variable {α : Type} {write : α → List Char}

/-- What is written at the front of a text can be told from the text, whatever follows it there. -/
def IsSelfDelimiting (write : α → List Char) : Prop :=
  ∀ ⦃a b : α⦄ ⦃s t : List Char⦄, write a ++ s = write b ++ t → a = b ∧ s = t

theorem IsSelfDelimiting.injective (h : IsSelfDelimiting write) : Function.Injective write := by
  intro a b heq
  exact (h (congrArg (· ++ []) heq)).1

/-- What can be read from the front of a text shows where it ends. -/
theorem isSelfDelimiting_of_read {read : List Char → Option (α × List Char)}
    (h : ∀ a rest, read (write a ++ rest) = some (a, rest)) : IsSelfDelimiting write := by
  intro a b s t heq
  have hread := h a s
  rw [heq, h b t] at hread
  obtain ⟨rfl, rfl⟩ := Prod.mk.inj (Option.some.inj hread)
  exact ⟨rfl, rfl⟩

/-- So does what can be told by its first character. -/
theorem isSelfDelimiting_of_head? (hne : ∀ a, write a ≠ [])
    (h : ∀ a b, (write a).head? = (write b).head? → a = b) : IsSelfDelimiting write := by
  intro a b s t heq
  have hhead := congrArg List.head? heq
  rw [List.head?_append_of_ne_nil _ (hne a), List.head?_append_of_ne_nil _ (hne b)] at hhead
  obtain rfl := h a b hhead
  exact ⟨rfl, List.append_cancel_left heq⟩

/-- A row of things that are written so can be told as well, if a mark ends it that begins none of
them. -/
theorem IsSelfDelimiting.flatMap_append (h : IsSelfDelimiting write) {mark : Char}
    (hmark : ∀ a rest tail, write a ++ rest ≠ mark :: tail) {row other : List α} {s t : List Char}
    (heq : row.flatMap write ++ mark :: s = other.flatMap write ++ mark :: t) :
    row = other ∧ s = t := by
  induction row generalizing other with
  | nil =>
    cases other with
    | nil => exact ⟨rfl, (List.cons.inj heq).2⟩
    | cons b other =>
      rw [List.flatMap_cons, List.append_assoc] at heq
      exact absurd heq.symm (hmark b _ _)
  | cons a row ih =>
    rw [List.flatMap_cons, List.append_assoc] at heq
    cases other with
    | nil => exact absurd heq (hmark a _ _)
    | cons b other =>
      rw [List.flatMap_cons, List.append_assoc] at heq
      obtain ⟨rfl, hrest⟩ := h heq
      obtain ⟨rfl, rfl⟩ := ih hrest
      exact ⟨rfl, rfl⟩

/-! ## Quoted texts -/

/-- The value of a hexadecimal digit. -/
def hexValue (c : Char) : Nat := if c.isDigit then c.toNat - 48 else c.toNat - 87

/-- The number that a row of hexadecimal digits stands for. -/
def ofHexDigits (cs : List Char) : Nat := cs.foldl (fun n c => 16 * n + hexValue c) 0

/-- A number can be told by its last digits up to a multiple of the power of sixteen they reach. -/
theorem ofHexDigits_hexDigits (width n : Nat) :
    ofHexDigits (hexDigits width n) = n % 16 ^ width := by
  have hvalue : ∀ d < 16, hexValue (Nat.digitChar d) = d := by decide
  induction width generalizing n with
  | zero => simp [hexDigits, ofHexDigits, Nat.mod_one]
  | succ width ih =>
    have hsnoc : ofHexDigits (hexDigits (width + 1) n) =
        16 * ofHexDigits (hexDigits width (n / 16)) + hexValue (Nat.digitChar (n % 16)) := by
      simp [hexDigits, ofHexDigits, List.foldl_append]
    rw [hsnoc, ih, hvalue _ (Nat.mod_lt n (by decide)), Nat.pow_succ', Nat.mod_mul]
    omega

/-- Reads the first character of an escaped text. -/
def readChar : List Char → Option (Char × List Char)
  | '\x5C' :: 'n' :: rest => some ('\n', rest)
  | '\x5C' :: 'r' :: rest => some ('\r', rest)
  | '\x5C' :: 't' :: rest => some ('\t', rest)
  | '\x5C' :: 'x' :: rest => some (Char.ofNat (ofHexDigits (rest.take 2)), rest.drop 2)
  | '\x5C' :: 'u' :: rest => some (Char.ofNat (ofHexDigits (rest.take 4)), rest.drop 4)
  | '\x5C' :: 'U' :: rest => some (Char.ofNat (ofHexDigits (rest.take 8)), rest.drop 8)
  | '\x5C' :: c :: rest => some (c, rest)
  | c :: rest => some (c, rest)
  | [] => none

theorem readChar_escapeHidden (c : Char) (rest : List Char) :
    readChar (escapeHidden c ++ rest) = some (c, rest) := by
  have hcode : ∀ width, c.toNat < 16 ^ width →
      some (Char.ofNat (ofHexDigits ((hexDigits width c.toNat ++ rest).take width)),
        (hexDigits width c.toNat ++ rest).drop width) = some (c, rest) := by
    intro width hwidth
    rw [List.take_left' (length_hexDigits ..), List.drop_left' (length_hexDigits ..),
      ofHexDigits_hexDigits, Nat.mod_eq_of_lt hwidth, Char.ofNat_toNat]
  rw [escapeHidden]
  split
  next h => subst h; rfl
  split
  next h => subst h; rfl
  split
  next h => subst h; rfl
  split
  next h => exact hcode 2 h
  split
  next h => exact hcode 4 h
  next => exact hcode 8 c.val.toNat_lt

/-- A character is read back from its escape, whichever of the two marks the text stands between. -/
theorem readChar_escapeChar {mark : Char} (hmark : mark = singleMark ∨ mark = doubleMark)
    (c : Char) (rest : List Char) : readChar (escapeChar mark c ++ rest) = some (c, rest) := by
  rw [escapeChar]
  split
  next hspecial =>
    rcases hspecial with rfl | rfl
    · rcases hmark with rfl | rfl <;> rfl
    · rfl
  next hspecial =>
    split
    next =>
      have hplain : c ≠ '\x5C' := fun h => hspecial (.inr h)
      simp [readChar, hplain]
    next => exact readChar_escapeHidden c rest

theorem quoteMark_cases (cs : List Char) :
    quoteMark cs = singleMark ∨ quoteMark cs = doubleMark := by
  rw [quoteMark]
  split
  · exact .inr rfl
  · exact .inl rfl

/-- No escape begins with the mark that ends the text: only the mark itself is read from there, and
this one has a backslash before it. -/
theorem escapeChar_append_ne {mark : Char} (hmark : mark = singleMark ∨ mark = doubleMark)
    (c : Char) (rest tail : List Char) : escapeChar mark c ++ rest ≠ mark :: tail := by
  intro heq
  have hread := readChar_escapeChar hmark c rest
  have hself : readChar (mark :: tail) = some (mark, tail) := by
    rcases hmark with rfl | rfl <;> rfl
  rw [heq, hself] at hread
  obtain ⟨rfl, rfl⟩ := Prod.mk.inj (Option.some.inj hread)
  have hlength := congrArg List.length heq
  simp [escapeChar] at hlength

/-- A quoted text shows where it ends. -/
theorem isSelfDelimiting_quoteChars : IsSelfDelimiting quoteChars := by
  intro cs other s t heq
  have hmark := quoteMark_cases cs
  simp only [quoteChars, List.cons_append, List.append_assoc, List.nil_append,
    List.cons.injEq] at heq
  obtain ⟨hsame, heq⟩ := heq
  rw [← hsame] at heq
  exact (isSelfDelimiting_of_read (readChar_escapeChar hmark)).flatMap_append
    (escapeChar_append_ne hmark) heq

end Text

open Text

/-! ## What the prompt tells -/

/-- A kind of rejection can be told by the first letter of its phrase. -/
theorem RejectionKind.isSelfDelimiting_phrase :
    IsSelfDelimiting fun kind : RejectionKind => kind.phrase.toList := by
  apply isSelfDelimiting_of_head?
  · intro kind
    cases kind <;> decide
  · intro kind other
    cases kind <;> cases other <;> decide

/-- The symbol that the prompt names: an empty one is as good as none. -/
def Rejection.namedSymbol (why : Rejection) : Option String := why.symbol.filter (· ≠ "")

/-- What the prompt puts between the phrase and the expression, after a blank. -/
def symbolChars : Option String → List Char
  | none => "in ".toList
  | some symbol => quoteChars symbol.toList ++ " in ".toList

/-- It shows where it ends: the word after the phrase is no quoted text. -/
theorem isSelfDelimiting_symbolChars : IsSelfDelimiting symbolChars := by
  have hword : ∀ cs rest tail : List Char, "in ".toList ++ tail ≠ quoteChars cs ++ rest := by
    intro cs rest tail heq
    have hmark : 'i' = quoteMark cs := (List.cons.inj heq).1
    rcases quoteMark_cases cs with h | h
    · exact absurd (hmark.trans h) (by decide)
    · exact absurd (hmark.trans h) (by decide)
  intro symbol other s t heq
  rcases symbol with _ | symbol <;> rcases other with _ | other
  · exact ⟨rfl, List.append_cancel_left heq⟩
  · rw [symbolChars, symbolChars, List.append_assoc] at heq
    exact absurd heq (hword _ _ _)
  · rw [symbolChars, symbolChars, List.append_assoc] at heq
    exact absurd heq.symm (hword _ _ _)
  · rw [symbolChars, symbolChars, List.append_assoc, List.append_assoc] at heq
    obtain ⟨hsymbol, hrest⟩ := isSelfDelimiting_quoteChars heq
    rw [String.toList_inj.mp hsymbol]
    exact ⟨rfl, List.append_cancel_left hrest⟩

namespace Outcome

variable {one other : Outcome} {why why' : Rejection}

/-- What the prompt says of a rejection. -/
theorem toList_describe_of_rejected (h : one.answer = .error why) : one.describe.toList =
    "Invalid amount: ".toList ++ (why.kind.phrase.toList ++
      ' ' :: (symbolChars why.namedSymbol ++ quoteChars one.expression.toList)) := by
  obtain ⟨kind, message, symbol⟩ := why
  rw [describe, h]
  rcases symbol with _ | symbol
  · simp [Rejection.namedSymbol, symbolChars, Text.quote]
  · by_cases hempty : symbol = ""
    · subst hempty
      simp [Rejection.namedSymbol, symbolChars, Text.quote, Option.filter_some]
    · simp [Rejection.namedSymbol, symbolChars, Text.quote, Option.filter_some, hempty]

/-- The prompt says the same of two rejected amounts exactly if they are rejected for the same kind
of reason, in the same expression and with the same symbol, an empty one counting as none. Of an
accepted amount it never says what it says of a rejected one. -/
theorem describe_tells_rejection (h : one.answer = .error why) (h' : other.answer = .error why') :
    (one.describe = other.describe ↔ why.kind = why'.kind ∧ one.expression = other.expression ∧
      why.namedSymbol = why'.namedSymbol) ∧
    ∀ (accepted : Outcome) (value : Decimal), accepted.answer = .ok value →
      one.describe ≠ accepted.describe := by
  refine ⟨⟨fun heq => ?_, fun hsame => ?_⟩, fun accepted value hvalue heq => ?_⟩
  · have hchars := congrArg String.toList heq
    rw [toList_describe_of_rejected h, toList_describe_of_rejected h'] at hchars
    obtain ⟨hkind, hchars⟩ := RejectionKind.isSelfDelimiting_phrase (List.append_cancel_left hchars)
    obtain ⟨hsymbol, hchars⟩ := isSelfDelimiting_symbolChars (List.cons.inj hchars).2
    have htext := isSelfDelimiting_quoteChars.injective hchars
    exact ⟨hkind, String.toList_inj.mp htext, hsymbol⟩
  · obtain ⟨hkind, htext, hsymbol⟩ := hsame
    rw [← String.toList_inj, toList_describe_of_rejected h, toList_describe_of_rejected h', hkind,
      htext, hsymbol]
  · have hchars := congrArg String.toList heq
    rw [toList_describe_of_rejected h, describe, hvalue, String.toList_append] at hchars
    exact absurd (List.cons.inj hchars).1 (by decide)

/-- A symbol with marks and the word between symbol and expression is not taken for the end of the
symbol. An empty symbol is not named. -/
theorem describe_tells_rejection_marks :
    let one : Outcome := ⟨"z", .error (.unknownSymbol "x' in '\"y")⟩
    let other : Outcome := ⟨"\"y' in 'z", .error (.unknownSymbol "x")⟩
    let unnamed : Outcome := ⟨"1/0", .error .divisionByZero⟩
    let empty : Outcome := ⟨"1/0", .error { Rejection.divisionByZero with symbol := some "" }⟩
    let accepted : Outcome := ⟨"z", .ok ⟨false, 0, 0⟩⟩
    one.describe = "Invalid amount: unrecognized symbol 'x\\' in \\'\"y' in 'z'" ∧
      other.describe = "Invalid amount: unrecognized symbol 'x' in '\"y\\' in \\'z'" ∧
      one.describe ≠ other.describe ∧ unnamed.describe = empty.describe ∧
      one.describe ≠ accepted.describe := by
  intro one other unnamed empty accepted
  have hone : one.answer = .error (.unknownSymbol "x' in '\"y") := rfl
  have hother : other.answer = .error (.unknownSymbol "x") := rfl
  have hunnamed : unnamed.answer = .error .divisionByZero := rfl
  have hempty : empty.answer = .error { Rejection.divisionByZero with symbol := some "" } := rfl
  refine ⟨by decide +kernel, by decide +kernel, fun heq => ?_, ?_, ?_⟩
  · exact absurd ((describe_tells_rejection hone hother).1.mp heq).2.1 (by decide)
  · exact (describe_tells_rejection hunnamed hempty).1.mpr ⟨rfl, rfl, by decide⟩
  · exact (describe_tells_rejection hone hother).2 accepted _ rfl

end Outcome

end LedgerAmount
