import LedgerAmount.Text.Printable

/-!
# Quoted text

A text shown inside a message stands between quote marks, with a backslash before whatever could
end it early and an escape for every character that is not printable. The marks are single, or
double where that saves escaping: for a text that holds single quotes and no double one.
-/

namespace LedgerAmount.Text

/-- The single quote mark. -/
def singleMark : Char := '\x27'

/-- The double quote mark. -/
def doubleMark : Char := '\x22'

/-- The backslash, which begins every escape. -/
def backslash : Char := '\x5C'

/-- The mark that a text is quoted with. -/
def quoteMark (cs : List Char) : Char :=
  if cs.contains singleMark && !cs.contains doubleMark then doubleMark else singleMark

/-- The last `width` hexadecimal digits of a number, the highest first. -/
def hexDigits : Nat → Nat → List Char
  | 0, _ => []
  | width + 1, n => hexDigits width (n / 16) ++ [Nat.digitChar (n % 16)]

@[simp] theorem length_hexDigits (width n : Nat) : (hexDigits width n).length = width := by
  induction width generalizing n with
  | zero => rfl
  | succ width ih => simp [hexDigits, ih]

/-- The escape of a character that is not printable: by letter for the common controls, else by
code point in the narrowest of three widths. -/
def escapeHidden (c : Char) : List Char :=
  if c = '\n' then [backslash, 'n']
  else if c = '\r' then [backslash, 'r']
  else if c = '\t' then [backslash, 't']
  else if c.toNat < 0x100 then backslash :: 'x' :: hexDigits 2 c.toNat
  else if c.toNat < 0x10000 then backslash :: 'u' :: hexDigits 4 c.toNat
  else backslash :: 'U' :: hexDigits 8 c.toNat

/-- A character of a text that is quoted with `mark`. -/
def escapeChar (mark c : Char) : List Char :=
  if c = mark ∨ c = backslash then [backslash, c]
  else if isPrintable c then [c]
  else escapeHidden c

/-- A text between its quote marks. -/
def quoteChars (cs : List Char) : List Char :=
  quoteMark cs :: cs.flatMap (escapeChar (quoteMark cs)) ++ [quoteMark cs]

/-- A text as a message shows it. -/
def quote (s : String) : String := String.ofList (quoteChars s.toList)

end LedgerAmount.Text
