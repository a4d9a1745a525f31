import LedgerAmount.Decimal.Notation
import LedgerAmount.Text.Blank

/-!
# Whole numbers in writing

A whole number may be written with blanks around it, a sign, leading zeros, underscores between its
digits, and a point with nothing but zeros after it. All of these are removed before the digits are
read; what cannot be removed makes the text unreadable. A number of too many digits is not read.
-/

namespace LedgerAmount

/-- Why a text gives no whole number. -/
inductive IntegerFault where
  /-- The text is not written like a whole number. -/
  | unreadable
  /-- The number has more digits than are read. -/
  | tooLong
  deriving DecidableEq, Repr

/-- The most digits of a number that is read from a text. -/
def integerDigitLimit : Nat := 4300

/-- The number that a row of digits stands for, which begins with a zero only if that is all. Too
many digits are not looked beyond. -/
def wholeDigits (cs : List Char) : Except IntegerFault Nat :=
  if cs.head? == some '0' then if cs.length = 1 then .ok 0 else .error .unreadable
  else if integerDigitLimit < (cs.takeWhile Char.isDigit).length then .error .tooLong
  else if cs.isEmpty || !cs.all Char.isDigit then .error .unreadable
  else .ok (ofDigits cs)

/-- The number that a row of digits stands for, with a minus before it if it is negative. -/
def signedDigits : List Char → Except IntegerFault Int
  | '-' :: digits => (wholeDigits digits).map fun n => -(n : Int)
  | digits => (wholeDigits digits).map fun n => (n : Int)

/-- What follows the leading zeros of a number, which may be grouped with underscores. The last
character stays where nothing else would be left, and so does the one before a point. -/
def afterZeros (last : Char) : List Char → Except IntegerFault (List Char)
  | [] => .ok [last]
  | c :: cs =>
    if c = '0' ∨ c = '_' then afterZeros c cs
    else if c = '.' then .ok (last :: c :: cs)
    else if c = '-' ∨ c.isDigit then .ok (c :: cs)
    else .error .unreadable

/-- Removes leading zeros. Nothing but a digit or a minus may come first. -/
def dropZeros : List Char → Except IntegerFault (List Char)
  | [] => .error .unreadable
  | c :: cs =>
    if c = '0' then afterZeros c cs
    else if c = '-' ∨ c.isDigit then .ok (c :: cs)
    else .error .unreadable

/-- Removes a point with nothing but zeros after it, of which there is at least one. -/
def dropZeroFraction (cs : List Char) : List Char :=
  let places := (cs.dropWhile (· != '.')).tail
  if !places.isEmpty && places.all (· == '0') then cs.takeWhile (· != '.') else cs

/-- Whether two underscores stand side by side. -/
def hasDoubleUnderscore : List Char → Bool
  | a :: b :: cs => (a == '_' && b == '_') || hasDoubleUnderscore (b :: cs)
  | _ => false

/-- Removes underscores that stand alone between other characters. -/
def dropGrouping (cs : List Char) : List Char :=
  if cs.head? == some '_' || cs.getLast? == some '_' || hasDoubleUnderscore cs then cs
  else cs.filter (· != '_')

/-- Removes all that may stand in a number beside its digits. -/
def bareDigits (cs : List Char) : Except IntegerFault (List Char) :=
  (dropZeros cs).map fun cs => dropGrouping (dropZeroFraction cs)

/-- Whether a number in writing may be padded with a character: blanks other than separators. -/
def isPadding (c : Char) : Bool := Text.isBlank c && !(0x1C ≤ c.toNat && c.toNat ≤ 0x1F)

/-- The whole number that a text without padding stands for. One sign may come first, and a minus
may follow zeros in place of it. -/
def integerChars : List Char → Except IntegerFault Int
  | '+' :: '-' :: _ => .error .unreadable
  | '+' :: cs => do signedDigits (← bareDigits cs)
  | '-' :: cs => do return -(← wholeDigits (← bareDigits cs) : Nat)
  | cs => do signedDigits (← bareDigits cs)

/-- The whole number that a text stands for. -/
def integerText (s : String) : Except IntegerFault Int :=
  integerChars ((s.toList.dropWhile isPadding).reverse.dropWhile isPadding).reverse

end LedgerAmount
