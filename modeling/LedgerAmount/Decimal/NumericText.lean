import LedgerAmount.Decimal.Extended
import LedgerAmount.Decimal.Literal
import LedgerAmount.Text.Blank
import LedgerAmount.Text.DecimalDigit

/-!
# Numeric text

The texts that name an extended decimal when a value is given in writing rather than typed as an
amount: digits of any script with an optional point and an optional exponent of ten, an infinity, or
a value that is not a number. Blanks around the text and underscores within it do not count.
-/

namespace LedgerAmount.Extended

/-- The text with ASCII digits, without outer blanks and underscores; nothing where it holds a
character that is neither ASCII nor a digit. -/
def normalize? (cs : List Char) : Option (List Char) :=
  ((Text.strip cs).filter (· != '_')).mapM fun c =>
    if 0 < c.toNat && c.toNat < 0x80 then some c
    else (Text.digitValue? c).map Nat.digitChar

/-- An exponent: an optional sign and at least one digit. -/
def exponent? (cs : List Char) : Option Int :=
  let magnitude? (digits : List Char) : Option Nat :=
    if !digits.isEmpty && digits.all Char.isDigit then some (ofDigits digits) else none
  match cs with
  | '-' :: digits => (magnitude? digits).map fun n => -(n : Int)
  | '+' :: digits => (magnitude? digits).map fun n => (n : Int)
  | digits => (magnitude? digits).map fun n => (n : Int)

/-- A number without its sign: digits with an optional point, then an optional exponent. -/
def number? (negative : Bool) (cs : List Char) : Option Extended :=
  let isMark (c : Char) : Bool := c == 'e' || c == 'E'
  match Decimal.ofUnsignedLiteral? negative (cs.takeWhile (!isMark ·)),
      cs.dropWhile (!isMark ·) with
  | some d, [] => some (finite d)
  | some d, _ :: power =>
    (exponent? power).map fun e => finite { d with exponent := d.exponent + e }
  | none, _ => none

/-- A value that is no number: its name in lower case, then the digits of its payload. -/
def payload? (negative signalling : Bool) (digits : List Char) : Option Extended :=
  if digits.all Char.isDigit then some (notANumber negative signalling (ofDigits digits)) else none

/-- An extended decimal without its sign. -/
def unsigned? (negative : Bool) (cs : List Char) : Option Extended :=
  match cs.map Char.toLower with
  | ['i', 'n', 'f'] => some (infinity negative)
  | ['i', 'n', 'f', 'i', 'n', 'i', 't', 'y'] => some (infinity negative)
  | 'n' :: 'a' :: 'n' :: digits => payload? negative false digits
  | 's' :: 'n' :: 'a' :: 'n' :: digits => payload? negative true digits
  | _ => number? negative cs

/-- The extended decimal that a text names. -/
def ofText? (s : String) : Option Extended :=
  (normalize? s.toList).bind fun
    | '-' :: cs => unsigned? true cs
    | '+' :: cs => unsigned? false cs
    | cs => unsigned? false cs

/-- The extended decimal that a text has to name, within the bounds of exponents. -/
def read (s : String) : Except ArithmeticFault Extended :=
  match ofText? s with
  | some (finite d) => if d.isWithinBounds then .ok (finite d) else .error .outOfBounds
  | some value => .ok value
  | none => .error .unreadable

end LedgerAmount.Extended
