import LedgerAmount.Decimal.NumericText
import LedgerAmount.Validation.Datum
import LedgerAmount.Validation.FieldFault
import LedgerAmount.Validation.IntegerText

/-!
# Reading fields

Turns data of unknown shape into values of a known type. Reading is lenient where a text or another
number leaves no doubt: whole numbers and truth values may be given as text, and decimals as any
number.
-/

namespace LedgerAmount

/-- A reading of a value. -/
abbrev Reading (α : Type) := Datum → Except FaultCause α

namespace Reading

/-- Texts, which nothing else is taken for. -/
def text : Reading String
  | .text s => .ok s
  | _ => .error .notText

/-- Texts of at least `least` characters. -/
def textFrom (least : Nat) : Reading String := fun datum => do
  let s ← text datum
  if s.length < least then .error (.tooShort least) else .ok s

/-- Texts of at most `most` characters. -/
def textTo (most : Nat) : Reading String := fun datum => do
  let s ← text datum
  if most < s.length then .error (.tooLong most) else .ok s

/-- A value that may be absent. -/
def optional {α : Type} (read : Reading α) : Reading (Option α)
  | .null => .ok none
  | datum => (read datum).map some

/-- One of several values, by its name. -/
def oneOf {α : Type} (all : List α) (name : α → String) : Reading α := fun datum =>
  let choice := match datum with
    | .text s => all.find? (name · == s)
    | _ => none
  match choice with
  | some a => .ok a
  | none => .error (.notOneOf (all.map name))

/-- Records. -/
def record : Reading Record
  | .record fields => .ok fields
  | _ => .error .notRecord

/-- Finite decimals. -/
def decimal : Reading Decimal
  | .int n => .ok (.ofInt n)
  | .real d => .ok d
  | .text s =>
    match Extended.read s with
    | .ok (.finite d) => .ok d
    | .ok _ => .error .notFinite
    | .error _ => .error .unreadableDecimal
  | _ => .error .notDecimal

/-- The first number above the whole numbers that a word of 64 bits holds. -/
def wordBound : Int := 9223372036854775808

/-- The whole number that a decimal equals, strictly between the bounds of a word. -/
def integerOfDecimal (d : Decimal) : Except FaultCause Int :=
  match d.toInt? with
  | some n =>
    if -wordBound < n ∧ n < wordBound then .ok n else .error .oversizedInteger
  | none => .error .fractionalInteger

/-- Whole numbers. -/
def integer : Reading Int
  | .bool b => .ok (if b then 1 else 0)
  | .int n => .ok n
  | .real d => integerOfDecimal d
  | .text s =>
    match integerText s with
    | .ok n => .ok n
    | .error .unreadable => .error .unreadableInteger
    | .error .tooLong => .error .oversizedInteger
  | _ => .error .notInteger

/-- The truth value of a number: zero or one. -/
def booleanOfInt (n : Int) : Except FaultCause Bool :=
  if n = 0 then .ok false else if n = 1 then .ok true else .error .unreadableBoolean

/-- The spellings of a truth value, in lower case. -/
def booleanSpellings : Bool → List String
  | true => ["1", "on", "t", "true", "y", "yes"]
  | false => ["0", "off", "f", "false", "n", "no"]

/-- Truth values. Of the numbers, only those that a word holds are looked at. -/
def boolean : Reading Bool
  | .bool b => .ok b
  | .int n =>
    if -wordBound ≤ n ∧ n < wordBound then booleanOfInt n else .error .notBoolean
  | .real d =>
    match integerOfDecimal d with
    | .ok n => booleanOfInt n
    | .error _ => .error .notBoolean
  | .text s =>
    let spelling := String.ofList (s.toList.map Char.toLower)
    if (booleanSpellings true).contains spelling then .ok true
    else if (booleanSpellings false).contains spelling then .ok false
    else .error .unreadableBoolean
  | _ => .error .notBoolean

end Reading

namespace Datum

/-- The text, where the value is one. -/
def text? : Datum → Option String
  | .text s => some s
  | _ => none

/-- Reads a value for a field. -/
def readAs {α : Type} (datum : Datum) (field : String) (read : Reading α) : Except FieldFault α :=
  (read datum).mapError fun cause => ⟨field, cause, datum.text?⟩

end Datum

namespace Record

/-- Reads a field that has to be there. -/
def required {α : Type} (record : Record) (field : String) (read : Reading α) :
    Except FieldFault α :=
  match record.lookup field with
  | some datum => datum.readAs field read
  | none => .error ⟨field, .missing, none⟩

/-- Reads a field that has a value also where it is not given. -/
def withDefault {α : Type} (record : Record) (field : String) (default : α) (read : Reading α) :
    Except FieldFault α :=
  match record.lookup field with
  | some datum => datum.readAs field read
  | none => .ok default

end Record

/-- The fault of a field that could not be read. -/
def faultsOf {α : Type} : Except FieldFault α → List FieldFault
  | .ok _ => []
  | .error fault => [fault]

end LedgerAmount
