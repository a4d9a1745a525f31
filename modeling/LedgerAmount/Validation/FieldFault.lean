import LedgerAmount.Text.Quoted

/-!
# Faults of fields

Why a value cannot stand in the field it is given for. A fault has a wording for people and a tag
for programs; the faults of a record are listed in the order in which its fields are declared.
-/

namespace LedgerAmount

/-- What is wrong with a value. -/
inductive FaultCause where
  | missing
  | notOneOf (choices : List String)
  | notText
  | tooShort (least : Nat)
  | tooLong (most : Nat)
  | unreadableDecimal
  | notDecimal
  | notFinite
  | notRecord
  | notInteger
  | unreadableInteger
  | oversizedInteger
  | fractionalInteger
  | tooSmall (least : Int)
  | tooLarge (most : Int)
  | notBoolean
  | unreadableBoolean
  | frozen
  /-- A check of the value's meaning failed, for the reason given. -/
  | refused (reason : String)
  deriving DecidableEq, Repr

namespace FaultCause

/-- Choices in single quotes, the last one set off by "or". -/
def enumerate : List String → String
  | [] => ""
  | [only] => "'" ++ only ++ "'"
  | [first, last] => "'" ++ first ++ "' or '" ++ last ++ "'"
  | first :: rest => "'" ++ first ++ "', " ++ enumerate rest

/-- A number of characters. -/
def characters (n : Nat) : String := toString n ++ if n = 1 then " character" else " characters"

/-- The wording of a cause. -/
def message : FaultCause → String
  | missing => "Field required"
  | notOneOf choices => "Input should be " ++ enumerate choices
  | notText => "Input should be a valid string"
  | tooShort least => "String should have at least " ++ characters least
  | tooLong most => "String should have at most " ++ characters most
  | unreadableDecimal => "Input should be a valid decimal"
  | notDecimal => "Decimal input should be an integer, float, string or Decimal object"
  | notFinite => "Input should be a finite number"
  | notRecord => "Input should be a valid dictionary"
  | notInteger => "Input should be a valid integer"
  | unreadableInteger => "Input should be a valid integer, unable to parse string as an integer"
  | oversizedInteger => "Unable to parse input string as an integer, exceeded maximum size"
  | fractionalInteger => "Input should be a valid integer, got a number with a fractional part"
  | tooSmall least => "Input should be greater than or equal to " ++ toString least
  | tooLarge most => "Input should be less than or equal to " ++ toString most
  | notBoolean => "Input should be a valid boolean"
  | unreadableBoolean => "Input should be a valid boolean, unable to interpret input"
  | frozen => "Instance is frozen"
  | refused reason => "Value error, " ++ reason

/-- The tag of a cause. -/
def tag : FaultCause → String
  | missing => "missing"
  | notOneOf _ => "enum"
  | notText => "string_type"
  | tooShort _ => "string_too_short"
  | tooLong _ => "string_too_long"
  | unreadableDecimal => "decimal_parsing"
  | notDecimal => "decimal_type"
  | notFinite => "finite_number"
  | notRecord => "dict_type"
  | notInteger => "int_type"
  | unreadableInteger => "int_parsing"
  | oversizedInteger => "int_parsing_size"
  | fractionalInteger => "int_from_float"
  | tooSmall _ => "greater_than_equal"
  | tooLarge _ => "less_than_equal"
  | notBoolean => "bool_type"
  | unreadableBoolean => "bool_parsing"
  | frozen => "frozen_instance"
  | refused _ => "value_error"

end FaultCause

/-- A cause, the field it was found in, and the text that stood there if it was a text. A fault of
the record as a whole has no field name. -/
structure FieldFault where
  field : String
  cause : FaultCause
  given : Option String
  deriving DecidableEq, Repr

namespace FieldFault

/-- A fault of the record as a whole. -/
def ofRecord (cause : FaultCause) : FieldFault := ⟨"", cause, none⟩

/-- The fault of assigning to a field of a value that never changes. -/
def ofAssignment (field : String) : FieldFault := ⟨field, .frozen, none⟩

/-- A fault in one line. -/
def line (fault : FieldFault) : String :=
  fault.field ++ ": " ++ fault.cause.message ++ " [" ++ fault.cause.tag ++ "]"

/-- All faults of a record in one line. -/
def summary (faults : List FieldFault) : String := String.intercalate "; " (faults.map line)

end FieldFault

end LedgerAmount
