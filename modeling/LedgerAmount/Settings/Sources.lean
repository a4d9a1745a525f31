import LedgerAmount.Settings.SettingsFile
import LedgerAmount.Text.UpperCase
import LedgerAmount.Validation.Reading

/-!
# Sources of settings

A setting comes from the first source that has it: the caller's arguments, the environment, the
settings file, whose values may refer to the environment. In all of them its name may differ in
case. Only the value found is read; where no source has one the default holds, unread.
-/

namespace LedgerAmount

/-- How a name given as the value of a setting is compared: without outer blanks, in upper case. -/
def normalizeName (s : String) : String := String.ofList (Text.upper (Text.strip s.toList))

/-- Where settings come from. -/
structure Sources where
  arguments : Record
  environment : Bindings
  file : SettingsFile

namespace Sources

/-- The argument for a setting: the first one named `field` apart from case. -/
def argument? (sources : Sources) (field : String) : Option Datum :=
  (sources.arguments.find? fun argument =>
    Bindings.foldCase argument.1 == Bindings.foldCase field).map (·.2)

/-- The value of a setting: an argument for `field`, or a binding of `name`. -/
def find? (sources : Sources) (field name : String) : Option Datum :=
  sources.argument? field
    <|> (sources.environment.find? name).map .text
    <|> ((sources.file.bindings sources.environment).find? name).map .text

/-- Reads a setting. -/
def read {α : Type} (sources : Sources) (field name : String) (default : α)
    (reading : Reading α) : Except FieldFault α :=
  match sources.find? field name with
  | some datum => datum.readAs field reading
  | none => .ok default

end Sources

end LedgerAmount
