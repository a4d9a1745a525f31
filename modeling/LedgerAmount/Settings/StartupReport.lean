import LedgerAmount.Validation.Datum
import LedgerAmount.Validation.FieldFault

/-!
# Startup reports

A check at startup tells for each part of the settings whether it can be loaded, and otherwise
everything that is wrong with it. The text shows every value at fault, shortened in the middle where
it is long, and an address that explains the fault.
-/

namespace LedgerAmount

/-- The faults of each part of the settings that could not be loaded. -/
structure StartupReport where
  evaluator : Option (List FieldFault)
  app : Option (List FieldFault)
  deriving DecidableEq, Repr

namespace StartupReport

/-- The most bytes of a value that is shown in full. -/
def shownBytes : Nat := 50

/-- The longest start of a text of at most `bytes` bytes. -/
def takeBytes : Nat → List Char → List Char
  | _, [] => []
  | bytes, c :: cs => if c.utf8Size ≤ bytes then c :: takeBytes (bytes - c.utf8Size) cs else []

/-- A text with its middle left out where it is longer than `shownBytes`. -/
def abridge (s : String) : String :=
  if s.utf8ByteSize ≤ shownBytes then s
  else
    let half := shownBytes / 2
    let start := takeBytes half s.toList
    let finish := (takeBytes (half - 1) s.toList.reverse).reverse
    String.ofList (start ++ ['.', '.', '.'] ++ finish)

/-- A fault in full. `help` is the address under which its tag is explained. -/
def describe (help : String) (fault : FieldFault) : String :=
  let value := match fault.given with
    | some given => ", input_value=" ++ abridge (Text.quote given) ++ ", input_type=str"
    | none => ""
  fault.field ++ "\n  " ++ fault.cause.message ++ " [type=" ++ fault.cause.tag ++ value ++
    "]\n    For further information visit " ++ help ++ fault.cause.tag

/-- All faults of a part of the settings, under a heading that counts them. -/
def render (help part : String) (faults : List FieldFault) : String :=
  let heading := toString faults.length ++ " validation error" ++
    (if faults.length = 1 then "" else "s") ++ " for " ++ part
  String.intercalate "\n" (heading :: faults.map (describe help))

/-- The entries on a part of the settings: whether it could be loaded, and otherwise also all that
is wrong with it. -/
def entriesOf (name : String) (wording : List FieldFault → String) :
    Option (List FieldFault) → Record
  | none => [(name, .bool true)]
  | some faults => [(name, .bool false), (name ++ "_error", .text (wording faults))]

/-- A report as named entries. `help` is the address under which the tags of faults are
explained. -/
def entries (help : String) (report : StartupReport) : Record :=
  entriesOf "evaluator" (render help "EvaluatorSettings") report.evaluator ++
    entriesOf "app" (render help "AppSettings") report.app

end StartupReport

end LedgerAmount
