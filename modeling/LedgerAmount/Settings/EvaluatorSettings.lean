import LedgerAmount.Decimal.Quotient
import LedgerAmount.Settings.Sources

/-!
# Settings of the evaluator

How quotients are rounded: to how many fractional digits, at most 28, and in which mode. A mode may
be named in any case and between blanks.
-/

namespace LedgerAmount

/-- The most fractional digits of a quotient. -/
def greatestScale : Nat := 28

/-- A rounding mode by its name, however spelled. -/
def Reading.roundingMode : Reading RoundingMode := fun datum => do
  let s ← Reading.text datum
  match RoundingMode.ofName? (normalizeName s) with
  | some mode => .ok mode
  | none => .error (.refused ("Unknown rounding mode " ++ Text.quote s ++ ". Expected one of: " ++
      String.intercalate ", " (RoundingMode.all.map RoundingMode.name)))

/-- A number of fractional digits. -/
def Reading.scale : Reading (Fin (greatestScale + 1)) := fun datum => do
  let n ← Reading.integer datum
  if n < 0 then .error (.tooSmall 0)
  else if h : n.toNat < greatestScale + 1 then .ok ⟨n.toNat, h⟩
  else .error (.tooLarge greatestScale)

/-- The settings of the evaluator. -/
structure EvaluatorSettings where
  divisionScale : Fin (greatestScale + 1)
  rounding : RoundingMode
  deriving DecidableEq, Repr

namespace EvaluatorSettings

/-- Ten digits, a half away from zero. -/
def default : EvaluatorSettings := ⟨10, .halfUp⟩

/-- The rule that the settings set for divisions. -/
def rule (settings : EvaluatorSettings) : DivisionRule :=
  ⟨settings.divisionScale, settings.rounding.name⟩

/-- Loads the settings from their sources. -/
def load (sources : Sources) : Except (List FieldFault) EvaluatorSettings :=
  let scale := sources.read "division_scale" "EVALUATOR_DIVISION_SCALE" default.divisionScale
    .scale
  let rounding := sources.read "rounding" "EVALUATOR_ROUNDING" default.rounding .roundingMode
  match scale, rounding with
  | .ok scale, .ok rounding => .ok ⟨scale, rounding⟩
  | _, _ => .error (faultsOf scale ++ faultsOf rounding)

end EvaluatorSettings

end LedgerAmount
