import LedgerAmount.Settings.Sources

/-!
# Settings of the application

The name of the environment that the application runs in, whether it runs for debugging, and what
is logged in which form.
-/

namespace LedgerAmount

/-- The level from which on records are logged. -/
inductive LogLevel where
  | debug
  | info
  | warning
  | error
  | critical
  deriving DecidableEq, Repr

namespace LogLevel

/-- Every level, the lowest first. -/
def all : List LogLevel := [debug, info, warning, error, critical]

/-- The name of a level in settings. -/
def name : LogLevel → String
  | debug => "DEBUG"
  | info => "INFO"
  | warning => "WARNING"
  | error => "ERROR"
  | critical => "CRITICAL"

/-- The level of a name, which has to be spelled exactly. -/
def ofName? (s : String) : Option LogLevel := all.find? (·.name == s)

/-- Levels from the least to the most urgent. -/
def rank : LogLevel → Nat
  | debug => 10
  | info => 20
  | warning => 30
  | error => 40
  | critical => 50

end LogLevel

/-- A level by its name, however spelled. -/
def Reading.logLevel : Reading LogLevel := fun datum => do
  let s ← Reading.text datum
  match LogLevel.ofName? (normalizeName s) with
  | some level => .ok level
  | none => .error (.refused ("Unknown log level " ++ Text.quote s))

/-- The settings of the application. -/
structure AppSettings where
  environment : String
  debugMode : Bool
  logLevel : LogLevel
  logJson : Bool
  deriving DecidableEq, Repr

namespace AppSettings

/-- Development, without debugging, logging from the informative level on as JSON. -/
def default : AppSettings := ⟨"development", false, .info, true⟩

/-- Loads the settings from their sources. -/
def load (sources : Sources) : Except (List FieldFault) AppSettings :=
  let environment := sources.read "app_environment" "APP_ENVIRONMENT" default.environment .text
  let debugMode := sources.read "debug_mode" "DEBUG_MODE" default.debugMode .boolean
  let logLevel := sources.read "log_level" "LOG_LEVEL" default.logLevel .logLevel
  let logJson := sources.read "log_json" "LOG_JSON" default.logJson .boolean
  match environment, debugMode, logLevel, logJson with
  | .ok environment, .ok debugMode, .ok logLevel, .ok logJson =>
    .ok ⟨environment, debugMode, logLevel, logJson⟩
  | _, _, _, _ => .error
      (faultsOf environment ++ faultsOf debugMode ++ faultsOf logLevel ++ faultsOf logJson)

end AppSettings

end LedgerAmount
