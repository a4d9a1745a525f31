import LedgerAmount.Settings.AppSettings
import LedgerAmount.Trail.Event

/-!
# Log records

An event is logged under the name of a logger if it is grave enough. The level set up for the
application holds for the loggers of this package; every other logger keeps the level at which
warnings begin.
-/

namespace LedgerAmount

/-- The level at which an event is logged. -/
def Severity.level : Severity → LogLevel
  | debug => .debug
  | info => .info
  | warning => .warning
  | error => .error

/-- How logging was set up. -/
structure LoggingSetup where
  level : LogLevel
  json : Bool
  deriving DecidableEq, Repr

/-- A record in the log: an event, the logger's name, and whether it is written as JSON. -/
structure LogRecord where
  event : Event
  logger : String
  json : Bool

namespace LoggingSetup

/-- The setup that application settings ask for. -/
def ofSettings (settings : AppSettings) : LoggingSetup := ⟨settings.logLevel, settings.logJson⟩

/-- The name of the package's own logger. -/
def packageLogger : String := "accountant"

/-- The name of the logger that is used if none is named. -/
def defaultLogger : String := packageLogger ++ ".audit"

/-- Whether a logger is the package's own or below it. -/
def isPackageLogger (name : String) : Bool :=
  name == packageLogger || (packageLogger ++ ".").toList.isPrefixOf name.toList

/-- The level from which on a logger writes records. -/
def threshold (setup : LoggingSetup) (logger : String) : LogLevel :=
  if isPackageLogger logger then setup.level else .warning

/-- The name that a logger shows; the one without a name is the root of all. -/
def shownName (logger : String) : String := if logger.isEmpty then "root" else logger

/-- The records that logging an event leaves: one, or none if it is not grave enough. -/
def records (setup : LoggingSetup) (logger : String) (event : Event) : List LogRecord :=
  if (setup.threshold logger).rank ≤ event.severity.level.rank then
    [⟨event, shownName logger, setup.json⟩]
  else []

end LoggingSetup

end LedgerAmount
