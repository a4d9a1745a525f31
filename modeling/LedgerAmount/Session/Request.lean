import LedgerAmount.Expression.Given
import LedgerAmount.Session.Entry

/-!
# Requests

What can be asked of a session, and serving one request after the other.
-/

namespace LedgerAmount

/-- The answer of a call. -/
inductive Answer where
  | done
  | settings (evaluator : EvaluatorSettings) (app : AppSettings)
  | report (report : StartupReport)
  | outcome (outcome : Outcome)

/-- What can be asked of a session. -/
inductive Request where
  /-- Sets the names that are given a value and unsets the others. -/
  | setEnvironment (changes : List (String × Option String))
  /-- Replaces the settings file, or removes it. -/
  | setFile (text : Option String)
  /-- Drops the settings loaded so far. -/
  | dropSettings
  /-- Undoes the setup of logging. -/
  | resetLogging
  /-- Sets up logging, from the given application settings if there are any. -/
  | configureLogging (app : Option Record)
  | getSettings
  | checkSettings
  /-- Evaluates an expression, by given evaluator settings and under a named logger if any. -/
  | evaluate (text : String) (settings : Option Record) (logger : Option String)
  /-- Takes an amount as typed. -/
  | parseAmount (text : String) (settings : Option Record) (logger : Option String)
  | logEvent (event : Record) (logger : Option String)
  /-- Logs an outcome that is given by its parts, unless they fit no outcome. -/
  | logOutcome (subject : Subject) (outcome : Except Failure Outcome) (logger : Option String)

namespace Session

open Call

/-- The evaluator settings that arguments ask for, with the other sources of the session. -/
def givenSettings (arguments : Record) : Call EvaluatorSettings := do
  valid (EvaluatorSettings.load ((← get).sources arguments))

/-- The application settings that arguments ask for, with the other sources of the session. -/
def givenAppSettings (arguments : Record) : Call AppSettings := do
  valid (AppSettings.load ((← get).sources arguments))

/-- Answers a request. -/
def answer : Request → Call Answer
  | .setEnvironment changes => do
    modify fun session => { session with environment := session.environment.update changes }
    return .done
  | .setFile text => do
    modify fun session => { session with file := (text.map SettingsFile.ofText).getD .empty }
    return .done
  | .dropSettings => do
    modify fun session => { session with evaluator := none, app := none }
    return .done
  | .resetLogging => do
    modify fun session => { session with logging := none }
    return .done
  | .configureLogging app => do
    let _ ← setUpLogging (← app.mapM givenAppSettings)
    return .done
  | .getSettings => do
    let evaluator ← evaluatorSettings
    let app ← appSettings
    return .settings evaluator app
  | .checkSettings => return .report (← checkSettings)
  | .evaluate text settings logger => do
    let settings ← settings.mapM givenSettings
    let logger ← logger.mapM fun name => openLogger (some name)
    return .outcome (← evaluate text settings logger)
  | .parseAmount text settings logger => do
    let settings ← settings.mapM givenSettings
    let logger ← logger.mapM fun name => openLogger (some name)
    return .outcome (← parseAmount text settings logger)
  | .logEvent event logger => do
    let logger ← openLogger logger
    let event ← valid (Event.ofRecord event)
    logger.write event
    return .done
  | .logOutcome subject outcome logger => do
    let logger ← openLogger logger
    let outcome ← settle outcome
    logger.write (.ofOutcome subject outcome)
    return .done

/-- What a request leads to: its answer or failure, and the records it logged. -/
structure Reply where
  answer : Except Failure Answer
  log : List LogRecord

/-- Serves a request. -/
def serve (session : Session) (request : Request) : Reply × Session :=
  let (outcome, after) := runIn (answer request) { session with log := [] }
  (⟨outcome, after.log⟩, after)

/-- Serves requests one after the other, each in the session that the one before it left. -/
def serveAll (session : Session) : List Request → List Reply × Session
  | [] => ([], session)
  | request :: requests =>
    let (reply, after) := session.serve request
    let (replies, last) := serveAll after requests
    (reply :: replies, last)

end Session

end LedgerAmount
