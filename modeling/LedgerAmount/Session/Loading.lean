import LedgerAmount.Session.Basic
import LedgerAmount.Settings.StartupReport

/-!
# Loading

Each part of the settings is loaded when it is first needed and kept until the kept settings are
dropped; a load that fails leaves nothing behind. Logging is set up once, by the first call that
needs it, and a setup that fails leaves it as it was.
-/

namespace LedgerAmount.Session

open Call

/-- The evaluator settings, loaded unless they are already. -/
def evaluatorSettings : Call EvaluatorSettings := do
  let session ← get
  match session.evaluator with
  | some settings => return settings
  | none =>
    let settings ← valid (EvaluatorSettings.load (session.sources []))
    modify fun session => { session with evaluator := some settings }
    return settings

/-- The application settings, loaded unless they are already. -/
def appSettings : Call AppSettings := do
  let session ← get
  match session.app with
  | some settings => return settings
  | none =>
    let settings ← valid (AppSettings.load (session.sources []))
    modify fun session => { session with app := some settings }
    return settings

/-- Sets up logging unless that was done before, and gives the setup in force. -/
def setUpLogging (given : Option AppSettings) : Call LoggingSetup := do
  match (← get).logging with
  | some setup => return setup
  | none =>
    let settings ← given.getDM appSettings
    let setup := LoggingSetup.ofSettings settings
    modify fun session => { session with logging := some setup }
    return setup

/-- A logger: a name and the setup of logging. -/
structure Logger where
  name : String
  setup : LoggingSetup

/-- Makes a logger, which sets up logging. -/
def openLogger (name : Option String) : Call Logger := do
  let setup ← setUpLogging none
  return ⟨name.getD LoggingSetup.defaultLogger, setup⟩

/-- Logs an event. -/
def Logger.write (logger : Logger) (event : Event) : Call Unit :=
  modify fun session =>
    { session with log := session.log ++ logger.setup.records logger.name event }

/-- The faults of a part of the settings, or none if it could be loaded. -/
def faultsOfLoading {α : Type} (load : Call α) : Call (Option (List FieldFault)) :=
  tryCatch (do let _ ← load; return none) fun
    | .invalid faults => return some faults
    | failure => throw failure

/-- Loads each part of the settings and reports what is wrong with those that fail. -/
def checkSettings : Call StartupReport := do
  let evaluator ← faultsOfLoading evaluatorSettings
  let app ← faultsOfLoading appSettings
  return ⟨evaluator, app⟩

/-- Loading the evaluator settings keeps what is loaded, and else loads from the sources as they
are and keeps that; if the load fails, nothing changes. -/
theorem runIn_evaluatorSettings (session : Session) :
    runIn evaluatorSettings session =
      match session.evaluator, EvaluatorSettings.load (session.sources []) with
      | some settings, _ => (.ok settings, session)
      | none, .ok settings => (.ok settings, { session with evaluator := some settings })
      | none, .error faults => (.error (.invalid faults), session) := by
  rw [evaluatorSettings, runIn_bind, runIn_get]
  cases h : session.evaluator with
  | some settings => simp [h]
  | none =>
    simp only [h, runIn_bind, valid, runIn_settle]
    cases EvaluatorSettings.load (session.sources []) <;> rfl

/-- Loading the application settings keeps what is loaded, and else loads from the sources as they
are and keeps that; if the load fails, nothing changes. -/
theorem runIn_appSettings (session : Session) :
    runIn appSettings session =
      match session.app, AppSettings.load (session.sources []) with
      | some settings, _ => (.ok settings, session)
      | none, .ok settings => (.ok settings, { session with app := some settings })
      | none, .error faults => (.error (.invalid faults), session) := by
  rw [appSettings, runIn_bind, runIn_get]
  cases h : session.app with
  | some settings => simp [h]
  | none =>
    simp only [h, runIn_bind, valid, runIn_settle]
    cases AppSettings.load (session.sources []) <;> rfl

/-- Once logging is set up, setting it up again changes nothing. -/
theorem runIn_setUpLogging_of_some {session : Session} {setup : LoggingSetup}
    (h : session.logging = some setup) (given : Option AppSettings) :
    runIn (setUpLogging given) session = (.ok setup, session) := by
  rw [setUpLogging, runIn_bind, runIn_get]
  simp [h]

/-- While logging is not set up, given settings decide its setup. -/
theorem runIn_setUpLogging_some {session : Session} (h : session.logging = none)
    (settings : AppSettings) :
    runIn (setUpLogging (some settings)) session =
      (.ok (.ofSettings settings),
        { session with logging := some (.ofSettings settings) }) := by
  rw [setUpLogging, runIn_bind, runIn_get]
  simp [h, Option.getDM, runIn_map, Except.map]

/-- While logging is not set up and no settings are given, those of the session decide its setup;
if they fail to load, it stays as it is. -/
theorem runIn_setUpLogging_none {session : Session} (h : session.logging = none) :
    runIn (setUpLogging none) session =
      match runIn appSettings session with
      | (.ok settings, after) =>
        (.ok (.ofSettings settings), { after with logging := some (.ofSettings settings) })
      | (.error failure, after) => (.error failure, after) := by
  rw [setUpLogging, runIn_bind, runIn_get]
  simp only [h, Option.getDM, runIn_bind]
  rcases runIn appSettings session with ⟨_ | settings, after⟩ <;> rfl

/-- A logger only adds records. -/
@[simp] theorem runIn_write (logger : Logger) (event : Event) (session : Session) :
    runIn (logger.write event) session =
      (.ok (), { session with log := session.log ++ logger.setup.records logger.name event }) :=
  rfl

end LedgerAmount.Session
