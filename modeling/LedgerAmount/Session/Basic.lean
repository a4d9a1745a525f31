import LedgerAmount.Expression.Stop
import LedgerAmount.Settings.AppSettings
import LedgerAmount.Settings.EvaluatorSettings
import LedgerAmount.Trail.LogRecord

/-!
# Sessions

A session is what lasts from one call to the next: the environment, the settings file, the settings
loaded so far and the setup of logging. A call reads and changes the session and has a value or
fails; what it did to the session before it failed stays done.
-/

namespace LedgerAmount

/-- What lasts from one call to the next, and the records logged by the latest request. -/
structure Session where
  environment : Bindings
  file : SettingsFile
  evaluator : Option EvaluatorSettings
  app : Option AppSettings
  logging : Option LoggingSetup
  log : List LogRecord

namespace Session

/-- A session in which nothing is configured or loaded. -/
def initial : Session := ⟨[], .empty, none, none, none, []⟩

/-- Where settings come from in a session. -/
def sources (session : Session) (arguments : Record) : Sources :=
  ⟨arguments, session.environment, session.file⟩

end Session

/-- Why a call fails. -/
inductive Failure where
  /-- Something given or configured has these faults. -/
  | invalid (faults : List FieldFault)
  /-- An evaluation was broken off. -/
  | broken (defect : Defect)
  deriving DecidableEq, Repr

/-- The wording of a failure. -/
def Failure.message : Failure → String
  | invalid faults => FieldFault.summary faults
  | broken defect => defect.message

/-- A call within a session. -/
abbrev Call := ExceptT Failure (StateM Session)

namespace Call

variable {α β : Type}

/-- The value or failure of a call, and the session after it. -/
def runIn (call : Call α) (session : Session) : Except Failure α × Session :=
  StateT.run (ExceptT.run call) session

@[simp] theorem runIn_pure (a : α) (session : Session) :
    runIn (pure a) session = (.ok a, session) := rfl

@[simp] theorem runIn_throw (failure : Failure) (session : Session) :
    runIn (throw failure : Call α) session = (.error failure, session) := rfl

@[simp] theorem runIn_get (session : Session) :
    runIn (get : Call Session) session = (.ok session, session) := rfl

@[simp] theorem runIn_modify (f : Session → Session) (session : Session) :
    runIn (modify f : Call Unit) session = (.ok (), f session) := rfl

/-- A call goes on with the value and in the session of the one before it, unless that fails. -/
theorem runIn_bind (call : Call α) (next : α → Call β) (session : Session) :
    runIn (call >>= next) session =
      match runIn call session with
      | (.ok a, after) => runIn (next a) after
      | (.error failure, after) => (.error failure, after) := by
  show StateT.run (ExceptT.run (call >>= next)) session = _
  simp only [ExceptT.run_bind, StateT.run_bind]
  show (match StateT.run (ExceptT.run call) session with | (r, s) => _) = _
  unfold runIn
  rcases StateT.run (ExceptT.run call) session with ⟨_ | _, _⟩ <;> rfl

theorem runIn_map (f : α → β) (call : Call α) (session : Session) :
    runIn (f <$> call) session = ((runIn call session).1.map f, (runIn call session).2) := by
  rw [← bind_pure_comp, runIn_bind]
  rcases runIn call session with ⟨_ | _, _⟩ <;> rfl

/-- Passes on a value, or fails in its place. -/
def settle : Except Failure α → Call α
  | .ok a => pure a
  | .error failure => throw failure

@[simp] theorem runIn_settle (result : Except Failure α) (session : Session) :
    runIn (settle result) session = (result, session) := by
  cases result <;> rfl

/-- Passes on a value, or fails with the faults found in its place. -/
def valid (checked : Except (List FieldFault) α) : Call α := settle (checked.mapError .invalid)

/-- Passes on an outcome, or fails if the evaluation was broken off. -/
def unbroken (evaluation : Except Defect α) : Call α := settle (evaluation.mapError .broken)

end Call

end LedgerAmount
