import LedgerAmount.Session.Loading

/-!
# What is in force

Within a session each part of the settings has something in force: what is kept of it, or else what
the sources of the session give at that moment, which may be faults. To use a part is to be given
what is in force. If these are settings, they are kept from then on; faults leave the session as it
is. The setup of logging is in force in the same way: it is the one that was made, or else the one
that the application settings in force ask for.
-/

namespace LedgerAmount

open Call

/-- A part of the settings, which is loaded and kept apart from the other one. -/
inductive Part where
  | evaluator
  | app
  deriving DecidableEq, Repr

namespace Part

/-- The settings of a part. -/
abbrev Settings : Part → Type
  | evaluator => EvaluatorSettings
  | app => AppSettings

/-- Loads a part from its sources. -/
def load : (part : Part) → Sources → Except (List FieldFault) part.Settings
  | evaluator => EvaluatorSettings.load
  | app => AppSettings.load

/-- What a session keeps of a part. -/
def kept (session : Session) : (part : Part) → Option part.Settings
  | evaluator => session.evaluator
  | app => session.app

/-- The session with settings kept for a part. -/
def keep (session : Session) : (part : Part) → part.Settings → Session
  | evaluator, settings => { session with evaluator := some settings }
  | app, settings => { session with app := some settings }

/-- Uses a part. -/
def use : (part : Part) → Call part.Settings
  | evaluator => Session.evaluatorSettings
  | app => Session.appSettings

/-- The settings of a part that are in force, or the faults in their place. -/
def inForce (session : Session) (part : Part) : Except (List FieldFault) part.Settings :=
  match part.kept session with
  | some settings => .ok settings
  | none => part.load (session.sources [])

variable {session : Session} {part other : Part} {settings : part.Settings}

/-! ## Keeping -/

@[simp] theorem environment_keep :
    (part.keep session settings).environment = session.environment := by
  cases part <;> rfl

@[simp] theorem file_keep : (part.keep session settings).file = session.file := by
  cases part <;> rfl

@[simp] theorem logging_keep : (part.keep session settings).logging = session.logging := by
  cases part <;> rfl

@[simp] theorem log_keep : (part.keep session settings).log = session.log := by
  cases part <;> rfl

@[simp] theorem kept_keep : part.kept (part.keep session settings) = some settings := by
  cases part <;> rfl

/-- Parts are kept apart from each other. -/
theorem kept_keep_of_ne (h : other ≠ part) :
    other.kept (part.keep session settings) = other.kept session := by
  cases part <;> cases other <;> first | exact absurd rfl h | rfl

/-- Only what is loaded counts for what is kept. -/
theorem kept_congr {one two : Session} (hevaluator : one.evaluator = two.evaluator)
    (happ : one.app = two.app) : part.kept one = part.kept two := by
  cases part with
  | evaluator => exact hevaluator
  | app => exact happ

/-- Keeping what is kept changes nothing. -/
theorem keep_of_kept (h : part.kept session = some settings) :
    part.keep session settings = session := by
  obtain ⟨environment, file, evaluator, app, logging, log⟩ := session
  cases part <;> cases h <;> rfl

/-! ## What is in force -/

theorem inForce_of_kept (h : part.kept session = some settings) :
    part.inForce session = .ok settings := by
  rw [inForce, h]

theorem inForce_of_not_kept (h : part.kept session = none) :
    part.inForce session = part.load (session.sources []) := by
  rw [inForce, h]

/-- Nothing is kept of a part with faults in force. -/
theorem not_kept_of_inForce {faults : List FieldFault} (h : part.inForce session = .error faults) :
    part.kept session = none := by
  cases hkept : part.kept session with
  | none => rfl
  | some settings =>
    rw [inForce_of_kept hkept] at h
    cases h

/-! ## Using a part -/

/-- A part that is kept is used as it is kept. -/
theorem runIn_use_of_kept (h : part.kept session = some settings) :
    runIn part.use session = (.ok settings, session) := by
  cases part with
  | evaluator =>
    have hkept : session.evaluator = some settings := h
    rw [use, Session.runIn_evaluatorSettings, hkept]
  | app =>
    have hkept : session.app = some settings := h
    rw [use, Session.runIn_appSettings, hkept]

/-- A part that is not kept is loaded from the sources as they are, and kept unless that fails. -/
theorem runIn_use_of_not_kept (h : part.kept session = none) :
    runIn part.use session =
      match part.load (session.sources []) with
      | .ok settings => (.ok settings, part.keep session settings)
      | .error faults => (.error (.invalid faults), session) := by
  cases part with
  | evaluator =>
    have hkept : session.evaluator = none := h
    rw [use, Session.runIn_evaluatorSettings, hkept, load]
    cases EvaluatorSettings.load (session.sources []) <;> rfl
  | app =>
    have hkept : session.app = none := h
    rw [use, Session.runIn_appSettings, hkept, load]
    cases AppSettings.load (session.sources []) <;> rfl

/-- To use a part is to be given what is in force, which is kept unless it is faulty. -/
theorem runIn_use (part : Part) (session : Session) :
    runIn part.use session =
      match part.inForce session with
      | .ok settings => (.ok settings, part.keep session settings)
      | .error faults => (.error (.invalid faults), session) := by
  cases hkept : part.kept session with
  | some settings =>
    simp only [runIn_use_of_kept hkept, inForce_of_kept hkept, keep_of_kept hkept]
  | none => rw [runIn_use_of_not_kept hkept, inForce_of_not_kept hkept]

@[simp] theorem logging_use : (runIn part.use session).2.logging = session.logging := by
  rw [runIn_use]
  cases part.inForce session with
  | ok settings => exact logging_keep
  | error faults => rfl

@[simp] theorem log_use : (runIn part.use session).2.log = session.log := by
  rw [runIn_use]
  cases part.inForce session with
  | ok settings => exact log_keep
  | error faults => rfl

end Part

/-! ## The setup of logging -/

/-- The setup of logging that is in force, or the faults in its place. -/
def Session.setupInForce (session : Session) : Except (List FieldFault) LoggingSetup :=
  match session.logging with
  | some setup => .ok setup
  | none => (Part.app.inForce session).map .ofSettings

/-- To set up logging is to be given the setup in force, which lasts unless there are faults in its
place. -/
theorem Session.runIn_setUpLogging (session : Session) :
    runIn (setUpLogging none) session =
      match session.logging, Part.app.inForce session with
      | some setup, _ => (.ok setup, session)
      | none, .ok settings =>
        (.ok (.ofSettings settings),
          { Part.app.keep session settings with logging := some (.ofSettings settings) })
      | none, .error faults => (.error (.invalid faults), session) := by
  cases hlogging : session.logging with
  | some setup => exact runIn_setUpLogging_of_some hlogging none
  | none =>
    have huse := Part.runIn_use .app session
    rw [Part.use] at huse
    rw [runIn_setUpLogging_none hlogging, huse]
    cases Part.app.inForce session <;> rfl

end LedgerAmount
