import LedgerAmount.Proofs.Plans

/-!
# Requests to enter a text

A text is entered on request by the settings that the request gives or else by those in force, and
under the logger that it names or else under the default one. As soon as logging can be set up, what
the request comes to is up to the text and the settings.
-/

namespace LedgerAmount

open Call

/-- The request to enter a text, by given settings and under a named logger if any. -/
def Subject.request (text : String) (arguments : Option Record) (name : Option String) :
    Subject → Request
  | expression => .evaluate text arguments name
  | amount => .parseAmount text arguments name

namespace Session

/-- The call that such a request makes. -/
def entry (subject : Subject) (text : String) (arguments : Option Record) (name : Option String) :
    Call Answer := do
  let settings ← arguments.mapM givenSettings
  let logger ← name.mapM fun name => openLogger (some name)
  return .outcome (← enter subject text settings logger)

/-- The settings that a request gives, if any. -/
def given {α : Type} (session : Session) (load : Sources → Except (List FieldFault) α)
    (arguments : Option Record) : Except (List FieldFault) (Option α) :=
  match arguments with
  | none => .ok none
  | some arguments => (load (session.sources arguments)).map some

/-- To make settings from arguments leaves the session as it is. -/
theorem runIn_given {α : Type} (load : Sources → Except (List FieldFault) α)
    (arguments : Option Record) (session : Session) :
    runIn (arguments.mapM fun arguments => do valid (load ((← get).sources arguments))) session =
      ((session.given load arguments).mapError .invalid, session) := by
  cases arguments with
  | none => rfl
  | some arguments =>
    show runIn (some <$> (do valid (load ((← get).sources arguments)))) session = _
    rw [runIn_map, runIn_bind, runIn_get]
    simp only [valid, runIn_settle, given]
    cases load (session.sources arguments) <;> rfl

theorem runIn_givenSettings (arguments : Option Record) (session : Session) :
    runIn (arguments.mapM givenSettings) session =
      ((session.given EvaluatorSettings.load arguments).mapError .invalid, session) :=
  runIn_given EvaluatorSettings.load arguments session

theorem runIn_givenAppSettings (arguments : Option Record) (session : Session) :
    runIn (arguments.mapM givenAppSettings) session =
      ((session.given AppSettings.load arguments).mapError .invalid, session) :=
  runIn_given AppSettings.load arguments session

/-- The settings that an expression is evaluated by: those given, or else those in force. -/
def settingsFor (session : Session) (given : Option EvaluatorSettings) :
    Except (List FieldFault) EvaluatorSettings :=
  match given with
  | some settings => .ok settings
  | none => Part.evaluator.inForce session

/-- To read the settings that an expression is evaluated by leaves the log, the setup of logging and
the application settings in force alone. -/
theorem runIn_settingsFor (session : Session) (given : Option EvaluatorSettings) :
    ∃ loaded : Session, loaded.log = session.log ∧ loaded.logging = session.logging ∧
      Part.app.inForce loaded = Part.app.inForce session ∧
      runIn (given.getDM evaluatorSettings) session =
        ((session.settingsFor given).mapError .invalid, loaded) := by
  cases given with
  | some settings => exact ⟨session, rfl, rfl, rfl, rfl⟩
  | none =>
    have huse : runIn evaluatorSettings session = _ := Part.runIn_use .evaluator session
    show ∃ loaded : Session, loaded.log = session.log ∧ loaded.logging = session.logging ∧
      Part.app.inForce loaded = Part.app.inForce session ∧
      runIn evaluatorSettings session =
        ((Part.evaluator.inForce session).mapError .invalid, loaded)
    rw [huse]
    cases Part.evaluator.inForce session with
    | error faults => exact ⟨session, rfl, rfl, rfl, rfl⟩
    | ok settings => exact ⟨Part.evaluator.keep session settings, rfl, rfl, rfl, rfl⟩

/-! ## What becomes of the text -/

/-- What an expression comes to by the settings that are given, or else by those in force. -/
def evaluated (session : Session) (text : String) (given : Option EvaluatorSettings) :
    Except Failure Outcome := do
  let settings ← (session.settingsFor given).mapError .invalid
  (LedgerAmount.evaluate settings.rule text).mapError .broken

/-- What becomes of a text, where logging can be set up. A plain number needs no settings. -/
def outcomeOf (session : Session) (subject : Subject) (text : String)
    (given : Option EvaluatorSettings) : Except Failure Outcome :=
  if subject = .expression ∨ looksLikeExpression text = true then session.evaluated text given
  else .ok ⟨text, plainAmount text⟩

variable {session : Session} {subject : Subject} {text : String} {given : Option EvaluatorSettings}
  {logger : Option Logger} {setup : LoggingSetup}

theorem evaluated_of_settings {settings : EvaluatorSettings}
    (h : session.settingsFor given = .ok settings) : session.evaluated text given =
      (LedgerAmount.evaluate settings.rule text).mapError .broken := by
  rw [evaluated, h]
  rfl

theorem evaluated_of_faults {faults : List FieldFault}
    (h : session.settingsFor given = .error faults) :
    session.evaluated text given = .error (.invalid faults) := by
  rw [evaluated, h]
  rfl

/-- By settings that are there, a text comes to an outcome or its evaluation is broken off. -/
theorem outcomeOf_of_settings {settings : EvaluatorSettings}
    (h : session.settingsFor given = .ok settings) :
    session.outcomeOf subject text given =
      (subject.outcome settings.rule text).mapError .broken := by
  rw [outcomeOf, evaluated_of_settings h]
  cases subject with
  | expression => rfl
  | amount =>
    simp only [reduceCtorEq, false_or, Subject.outcome, LedgerAmount.parseAmount]
    split <;> rfl

/-! ## Plans of entries -/

theorem read_planLogger (h : session.setupInForce = .ok setup) (name : Option String) :
    (session.planLogger name).read (Part.inForce session) =
      .ok ⟨name.getD LoggingSetup.defaultLogger, setup⟩ := by
  rw [planLogger, Plan.read_bind, read_planSetup, h]
  rfl

theorem exists_read_getLogger (h : session.setupInForce = .ok setup) (logger : Option Logger) :
    ∃ used, (logger.getDM (session.planLogger none)).read (Part.inForce session) = .ok used := by
  cases logger with
  | none => exact ⟨_, read_planLogger h none⟩
  | some logger => exact ⟨logger, rfl⟩

theorem read_planEvaluate (h : session.setupInForce = .ok setup) :
    (session.planEvaluate text given logger).read (Part.inForce session) =
      session.evaluated text given := by
  have hsettings : (given.getDM (Plan.require .evaluator)).read (Part.inForce session) =
      (session.settingsFor given).mapError .invalid := by
    cases given <;> rfl
  obtain ⟨used, hlogger⟩ := exists_read_getLogger h logger
  simp only [planEvaluate, Plan.read_bind, hsettings, hlogger, evaluated, Plan.read, Plan.read_pure]
  cases (session.settingsFor given).mapError Failure.invalid with
  | error failure => rfl
  | ok settings =>
    simp only [bind, Except.bind]
    cases (LedgerAmount.evaluate settings.rule text).mapError Failure.broken <;> rfl

/-- Where logging can be set up, what a text comes to is up to the text and the settings. -/
theorem read_planEnter_of_setup (h : session.setupInForce = .ok setup) :
    (session.planEnter subject text given logger).read (Part.inForce session) =
      session.outcomeOf subject text given := by
  cases subject with
  | expression => exact (read_planEvaluate h).trans (if_pos (.inl rfl)).symm
  | amount =>
    obtain ⟨used, hlogger⟩ := exists_read_getLogger h logger
    simp only [planEnter, planAmount, Plan.read_bind, hlogger, outcomeOf, reduceCtorEq, false_or]
    split
    · exact read_planEvaluate h
    · rfl

theorem read_planGiven (arguments : Option Record) :
    (arguments.mapM (session.planGiven EvaluatorSettings.load)).read (Part.inForce session) =
      (session.given EvaluatorSettings.load arguments).mapError .invalid := by
  cases arguments with
  | none => rfl
  | some arguments =>
    show (session.planGiven EvaluatorSettings.load arguments >>= fun settings =>
      pure (some settings)).read _ = _
    rw [Plan.read_bind, planGiven, given]
    cases EvaluatorSettings.load (session.sources arguments) <;> rfl

/-- Where logging can be set up, a request to enter a text is answered by what the text comes to. -/
theorem answer_serve_request (h : session.setupInForce = .ok setup) (arguments : Option Record)
    (name : Option String) :
    (session.serve (subject.request text arguments name)).1.answer = (do
      let given ← (session.given EvaluatorSettings.load arguments).mapError .invalid
      return .outcome (← session.outcomeOf subject text given)) := by
  have hplan : session.plan (subject.request text arguments name) =
      session.planEntry subject text arguments name := by
    cases subject <;> rfl
  have hlogger : ∃ logger, (name.mapM fun name => session.planLogger (some name)).read
      (Part.inForce session) = .ok logger := by
    cases name with
    | none => exact ⟨none, rfl⟩
    | some name =>
      refine ⟨some ⟨name, setup⟩, ?_⟩
      show (session.planLogger (some name) >>= fun logger => pure (some logger)).read _ = _
      rw [Plan.read_bind, read_planLogger h]
      rfl
  obtain ⟨logger, hlogger⟩ := hlogger
  rw [(session.serve_eq _).1, hplan, planEntry]
  simp only [Plan.read_bind, read_planGiven, hlogger, read_planEnter_of_setup h]
  cases (session.given EvaluatorSettings.load arguments).mapError Failure.invalid with
  | error failure => rfl
  | ok given =>
    simp only [bind, Except.bind]
    cases session.outcomeOf subject text given <;> rfl

end Session

end LedgerAmount
