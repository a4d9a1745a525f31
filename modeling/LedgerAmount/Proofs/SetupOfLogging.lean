import LedgerAmount.Proofs.LastingSetup

/-!
# The setup of logging

Logging is set up at most once. As long as it is not, every request that comes to make a logger or
to configure logging tries it, by application settings that are given or else by those in force.
Faults in their place fail the request and leave logging as it was. The first settings without
faults decide the setup, which lasts from then on until logging is reset, whatever is requested
before that: the level of the package's loggers and the form of the records stay as they are.
-/

namespace LedgerAmount

open Call

namespace Session

/-! ## Requests that try to set up logging -/

/-- The settings by which an entry tries to set up logging, if it comes to that. Evaluator settings
that are given are read before, and without a named logger an expression is evaluated before. -/
def triedByEntry (session : Session) (subject : Subject) (text : String)
    (arguments : Option Record) (name : Option String) :
    Option (Except (List FieldFault) AppSettings) :=
  (session.given EvaluatorSettings.load arguments).toOption.bind fun given =>
    if subject = .expression ∧ name = none then
      (session.evaluated text given).toOption.map fun _ => Part.app.inForce session
    else some (Part.app.inForce session)

/-- The application settings by which a request tries to set up logging, or the faults in their
place, if it comes to that. -/
def tried (session : Session) : Request → Option (Except (List FieldFault) AppSettings)
  | .configureLogging arguments =>
    some (do session.appSettingsFor (← session.given AppSettings.load arguments))
  | .logEvent _ _ | .logOutcome _ _ _ => some (Part.app.inForce session)
  | .evaluate text arguments name => session.triedByEntry .expression text arguments name
  | .parseAmount text arguments name => session.triedByEntry .amount text arguments name
  | .setEnvironment _ | .setFile _ | .dropSettings | .resetLogging | .getSettings
  | .checkSettings => none

/-- What a call makes of logging that is not set up, if it tries to set it up by some settings. -/
def SetsUp {α : Type} (tried : Option (Except (List FieldFault) AppSettings)) (call : Call α)
    (session : Session) : Prop :=
  match tried with
  | none => (runIn call session).2.logging = none
  | some (.error faults) => (runIn call session).1 = .error (.invalid faults) ∧
      (runIn call session).2.logging = none
  | some (.ok settings) => (runIn call session).2.logging = some (.ofSettings settings)

namespace SetsUp

variable {α β : Type} {session after : Session} {first : Call α} {next : α → Call β} {a : α}
  {tried : Option (Except (List FieldFault) AppSettings)}

/-- Nothing is tried after a call that fails. -/
theorem never {failure : Failure} (hfirst : runIn first session = (.error failure, after))
    (hafter : after.logging = none) : SetsUp none (first >>= next) session := by
  show (runIn (first >>= next) session).2.logging = none
  rw [runIn_bind, hfirst]
  exact hafter

theorem fails {faults : List FieldFault}
    (hfirst : runIn first session = (.error (.invalid faults), after))
    (hafter : after.logging = none) : SetsUp (some (.error faults)) (first >>= next) session := by
  refine ⟨?_, never hfirst hafter⟩
  rw [runIn_bind, hfirst]

theorem quiet (hfirst : (runIn first session).2.logging = none)
    (hnext : ∀ a after, after.logging = none → SetsUp none (next a) after) :
    SetsUp none (first >>= next) session := by
  show (runIn (first >>= next) session).2.logging = none
  rw [runIn_bind]
  cases hrun : runIn first session with
  | mk result after =>
    rw [hrun] at hfirst
    cases result with
    | error failure => exact hfirst
    | ok a => exact hnext a after hfirst

/-- What is tried after a call that has a value. -/
theorem later (hfirst : runIn first session = (.ok a, after))
    (hnext : SetsUp tried (next a) after) : SetsUp tried (first >>= next) session := by
  have hrun : runIn (first >>= next) session = runIn (next a) after := by rw [runIn_bind, hfirst]
  rw [SetsUp.eq_def, hrun]
  exact hnext

theorem setUpLogging {next : LoggingSetup → Call β} (h : session.logging = none)
    (given : Option AppSettings)
    (hnext : ∀ setup after, after.logging = some setup →
      Ensures (next setup) after fun _ _ => True) :
    SetsUp (some (session.appSettingsFor given)) (Session.setUpLogging given >>= next) session := by
  obtain ⟨kept, -, hrun⟩ := runIn_setUpLogging_of_none h given
  cases hsettings : session.appSettingsFor given with
  | error faults =>
    rw [hsettings] at hrun
    exact fails hrun h
  | ok settings =>
    rw [hsettings] at hrun
    refine later hrun ?_
    exact (hnext _ _ rfl).leadsTo.logging _ rfl

theorem openLogger {next : Logger → Call β} (h : session.logging = none) (name : Option String)
    (hnext : ∀ logger after, after.logging = some logger.setup →
      Ensures (next logger) after fun _ _ => True) :
    SetsUp (some (Part.app.inForce session)) (Session.openLogger name >>= next) session := by
  rw [Session.openLogger, bind_assoc]
  exact setUpLogging h none fun setup after hsetup => hnext ⟨_, setup⟩ after hsetup

/-- An amount makes its logger first, and an expression after it was evaluated. -/
theorem enter (subject : Subject) (text : String) (given : Option EvaluatorSettings)
    (h : session.logging = none) :
    SetsUp (if subject = .expression then
        (session.evaluated text given).toOption.map fun _ => Part.app.inForce session
      else some (Part.app.inForce session))
      (do return Answer.outcome (← Session.enter subject text given none)) session := by
  cases subject with
  | amount =>
    have hlogger : Session.enter .amount text given none = (do
        let logger ← Session.openLogger none
        Session.enter .amount text given (some logger)) := rfl
    rw [hlogger, bind_assoc, if_neg (by simp)]
    refine openLogger h none fun logger after hafter => ?_
    exact (Ensures.enter .amount text given (backs_some hafter)).bind fun _ _ _ _ =>
      .pure trivial
  | expression =>
    -- Nothing is tried where the settings have faults or the evaluation is broken off.
    obtain ⟨loaded, -, hlogging, happ, hload⟩ := runIn_settingsFor session given
    rw [if_pos rfl, Session.enter, Session.evaluate]
    simp only [bind_assoc, pure_bind]
    cases hsettings : session.settingsFor given with
    | error faults =>
      rw [hsettings] at hload
      rw [evaluated_of_faults hsettings]
      exact never hload (hlogging.trans h)
    | ok settings =>
      rw [hsettings] at hload
      rw [evaluated_of_settings hsettings]
      refine later hload ?_
      cases LedgerAmount.evaluate settings.rule text with
      | error defect => exact never (runIn_settle _ _) (hlogging.trans h)
      | ok outcome =>
        refine later (runIn_settle _ _) ?_
        rw [← happ]
        exact openLogger (hlogging.trans h) none fun logger after hafter =>
          (Ensures.write hafter (.ofOutcome .expression outcome)).bind fun _ _ _ _ => .pure trivial

/-- Entering a text on request. -/
theorem entry (subject : Subject) (text : String) (arguments : Option Record)
    (name : Option String) (h : session.logging = none) :
    SetsUp (session.triedByEntry subject text arguments name)
      (Session.entry subject text arguments name) session := by
  have hgiven := runIn_givenSettings arguments session
  rw [triedByEntry]
  cases hread : session.given EvaluatorSettings.load arguments with
  | error faults =>
    rw [hread] at hgiven
    exact never hgiven h
  | ok given =>
    rw [hread] at hgiven
    refine later hgiven ?_
    cases name with
    | none =>
      show SetsUp (if subject = .expression ∧ (none : Option String) = none then _ else _)
        (do return Answer.outcome (← Session.enter subject text given none)) session
      simp only [and_true]
      exact enter subject text given h
    | some name =>
      show SetsUp (if subject = .expression ∧ some name = none then _ else _)
        (some <$> Session.openLogger (some name) >>= fun logger => do
          return Answer.outcome (← Session.enter subject text given logger)) session
      rw [if_neg (by simp), bind_map_left]
      refine openLogger h (some name) fun logger after hafter => ?_
      exact (Ensures.enter subject text given (backs_some hafter)).bind fun _ _ _ _ =>
        .pure trivial

/-- Every request does to logging that is not set up what the settings make of it by which it
tries to set it up. -/
theorem answer {request : Request} (h : session.logging = none) :
    SetsUp (session.tried request) (Session.answer request) session := by
  cases request with
  | setEnvironment | setFile | dropSettings => exact h
  | resetLogging => rfl
  | configureLogging arguments =>
    have hgiven := runIn_givenAppSettings arguments session
    rw [tried]
    cases hread : session.given AppSettings.load arguments with
    | error faults =>
      rw [hread] at hgiven
      exact fails hgiven h
    | ok given =>
      rw [hread] at hgiven
      exact later hgiven (setUpLogging h given fun _ _ _ => .pure trivial)
  | getSettings =>
    have huse : ∀ (part : Part) (point : Session), point.logging = none →
        (runIn part.use point).2.logging = none := fun _ _ => Part.logging_use.trans
    exact quiet (huse .evaluator session h) fun evaluator loaded hloaded =>
      quiet (huse .app loaded hloaded) fun app after hafter => hafter
  | checkSettings =>
    simp only [Session.answer, Session.checkSettings, bind_assoc, pure_bind]
    have hcheck : ∀ (part : Part) (point : Session), point.logging = none →
        (runIn (faultsOfLoading part.use) point).2.logging = none := by
      intro part point hpoint
      rw [part.session_faultsOfLoading, Part.logging_use, hpoint]
    exact quiet (hcheck .evaluator session h) fun evaluator loaded hloaded =>
      quiet (hcheck .app loaded hloaded) fun app after hafter => hafter
  | evaluate text arguments name => exact entry .expression text arguments name h
  | parseAmount text arguments name => exact entry .amount text arguments name h
  | logEvent event name =>
    refine openLogger h name fun logger opened hopened => (Ensures.settle _).bind ?_
    rintro event _ rfl _
    exact (Ensures.write hopened event).bind fun _ _ _ _ => .pure trivial
  | logOutcome subject outcome name =>
    refine openLogger h name fun logger opened hopened => (Ensures.settle outcome).bind ?_
    rintro outcome _ rfl _
    exact (Ensures.write hopened _).bind fun _ _ _ _ => .pure trivial

end SetsUp

/-! ## Runs -/

variable {session : Session}

theorem setsUp_serve (request : Request) (h : session.logging = none) :
    SetsUp (session.tried request) (answer request) { session with log := [] } := by
  have htried : tried { session with log := [] } request = session.tried request := by
    cases request <;> rfl
  rw [← htried]
  exact SetsUp.answer h

/-- A request to configure logging is done once it has settings without faults. -/
theorem answer_configureLogging {arguments : Option Record} {settings : AppSettings}
    (h : session.logging = none)
    (hsettings : session.tried (.configureLogging arguments) = some (.ok settings)) :
    (session.serve (.configureLogging arguments)).1.answer = .ok .done := by
  rw [(session.serve_eq _).1]
  cases arguments with
  | none =>
    have happ : Part.app.inForce session = .ok settings := Option.some.inj hsettings
    simp only [plan, Plan.read_bind, read_planSetup, setupInForce, h, happ]
    rfl
  | some arguments =>
    obtain ⟨given, hread, -⟩ := bind_eq_ok_iff.mp (Option.some.inj hsettings)
    rw [Session.given] at hread
    rw [plan, Plan.read_bind, planGiven]
    cases hload : AppSettings.load (session.sources arguments) with
    | ok given => rfl
    | error faults =>
      rw [hload] at hread
      cases hread

/-- Logging is set up by the first attempt that is made by settings without faults, and by no other.
While it is not set up, an attempt by faulty settings fails and leaves it so. The level and the form
of records that an attempt sets last up to every later point of a run in which logging is not reset,
and all that is logged is written by the setup that lasts. -/
theorem setUp_once (start : Session) (before : List Request) (request : Request)
    (later : List Request) (hreset : .resetLogging ∉ before ++ request :: later) :
    let point := start.after before
    let next := (point.serve request).2
    (point.logging = none →
      match point.tried request with
      | none => next.logging = none
      | some (.error faults) =>
        (point.serve request).1.answer = .error (.invalid faults) ∧ next.logging = none
      | some (.ok settings) =>
        (next.after later).logging = some ⟨settings.logLevel, settings.logJson⟩ ∧
          ∀ arguments, request = .configureLogging arguments →
            (point.serve request).1.answer = .ok .done) ∧
    (∀ setup, point.logging = some setup → (next.after later).logging = some setup) ∧
    ∀ record ∈ (point.serve request).1.log,
      ∃ setup, (next.after later).logging = some setup ∧ setup.Writes record := by
  intro point next
  have hlater : .resetLogging ∉ request :: later := fun h => hreset (List.mem_append_right _ h)
  have hafter : .resetLogging ∉ later := fun h => hlater (List.mem_cons_of_mem _ h)
  refine ⟨?_, fun setup h => ?_, ?_⟩
  · intro h
    have hsetsUp := setsUp_serve request h
    cases htried : point.tried request with
    | none =>
      rw [htried] at hsetsUp
      exact hsetsUp
    | some tried =>
      rw [htried] at hsetsUp
      cases tried with
      | error faults => exact hsetsUp
      | ok settings =>
        refine ⟨logging_after_of_some hsetsUp hafter, ?_⟩
        rintro arguments rfl
        exact answer_configureLogging h htried
  · have hlasts : ∀ requests, .resetLogging ∉ requests →
        (point.after requests).logging = some setup := fun _ => logging_after_of_some h
    exact hlasts (request :: later) hlater
  · intro record hrecord
    obtain ⟨setup, hsetup, hwrites⟩ := writes_of_mem_log hrecord
    exact ⟨setup, logging_after_of_some hsetup hafter, hwrites⟩

/-- A level that is not known keeps logging from being set up. The amount entered next sets it up,
and neither other settings nor another attempt change that. -/
theorem setUp_once_amount :
    let before : List Request := [.setEnvironment [("LOG_LEVEL", some "loud")]]
    let amend : List Request :=
      [.setEnvironment [("LOG_LEVEL", some "error"), ("LOG_JSON", some "no")]]
    let later : List Request :=
      [.setEnvironment [("LOG_LEVEL", some "debug")], .dropSettings,
        .configureLogging (some [("log_level", .text "info")])]
    let failed := (Session.initial.after before).serve (.configureLogging none)
    failed.1.answer = .error (.invalid
      [⟨"log_level", .refused "Unknown log level 'loud'", some "loud"⟩]) ∧
    failed.2.logging = none ∧
    (((failed.2.after amend).serve (.parseAmount "7" none (some "till"))).2.after later).logging =
      some ⟨.error, false⟩ := by
  intro before amend later failed
  have hbefore : (Session.initial.after before).logging = none := by decide +kernel
  have hfaulty : (Session.initial.after before).tried (.configureLogging none) =
      some (.error [⟨"log_level", .refused "Unknown log level 'loud'", some "loud"⟩]) := by
    decide +kernel
  obtain ⟨hfailed, -⟩ :=
    setUp_once .initial before (.configureLogging none) [] (by simp [before])
  rw [hfaulty] at hfailed
  have hamended : (failed.2.after amend).logging = none := by decide +kernel
  have hsound : (failed.2.after amend).tried (.parseAmount "7" none (some "till")) =
      some (.ok ⟨"development", false, .error, false⟩) := by decide +kernel
  have hreset : .resetLogging ∉ amend ++ .parseAmount "7" none (some "till") :: later := by
    simp [amend, later]
  obtain ⟨hdone, -⟩ := setUp_once failed.2 amend _ later hreset
  rw [hsound] at hdone
  exact ⟨(hfailed hbefore).1, (hfailed hbefore).2, (hdone hamended).1⟩

end Session

end LedgerAmount
