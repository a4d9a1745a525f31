import LedgerAmount.Proofs.Entry
import LedgerAmount.Proofs.InForce
import LedgerAmount.Session.Request

/-!
# Plans

A plan is what a call makes of the settings of a session: it uses one part after the other, and how
it goes on may depend on what it is given. Every request has a plan. Serving the request is to carry
out the plan with what is in force when the request arrives; of the settings it keeps just the parts
that the plan uses.
-/

namespace LedgerAmount

open Call

/-- What a call makes of the settings: it comes to a result, or it uses a part and goes on with the
settings or the faults that it is given. -/
inductive Plan (α : Type) where
  | finish (result : Except Failure α)
  | use (part : Part) (next : Except (List FieldFault) part.Settings → Plan α)

namespace Plan

variable {α β : Type}

/-- One plan after the other. -/
def bind (plan : Plan α) (next : α → Plan β) : Plan β :=
  match plan with
  | finish (.ok a) => next a
  | finish (.error failure) => finish (.error failure)
  | use part rest => use part fun given => (rest given).bind next

instance : Monad Plan where
  pure a := finish (.ok a)
  bind := bind

theorem bind_pure (plan : Plan α) : (plan >>= pure) = plan := by
  show plan.bind pure = plan
  induction plan with
  | finish result => cases result <;> rfl
  | use part rest ih => exact congrArg (use part) (funext ih)

/-- Goes on with the settings of a part, or fails with its faults. -/
def require (part : Part) : Plan part.Settings :=
  use part fun given => finish (given.mapError .invalid)

/-- Goes on with the faults of a part, if there are any. -/
def attempt (part : Part) : Plan (Option (List FieldFault)) :=
  use part fun
    | .ok _ => return none
    | .error faults => return some faults

/-! ## Carrying out a plan -/

variable (inForce : (part : Part) → Except (List FieldFault) part.Settings)

/-- What a plan comes to if it is given what is in force. -/
def read : Plan α → Except Failure α
  | finish result => result
  | use part next => (next (inForce part)).read

/-- The parts that a plan uses if it is given what is in force. -/
def used : Plan α → List Part
  | finish _ => []
  | use part next => part :: (next (inForce part)).used

@[simp] theorem read_pure (a : α) : (pure a : Plan α).read inForce = .ok a := rfl

@[simp] theorem used_pure (a : α) : (pure a : Plan α).used inForce = [] := rfl

theorem read_bind (plan : Plan α) (next : α → Plan β) :
    (plan >>= next).read inForce =
      match plan.read inForce with
      | .ok a => (next a).read inForce
      | .error failure => .error failure := by
  show (plan.bind next).read inForce = _
  induction plan with
  | finish result => cases result <;> rfl
  | use part rest ih => exact ih (inForce part)

theorem used_bind (plan : Plan α) (next : α → Plan β) :
    (plan >>= next).used inForce =
      match plan.read inForce with
      | .ok a => plan.used inForce ++ (next a).used inForce
      | .error _ => plan.used inForce := by
  show (plan.bind next).used inForce = _
  induction plan with
  | finish result => cases result <;> rfl
  | use part rest ih =>
    rw [bind, used, ih (inForce part), used, read]
    cases (rest (inForce part)).read inForce <;> rfl

end Plan

/-! ## The plans of requests -/

namespace Session

variable (session : Session)

/-- How logging is set up. -/
def planSetup : Plan LoggingSetup :=
  match session.logging with
  | some setup => return setup
  | none => return .ofSettings (← .require .app)

theorem read_planSetup :
    session.planSetup.read (Part.inForce session) = session.setupInForce.mapError .invalid := by
  rw [planSetup, setupInForce]
  cases session.logging with
  | some setup => rfl
  | none =>
    simp only [Plan.read_bind, Plan.require, Plan.read]
    cases Part.app.inForce session <;> rfl

theorem used_planSetup :
    session.planSetup.used (Part.inForce session) =
      match session.logging with
      | some _ => []
      | none => [.app] := by
  rw [planSetup]
  cases session.logging with
  | some setup => rfl
  | none =>
    simp only [Plan.used_bind, Plan.require, Plan.read, Plan.used]
    cases Part.app.inForce session <;> rfl

/-- How a logger is made. -/
def planLogger (name : Option String) : Plan Logger := do
  return ⟨name.getD LoggingSetup.defaultLogger, ← session.planSetup⟩

/-- How an expression is evaluated. -/
def planEvaluate (text : String) (settings : Option EvaluatorSettings)
    (logger : Option Logger) : Plan Outcome := do
  let settings ← settings.getDM (.require .evaluator)
  let outcome ← .finish ((LedgerAmount.evaluate settings.rule text).mapError .broken)
  let _ ← logger.getDM (session.planLogger none)
  return outcome

/-- How an amount is taken. -/
def planAmount (text : String) (settings : Option EvaluatorSettings)
    (logger : Option Logger) : Plan Outcome := do
  let logger ← logger.getDM (session.planLogger none)
  if looksLikeExpression text then session.planEvaluate text settings (some logger)
  else return ⟨text, plainAmount text⟩

/-- How a text is entered. -/
def planEnter : Subject → String → Option EvaluatorSettings → Option Logger → Plan Outcome
  | .expression => session.planEvaluate
  | .amount => session.planAmount

/-- How settings are made from arguments. -/
def planGiven {α : Type} (load : Sources → Except (List FieldFault) α) (arguments : Record) :
    Plan α :=
  .finish ((load (session.sources arguments)).mapError .invalid)

/-- How a text is entered by given settings and under a named logger, if any. -/
def planEntry (subject : Subject) (text : String) (arguments : Option Record)
    (name : Option String) : Plan Answer := do
  let settings ← arguments.mapM (session.planGiven EvaluatorSettings.load)
  let logger ← name.mapM fun name => session.planLogger (some name)
  return .outcome (← session.planEnter subject text settings logger)

/-- How a request is answered. -/
def plan : Request → Plan Answer
  | .setEnvironment _ | .setFile _ | .dropSettings | .resetLogging => return .done
  | .configureLogging none => do
    let _ ← session.planSetup
    return .done
  | .configureLogging (some arguments) => do
    let _ ← session.planGiven AppSettings.load arguments
    return .done
  | .getSettings => return .settings (← .require .evaluator) (← .require .app)
  | .checkSettings => return .report ⟨← .attempt .evaluator, ← .attempt .app⟩
  | .evaluate text settings logger => session.planEntry .expression text settings logger
  | .parseAmount text settings logger => session.planEntry .amount text settings logger
  | .logEvent event logger => do
    let _ ← session.planLogger logger
    let _ ← .finish ((Event.ofRecord event).mapError .invalid)
    return .done
  | .logOutcome _ outcome logger => do
    let _ ← session.planLogger logger
    let _ ← .finish outcome
    return .done

end Session

/-! ## Following a plan -/

/-- A session that came of an earlier one by calls that used some parts: what was in force of these
parts is kept now, and logging may have been set up. -/
structure Since (start : Session) (used : List Part) (session : Session) : Prop where
  environment : session.environment = start.environment
  file : session.file = start.file
  kept : ∀ part : Part, part.kept session =
    if part ∈ used then (part.inForce start).toOption else part.kept start
  logging : session.logging = start.logging ∨
    .app ∈ used ∧ start.logging = none ∧ ∃ settings, Part.app.inForce start = .ok settings ∧
      session.logging = some (.ofSettings settings)

variable {α β : Type} {start session : Session} {used : List Part}

/-- A call whose failure is handled. -/
theorem Call.runIn_tryCatch (call : Call α) (handler : Failure → Call α) (session : Session) :
    runIn (tryCatch call handler) session =
      match runIn call session with
      | (.ok a, after) => (.ok a, after)
      | (.error failure, after) => runIn (handler failure) after := by
  simp only [runIn, tryCatch, tryCatchThe, MonadExceptOf.tryCatch, ExceptT.tryCatch, ExceptT.run,
    ExceptT.mk, StateT.run_bind]
  generalize StateT.run call session = ran
  rcases ran with ⟨_ | _, _⟩ <;> rfl

/-- Asking for the faults of a part uses the part. -/
theorem Part.runIn_faultsOfLoading (part : Part) (session : Session) :
    runIn (Session.faultsOfLoading part.use) session =
      match part.inForce session with
      | .ok settings => (.ok none, part.keep session settings)
      | .error faults => (.ok (some faults), session) := by
  rw [Session.faultsOfLoading, Call.runIn_tryCatch, runIn_bind, Part.runIn_use]
  cases part.inForce session <;> rfl

theorem Part.session_faultsOfLoading (part : Part) (session : Session) :
    (runIn (Session.faultsOfLoading part.use) session).2 = (runIn part.use session).2 := by
  rw [Part.runIn_faultsOfLoading, Part.runIn_use]
  cases part.inForce session <;> rfl

namespace Since

/-- The log does not matter. -/
theorem withLog (start : Session) (log : List LogRecord) : Since start [] { start with log } := by
  refine ⟨rfl, rfl, ?_, .inl rfl⟩
  intro part
  rw [if_neg List.not_mem_nil]
  exact Part.kept_congr rfl rfl

theorem sources (h : Since start used session) (arguments : Record) :
    session.sources arguments = start.sources arguments := by
  rw [Session.sources, Session.sources, h.environment, h.file]

/-- Calls that use settings leave in force what was. -/
theorem inForce (h : Since start used session) (part : Part) :
    part.inForce session = part.inForce start := by
  have hkept := h.kept part
  by_cases hused : part ∈ used
  · rw [if_pos hused] at hkept
    cases hstart : part.inForce start with
    | ok settings => exact Part.inForce_of_kept (by rw [hkept, hstart]; rfl)
    | error faults =>
      -- Nothing was kept at the start, and nothing is now: the same sources are read again.
      rw [Part.inForce_of_not_kept (by rw [hkept, hstart]; rfl), h.sources,
        ← Part.inForce_of_not_kept (Part.not_kept_of_inForce hstart), hstart]
  · rw [if_neg hused] at hkept
    rw [Part.inForce, Part.inForce, hkept, h.sources]

/-- A part that is used is kept from then on, unless there are faults in its place. -/
theorem use (h : Since start used session) (part : Part) :
    Since start (used ++ [part]) (runIn part.use session).2 := by
  have hinForce := h.inForce part
  have happ : .app ∈ used → .app ∈ used ++ [part] := fun happ => List.mem_append_left _ happ
  rw [Part.runIn_use]
  cases hpart : part.inForce session with
  | error faults =>
    refine ⟨h.environment, h.file, ?_, h.logging.imp_right (And.imp_left happ)⟩
    intro other
    rw [h.kept other]
    by_cases hother : other = part
    · subst hother
      have hstart : other.inForce start = .error faults := hinForce.symm.trans hpart
      simp [hstart, Part.not_kept_of_inForce hstart, Except.toOption]
    · simp [hother]
  | ok settings =>
    refine ⟨?_, ?_, ?_, ?_⟩
    · rw [Part.environment_keep, h.environment]
    · rw [Part.file_keep, h.file]
    · intro other
      by_cases hother : other = part
      · subst hother
        rw [Part.kept_keep, ← hinForce, hpart]
        simp [Except.toOption]
      · rw [Part.kept_keep_of_ne hother, h.kept other]
        simp [hother]
    · rw [Part.logging_keep]
      exact h.logging.imp_right (And.imp_left happ)

/-- A part that was used may be used again. -/
theorem again (h : Since start used session) {part : Part} (hused : part ∈ used) :
    Since start (used ++ [part]) session := by
  have hmem : ∀ other, other ∈ used ++ [part] ↔ other ∈ used := by
    intro other
    simp only [List.mem_append, List.mem_singleton, or_iff_left_iff_imp]
    rintro rfl
    exact hused
  refine ⟨h.environment, h.file, ?_, ?_⟩
  · intro other
    simp only [hmem]
    exact h.kept other
  · simp only [hmem]
    exact h.logging

/-- Logging is set up by the application settings, after they were used. -/
theorem setUp (h : Since start used session) {settings : AppSettings} (hused : .app ∈ used)
    (happ : Part.app.inForce start = .ok settings) (hstart : start.logging = none) :
    Since start used { session with logging := some (.ofSettings settings) } := by
  refine ⟨h.environment, h.file, ?_, .inr ⟨hused, hstart, settings, happ, rfl⟩⟩
  intro part
  rw [← h.kept part]
  exact Part.kept_congr rfl rfl

end Since

/-- A call follows a plan: wherever it is made since `start`, it comes to what the plan comes to
with what was in force at the start, and uses what the plan uses. -/
def Follows (start : Session) (call : Call α) (plan : Plan α) : Prop :=
  ∀ used session, Since start used session →
    (runIn call session).1 = plan.read (Part.inForce start) ∧
      Since start (used ++ plan.used (Part.inForce start)) (runIn call session).2

namespace Follows

/-- A call comes to what its plan comes to with what is in force. -/
theorem result {call : Call α} {plan : Plan α} (h : Follows start call plan) :
    (runIn call start).1 = plan.read (Part.inForce start) :=
  (h [] start (Since.withLog start start.log)).1

theorem settle (result : Except Failure α) : Follows start (settle result) (.finish result) := by
  intro used session hsince
  rw [runIn_settle]
  exact ⟨rfl, by rw [Plan.used, List.append_nil]; exact hsince⟩

theorem pure (a : α) : Follows start (Pure.pure a : Call α) (Pure.pure a) := settle (.ok a)

theorem bind {call : Call α} {next : α → Call β} {plan : Plan α} {rest : α → Plan β}
    (hcall : Follows start call plan) (hnext : ∀ a, Follows start (next a) (rest a)) :
    Follows start (call >>= next) (plan >>= rest) := by
  intro used session hsince
  obtain ⟨hresult, hafter⟩ := hcall used session hsince
  rw [runIn_bind, Plan.read_bind, Plan.used_bind, ← hresult]
  cases hrun : runIn call session with
  | mk result after =>
    rw [hrun] at hafter
    cases result with
    | error failure => exact ⟨rfl, hafter⟩
    | ok a =>
      simp only [← List.append_assoc]
      exact hnext a _ after hafter

theorem map {call : Call α} {plan : Plan α} (hcall : Follows start call plan) (f : α → β) :
    Follows start (f <$> call) (f <$> plan) := by
  rw [← bind_pure_comp]
  exact hcall.bind fun a => pure (f a)

theorem mapM {call : α → Call β} {plan : α → Plan β} (hcall : ∀ a, Follows start (call a) (plan a))
    (given : Option α) : Follows start (given.mapM call) (given.mapM plan) := by
  cases given with
  | none => exact pure none
  | some a => exact (hcall a).map some

theorem getDM {call : Call α} {plan : Plan α} (hcall : Follows start call plan)
    (given : Option α) : Follows start (given.getDM call) (given.getDM plan) := by
  cases given with
  | none => exact hcall
  | some a => exact pure a

/-- Using a part follows the plan that requires it. -/
theorem use (part : Part) : Follows start part.use (.require part) := by
  intro used session hsince
  refine ⟨?_, hsince.use part⟩
  rw [Part.runIn_use, hsince.inForce part, Plan.require, Plan.read, Plan.read]
  cases part.inForce start <;> rfl

/-- Asking for the faults of a part follows the plan that attempts it. -/
theorem faultsOfLoading (part : Part) :
    Follows start (Session.faultsOfLoading part.use) (.attempt part) := by
  intro used session hsince
  have huse := hsince.use part
  rw [Part.runIn_use, hsince.inForce part] at huse
  rw [Part.runIn_faultsOfLoading, hsince.inForce part, Plan.attempt, Plan.read, Plan.used]
  cases hstart : part.inForce start with
  | ok settings =>
    rw [hstart] at huse
    exact ⟨rfl, huse⟩
  | error faults =>
    rw [hstart] at huse
    exact ⟨rfl, huse⟩

/-- Setting up logging uses the application settings, but only the first time. -/
theorem setUpLogging : Follows start (Session.setUpLogging none) start.planSetup := by
  intro used session hsince
  have huse := hsince.use .app
  rw [Part.runIn_use, hsince.inForce .app] at huse
  rw [Session.read_planSetup, Session.used_planSetup, Session.runIn_setUpLogging,
    hsince.inForce .app, Session.setupInForce]
  obtain hlogging | ⟨hused, hstart, settings, happ, hlogging⟩ := hsince.logging
  · rw [hlogging]
    cases hstart : start.logging with
    | some setup => exact ⟨rfl, by rw [List.append_nil]; exact hsince⟩
    | none =>
      cases happ : Part.app.inForce start with
      | error faults =>
        rw [happ] at huse
        exact ⟨rfl, huse⟩
      | ok settings =>
        rw [happ] at huse
        exact ⟨rfl, huse.setUp (by simp) happ hstart⟩
  · -- Logging was set up since the start, by the settings that the plan uses once more.
    rw [hlogging, hstart, happ]
    exact ⟨rfl, hsince.again hused⟩

/-- Writing to the log leaves the settings alone. -/
theorem write (logger : Session.Logger) (event : Event) :
    Follows start (logger.write event) (Pure.pure ()) := by
  intro used session hsince
  rw [Session.runIn_write]
  refine ⟨rfl, ?_⟩
  rw [Plan.used_pure, List.append_nil]
  refine ⟨hsince.environment, hsince.file, ?_, hsince.logging⟩
  intro part
  rw [← hsince.kept part]
  exact Part.kept_congr rfl rfl

theorem openLogger (name : Option String) :
    Follows start (Session.openLogger name) (start.planLogger name) :=
  setUpLogging.bind fun _ => pure _

/-- Evaluating an expression follows its plan. -/
theorem evaluate (text : String) (settings : Option EvaluatorSettings)
    (logger : Option Session.Logger) :
    Follows start (Session.evaluate text settings logger)
      (start.planEvaluate text settings logger) := by
  refine ((use .evaluator).getDM settings).bind fun settings => ?_
  refine (settle _).bind fun outcome => ((openLogger none).getDM logger).bind fun logger => ?_
  exact (write logger _).bind fun _ => pure outcome

/-- Taking an amount follows its plan. -/
theorem parseAmount (text : String) (settings : Option EvaluatorSettings)
    (logger : Option Session.Logger) :
    Follows start (Session.parseAmount text settings logger)
      (start.planAmount text settings logger) := by
  refine ((openLogger none).getDM logger).bind fun logger => ?_
  have hlogged : ∀ outcome : Outcome, Follows start
      (do logger.write (.ofOutcome .amount outcome); return outcome) (Pure.pure outcome) :=
    fun outcome => (write logger _).bind fun _ => pure outcome
  by_cases hexpression : looksLikeExpression text = true
  · simp only [hexpression, if_true]
    rw [← Plan.bind_pure (start.planEvaluate text settings (some logger))]
    exact (evaluate text settings (some logger)).bind hlogged
  · simp only [hexpression]
    exact hlogged _

/-- Entering a text follows its plan. -/
theorem enter (subject : Subject) (text : String) (settings : Option EvaluatorSettings)
    (logger : Option Session.Logger) :
    Follows start (Session.enter subject text settings logger)
      (start.planEnter subject text settings logger) := by
  cases subject with
  | expression => exact evaluate text settings logger
  | amount => exact parseAmount text settings logger

/-- Settings made from arguments are the same at any time since the start. -/
theorem given (load : Sources → Except (List FieldFault) α) (arguments : Record) :
    Follows start (do valid (load ((← get).sources arguments)))
      (start.planGiven load arguments) := by
  intro used session hsince
  rw [runIn_bind, runIn_get, Session.planGiven, ← hsince.sources]
  exact settle _ used session hsince

/-- Entering a text on request follows its plan. -/
theorem entry (subject : Subject) (text : String) (arguments : Option Record)
    (name : Option String) :
    Follows start (do
      let settings ← arguments.mapM Session.givenSettings
      let logger ← name.mapM fun name => Session.openLogger (some name)
      return Answer.outcome (← Session.enter subject text settings logger))
    (start.planEntry subject text arguments name) := by
  refine (mapM (given EvaluatorSettings.load) arguments).bind fun settings => ?_
  refine (mapM (fun name => openLogger (some name)) name).bind fun logger => ?_
  exact (enter subject text settings logger).bind fun outcome => pure (Answer.outcome outcome)

end Follows

/-- The requests that change nothing but what is loaded and logged. -/
def Request.IsPlanned : Request → Prop
  | .setEnvironment _ | .setFile _ | .dropSettings | .resetLogging => False
  | .configureLogging given => given = none
  | _ => True

theorem Request.IsPlanned.follows {request : Request} (h : request.IsPlanned) :
    Follows start (Session.answer request) (start.plan request) := by
  cases request with
  | setEnvironment | setFile | dropSettings | resetLogging => exact h.elim
  | configureLogging given =>
    obtain rfl : given = none := h
    exact Follows.setUpLogging.bind fun _ => Follows.pure _
  | getSettings =>
    exact (Follows.use .evaluator).bind fun evaluator => (Follows.use .app).bind fun app =>
      Follows.pure (Answer.settings evaluator app)
  | checkSettings =>
    simp only [Session.answer, Session.checkSettings, bind_assoc, pure_bind]
    exact (Follows.faultsOfLoading .evaluator).bind fun evaluator =>
      (Follows.faultsOfLoading .app).bind fun app =>
        Follows.pure (Answer.report ⟨evaluator, app⟩)
  | evaluate text settings logger => exact Follows.entry .expression text settings logger
  | parseAmount text settings logger => exact Follows.entry .amount text settings logger
  | logEvent event logger =>
    refine (Follows.openLogger logger).bind fun logger => (Follows.settle _).bind fun event => ?_
    exact (Follows.write logger event).bind fun _ => Follows.pure Answer.done
  | logOutcome subject outcome logger =>
    refine (Follows.openLogger logger).bind fun logger =>
      (Follows.settle outcome).bind fun outcome => ?_
    exact (Follows.write logger _).bind fun _ => Follows.pure Answer.done

/-! ## Serving a request -/

namespace Session

/-- The parts of the settings that a request uses. -/
def uses (session : Session) (request : Request) : List Part :=
  (session.plan request).used (Part.inForce session)

theorem answer_serve (session : Session) (request : Request) :
    (session.serve request).1.answer = (runIn (answer request) { session with log := [] }).1 := rfl

theorem session_serve (session : Session) (request : Request) :
    (session.serve request).2 = (runIn (answer request) { session with log := [] }).2 := rfl

/-- Application settings given by arguments set up logging, unless that is done, and leave what is
loaded as it is. -/
theorem runIn_configureLogging (arguments : Record) (session : Session) :
    ∃ logging, runIn (answer (.configureLogging (some arguments))) session =
      ((session.plan (.configureLogging (some arguments))).read (Part.inForce session),
        { session with logging }) := by
  have hgiven : runIn ((some arguments).mapM givenAppSettings) session =
      (((AppSettings.load (session.sources arguments)).map some).mapError .invalid, session) := by
    show runIn (some <$> givenAppSettings arguments) session = _
    rw [runIn_map, givenAppSettings, runIn_bind, runIn_get]
    simp only [valid, runIn_settle]
    cases AppSettings.load (session.sources arguments) <;> rfl
  rw [answer, runIn_bind, hgiven]
  simp only [plan, Plan.read_bind, planGiven, Plan.read]
  cases AppSettings.load (session.sources arguments) with
  | error faults => exact ⟨session.logging, rfl⟩
  | ok settings =>
    simp only [Except.map, Except.mapError, runIn_bind]
    cases hlogging : session.logging with
    | some setup => exact ⟨session.logging, by rw [runIn_setUpLogging_of_some hlogging]; rfl⟩
    | none => exact ⟨some (.ofSettings settings), by rw [runIn_setUpLogging_some hlogging]; rfl⟩

theorem uses_configureLogging (arguments : Record) (session : Session) :
    session.uses (.configureLogging (some arguments)) = [] := by
  rw [uses, plan, Plan.used_bind, planGiven, Plan.read, Plan.used]
  cases (AppSettings.load (session.sources arguments)).mapError Failure.invalid <;> rfl

/-- Serving a request comes to what its plan comes to, with what is in force. Unless it is to drop
the settings, it changes what is kept of a part only if it uses the part: then what was in force is
kept. -/
theorem serve_eq (session : Session) (request : Request) :
    (session.serve request).1.answer = (session.plan request).read (Part.inForce session) ∧
      (request ≠ .dropSettings → ∀ part : Part, part.kept (session.serve request).2 =
        if part ∈ session.uses request then (part.inForce session).toOption
        else part.kept session) := by
  have hsince := Since.withLog session []
  by_cases hplanned : request.IsPlanned
  · obtain ⟨hanswer, hafter⟩ := hplanned.follows [] _ hsince
    refine ⟨hanswer, fun _ part => ?_⟩
    exact hafter.kept part
  · cases request with
    | setEnvironment changes => exact ⟨rfl, fun _ part => Part.kept_congr rfl rfl⟩
    | setFile text => exact ⟨rfl, fun _ part => Part.kept_congr rfl rfl⟩
    | resetLogging => exact ⟨rfl, fun _ part => Part.kept_congr rfl rfl⟩
    | dropSettings => exact ⟨rfl, fun h => absurd rfl h⟩
    | configureLogging given =>
      cases given with
      | none => exact absurd rfl hplanned
      | some arguments =>
        obtain ⟨logging, hrun⟩ := runIn_configureLogging arguments { session with log := [] }
        have hinForce : Part.inForce { session with log := [] } = Part.inForce session :=
          funext hsince.inForce
        refine ⟨?_, fun _ part => ?_⟩
        · rw [answer_serve, hrun, hinForce]
          rfl
        · rw [session_serve, hrun, uses_configureLogging, if_neg List.not_mem_nil]
          exact Part.kept_congr rfl rfl
    | _ => exact absurd trivial hplanned

end Session

end LedgerAmount
