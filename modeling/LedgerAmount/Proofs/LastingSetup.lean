import LedgerAmount.Proofs.EntryRequests
import LedgerAmount.Proofs.Keeping

/-!
# A setup of logging lasts

Once logging is set up, no call sets it up anew: the setup lasts until logging is reset, and
whatever is logged is written by it. A logger is made with the setup in place, so this also holds of
the loggers that calls are given.
-/

namespace LedgerAmount

open Call

/-- A record that a setup of logging writes. -/
def LoggingSetup.Writes (setup : LoggingSetup) (record : LogRecord) : Prop :=
  ∃ name event, record ∈ setup.records name event

namespace Session

/-! ## Attempts -/

/-- The application settings that logging is set up by: those given, or else those in force. -/
def appSettingsFor (session : Session) (given : Option AppSettings) :
    Except (List FieldFault) AppSettings :=
  match given with
  | some settings => .ok settings
  | none => Part.app.inForce session

/-- While logging is not set up, settings without faults set it up, and faults in their place leave
the session as it is. -/
theorem runIn_setUpLogging_of_none {session : Session} (h : session.logging = none)
    (given : Option AppSettings) :
    ∃ after : Session, after.log = session.log ∧ runIn (setUpLogging given) session =
      match session.appSettingsFor given with
      | .ok settings =>
        (.ok (.ofSettings settings), { after with logging := some (.ofSettings settings) })
      | .error faults => (.error (.invalid faults), session) := by
  cases given with
  | some settings => exact ⟨session, rfl, runIn_setUpLogging_some h settings⟩
  | none =>
    rw [runIn_setUpLogging, h, appSettingsFor]
    cases Part.app.inForce session with
    | ok settings => exact ⟨Part.app.keep session settings, Part.log_keep, rfl⟩
    | error faults => exact ⟨session, rfl, rfl⟩

/-- The setup that a call is given is the one in place. -/
theorem logging_of_setUpLogging {session after : Session} {given : Option AppSettings}
    {setup : LoggingSetup} (h : runIn (setUpLogging given) session = (.ok setup, after)) :
    after.logging = some setup := by
  cases hlogging : session.logging with
  | some lasting =>
    rw [runIn_setUpLogging_of_some hlogging] at h
    cases h
    exact hlogging
  | none =>
    obtain ⟨kept, -, hrun⟩ := runIn_setUpLogging_of_none hlogging given
    rw [hrun] at h
    cases hsettings : session.appSettingsFor given with
    | ok settings =>
      rw [hsettings] at h
      cases h
      rfl
    | error faults =>
      rw [hsettings] at h
      cases h

/-! ## What lasts -/

/-- What calls leave of logging. A setup lasts, and whatever they log is written by the setup that
is in place afterwards. -/
structure LeadsTo (before after : Session) : Prop where
  logging : ∀ setup, before.logging = some setup → after.logging = some setup
  log : ∀ record ∈ after.log, record ∈ before.log ∨
    ∃ setup, after.logging = some setup ∧ setup.Writes record

namespace LeadsTo

variable {before after last : Session}

/-- Only the setup of logging and the log count. -/
theorem of_eq (hlogging : after.logging = before.logging) (hlog : after.log = before.log) :
    before.LeadsTo after := by
  refine ⟨fun setup h => hlogging.trans h, fun record h => .inl ?_⟩
  rw [← hlog]
  exact h

theorem refl (session : Session) : session.LeadsTo session := of_eq rfl rfl

theorem trans (hfirst : before.LeadsTo after) (hnext : after.LeadsTo last) :
    before.LeadsTo last := by
  refine ⟨fun setup h => hnext.logging setup (hfirst.logging setup h), ?_⟩
  intro record hrecord
  refine (hnext.log record hrecord).elim ?_ .inr
  intro hafter
  refine (hfirst.log record hafter).imp_right ?_
  rintro ⟨setup, hsetup, hwrites⟩
  exact ⟨setup, hnext.logging setup hsetup, hwrites⟩

end LeadsTo

/-- A logger, if there is one, was made with the setup in place. -/
def Backs (session : Session) (logger : Option Logger) : Prop :=
  ∀ used, logger = some used → session.logging = some used.setup

theorem backs_none (session : Session) : session.Backs none := by
  intro used hused
  cases hused

theorem backs_some {session : Session} {logger : Logger}
    (h : session.logging = some logger.setup) : session.Backs (some logger) := by
  rintro used ⟨rfl⟩
  exact h

theorem LeadsTo.backs {before after : Session} {logger : Option Logger}
    (hleads : before.LeadsTo after) (h : before.Backs logger) : after.Backs logger :=
  fun used hused => hleads.logging _ (h used hused)

/-- A call leaves of logging what it should, and if it comes to a value, `post` holds of that. -/
structure Ensures {α : Type} (call : Call α) (session : Session) (post : α → Session → Prop) :
    Prop where
  leadsTo : session.LeadsTo (runIn call session).2
  holds : ∀ a after, runIn call session = (.ok a, after) → post a after

namespace Ensures

variable {α β : Type} {session : Session} {call : Call α} {next : α → Call β}
  {post : α → Session → Prop} {goal : β → Session → Prop} {logger : Option Logger}

theorem bind (hcall : Ensures call session post)
    (hnext : ∀ a after, post a after → session.LeadsTo after → Ensures (next a) after goal) :
    Ensures (call >>= next) session goal := by
  cases hrun : runIn call session with
  | mk result after =>
    have hafter := hcall.leadsTo
    rw [hrun] at hafter
    cases result with
    | ok a =>
      have hgoes := hnext a after (hcall.holds a after hrun) hafter
      have hbind : runIn (call >>= next) session = runIn (next a) after := by rw [runIn_bind, hrun]
      exact ⟨by rw [hbind]; exact hafter.trans hgoes.leadsTo, by rw [hbind]; exact hgoes.holds⟩
    | error failure =>
      have hbind : runIn (call >>= next) session = (.error failure, after) := by
        rw [runIn_bind, hrun]
      exact ⟨by rw [hbind]; exact hafter, by rw [hbind]; intro b last h; cases h⟩

theorem settle (result : Except Failure α) :
    Ensures (settle result) session fun _ after => session = after := by
  constructor
  · rw [runIn_settle]
    exact .refl session
  · intro a after h
    rw [runIn_settle] at h
    cases h
    rfl

theorem pure {a : α} (h : post a session) : Ensures (Pure.pure a) session post := by
  refine ⟨.refl session, ?_⟩
  intro b after hrun
  cases hrun
  exact h

theorem map (hcall : Ensures call session post) (f : α → β)
    (hpost : ∀ a after, post a after → goal (f a) after) : Ensures (f <$> call) session goal := by
  rw [← bind_pure_comp]
  exact hcall.bind fun a after hafter _ => pure (hpost a after hafter)

theorem use (part : Part) : Ensures part.use session fun _ _ => True := by
  exact ⟨.of_eq Part.logging_use Part.log_use, fun _ _ _ => trivial⟩

theorem faultsOfLoading (part : Part) :
    Ensures (Session.faultsOfLoading part.use) session fun _ _ => True := by
  refine ⟨?_, fun _ _ _ => trivial⟩
  rw [part.session_faultsOfLoading]
  exact (use part).leadsTo

theorem setUpLogging (given : Option AppSettings) :
    Ensures (Session.setUpLogging given) session
      fun setup after => after.logging = some setup := by
  refine ⟨?_, fun setup after h => logging_of_setUpLogging h⟩
  cases hlogging : session.logging with
  | some setup =>
    rw [runIn_setUpLogging_of_some hlogging]
    exact .refl session
  | none =>
    obtain ⟨after, hlog, hrun⟩ := runIn_setUpLogging_of_none hlogging given
    rw [hrun]
    cases session.appSettingsFor given with
    | error faults => exact .refl session
    | ok settings =>
      -- There was no setup that could have been replaced.
      refine ⟨fun setup h => ?_, fun record h => .inl ?_⟩
      · rw [hlogging] at h
        cases h
      · rw [← hlog]
        exact h

/-- A logger is made with the setup in place. -/
theorem openLogger (name : Option String) :
    Ensures (Session.openLogger name) session
      fun logger after => after.logging = some logger.setup := by
  exact (setUpLogging none).bind fun setup after hsetup _ => pure hsetup

theorem write {logger : Logger} (h : session.logging = some logger.setup) (event : Event) :
    Ensures (logger.write event) session fun _ _ => True := by
  refine ⟨?_, fun _ _ _ => trivial⟩
  rw [runIn_write]
  refine ⟨fun setup hsetup => hsetup, ?_⟩
  intro record hrecord
  refine (List.mem_append.mp hrecord).imp_right ?_
  intro hwritten
  exact ⟨logger.setup, h, logger.name, event, hwritten⟩

theorem getLogger (h : session.Backs logger) :
    Ensures (logger.getDM (Session.openLogger none)) session
      fun used after => after.logging = some used.setup := by
  cases logger with
  | none => exact openLogger none
  | some logger => exact pure (h logger rfl)

theorem evaluate (text : String) (settings : Option EvaluatorSettings)
    (h : session.Backs logger) :
    Ensures (Session.evaluate text settings logger) session fun _ _ => True := by
  have hsettings :
      Ensures (settings.getDM Session.evaluatorSettings) session fun _ _ => True := by
    cases settings with
    | none => exact use .evaluator
    | some settings => exact pure trivial
  refine hsettings.bind fun settings loaded _ hloaded => (settle _).bind ?_
  rintro outcome _ rfl _
  exact (getLogger (hloaded.backs h)).bind fun used _ hused _ => (write hused _).bind fun _ _ _ _ =>
    pure trivial

theorem parseAmount (text : String) (settings : Option EvaluatorSettings)
    (h : session.Backs logger) :
    Ensures (Session.parseAmount text settings logger) session fun _ _ => True := by
  refine (getLogger h).bind fun used opened hused _ => ?_
  have hlogged : ∀ (outcome : Outcome) (after : Session), after.logging = some used.setup →
      Ensures (do used.write (.ofOutcome .amount outcome); return outcome) after
        fun _ _ => True := by
    intro outcome after hafter
    exact (write hafter _).bind fun _ _ _ _ => pure trivial
  by_cases hexpression : looksLikeExpression text = true
  · simp only [hexpression, if_true]
    exact (evaluate text settings (backs_some hused)).bind fun outcome after _ hafter =>
      hlogged outcome after (hafter.logging _ hused)
  · simp only [hexpression]
    exact hlogged _ _ hused

theorem enter (subject : Subject) (text : String) (settings : Option EvaluatorSettings)
    (h : session.Backs logger) :
    Ensures (Session.enter subject text settings logger) session fun _ _ => True := by
  cases subject with
  | expression => exact evaluate text settings h
  | amount => exact parseAmount text settings h

theorem given {σ : Type} (load : Sources → Except (List FieldFault) σ)
    (arguments : Option Record) :
    Ensures (arguments.mapM fun arguments => do valid (load ((← get).sources arguments))) session
      fun _ after => session = after := by
  constructor
  · rw [runIn_given]
    exact .refl session
  · intro a after h
    rw [runIn_given] at h
    exact (Prod.mk.inj h).2

/-- Entering a text on request. -/
theorem entry (subject : Subject) (text : String) (arguments : Option Record)
    (name : Option String) :
    Ensures (Session.entry subject text arguments name) session fun _ _ => True := by
  refine (given EvaluatorSettings.load arguments).bind ?_
  rintro settings _ rfl _
  have hlogger : Ensures (name.mapM fun name => Session.openLogger (some name)) session
      fun logger after => after.Backs logger := by
    cases name with
    | none => exact pure (backs_none session)
    | some name => exact (openLogger (some name)).map some fun _ _ => backs_some
  refine hlogger.bind fun logger opened hopened _ => ?_
  exact (enter subject text settings hopened).bind fun outcome _ _ _ => pure trivial

/-- Answering a request leaves of logging what it should, unless the request is to reset it. -/
theorem answer {request : Request} (hreset : request ≠ .resetLogging) :
    Ensures (Session.answer request) session fun _ _ => True := by
  cases request with
  | setEnvironment | setFile | dropSettings => exact ⟨.of_eq rfl rfl, fun _ _ _ => trivial⟩
  | resetLogging => exact absurd rfl hreset
  | configureLogging arguments =>
    refine (given AppSettings.load arguments).bind ?_
    rintro settings _ rfl _
    exact (setUpLogging settings).bind fun _ _ _ _ => pure trivial
  | getSettings =>
    exact (use .evaluator).bind fun evaluator _ _ _ => (use .app).bind fun app _ _ _ =>
      pure trivial
  | checkSettings =>
    simp only [Session.answer, Session.checkSettings, bind_assoc, pure_bind]
    exact (faultsOfLoading .evaluator).bind fun evaluator _ _ _ =>
      (faultsOfLoading .app).bind fun app _ _ _ => pure trivial
  | evaluate text arguments name => exact entry .expression text arguments name
  | parseAmount text arguments name => exact entry .amount text arguments name
  | logEvent event name =>
    refine (openLogger name).bind fun logger opened hopened _ => (settle _).bind ?_
    rintro event _ rfl _
    exact (write hopened event).bind fun _ _ _ _ => pure trivial
  | logOutcome subject outcome name =>
    refine (openLogger name).bind fun logger opened hopened _ => (settle outcome).bind ?_
    rintro outcome _ rfl _
    exact (write hopened _).bind fun _ _ _ _ => pure trivial

end Ensures

/-! ## Runs -/

variable {session : Session} {request : Request} {later : List Request} {setup : LoggingSetup}

theorem leadsTo_serve (hreset : request ≠ .resetLogging) :
    LeadsTo { session with log := [] } (session.serve request).2 :=
  (Ensures.answer hreset).leadsTo

/-- A setup lasts until logging is reset. -/
theorem logging_after_of_some (h : session.logging = some setup)
    (hreset : .resetLogging ∉ later) : (session.after later).logging = some setup := by
  induction later generalizing session with
  | nil => exact h
  | cons request later ih =>
    rw [List.mem_cons, not_or] at hreset
    exact ih ((leadsTo_serve fun hrequest => hreset.1 hrequest.symm).logging setup h) hreset.2

/-- What a request logs is written by the setup that it leaves in place. -/
theorem writes_of_mem_log {record : LogRecord} (h : record ∈ (session.serve request).1.log) :
    ∃ setup, (session.serve request).2.logging = some setup ∧ setup.Writes record := by
  by_cases hreset : request = .resetLogging
  · subst hreset
    exact absurd h List.not_mem_nil
  · exact ((leadsTo_serve hreset).log record h).resolve_left List.not_mem_nil

end Session

end LedgerAmount
