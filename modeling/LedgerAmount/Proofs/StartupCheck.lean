import LedgerAmount.Proofs.EntryRequests
import LedgerAmount.Proofs.Keeping

/-!
# The check at startup

The check at startup uses each part of the settings and reports what became of that, so the report
tells what every use right after it comes to. What passes the check is kept. Once both parts pass,
faults of the settings never take the place of an answer to a text, whatever becomes of the sources
and of logging, until the settings are dropped.
-/

namespace LedgerAmount

open Call

/-! ## What a report says -/

namespace Part

/-- The name of a part in a report. -/
def name : Part → String
  | evaluator => "evaluator"
  | app => "app"

/-- What the faults of a part are headed with. -/
def title : Part → String
  | evaluator => "EvaluatorSettings"
  | app => "AppSettings"

/-- The faults of a part in a report. -/
def faultsIn (report : StartupReport) : Part → Option (List FieldFault)
  | evaluator => report.evaluator
  | app => report.app

/-- The faults that are in force in place of the settings of a part. -/
def faults (session : Session) (part : Part) : Option (List FieldFault) :=
  match part.inForce session with
  | .ok _ => none
  | .error faults => some faults

end Part

namespace StartupReport

variable (help : String) (report : StartupReport) (part : Part)

theorem lookup_name :
    (report.entries help).lookup part.name = some (.bool (part.faultsIn report).isNone) := by
  obtain ⟨evaluator, app⟩ := report
  cases part <;> cases evaluator <;> cases app <;> rfl

theorem lookup_error :
    (report.entries help).lookup (part.name ++ "_error") =
      (part.faultsIn report).map fun faults => .text (render help part.title faults) := by
  obtain ⟨evaluator, app⟩ := report
  cases part <;> cases evaluator <;> cases app <;> rfl

end StartupReport

/-! ## What the check leaves behind -/

namespace Session

variable {session : Session} {part : Part}

/-- The session after the check at startup. -/
def checked (session : Session) : Session := (session.serve .checkSettings).2

/-- The check is always answered: by the faults of each part. -/
theorem answer_serve_checkSettings (session : Session) :
    (session.serve .checkSettings).1.answer =
      .ok (.report ⟨Part.evaluator.faults session, Part.app.faults session⟩) := by
  have hattempt : ∀ part : Part,
      (Plan.attempt part).read (Part.inForce session) = .ok (part.faults session) := by
    intro part
    rw [Plan.attempt, Plan.read, Part.faults]
    cases part.inForce session <;> rfl
  rw [(session.serve_eq .checkSettings).1, plan]
  simp only [Plan.read_bind, hattempt, Plan.read_pure]

theorem mem_uses_checkSettings (session : Session) (part : Part) :
    part ∈ session.uses .checkSettings := by
  have hattempt : ∀ part : Part, (Plan.attempt part).used (Part.inForce session) = [part] ∧
      ∃ faults, (Plan.attempt part).read (Part.inForce session) = .ok faults := by
    intro part
    rw [Plan.attempt, Plan.read, Plan.used]
    cases part.inForce session <;> exact ⟨rfl, _, rfl⟩
  obtain ⟨hevaluator, _, hfirst⟩ := hattempt .evaluator
  obtain ⟨happ, _, hsecond⟩ := hattempt .app
  simp only [uses, plan, Plan.used_bind, hevaluator, happ, hfirst, hsecond]
  cases part <;> simp

/-- What is in force passes the check as it is. -/
theorem inForce_checked (session : Session) (part : Part) :
    part.inForce session.checked = part.inForce session := by
  have hplanned : Request.IsPlanned .checkSettings := trivial
  exact (hplanned.follows [] _ (Since.withLog session [])).2.inForce part

/-- What passes the check is kept. -/
theorem kept_checked (session : Session) (part : Part) :
    part.kept session.checked = (part.inForce session).toOption := by
  rw [checked, (session.serve_eq .checkSettings).2 (by simp) part,
    if_pos (session.mem_uses_checkSettings part)]

/-- A use of a part right after the check. -/
theorem runIn_use_checked (session : Session) (part : Part) :
    (runIn part.use session.checked).1 = (part.inForce session).mapError .invalid := by
  rw [Part.runIn_use, inForce_checked]
  cases part.inForce session <;> rfl

/-! ## Entries while both parts are kept -/

/-- While both parts are kept, what a text comes to is up to the text and the settings kept. -/
theorem answer_serve_of_kept {evaluator : EvaluatorSettings} {app : AppSettings}
    (hevaluator : Part.evaluator.kept session = some evaluator)
    (happ : Part.app.kept session = some app) (subject : Subject) (text : String)
    (name : Option String) :
    (session.serve (subject.request text none name)).1.answer =
      ((subject.outcome evaluator.rule text).mapError .broken).map .outcome := by
  have hsetup : ∃ setup, session.setupInForce = .ok setup := by
    rw [setupInForce, Part.inForce_of_kept happ]
    cases session.logging with
    | some setup => exact ⟨setup, rfl⟩
    | none => exact ⟨.ofSettings app, rfl⟩
  obtain ⟨setup, hsetup⟩ := hsetup
  have hsettings : session.settingsFor none = .ok evaluator := Part.inForce_of_kept hevaluator
  rw [answer_serve_request hsetup]
  show (do return Answer.outcome (← session.outcomeOf subject text none)) = _
  rw [outcomeOf_of_settings hsettings]
  cases subject.outcome evaluator.rule text <;> rfl

end Session

/-- The entries on a part of the settings, and a use of the part in a session. -/
structure Part.ReportedBy (part : Part) (help : String) (entries : Record)
    (session : Session) : Prop where
  /-- The part is reported to be sound exactly if the use succeeds. -/
  sound : entries.lookup part.name = some (.bool true) ↔
    ∃ settings, (runIn part.use session).1 = .ok settings
  /-- It is reported to be faulty exactly if the use fails. -/
  faulty : entries.lookup part.name = some (.bool false) ↔
    ∃ failure, (runIn part.use session).1 = .error failure
  /-- Faults are listed exactly if the part is reported to be faulty. -/
  listed : (∃ entry, entries.lookup (part.name ++ "_error") = some entry) ↔
    entries.lookup part.name = some (.bool false)
  /-- The faults listed are those that the use fails by. -/
  faults : ∀ faults, (runIn part.use session).1 = .error (.invalid faults) →
    entries.lookup (part.name ++ "_error") =
      some (.text (StartupReport.render help part.title faults))

namespace Session

theorem reportedBy_entries {report : StartupReport} {part : Part} {session : Session}
    (help : String) (h : part.faultsIn report = part.faults session) :
    part.ReportedBy help (report.entries help) session.checked := by
  have hname := StartupReport.lookup_name help report part
  have herror := StartupReport.lookup_error help report part
  have huse := runIn_use_checked session part
  rw [h, Part.faults] at hname herror
  cases hpart : part.inForce session with
  | ok settings =>
    rw [hpart] at hname herror huse
    constructor <;> simp [hname, herror, huse, Except.mapError]
  | error faults =>
    rw [hpart] at hname herror huse
    constructor <;> simp [hname, herror, huse, Except.mapError]

/-- The check at startup is always answered, and tells for each part of the settings what a use of
it comes to right after. If it finds both parts sound, then whatever is requested afterwards, as
long as the settings are not dropped, faults of the settings never answer for a text that is entered
without settings of its own, under whichever logger. -/
theorem reliable_checkSettings (help : String) (session : Session) :
    ∃ report : StartupReport,
      (session.serve .checkSettings).1.answer = .ok (.report report) ∧
      (∀ part : Part, part.ReportedBy help (report.entries help) session.checked) ∧
      ((∀ part : Part, (report.entries help).lookup part.name = some (.bool true)) →
        ∀ requests, .dropSettings ∉ requests → ∀ subject text name faults,
          ((session.checked.after requests).serve
            (Subject.request text none name subject)).1.answer ≠ .error (.invalid faults)) := by
  have hreported : ∀ part : Part, part.ReportedBy help
      (StartupReport.entries help ⟨Part.evaluator.faults session, Part.app.faults session⟩)
      session.checked := by
    intro part
    cases part <;> exact reportedBy_entries help rfl
  refine ⟨_, answer_serve_checkSettings session, hreported, ?_⟩
  intro hsound requests hdrop subject text name faults
  -- The check has kept both parts, and no request drops them.
  have hkept : ∀ part : Part, ∃ settings,
      part.kept (session.checked.after requests) = some settings := by
    intro part
    obtain ⟨settings, huse⟩ := (hreported part).sound.mp (hsound part)
    rw [runIn_use_checked, mapError_eq_ok_iff] at huse
    refine ⟨settings, Part.kept_after_of_kept ?_ hdrop⟩
    rw [kept_checked, huse]
    rfl
  obtain ⟨evaluator, hevaluator⟩ := hkept .evaluator
  obtain ⟨app, happ⟩ := hkept .app
  rw [answer_serve_of_kept hevaluator happ]
  cases subject.outcome evaluator.rule text <;> simp [Except.mapError, Except.map]

/-- A check that both parts pass holds when the environment has become unreadable, a setup of
logging has failed and logging was reset. -/
theorem reliable_checkSettings_unreadable :
    let session := Session.initial.after
      [.setEnvironment [("EVALUATOR_DIVISION_SCALE", some "2"), ("LOG_LEVEL", some "error")]]
    let requests : List Request :=
      [.setEnvironment [("EVALUATOR_DIVISION_SCALE", some "few"), ("LOG_LEVEL", some "loud")],
        .resetLogging, .configureLogging (some [("debug_mode", .text "maybe")])]
    (session.serve .checkSettings).1.answer = .ok (.report ⟨none, none⟩) ∧
      .dropSettings ∉ requests ∧ ∀ faults,
        ((session.checked.after requests).serve (.parseAmount "2/3" none (some "till"))).1.answer ≠
          .error (.invalid faults) := by
  intro session requests
  have hevaluator : Part.evaluator.faults session = none := by decide +kernel
  have happ : Part.app.faults session = none := by decide +kernel
  have hchecked : (session.serve .checkSettings).1.answer = .ok (.report ⟨none, none⟩) := by
    rw [answer_serve_checkSettings, hevaluator, happ]
  have hdrop : .dropSettings ∉ requests := by simp [requests]
  obtain ⟨report, hanswer, -, hreliable⟩ := reliable_checkSettings "" session
  rw [hchecked] at hanswer
  cases hanswer
  refine ⟨hchecked, hdrop, ?_⟩
  have hsound : ∀ part : Part,
      (StartupReport.entries "" ⟨none, none⟩).lookup part.name = some (.bool true) := by
    intro part
    cases part <;> rfl
  have hrequest : Subject.request "2/3" none (some "till") .amount =
      .parseAmount "2/3" none (some "till") := rfl
  rw [← hrequest]
  exact hreliable hsound requests hdrop .amount "2/3" (some "till")

end Session

end LedgerAmount
