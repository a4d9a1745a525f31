import LedgerAmount.Proofs.Plans

/-!
# Entries that make their own logger

A text can be entered by given settings and without a logger. The entry then makes a logger, which
sets up logging unless that was done before. Where logging can be set up, all that becomes of the
text is up to the text and the settings. Where the application settings cannot be loaded, their
faults take the place of the outcome.
-/

namespace LedgerAmount

open Call

namespace Session

/-- The faults that keep logging from being set up. -/
def setupFaults (session : Session) : Option (List FieldFault) :=
  match session.setupInForce with
  | .ok _ => none
  | .error faults => some faults

variable (subject : Subject) (text : String) (settings : EvaluatorSettings) (session : Session)

/-- What an entry without a logger comes to. -/
def entered : Except Failure Outcome :=
  (runIn (enter subject text (some settings) none) session).1

/-- By given settings and under a given logger, entering a text is all up to the text. -/
theorem read_planEnter (logger : Logger) :
    (session.planEnter subject text (some settings) (some logger)).read (Part.inForce session) =
      (subject.outcome settings.rule text).mapError .broken := by
  rw [← (Follows.enter subject text (some settings) (some logger)).result, runIn_enter]
  cases subject.outcome settings.rule text <;> rfl

theorem entered_eq : entered subject text settings session =
    match subject, session.setupFaults, subject.outcome settings.rule text with
    | _, none, .ok outcome => .ok outcome
    | _, none, .error defect => .error (.broken defect)
    | .expression, some _, .error defect => .error (.broken defect)
    | _, some faults, _ => .error (.invalid faults) := by
  rw [entered, (Follows.enter subject text (some settings) none).result]
  cases subject with
  | expression =>
    simp only [planEnter, planEvaluate, Option.getDM, Plan.read_bind, Plan.read, Plan.read_pure,
      planLogger, read_planSetup, Subject.outcome, setupFaults]
    cases LedgerAmount.evaluate settings.rule text <;> cases session.setupInForce <;> rfl
  | amount =>
    -- The logger comes first, so the faults of its setup hide what becomes of the text.
    have hlogger : session.planEnter .amount text (some settings) none =
        session.planLogger none >>= fun logger =>
          session.planEnter .amount text (some settings) (some logger) := rfl
    simp only [hlogger, Plan.read_bind, read_planEnter, planLogger, read_planSetup, setupFaults]
    cases session.setupInForce <;> cases Subject.amount.outcome settings.rule text <;> rfl

/-- By given settings, an entry is broken off only for a quotient that is too long. -/
theorem eq_digitLimit_of_enter {subject : Subject} {text : String} {settings : EvaluatorSettings}
    {logger : Option Logger} {session : Session} {defect : Defect}
    (h : (runIn (enter subject text (some settings) logger) session).1 = .error (.broken defect)) :
    defect = .arithmetic .digitLimit := by
  suffices houtcome : subject.outcome settings.rule text = .error defect from
    ((subject.outcome_eq_error_iff).mp houtcome).1
  cases logger with
  | some logger =>
    rw [runIn_enter] at h
    cases houtcome : subject.outcome settings.rule text with
    | ok outcome =>
      rw [houtcome] at h
      cases h
    | error found =>
      rw [houtcome] at h
      cases h
      rfl
  | none =>
    rw [← entered, entered_eq] at h
    split at h
    next => cases h
    next houtcome =>
      cases h
      exact houtcome
    next houtcome =>
      cases h
      exact houtcome
    next => cases h

/-- Where logging can be set up, the session has no say in what becomes of a text. Two sessions
come to the same exactly if the same faults, or none, keep logging from being set up, or else if an
expression is not answered for a quotient that is too long, since it is evaluated before its logger
is made. -/
theorem entered_by_setup (one two : Session) :
    (one.setupFaults = none → entered subject text settings one =
      (subject.outcome settings.rule text).mapError .broken) ∧
    (entered subject text settings one = entered subject text settings two ↔
      one.setupFaults = two.setupFaults ∨
        subject = .expression ∧ ComesToLongQuotient settings.rule text) := by
  rw [entered_eq, entered_eq]
  constructor
  · intro hone
    rw [hone]
    cases subject.outcome settings.rule text <;> cases subject <;> rfl
  · cases houtcome : subject.outcome settings.rule text with
    | error defect =>
      have hlong := ((subject.outcome_eq_error_iff).mp houtcome).2
      cases subject <;> cases one.setupFaults <;> cases two.setupFaults <;> simp [hlong]
    | ok outcome =>
      have hshort : ¬ComesToLongQuotient settings.rule text := by
        intro hlong
        have hbroken := (subject.outcome_eq_error_iff).mpr ⟨rfl, hlong⟩
        rw [houtcome] at hbroken
        cases hbroken
      cases subject <;> cases one.setupFaults <;> cases two.setupFaults <;> simp [hshort]

/-- A debug mode that cannot be read takes the place of the sum of two and two. -/
theorem entered_by_setup_unreadable :
    let faulty := (serveAll .initial
      [.setEnvironment [("DEBUG_MODE", some "maybe"), ("LOG_LEVEL", some "ERROR")]]).2
    entered .expression "2+2" .default .initial = .ok ⟨"2+2", .ok ⟨false, 4, 0⟩⟩ ∧
      faulty.setupFaults = some [⟨"debug_mode", .unreadableBoolean, some "maybe"⟩] ∧
      entered .expression "2+2" .default .initial ≠ entered .expression "2+2" .default faulty := by
  intro faulty
  have hinitial : Session.initial.setupFaults = none := by decide +kernel
  have hfaulty : faulty.setupFaults = some [⟨"debug_mode", .unreadableBoolean, some "maybe"⟩] := by
    decide +kernel
  obtain ⟨hone, hiff⟩ := entered_by_setup .expression "2+2" .default .initial faulty
  refine ⟨?_, hfaulty, ?_⟩
  · have hvalue : LedgerAmount.evaluate EvaluatorSettings.default.rule "2+2" =
        .ok ⟨"2+2", .ok ⟨false, 4, 0⟩⟩ := evaluate_eq_ok_iff.mpr (by decide +kernel)
    rw [hone hinitial, Subject.outcome, hvalue]
    rfl
  · rw [Ne, hiff, hinitial, hfaulty]
    rintro (hsame | ⟨-, hlong⟩)
    · cases hsame
    · exact absurd hlong.slash_mem (by decide)

end Session

end LedgerAmount
