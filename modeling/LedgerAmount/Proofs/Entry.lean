import LedgerAmount.Proofs.DigitLimit
import LedgerAmount.Proofs.Records
import LedgerAmount.Session.Entry

/-!
# Entering a text

A text is entered as an expression or as an amount. With settings and a logger given, either entry
logs the outcome and returns it, and leaves the session as it was except for the log. The one text
that is not answered is one that comes to a quotient with too many digits: then the entry fails,
and nothing is logged.
-/

namespace LedgerAmount

/-! ## What an entry does -/

namespace Subject

/-- What becomes of a text. -/
def outcome (rule : DivisionRule) (text : String) : Subject → Except Defect Outcome
  | expression => evaluate rule text
  | amount => parseAmount rule text

/-- The events that record an outcome, in order. An amount that is an expression has two. -/
def events (text : String) (outcome : Outcome) : Subject → List Event
  | expression => [.ofOutcome expression outcome]
  | amount =>
    (if looksLikeExpression text then [.ofOutcome expression outcome] else []) ++
      [.ofOutcome amount outcome]

theorem exists_of_mem_events {subject : Subject} {text : String} {outcome : Outcome}
    {event : Event} (h : event ∈ subject.events text outcome) :
    ∃ about, event = .ofOutcome about outcome := by
  cases subject with
  | expression => exact ⟨.expression, List.mem_singleton.mp h⟩
  | amount =>
    rcases List.mem_append.mp h with h | h
    · split at h
      · exact ⟨.expression, List.mem_singleton.mp h⟩
      · cases h
    · exact ⟨.amount, List.mem_singleton.mp h⟩

end Subject

namespace Session

open Call

/-- The records that events leave in the log. -/
def Logger.records (logger : Logger) (events : List Event) : List LogRecord :=
  events.flatMap (logger.setup.records logger.name)

/-- Enters a text as what it is meant for. -/
def enter : Subject → String → Option EvaluatorSettings → Option Logger → Call Outcome
  | .expression => evaluate
  | .amount => parseAmount

variable (subject : Subject) (text : String) (settings : EvaluatorSettings) (logger : Logger)
  (session : Session)

theorem runIn_evaluate :
    runIn (evaluate text (some settings) (some logger)) session =
      match LedgerAmount.evaluate settings.rule text with
      | .ok outcome =>
        (.ok outcome,
          { session with log := session.log ++ logger.records [.ofOutcome .expression outcome] })
      | .error defect => (.error (.broken defect), session) := by
  simp only [evaluate, Option.getDM, runIn_bind, runIn_pure, unbroken, runIn_settle]
  cases LedgerAmount.evaluate settings.rule text with
  | ok outcome => simp [Except.mapError, Logger.records]
  | error defect => rfl

/-- An entry with settings and a logger returns what becomes of the text and logs its events, or
fails as the evaluation does and logs nothing. -/
theorem runIn_enter :
    runIn (enter subject text (some settings) (some logger)) session =
      match subject.outcome settings.rule text with
      | .ok outcome =>
        (.ok outcome,
          { session with log := session.log ++ logger.records (subject.events text outcome) })
      | .error defect => (.error (.broken defect), session) := by
  cases subject with
  | expression =>
    rw [enter, runIn_evaluate]
    rfl
  | amount =>
    simp only [enter, parseAmount, Option.getDM, runIn_bind, runIn_pure, Subject.outcome,
      LedgerAmount.parseAmount, Subject.events]
    cases hexpression : looksLikeExpression text with
    | true =>
      simp only [if_true, runIn_bind, runIn_evaluate]
      cases LedgerAmount.evaluate settings.rule text with
      | ok outcome => simp [Logger.records]
      | error defect => rfl
    | false =>
      simp only [Bool.false_eq_true, if_false, runIn_bind, runIn_pure, runIn_write]
      simp [Logger.records]

end Session

/-! ## Which entries fail -/

variable {settings : EvaluatorSettings} {text : String}

/-- Only a text that holds an operator comes to a division. -/
theorem ComesToLongQuotient.looksLikeExpression {rule : DivisionRule}
    (h : ComesToLongQuotient rule text) : looksLikeExpression text = true :=
  List.any_eq_true.mpr ⟨'/', h.slash_mem, by decide⟩

/-- Nothing becomes of a text exactly if it comes to a quotient that is too long. -/
theorem Subject.outcome_eq_error_iff (subject : Subject) {defect : Defect} :
    subject.outcome settings.rule text = .error defect ↔
      defect = .arithmetic .digitLimit ∧ ComesToLongQuotient settings.rule text := by
  have hevaluate : evaluate settings.rule text = .error defect ↔
      defect = .arithmetic .digitLimit ∧ ComesToLongQuotient settings.rule text :=
    evaluate_eq_error_iff.trans evaluateText_eq_broken_iff
  cases subject with
  | expression => exact hevaluate
  | amount =>
    rw [outcome, parseAmount]
    by_cases hexpression : looksLikeExpression text = true
    · rw [if_pos hexpression]
      exact hevaluate
    · rw [if_neg hexpression]
      simp only [reduceCtorEq, false_iff]
      intro h
      obtain ⟨-, hlong⟩ := h
      exact hexpression hlong.looksLikeExpression

/-- However a text is entered, its outcome is that of an evaluation or that of a plain number. -/
theorem Subject.outcome_cases {rule : DivisionRule} {subject : Subject} {outcome : Outcome}
    (h : subject.outcome rule text = .ok outcome) : evaluate rule text = .ok outcome ∨
      ¬looksLikeExpression text = true ∧ outcome = ⟨text, plainAmount text⟩ := by
  cases subject with
  | expression => exact .inl h
  | amount =>
    rw [Subject.outcome, parseAmount] at h
    split at h
    next => exact .inl h
    next hplain => exact .inr ⟨hplain, (Except.ok.inj h).symm⟩

/-- An outcome names the text as it was entered. -/
theorem Subject.expression_of_outcome {rule : DivisionRule} {subject : Subject} {outcome : Outcome}
    (h : subject.outcome rule text = .ok outcome) : outcome.expression = text := by
  rcases Subject.outcome_cases h with hevaluate | ⟨-, rfl⟩
  · exact expression_of_evaluate hevaluate
  · rfl

/-- All that is made in answer to a text passes the checks of its own fields: the tokens, the
outcome and its rejection, and the events. -/
structure WellMade (text : String) (outcome : Outcome) (events : List Event) : Prop where
  tokens : ∀ tokens, tokenize text = .ok tokens →
    ∀ token ∈ tokens, Token.ofRecord token.toRecord = .ok token
  rejection : ∀ why ∈ outcome.rejection?, Rejection.ofRecord why.toRecord = .ok why
  expression : outcome.expression = text
  outcome : Outcome.ofRecord outcome.toRecord outcome.rejection? = .ok outcome
  events : ∀ event ∈ events, Event.ofRecord event.toRecord = .ok event

theorem wellMade_of_outcome {subject : Subject} {outcome : Outcome}
    (h : subject.outcome settings.rule text = .ok outcome) :
    WellMade text outcome (subject.events text outcome) := by
  constructor
  · intro tokens ht token hmem
    exact Token.ofRecord_toRecord (isTyped_of_tokenize ht token hmem).length_ne_zero
  · intro why _
    exact why.ofRecord_toRecord
  · exact Subject.expression_of_outcome h
  · exact outcome.ofRecord_toRecord
  · intro event hevent
    obtain ⟨about, rfl⟩ := Subject.exists_of_mem_events hevent
    exact Event.ofRecord_toRecord (Event.length_description_ofOutcome_le about outcome)

/-- With settings and a logger given, every text is answered by a well-made outcome, and well-made
events are logged, unless the text comes to a quotient that is too long: then the entry fails at the
digit limit, and the session stays as it was. -/
theorem Session.enter_answers_or_breaks (subject : Subject) (text : String)
    (settings : EvaluatorSettings) (logger : Logger) (session : Session) :
    (ComesToLongQuotient settings.rule text ∧
      Call.runIn (enter subject text (some settings) (some logger)) session =
        (.error (.broken (.arithmetic .digitLimit)), session)) ∨
    (¬ComesToLongQuotient settings.rule text ∧ ∃ outcome events, WellMade text outcome events ∧
      Call.runIn (enter subject text (some settings) (some logger)) session =
        (.ok outcome, { session with log := session.log ++ logger.records events })) := by
  rw [runIn_enter]
  cases h : subject.outcome settings.rule text with
  | ok outcome =>
    refine .inr ⟨?_, outcome, subject.events text outcome, wellMade_of_outcome h, rfl⟩
    intro hlong
    have hbroken := (subject.outcome_eq_error_iff).mpr ⟨rfl, hlong⟩
    rw [h] at hbroken
    cases hbroken
  | error defect =>
    obtain ⟨rfl, hlong⟩ := (subject.outcome_eq_error_iff).mp h
    exact .inl ⟨hlong, rfl⟩

/-- A power of ten with 4300 digits that is divided by one is not answered. -/
theorem Session.enter_breaks_powerOfTen :
    Call.runIn (enter .expression
      (String.ofList ('1' :: List.replicate 4299 '0' ++ '/' :: ['1'])) (some .default)
      (some ⟨LoggingSetup.defaultLogger, ⟨.info, true⟩⟩)) .initial =
        (.error (.broken (.arithmetic .digitLimit)), .initial) := by
  rcases enter_answers_or_breaks .expression _ .default ⟨_, ⟨.info, true⟩⟩ .initial with h | h
  · exact h.2
  · exact absurd (comesToLongQuotient_powerOfTen _ (by decide)) h.1

end LedgerAmount
