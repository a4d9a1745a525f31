import LedgerAmount.Proofs.EntryRequests
import LedgerAmount.Proofs.Keeping

/-!
# The audit trail of an entry

An entry that has an outcome logs just the events of this outcome: an expression has one, and an
amount that holds an operator has one of its expression before its own. A logger leaves out the
events below its level. The events of one entry agree in all that they tell of the outcome, and a
higher level only takes records away.
-/

namespace LedgerAmount

open Call

/-! ## The records of events -/

namespace LoggingSetup

end LoggingSetup

namespace Session

/-- A call reaches a value only through a value of its first part. -/
theorem runIn_bind_eq_ok_iff {α β : Type} {call : Call α} {next : α → Call β}
    {session last : Session} {b : β} : runIn (call >>= next) session = (.ok b, last) ↔
      ∃ a after, runIn call session = (.ok a, after) ∧ runIn (next a) after = (.ok b, last) := by
  rw [runIn_bind]
  rcases runIn call session with ⟨failure | a, after⟩ <;> simp

variable {session after : Session} {subject : Subject} {text : String} {outcome : Outcome}
  {given : Option EvaluatorSettings} {logger : Option Logger}

/-- The last step of an entry. -/
theorem runIn_write_return (used : Logger) (event : Event) (found : Outcome) (session : Session) :
    runIn (do used.write event; return found) session =
      (.ok found, { session with log := session.log ++ used.records [event] }) := by
  rw [runIn_bind, runIn_write, Logger.records, List.flatMap_singleton]
  rfl

/-- An evaluation that has an outcome is given settings, comes to the outcome by them, and writes
its event with the logger that it is given then. -/
theorem exists_of_runIn_evaluate
    (h : runIn (evaluate text given logger) session = (.ok outcome, after)) :
    ∃ settings loaded used opened,
      runIn (given.getDM evaluatorSettings) session = (.ok settings, loaded) ∧
      LedgerAmount.evaluate settings.rule text = .ok outcome ∧
      runIn (logger.getDM (openLogger none)) loaded = (.ok used, opened) ∧
      after =
        { opened with log := opened.log ++ used.records [.ofOutcome .expression outcome] } := by
  obtain ⟨settings, loaded, hload, hrest⟩ := runIn_bind_eq_ok_iff.mp h
  obtain ⟨found, evaluated, hevaluated, hrest⟩ := runIn_bind_eq_ok_iff.mp hrest
  obtain ⟨used, opened, hopened, hwritten⟩ := runIn_bind_eq_ok_iff.mp hrest
  rw [unbroken, runIn_settle] at hevaluated
  obtain ⟨hfound, rfl⟩ := Prod.mk.inj hevaluated
  rw [runIn_write_return] at hwritten
  cases hwritten
  exact ⟨settings, loaded, used, opened, hload, mapError_eq_ok_iff.mp hfound, hopened, rfl⟩

/-- An amount that has an outcome is given a logger, comes to the outcome by an evaluation under
this logger or as a plain number, and writes its event. -/
theorem exists_of_runIn_parseAmount
    (h : runIn (parseAmount text given logger) session = (.ok outcome, after)) :
    ∃ used opened evaluated,
      runIn (logger.getDM (openLogger none)) session = (.ok used, opened) ∧
      (looksLikeExpression text = true ∧
          runIn (evaluate text given (some used)) opened = (.ok outcome, evaluated) ∨
        ¬looksLikeExpression text = true ∧ outcome = ⟨text, plainAmount text⟩ ∧
          evaluated = opened) ∧
      after =
        { evaluated with log := evaluated.log ++ used.records [.ofOutcome .amount outcome] } := by
  obtain ⟨used, opened, hopened, hrest⟩ := runIn_bind_eq_ok_iff.mp h
  by_cases hexpression : looksLikeExpression text = true
  · simp only [hexpression, if_true] at hrest
    obtain ⟨found, evaluated, hevaluated, hwritten⟩ := runIn_bind_eq_ok_iff.mp hrest
    rw [runIn_write_return] at hwritten
    cases hwritten
    exact ⟨used, opened, evaluated, hopened, .inl ⟨hexpression, hevaluated⟩, rfl⟩
  · simp only [hexpression, Bool.false_eq_true, if_false, pure_bind] at hrest
    rw [runIn_write_return] at hrest
    cases hrest
    exact ⟨used, opened, opened, hopened, .inr ⟨hexpression, rfl, rfl⟩, rfl⟩

/-- Wherever its settings and its logger come from, an entry that has an outcome has that of the
text by some settings. -/
theorem exists_settings_of_enter
    (h : runIn (enter subject text given logger) session = (.ok outcome, after)) :
    ∃ settings : EvaluatorSettings, subject.outcome settings.rule text = .ok outcome := by
  cases subject with
  | expression =>
    obtain ⟨settings, -, -, -, -, houtcome, -⟩ := exists_of_runIn_evaluate h
    exact ⟨settings, houtcome⟩
  | amount =>
    obtain ⟨used, opened, evaluated, -, ⟨hexpression, hevaluated⟩ | ⟨hplain, rfl, -⟩, -⟩ :=
      exists_of_runIn_parseAmount h
    · obtain ⟨settings, -, -, -, -, houtcome, -⟩ := exists_of_runIn_evaluate hevaluated
      exact ⟨settings, (if_pos hexpression).trans houtcome⟩
    · exact ⟨.default, if_neg hplain⟩

end Session

end LedgerAmount
