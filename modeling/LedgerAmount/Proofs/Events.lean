import LedgerAmount.Proofs.Records
import LedgerAmount.Proofs.WrittenForm

/-!
# What an event tells of its outcome

The event of an outcome is complete: its kind, its details and its error tell the expression, the
exact value and the rejection, so outcomes with the same event are the same. The description adds
nothing to this, and so nothing is lost where it is clipped.
-/

namespace LedgerAmount

theorem Subject.accepted_ne_rejected (subject : Subject) : subject.accepted ≠ subject.rejected := by
  cases subject <;> decide

/-- A kind can be told by its name, since it is read back from it. -/
theorem RejectionKind.name_injective : Function.Injective name := by
  intro kind other h
  have hread := Rejection.oneOf_kind kind
  rw [h, Rejection.oneOf_kind] at hread
  exact (Except.ok.inj hread).symm

/-- So can a text that may be absent, which differs from an empty one. -/
theorem Datum.ofText?_injective : Function.Injective ofText? := by
  intro s other h
  have hread := optional_ofText? s
  rw [h, optional_ofText?] at hread
  exact (Except.ok.inj hread).symm

namespace Event

/-- An event apart from its description. -/
def undescribed (event : Event) : Event := { event with description := "" }

/-- Outcomes whose events agree apart from the description are the same. -/
theorem eq_of_undescribed {subject : Subject} {one other : Outcome}
    (h : (ofOutcome subject one).undescribed = (ofOutcome subject other).undescribed) :
    one = other := by
  have hkind := congrArg Event.kind h
  have hdetails := congrArg Event.details h
  obtain ⟨expression, answer⟩ := one
  obtain ⟨expression', answer'⟩ := other
  rcases answer with ⟨kind, message, symbol⟩ | value <;>
    rcases answer' with ⟨kind', message', symbol'⟩ | value'
  · have hcode := congrArg Event.errorCode h
    have hmessage := congrArg Event.errorMessage h
    simp only [undescribed, ofOutcome, List.cons.injEq, Prod.mk.injEq, Datum.text.injEq,
      Option.some.injEq, true_and, and_true] at hdetails hcode hmessage
    rw [hdetails.1, RejectionKind.name_injective hcode, hmessage,
      Datum.ofText?_injective hdetails.2]
  · exact absurd hkind.symm subject.accepted_ne_rejected
  · exact absurd hkind subject.accepted_ne_rejected
  · simp only [undescribed, ofOutcome, List.cons.injEq, Prod.mk.injEq, Datum.text.injEq,
      true_and, and_true] at hdetails
    rw [hdetails.1, Decimal.toString_injective hdetails.2]

/-- Every outcome has an event that passes its checks, with a description that is not too long, and
the event tells the outcome: two outcomes have the same event, with the description or without it,
exactly if they have the same expression and the same value or rejection. -/
theorem ofOutcome_eq_iff (subject : Subject) (one other : Outcome) :
    ofRecord (ofOutcome subject one).toRecord = .ok (ofOutcome subject one) ∧
      (ofOutcome subject one).description.length ≤ descriptionLimit ∧
      (ofOutcome subject one = ofOutcome subject other ↔ one = other) ∧
      ((ofOutcome subject one).undescribed = (ofOutcome subject other).undescribed ↔
        one = other) := by
  have hlength := length_description_ofOutcome_le subject one
  refine ⟨ofRecord_toRecord hlength, hlength, ⟨?_, ?_⟩, ⟨eq_of_undescribed, ?_⟩⟩
  · intro h
    exact eq_of_undescribed (congrArg undescribed h)
  all_goals
    rintro rfl
    rfl

end Event

end LedgerAmount
