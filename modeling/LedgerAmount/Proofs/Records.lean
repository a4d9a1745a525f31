import LedgerAmount.Proofs.Tokens
import LedgerAmount.Trail.Event

/-!
# Records of what is made

Tokens, rejections, outcomes and events can be given by their fields, and then every field is
checked. What the program makes by itself would pass these checks: its fields, put in a record,
give it back.
-/

namespace LedgerAmount

/-! ## Reading fields -/

namespace Record

variable {α : Type} (record : Record) (field name : String) (datum : Datum) (read : Reading α)

@[simp] theorem required_cons : required ((name, datum) :: record) field read =
    if field = name then datum.readAs field read else required record field read := by
  by_cases h : field = name <;> simp [required, List.lookup_cons, beq_eq_decide, h]

@[simp] theorem withDefault_cons (default : α) :
    withDefault ((name, datum) :: record) field default read =
      if field = name then datum.readAs field read
      else withDefault record field default read := by
  by_cases h : field = name <;> simp [withDefault, List.lookup_cons, beq_eq_decide, h]

end Record

namespace Datum

/-- A text, or nothing in its place. -/
def ofText? (s : Option String) : Datum := (s.map text).getD null

/-- A number, or nothing in its place. -/
def ofDecimal? (d : Option Decimal) : Datum := (d.map real).getD null

@[simp] theorem optional_ofText? (s : Option String) :
    Reading.optional .text (ofText? s) = .ok s := by
  cases s <;> rfl

@[simp] theorem optional_ofDecimal? (d : Option Decimal) :
    Reading.optional .decimal (ofDecimal? d) = .ok d := by
  cases d <;> rfl

end Datum

/-! ## Tokens -/

namespace Token

@[simp] theorem oneOf_kind (kind : TokenKind) :
    Reading.oneOf TokenKind.all TokenKind.name (.text kind.name) = .ok kind := by
  cases kind <;> decide

/-- The fields of a token. -/
def toRecord (token : Token) : Record :=
  [("type", .text token.kind.name), ("text", .text token.text),
    ("value", .ofDecimal? token.value?)]

/-- The kind, text and value of a token fit together. -/
theorem ofParts_self (token : Token) : ofParts token.kind token.text token.value? = .ok token := by
  cases token <;> rfl

/-- A token with a text passes its checks. -/
theorem ofRecord_toRecord {token : Token} (h : token.text.length ≠ 0) :
    ofRecord token.toRecord = .ok token := by
  have htext : Reading.textFrom 1 (.text token.text) = .ok token.text := by
    simp [Reading.textFrom, Reading.text, bind, Except.bind, h]
  simp [ofRecord, toRecord, Datum.readAs, Except.mapError, htext, ofParts_self]

end Token

/-! ## Rejections and outcomes -/

namespace Rejection

@[simp] theorem oneOf_kind (kind : RejectionKind) :
    Reading.oneOf RejectionKind.all RejectionKind.name (.text kind.name) = .ok kind := by
  cases kind <;> decide

/-- The fields of a rejection. -/
def toRecord (why : Rejection) : Record :=
  [("kind", .text why.kind.name), ("message", .text why.message), ("symbol", .ofText? why.symbol)]

/-- A rejection passes its checks. -/
theorem ofRecord_toRecord (why : Rejection) : ofRecord why.toRecord = .ok why := by
  simp [ofRecord, toRecord, Datum.readAs, Except.mapError, Reading.text]

end Rejection

namespace Outcome

/-- The fields of an outcome apart from the rejection. -/
def toRecord (outcome : Outcome) : Record :=
  [("expression", .text outcome.expression), ("value", .ofDecimal? outcome.value?)]

/-- An outcome has either a value or a rejection. -/
theorem ofParts_self (outcome : Outcome) :
    ofParts outcome.expression outcome.value? outcome.rejection? = .ok outcome := by
  obtain ⟨expression, answer⟩ := outcome
  cases answer <;> rfl

/-- An outcome passes its checks. -/
theorem ofRecord_toRecord (outcome : Outcome) :
    ofRecord outcome.toRecord outcome.rejection? = .ok outcome := by
  simp [ofRecord, toRecord, Datum.readAs, Except.mapError, Reading.text, ofParts_self]

end Outcome

/-! ## Events -/

namespace Event

@[simp] theorem oneOf_kind (kind : EventKind) :
    Reading.oneOf EventKind.all EventKind.name (.text kind.name) = .ok kind := by
  cases kind <;> decide

@[simp] theorem oneOf_severity (severity : Severity) :
    Reading.oneOf Severity.all Severity.name (.text severity.name) = .ok severity := by
  cases severity <;> decide

/-- The fields of an event. -/
def toRecord (event : Event) : Record :=
  [("event_type", .text event.kind.name), ("severity", .text event.severity.name),
    ("description", .text event.description), ("details", .record event.details),
    ("error_code", .ofText? event.errorCode), ("error_message", .ofText? event.errorMessage)]

/-- An event passes its checks if its description is not too long. -/
theorem ofRecord_toRecord {event : Event} (h : event.description.length ≤ descriptionLimit) :
    ofRecord event.toRecord = .ok event := by
  have hdescription : Reading.textTo descriptionLimit (.text event.description) =
      .ok event.description := by
    simp [Reading.textTo, Reading.text, bind, Except.bind, h]
  simp [ofRecord, toRecord, Datum.readAs, Except.mapError, Reading.record, hdescription]

/-- A clipped text fits a description. -/
theorem length_clip_le (s : String) : (clip s).length ≤ descriptionLimit := by
  rw [clip]
  split
  next h => exact h
  next h =>
    simp only [String.length_ofList, List.length_append, List.length_take, List.length_cons,
      List.length_nil, descriptionLimit]
    omega

/-- The description of an outcome's event is not too long, whatever the text and the value. -/
theorem length_description_ofOutcome_le (subject : Subject) (outcome : Outcome) :
    (ofOutcome subject outcome).description.length ≤ descriptionLimit := by
  rw [ofOutcome]
  cases outcome.answer <;> exact length_clip_le _

end Event

end LedgerAmount
