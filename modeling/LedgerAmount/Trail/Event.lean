import LedgerAmount.Expression.Outcome
import LedgerAmount.Validation.Reading

/-!
# Audit events

Every outcome is recorded, whether the expression was accepted or not. An event has a short
description for people, clipped to a fixed length, and the full data as details.
-/

namespace LedgerAmount

/-- What an event is about. -/
inductive EventKind where
  | expressionEvaluated
  | expressionRejected
  | amountAccepted
  | amountRejected
  deriving DecidableEq, Repr

namespace EventKind

/-- Every kind. -/
def all : List EventKind :=
  [expressionEvaluated, expressionRejected, amountAccepted, amountRejected]

/-- The name of a kind. -/
def name : EventKind → String
  | expressionEvaluated => "expression_evaluated"
  | expressionRejected => "expression_rejected"
  | amountAccepted => "amount_accepted"
  | amountRejected => "amount_rejected"

end EventKind

/-- How grave an event is. -/
inductive Severity where
  | debug
  | info
  | warning
  | error
  deriving DecidableEq, Repr

namespace Severity

/-- Every severity, the slightest first. -/
def all : List Severity := [debug, info, warning, error]

/-- The name of a severity. -/
def name : Severity → String
  | debug => "debug"
  | info => "info"
  | warning => "warning"
  | error => "error"

end Severity

/-- An audit event. -/
structure Event where
  kind : EventKind
  severity : Severity
  description : String
  details : Record
  errorCode : Option String
  errorMessage : Option String

/-- What an outcome is the outcome of. -/
inductive Subject where
  /-- An expression on its own. -/
  | expression
  /-- An amount as it was entered. -/
  | amount
  deriving DecidableEq, Repr

namespace Subject

/-- The word that a description begins with. -/
def name : Subject → String
  | expression => "Expression"
  | amount => "Amount"

/-- The kind of event for an outcome with a value. -/
def accepted : Subject → EventKind
  | expression => .expressionEvaluated
  | amount => .amountAccepted

/-- The kind of event for an outcome without a value. -/
def rejected : Subject → EventKind
  | expression => .expressionRejected
  | amount => .amountRejected

end Subject

namespace Event

/-- The most characters of a description. -/
def descriptionLimit : Nat := 500

/-- A text cut to the length of a description, with dots where it is cut. -/
def clip (s : String) : String :=
  if s.length ≤ descriptionLimit then s
  else String.ofList (s.toList.take (descriptionLimit - 3) ++ ['.', '.', '.'])

/-- The event for an outcome. -/
def ofOutcome (subject : Subject) (outcome : Outcome) : Event :=
  let shown := subject.name ++ " " ++ Text.quote outcome.expression
  match outcome.answer with
  | .ok value =>
    { kind := subject.accepted
      severity := .info
      description := clip (shown ++ " = " ++ toString value)
      details := [("expression", .text outcome.expression), ("value", .text (toString value))]
      errorCode := none
      errorMessage := none }
  | .error why =>
    { kind := subject.rejected
      severity := .warning
      description := clip (shown ++ " rejected")
      details := [("expression", .text outcome.expression),
        ("symbol", (why.symbol.map Datum.text).getD .null)]
      errorCode := some why.kind.name
      errorMessage := some why.message }

/-- An event by its fields. -/
def ofRecord (record : Record) : Except (List FieldFault) Event :=
  let kind := record.required "event_type" (.oneOf EventKind.all EventKind.name)
  let severity := record.withDefault "severity" .info (.oneOf Severity.all Severity.name)
  let description := record.required "description" (.textTo descriptionLimit)
  let details := record.withDefault "details" [] .record
  let errorCode := record.withDefault "error_code" none (.optional .text)
  let errorMessage := record.withDefault "error_message" none (.optional .text)
  match kind, severity, description, details, errorCode, errorMessage with
  | .ok kind, .ok severity, .ok description, .ok details, .ok errorCode, .ok errorMessage =>
    .ok ⟨kind, severity, description, details, errorCode, errorMessage⟩
  | _, _, _, _, _, _ => .error (faultsOf kind ++ faultsOf severity ++ faultsOf description ++
      faultsOf details ++ faultsOf errorCode ++ faultsOf errorMessage)

end Event

end LedgerAmount
