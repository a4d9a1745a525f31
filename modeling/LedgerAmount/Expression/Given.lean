import LedgerAmount.Expression.Outcome
import LedgerAmount.Validation.Reading

/-!
# Tokens, rejections and outcomes that are given

These values can also be given by their fields instead of coming from a text. Then every field is
checked, and after that how the fields go together.
-/

namespace LedgerAmount

/-- The kinds of tokens. -/
inductive TokenKind where
  | number
  | operator
  | leftParen
  | rightParen
  deriving DecidableEq, Repr

namespace TokenKind

/-- Every kind. -/
def all : List TokenKind := [number, operator, leftParen, rightParen]

/-- The name of a kind. -/
def name : TokenKind → String
  | number => "number"
  | operator => "operator"
  | leftParen => "left_paren"
  | rightParen => "right_paren"

end TokenKind

namespace Token

/-- The kind of a token. -/
def kind : Token → TokenKind
  | number .. => .number
  | operator _ => .operator
  | leftParen _ => .leftParen
  | rightParen _ => .rightParen

/-- The token of a kind, a text and a value: numbers have a value and nothing else has. -/
def ofParts (kind : TokenKind) (text : String) (value? : Option Decimal) :
    Except FieldFault Token :=
  match kind, value? with
  | .number, some value => .ok (number text value)
  | .number, none => .error (.ofRecord (.refused "Number token requires a value"))
  | .operator, none => .ok (operator text)
  | .leftParen, none => .ok (leftParen text)
  | .rightParen, none => .ok (rightParen text)
  | _, some _ => .error (.ofRecord (.refused "Only number tokens carry a value"))

/-- A token by its fields. -/
def ofRecord (record : Record) : Except (List FieldFault) Token :=
  let kind := record.required "type" (.oneOf TokenKind.all TokenKind.name)
  let text := record.required "text" (.textFrom 1)
  let value? := record.withDefault "value" none (.optional .decimal)
  match kind, text, value? with
  | .ok kind, .ok text, .ok value? => (ofParts kind text value?).mapError fun fault => [fault]
  | _, _, _ => .error (faultsOf kind ++ faultsOf text ++ faultsOf value?)

end Token

/-- A rejection by its fields. -/
def Rejection.ofRecord (record : Record) : Except (List FieldFault) Rejection :=
  let kind := record.required "kind" (.oneOf RejectionKind.all RejectionKind.name)
  let message := record.required "message" .text
  let symbol := record.withDefault "symbol" none (.optional .text)
  match kind, message, symbol with
  | .ok kind, .ok message, .ok symbol => .ok ⟨kind, message, symbol⟩
  | _, _, _ => .error (faultsOf kind ++ faultsOf message ++ faultsOf symbol)

namespace Outcome

/-- The outcome of a text with either a value or a rejection. -/
def ofParts (expression : String) (value? : Option Decimal) (rejection? : Option Rejection) :
    Except FieldFault Outcome :=
  match value?, rejection? with
  | some value, none => .ok ⟨expression, .ok value⟩
  | none, some why => .ok ⟨expression, .error why⟩
  | _, _ => .error (.ofRecord (.refused "Result must have exactly one of value or error"))

/-- An outcome by its fields, apart from the rejection. -/
def ofRecord (record : Record) (rejection? : Option Rejection) :
    Except (List FieldFault) Outcome :=
  let expression := record.required "expression" .text
  let value? := record.withDefault "value" none (.optional .decimal)
  match expression, value? with
  | .ok expression, .ok value? =>
    (ofParts expression value? rejection?).mapError fun fault => [fault]
  | _, _ => .error (faultsOf expression ++ faultsOf value?)

end Outcome

end LedgerAmount
