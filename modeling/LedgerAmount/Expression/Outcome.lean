import LedgerAmount.Expression.OperandStack
import LedgerAmount.Expression.Postfix

/-!
# The outcome of an expression

Evaluates a text from lexemes to value. The outcome names the text as typed and holds either its
exact value or the reason why it was turned down.
-/

namespace LedgerAmount

/-- What became of an expression. -/
structure Outcome where
  expression : String
  answer : Except Rejection Decimal

namespace Outcome

/-- Whether the expression has a value. -/
def isOk (outcome : Outcome) : Bool := outcome.answer.isOk

/-- The value, if there is one. -/
def value? (outcome : Outcome) : Option Decimal := outcome.answer.toOption

/-- The rejection, if there is one. -/
def rejection? (outcome : Outcome) : Option Rejection :=
  match outcome.answer with
  | .ok _ => none
  | .error why => some why

/-- The value, or a complaint that names the expression and what is wrong with it. -/
def unwrap (outcome : Outcome) : Except String Decimal :=
  outcome.answer.mapError fun why =>
    "Invalid expression " ++ Text.quote outcome.expression ++ ": " ++ why.message

/-- What the prompt says about an amount. -/
def describe (outcome : Outcome) : String :=
  match outcome.answer with
  | .ok value => "Amount: " ++ toString value
  | .error why =>
    let reason := match why.symbol with
      | none | some "" => why.kind.phrase
      | some symbol => why.kind.phrase ++ " " ++ Text.quote symbol
    "Invalid amount: " ++ reason ++ " in " ++ Text.quote outcome.expression

/-- The outcome of an evaluation that was not broken off. -/
def ofEvaluation (text : String) : Except Stop Decimal → Except Defect Outcome
  | .ok value => .ok ⟨text, .ok value⟩
  | .error (.rejected why) => .ok ⟨text, .error why⟩
  | .error (.broken defect) => .error defect

end Outcome

/-- The value of an expression. -/
def evaluateText (rule : DivisionRule) (text : String) : Except Stop Decimal := do
  let tokens ← (tokenize text).mapError .rejected
  let ordered ← toPostfix tokens
  evaluatePostfix (.exact rule) ordered

/-- Evaluates an expression. -/
def evaluate (rule : DivisionRule) (text : String) : Except Defect Outcome :=
  Outcome.ofEvaluation text (evaluateText rule text)

end LedgerAmount
