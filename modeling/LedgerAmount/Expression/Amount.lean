import LedgerAmount.Expression.Outcome

/-!
# Amounts

What a user types as an amount is an expression if it holds an operator, and otherwise has to be a
plain number: parentheses alone do not make an expression.
-/

namespace LedgerAmount

/-- Whether a text holds an arithmetic operator. -/
def looksLikeExpression (text : String) : Bool := text.toList.any isOperatorChar

/-- The rejection of a text that is no plain number: its first lexeme that means nothing, or the
whole text where every lexeme means something. -/
def plainRejection (text : String) : Rejection :=
  match tokenize text with
  | .error why => why
  | .ok _ => .unknownSymbol text

/-- The amount that a text without operators stands for. -/
def plainAmount (text : String) : Except Rejection Decimal :=
  let stripped := String.ofList (Text.strip text.toList)
  if stripped.isEmpty then .error .noAmount
  else match Decimal.ofLiteral? stripped with
    | some value => .ok value
    | none => .error (plainRejection stripped)

/-- What becomes of a typed amount. -/
def parseAmount (rule : DivisionRule) (text : String) : Except Defect Outcome :=
  if looksLikeExpression text then evaluate rule text else .ok ⟨text, plainAmount text⟩

end LedgerAmount
