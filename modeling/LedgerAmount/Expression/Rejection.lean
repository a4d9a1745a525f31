import LedgerAmount.Text.Quoted

/-!
# Rejections

Why an amount is turned down: always something about the text that the user typed, so a rejection
is an answer and no failure of the program. It has a kind, a message, and the lexeme at fault where
there is one.
-/

namespace LedgerAmount

/-- The ways in which an expression can be wrong. -/
inductive RejectionKind where
  /-- A lexeme is neither a number nor an operator nor a parenthesis. -/
  | unknownSymbol
  /-- A parenthesis has no partner. -/
  | unmatchedParen
  /-- Operands and operators do not line up. -/
  | malformedExpression
  /-- A divisor is zero. -/
  | divisionByZero
  deriving DecidableEq, Repr

namespace RejectionKind

/-- Every kind. -/
def all : List RejectionKind := [unknownSymbol, unmatchedParen, malformedExpression, divisionByZero]

/-- The name under which a kind is recorded. -/
def name : RejectionKind → String
  | unknownSymbol => "unknown_symbol"
  | unmatchedParen => "unmatched_paren"
  | malformedExpression => "malformed_expression"
  | divisionByZero => "division_by_zero"

/-- How a prompt puts the kind to the user. -/
def phrase : RejectionKind → String
  | unknownSymbol => "unrecognized symbol"
  | unmatchedParen => "parentheses don't match"
  | malformedExpression => "incomplete or malformed expression"
  | divisionByZero => "division by zero"

/-- What the kind says of an expression where nothing more is known. -/
def remark : RejectionKind → String
  | unknownSymbol => "Unknown symbol"
  | unmatchedParen => "Unmatched parenthesis"
  | malformedExpression => "Malformed expression"
  | divisionByZero => "Division by zero"

end RejectionKind

/-- Why an expression is turned down. -/
structure Rejection where
  kind : RejectionKind
  message : String
  symbol : Option String
  deriving DecidableEq, Repr

namespace Rejection

/-- A lexeme that means nothing. -/
def unknownSymbol (lexeme : String) : Rejection :=
  ⟨.unknownSymbol, RejectionKind.unknownSymbol.remark ++ ": " ++ Text.quote lexeme, some lexeme⟩

/-- A parenthesis without a partner. -/
def unmatchedParen (message : String) : Rejection := ⟨.unmatchedParen, message, none⟩

/-- Operands and operators that do not line up. -/
def malformed (message : String) : Rejection := ⟨.malformedExpression, message, none⟩

/-- A division by zero. -/
def divisionByZero : Rejection := ⟨.divisionByZero, RejectionKind.divisionByZero.remark, none⟩

/-- A closing parenthesis that closes nothing. -/
def strayClosing : Rejection := unmatchedParen "Closing parenthesis without a matching '('"

/-- An opening parenthesis that is never closed. -/
def unclosed : Rejection := unmatchedParen "Unclosed parenthesis '('"

/-- An operator with fewer than two operands before it. -/
def missingOperand (symbol : String) : Rejection :=
  malformed ("Operator " ++ Text.quote symbol ++ " is missing an operand")

/-- Nothing to evaluate. -/
def emptyExpression : Rejection := malformed "Expression is empty"

/-- More than one operand left at the end. -/
def missingOperator : Rejection := malformed "Expression has numbers with no operator between them"

/-- Nothing typed where an amount is expected. -/
def noAmount : Rejection := malformed "No amount entered"

end Rejection

end LedgerAmount
