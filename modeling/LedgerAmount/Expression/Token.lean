import LedgerAmount.Decimal.Literal
import LedgerAmount.Expression.Lexeme
import LedgerAmount.Expression.Rejection

/-!
# Tokens

A token is a lexeme with its meaning. Numbers carry their exact value. Every token keeps its text;
a token that does not come from a lexeme may have any, and an operator token then need not be one
of the four operators.
-/

namespace LedgerAmount

/-- A token of an expression. -/
inductive Token where
  | number (text : String) (value : Decimal)
  | operator (text : String)
  | leftParen (text : String)
  | rightParen (text : String)
  deriving DecidableEq, Repr

namespace Token

/-- The text of a token. -/
def text : Token → String
  | number text _ | operator text | leftParen text | rightParen text => text

/-- The value of a number token; no other token has one. -/
def value? : Token → Option Decimal
  | number _ value => some value
  | _ => none

/-- Whether a token is an operator. -/
def isOperator : Token → Bool
  | operator _ => true
  | _ => false

/-- Whether a token opens a group. -/
def isLeftParen : Token → Bool
  | leftParen _ => true
  | _ => false

instance : ToString Token := ⟨text⟩

/-- The token of a lexeme, or nothing where the lexeme means nothing. -/
def ofLexeme? (lexeme : String) : Option Token :=
  if (Operator.ofSymbol? lexeme).isSome then some (operator lexeme)
  else if lexeme = "(" then some (leftParen lexeme)
  else if lexeme = ")" then some (rightParen lexeme)
  else (Decimal.ofLiteral? lexeme).map (number lexeme)

/-- The token of a lexeme, or its rejection. -/
def ofLexeme (lexeme : String) : Except Rejection Token :=
  match ofLexeme? lexeme with
  | some token => .ok token
  | none => .error (.unknownSymbol lexeme)

end Token

/-- The tokens of an expression, or the rejection of its first lexeme that means nothing. -/
def tokenize (text : String) : Except Rejection (List Token) := (lexemes text).mapM Token.ofLexeme

end LedgerAmount
