/-!
# Operators

The four arithmetic operators of an amount expression. All associate to the left.
-/

namespace LedgerAmount

/-- An arithmetic operator. -/
inductive Operator where
  | plus
  | minus
  | times
  | divide
  deriving DecidableEq, Inhabited, Repr

namespace Operator

/-- Every operator. -/
def all : List Operator := [plus, minus, times, divide]

/-- The character that an operator is typed as. -/
def char : Operator → Char
  | plus => '+'
  | minus => '-'
  | times => '*'
  | divide => '/'

/-- The text of an operator. -/
def symbol (op : Operator) : String := op.char.toString

/-- The operator of a text. -/
def ofSymbol? (s : String) : Option Operator := all.find? (·.symbol == s)

@[simp] theorem ofSymbol?_symbol (op : Operator) : ofSymbol? op.symbol = some op := by
  cases op <;> decide

/-- How tightly an operator binds: products and quotients before sums and differences. -/
def precedence : Operator → Nat
  | plus | minus => 1
  | times | divide => 2

end Operator

/-- Whether a character is typed for an operator. -/
def isOperatorChar (c : Char) : Bool := Operator.all.any (·.char == c)

end LedgerAmount
