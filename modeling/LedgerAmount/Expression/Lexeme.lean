import LedgerAmount.Expression.Operator
import LedgerAmount.Text.Blank

/-!
# Lexemes

An expression is cut at its delimiters: the operators, the parentheses and the ASCII space. The
pieces between delimiters lose the blanks at their ends; what is left, and every delimiter but the
space, is a lexeme. No other blank separates lexemes, so `1<tab>2` is one lexeme.
-/

namespace LedgerAmount

/-- Whether an expression is cut at a character, before and after it. -/
def isDelimiter (c : Char) : Bool := isOperatorChar c || c == '(' || c == ')' || c == ' '

/-- The pieces of an expression: runs without a delimiter, which may be empty, with the delimiters
between them as pieces of their own. -/
def pieces : List Char → List (List Char)
  | [] => [[]]
  | c :: cs =>
    if isDelimiter c then [] :: [c] :: pieces cs
    else match pieces cs with
      | [] => [[c]]
      | run :: rest => (c :: run) :: rest

theorem pieces_ne_nil (cs : List Char) : pieces cs ≠ [] := by
  induction cs with
  | nil => simp [pieces]
  | cons c cs ih =>
    rw [pieces]
    split
    · simp
    · split <;> simp

/-- Cutting loses nothing. -/
@[simp] theorem flatten_pieces (cs : List Char) : (pieces cs).flatten = cs := by
  induction cs with
  | nil => rfl
  | cons c cs ih =>
    rw [pieces]
    split
    · simp [ih]
    · split
      next h => exact absurd h (pieces_ne_nil cs)
      next h => rw [h] at ih; simp [← ih]

/-- A delimiter cuts what stands before it from what stands after it. -/
theorem pieces_append_delimiter (before after : List Char) {c : Char} (h : isDelimiter c = true) :
    pieces (before ++ c :: after) = pieces before ++ [c] :: pieces after := by
  induction before with
  | nil => simp [pieces, h]
  | cons x before ih =>
    by_cases hx : isDelimiter x
    · simp [pieces, hx, ih]
    · cases hp : pieces before with
      | nil => exact absurd hp (pieces_ne_nil before)
      | cons run rest => simp [pieces, hx, ih, hp]

/-- The lexemes of an expression. -/
def lexemeChars (cs : List Char) : List (List Char) :=
  ((pieces cs).map Text.strip).filter (!·.isEmpty)

/-- The lexemes of an expression, in order. -/
def lexemes (text : String) : List String := (lexemeChars text.toList).map String.ofList

end LedgerAmount
