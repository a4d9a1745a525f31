import LedgerAmount.Decimal.Notation

/-!
# Decimal literals

The numbers a user may type: an optional sign, ASCII digits and at most one point, with a digit on
at least one side of it. There is no exponent and no grouping. The literal keeps every digit, so
`2.50` has the coefficient 250 and the exponent -2.
-/

namespace LedgerAmount.Decimal

/-- Reads digits with an optional point, `negative` being the sign read before them. -/
def ofUnsignedLiteral? (negative : Bool) (cs : List Char) : Option Decimal :=
  let whole := cs.takeWhile Char.isDigit
  match cs.dropWhile Char.isDigit with
  | [] => if whole.isEmpty then none else some ⟨negative, ofDigits whole, 0⟩
  | point :: fraction =>
    if point = '.' ∧ fraction.all Char.isDigit ∧ ¬(whole.isEmpty ∧ fraction.isEmpty) then
      some ⟨negative, ofDigits (whole ++ fraction), -(fraction.length : Int)⟩
    else none

/-- The exact value of a literal, or nothing where the text is none. -/
def ofLiteralChars? : List Char → Option Decimal
  | '-' :: cs => ofUnsignedLiteral? true cs
  | '+' :: cs => ofUnsignedLiteral? false cs
  | cs => ofUnsignedLiteral? false cs

/-- The exact value of a literal, or nothing where the text is none. -/
def ofLiteral? (s : String) : Option Decimal := ofLiteralChars? s.toList

end LedgerAmount.Decimal
