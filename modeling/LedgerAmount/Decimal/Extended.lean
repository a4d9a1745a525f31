import LedgerAmount.Decimal.Bounds

/-!
# Extended decimals

Decimals together with the two infinities and with values that are not numbers. Amounts are always
finite; the extended values are what numeric text may name and what the operations have to answer
for when they are given such text directly.
-/

namespace LedgerAmount

/-- A decimal, an infinity, or a value that is not a number, which may signal and may carry a
payload. -/
inductive Extended where
  | finite (value : Decimal)
  | infinity (negative : Bool)
  | notANumber (negative signalling : Bool) (payload : Nat)
  deriving DecidableEq, Repr

namespace Extended

/-- The written form. -/
protected def toString : Extended → String
  | finite d => toString d
  | infinity negative => (if negative then "-" else "") ++ "Infinity"
  | notANumber negative signalling payload =>
    (if negative then "-" else "") ++ (if signalling then "sNaN" else "NaN") ++
      (if payload = 0 then "" else toString payload)

instance : ToString Extended := ⟨Extended.toString⟩

/-- Whether the value signals when it is used. -/
def isSignalling : Extended → Bool
  | notANumber _ signalling _ => signalling
  | _ => false

/-- Whether the value has a minus sign. -/
def isNegative : Extended → Bool
  | finite d => d.negative
  | infinity negative => negative
  | notANumber negative _ _ => negative

/-- Whether the value is a zero. -/
def isFiniteZero : Extended → Bool
  | finite d => d.isZero
  | _ => false

/-- The value of an operation in which some operand is not a number: the first such operand, unless
one of them signals. Nothing if both operands are numbers. -/
def notANumber? (a b : Extended) : Option (Except ArithmeticFault Extended) :=
  if a.isSignalling || b.isSignalling then some (.error .invalidOperation)
  else match a, b with
    | notANumber .., _ => some (.ok a)
    | _, notANumber .. => some (.ok b)
    | _, _ => none

/-- The value of opposite sign. -/
def neg : Extended → Extended
  | finite d => finite d.neg
  | infinity negative => infinity !negative
  | notANumber negative signalling payload => notANumber negative signalling payload

/-- The sum. Opposite infinities have none. -/
def add (a b : Extended) : Except ArithmeticFault Extended :=
  match notANumber? a b with
  | some outcome => outcome
  | none =>
    match a, b with
    | finite x, finite y => (x.addWithinBounds y).map finite
    | infinity s, infinity t => if s = t then .ok a else .error .invalidOperation
    | infinity _, _ => .ok a
    | _, _ => .ok b

/-- The difference: the sum with the opposite of the right operand. -/
def sub (a b : Extended) : Except ArithmeticFault Extended := a.add b.neg

/-- The product. An infinity and a zero have none. -/
def mul (a b : Extended) : Except ArithmeticFault Extended :=
  match notANumber? a b with
  | some outcome => outcome
  | none =>
    match a, b with
    | finite x, finite y => (x.mulWithinBounds y).map finite
    | _, _ =>
      if a.isFiniteZero || b.isFiniteZero then .error .invalidOperation
      else .ok (infinity (a.isNegative != b.isNegative))

/-- The finite value, or the fault of dividing with another one. -/
def finite? : Extended → Except ArithmeticFault Decimal
  | finite d => .ok d
  | infinity _ => .error .infinite
  | notANumber .. => .error .notANumber

/-- Divides by a rule. Only finite values can be divided. -/
def divide (rule : DivisionRule) (a b : Extended) : Except ArithmeticFault Extended := do
  let x ← a.finite?
  let y ← b.finite?
  return finite (← x.divide rule y)

/-- Compares the value with zero. A signalling value cannot be compared. -/
def equalsZero (a : Extended) : Except ArithmeticFault Bool :=
  if a.isSignalling then .error .invalidOperation else .ok a.isFiniteZero

end Extended

end LedgerAmount
