/-!
# Rounding modes

The eight ways to round a number to a whole one. Each is decided by the sign of the number, the
whole number below its absolute value, and where the rest lies between 0 and 1.
-/

namespace LedgerAmount

/-- The ways to round. -/
inductive RoundingMode where
  /-- Toward zero. -/
  | down
  /-- Away from zero. -/
  | up
  /-- Toward positive infinity. -/
  | ceiling
  /-- Toward negative infinity. -/
  | floor
  /-- To the nearest, a half away from zero. -/
  | halfUp
  /-- To the nearest, a half toward zero. -/
  | halfDown
  /-- To the nearest, a half to the even neighbour. -/
  | halfEven
  /-- Away from zero if the last digit kept would be 0 or 5, else toward zero. -/
  | zeroFiveUp
  deriving DecidableEq, Inhabited, Repr

namespace RoundingMode

/-- Every mode, in the order in which their names sort. -/
def all : List RoundingMode :=
  [zeroFiveUp, ceiling, down, floor, halfDown, halfEven, halfUp, up]

/-- The name of a mode in settings. -/
def name : RoundingMode → String
  | down => "ROUND_DOWN"
  | up => "ROUND_UP"
  | ceiling => "ROUND_CEILING"
  | floor => "ROUND_FLOOR"
  | halfUp => "ROUND_HALF_UP"
  | halfDown => "ROUND_HALF_DOWN"
  | halfEven => "ROUND_HALF_EVEN"
  | zeroFiveUp => "ROUND_05UP"

/-- The mode of a name, which has to be spelled exactly. -/
def ofName? (s : String) : Option RoundingMode := all.find? (·.name == s)

@[simp] theorem ofName?_name (mode : RoundingMode) : ofName? mode.name = some mode := by
  cases mode <;> decide

/-- Whether a number goes to the whole number away from zero, where `whole` is the one toward zero,
`inexact` says whether anything is left, and `half` compares what is left with one half. -/
def goesAway (mode : RoundingMode) (negative : Bool) (whole : Nat) (inexact : Bool)
    (half : Ordering) : Bool :=
  match mode with
  | down => false
  | up => inexact
  | ceiling => inexact && !negative
  | floor => inexact && negative
  | halfUp => half != .lt
  | halfDown => half == .gt
  | halfEven => half == .gt || (half == .eq && whole % 2 == 1)
  | zeroFiveUp => inexact && (whole % 5 == 0)

/-- Drops the last two digits of `hundredths`, rounding. -/
def roundHundredths (mode : RoundingMode) (negative : Bool) (hundredths : Nat) : Nat :=
  let whole := hundredths / 100
  let rest := hundredths % 100
  if mode.goesAway negative whole (rest != 0) (compare rest 50) then whole + 1 else whole

end RoundingMode

end LedgerAmount
