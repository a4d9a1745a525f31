import LedgerAmount.Decimal.Basic

/-!
# Data of unknown shape

What a caller or a configuration source hands over before it has been checked: a value of any kind,
and records of named values.
-/

namespace LedgerAmount

/-- A value that nothing is known of yet. -/
inductive Datum where
  | null
  | bool (value : Bool)
  | int (value : Int)
  /-- A number written with a fraction or an exponent. -/
  | real (value : Decimal)
  | text (value : String)
  | list (items : List Datum)
  | record (fields : List (String × Datum))
  deriving Inhabited

/-- Named values. -/
abbrev Record := List (String × Datum)

end LedgerAmount
