/-!
# Ranges of code points

A property of characters is a table of the code points that have it: closed ranges, sorted and
disjoint. Looking one up bisects the table.
-/

namespace LedgerAmount.Text

/-- A table of closed ranges, each given by its first and its last code point, in rising order. -/
abbrev CodeRanges := Array (Nat × Nat)

namespace CodeRanges

/-- The number of ranges that begin at or below `n`, known to lie between `lo` and `hi`. -/
def countBelow (table : CodeRanges) (n lo hi : Nat) : Nat :=
  if lo < hi then
    let mid := (lo + hi) / 2
    match table[mid]? with
    | some range =>
      if range.1 ≤ n then countBelow table n (mid + 1) hi else countBelow table n lo mid
    | none => lo
  else lo
termination_by hi - lo
decreasing_by all_goals omega

/-- Whether some range of the table holds `n`: only the last one that begins at or below `n` can. -/
def holds (table : CodeRanges) (n : Nat) : Bool :=
  match table.countBelow n 0 table.size with
  | 0 => false
  | k + 1 =>
    match table[k]? with
    | some range => decide (n ≤ range.2)
    | none => false

end CodeRanges

end LedgerAmount.Text
