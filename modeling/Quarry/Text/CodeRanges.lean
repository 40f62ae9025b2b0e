/-!
Sets of code points, kept as sorted tables of closed ranges. Membership is a binary search.
-/

namespace Quarry.Text

/-- Closed ranges of code points, in ascending order and without overlap. -/
abbrev CodeRanges := Array (Nat × Nat)

namespace CodeRanges

/-- Looks for `n` among the ranges from index `lo` up to `hi`, halving the window at each step.
The first argument bounds the number of steps. -/
def search (ranges : CodeRanges) (n : Nat) : Nat → Nat → Nat → Bool
  | 0, _, _ => false
  | steps + 1, lo, hi =>
    if lo < hi then
      let mid := (lo + hi) / 2
      match ranges[mid]? with
      | none => false
      | some (first, last) =>
        if n < first then search ranges n steps lo mid
        else if last < n then search ranges n steps (mid + 1) hi
        else true
    else false

def contains (ranges : CodeRanges) (n : Nat) : Bool :=
  search ranges n (ranges.size + 1) 0 ranges.size

end CodeRanges

end Quarry.Text
