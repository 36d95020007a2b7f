/-!
# Code point ranges

Classes of characters are kept as lists of closed ranges of code points, in increasing order, so
that a search can stop at the first range that starts too late.
-/

namespace Backstep.Text

/-- Whether a number lies in one of the ranges of an increasing list. -/
def inRanges : List (Nat × Nat) → Nat → Bool
  | [], _ => false
  | (first, last) :: rest, n =>
    if n < first then false else if n ≤ last then true else inRanges rest n

end Backstep.Text
