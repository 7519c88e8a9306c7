/-!
# Sets of code points

A Unicode property is kept as a list of closed ranges in increasing order, and a code point is
looked up by walking that list.
-/

namespace QueryImpact.Text

/-- Whether a code point lies in one of the ranges.  The ranges are expected in increasing
order, so the walk stops at the first range that starts above the code point. -/
def inRanges : List (Nat × Nat) → Nat → Bool
  | [], _ => false
  | (low, high) :: rest, point =>
      if point < low then false else decide (point ≤ high) || inRanges rest point

end QueryImpact.Text
