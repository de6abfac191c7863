/-!
# Sets of characters as ranges

A set of code points is an array of first and last members in increasing order.
-/

namespace Switchboard.Text

/-- Whether a code point lies in one of the ranges. -/
def inRanges (ranges : Array (Nat × Nat)) (n : Nat) : Bool :=
  ranges.any fun r => r.1 ≤ n && n ≤ r.2

end Switchboard.Text
