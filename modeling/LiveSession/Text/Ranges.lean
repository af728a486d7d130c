/-!
# Sets of code points

A character class beyond the ASCII range is a table of ranges, both ends
included, in increasing order.
-/

namespace LiveSession.Text

/-- Whether a code point lies in one of the ranges. -/
def inRanges (ranges : Array (Nat × Nat)) (n : Nat) : Bool :=
  ranges.any fun r => r.1 ≤ n && n ≤ r.2

end LiveSession.Text
