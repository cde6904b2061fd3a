/-!
# Sets of code points

A property of characters is held as a list of closed ranges of code points, in ascending order.
-/

namespace PushWake.Text

/-- Whether a character lies in one of the ranges, both ends included. -/
def inRanges (ranges : List (Nat × Nat)) (c : Char) : Bool :=
  ranges.any fun range => range.1 ≤ c.toNat && c.toNat ≤ range.2

end PushWake.Text
