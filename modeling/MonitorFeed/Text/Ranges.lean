/-!
Sets of characters given as closed ranges of code points.
-/

namespace MonitorFeed.Text

/-- Closed ranges of code points, in increasing order. -/
abbrev Ranges := List (Nat × Nat)

/-- Membership of a character in a set of ranges. -/
def Ranges.contains (ranges : Ranges) (c : Char) : Bool :=
  ranges.any fun range => range.1 ≤ c.toNat && c.toNat ≤ range.2

end MonitorFeed.Text
