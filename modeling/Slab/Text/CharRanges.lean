/-!
# Ranges of characters

Properties of characters are kept as tables of closed ranges of code points.
-/

namespace Slab

/-- Closed ranges of code points. -/
abbrev CharRanges := List (Nat × Nat)

/-- A character lies in one of the ranges. -/
def CharRanges.hold (ranges : CharRanges) (c : Char) : Bool :=
  ranges.any fun range => range.1 ≤ c.toNat && c.toNat ≤ range.2

end Slab
