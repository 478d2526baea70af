/-!
# Sets of characters as ranges of code points

A property of characters is held as a list of ranges of code points, ends
included. The tables beside this module keep their ranges ascending and apart.
-/

namespace Concordance.Text

/-- Whether the code point of `c` lies in one of the ranges. -/
def inRanges (ranges : List (Nat × Nat)) (c : Char) : Bool :=
  ranges.any fun (low, high) => low ≤ c.toNat && c.toNat ≤ high

end Concordance.Text
