/-!
# Sums that do not depend on the order of their terms

Adding binary64 numbers is not associative, so the terms of a sum are put in
order first. The order is the total order on bit patterns: it separates the two
zeros and has a place for every number, infinities and the NaN included.

* `totalKey`, `totalLE`: the place of a number in the total order, and the order.
* `orderedSum`: the sum of the terms in ascending order.
-/

namespace Concordance.Binary64

/-- The place of `x` in the total order. A pattern without sign counts upwards from
zero, a pattern with sign counts downwards from minus one. -/
def totalKey (x : Float) : Int :=
  let bits := x.toBits.toNat
  if bits < 0x8000000000000000 then bits else 0x7fffffffffffffff - bits

/-- Whether `x` comes no later than `y` in the total order. -/
def totalLE (x y : Float) : Bool := totalKey x ≤ totalKey y

/-- The sum of the terms in ascending order, from the left. A sum without terms is
the negative zero, which leaves every number that is added to it as it is. -/
def orderedSum (terms : List Float) : Float :=
  (terms.mergeSort totalLE).foldl (· + ·) (-0.0)

end Concordance.Binary64
