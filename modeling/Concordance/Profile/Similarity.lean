import Concordance.Binary64.Sum
import Concordance.Decimal.Shortest
import Concordance.Profile.Basic

/-!
# Similarity of profiles

Two profiles are compared by the cosine of the angle between them, where each
profile is a vector with one coordinate for each facet. Every sum is taken in
ascending order of its terms, so the similarity does not depend on the order of the
facets or of the two profiles. A profile with a weight that is negative or no
number at all is refused.

* `Weights.products`, `Weights.squares`: the terms of the scalar product and of the
  squared length.
* `Profile.dot`, `Profile.norm`, `Profile.similarity`: their sums and their quotient.
-/

namespace Concordance

/-- A weight that no similarity can be computed from. -/
structure InvalidWeight where
  facet : Facet
  weight : Float

/-- The wording of the error. -/
def InvalidWeight.message (e : InvalidWeight) : String :=
  s!"facet '{e.facet.display}' carries invalid weight {Decimal.render e.weight}"

namespace Weights

variable {α : Type}

/-- The terms of the scalar product: for each facet of both vectors the product of
its weights. The shorter vector is walked through, the first if both are as long. -/
def products [Mul α] (a b : Weights α) : List α :=
  let (short, long) := if a.length ≤ b.length then (a, b) else (b, a)
  short.filterMap fun (f, w) => (long.get? f).map (w * ·)

/-- The terms of the squared length: the square of every weight. -/
def squares [Mul α] (a : Weights α) : List α := a.map fun (_, w) => w * w

end Weights

/-- Whether a weight can be computed with: it is finite and not negative. -/
def validWeight (w : Float) : Bool := w.isFinite && !(w < 0.0)

/-- The nearest value from zero to one. -/
def clampUnit (x : Float) : Float :=
  let x := if x < 0.0 then 0.0 else x
  if x > 1.0 then 1.0 else x

namespace Profile

/-- Refuses a profile with an invalid weight. -/
def validate (p : Profile) : Except InvalidWeight Unit :=
  match p.components.find? fun c => !validWeight c.weight with
  | some c => .error ⟨c.facet, c.weight⟩
  | none => .ok ()

/-- The scalar product of two profiles. -/
def dot (p q : Profile) : Except InvalidWeight Float := do
  p.validate
  q.validate
  return Binary64.orderedSum (p.weights.products q.weights)

/-- The length of a profile. -/
def norm (p : Profile) : Except InvalidWeight Float := do
  p.validate
  return (Binary64.orderedSum p.weights.squares).sqrt

/-- The cosine of the angle between two profiles, from zero to one. It is zero when
one of them has no weight. -/
def similarity (p q : Profile) : Except InvalidWeight Float := do
  let lengthP ← p.norm
  let lengthQ ← q.norm
  if lengthP == 0.0 || lengthQ == 0.0 then
    return 0.0
  else
    let product ← p.dot q
    return clampUnit (product / (lengthP * lengthQ))

end Profile

end Concordance
