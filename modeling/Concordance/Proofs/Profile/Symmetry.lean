import Concordance.Proofs.Binary64.Reordering
import Concordance.Proofs.Profile.Checked
import Concordance.Proofs.Profile.Totals

/-!
# Similarity is symmetric

The totals of a profile may be kept in any order, and each time they are read they may come
in another one. Every sum puts its terms in order first, so none of this shows in a length,
in a scalar product or in a similarity. For the same reason it does not matter which of two
profiles comes first: only the factors of the products change places.

* `Profile.Reading`, `Comparison`: the orders in which totals are read.
* `Profile.Reading.norm_eq`, `Profile.Reading.dot_eq`, `Comparison.similarity_eq`: they do not
  matter.
* `Profile.similarity_comm`: nor does the order of the two profiles.
-/

namespace Concordance

open Binary64

namespace Profile

variable {p q : Profile}

theorem distinct_weights (p : Profile) : p.weights.Distinct := Weights.distinct_merge _

/-- The totals of a profile, in the order in which they are read. -/
structure Reading (p : Profile) where
  entries : Weights Float
  perm : p.weights.Perm entries

namespace Reading

/-- The length, where the totals are read in this order. -/
def norm (reading : p.Reading) : Except InvalidWeight Float := do
  p.validate
  return (orderedSum reading.entries.squares).sqrt

/-- The scalar product, where the totals of both sides are read in these orders. -/
def dot (left : p.Reading) (right : q.Reading) : Except InvalidWeight Float := do
  p.validate
  q.validate
  return orderedSum (left.entries.products right.entries)

/-- A length does not depend on the order in which the totals are read. -/
theorem norm_eq (reading : p.Reading) : reading.norm = p.norm := by
  have squares : p.weights.squares.Perm reading.entries.squares := reading.perm.map _
  rw [norm, ← orderedSum_eq_of_perm squares, Profile.norm]

/-- Nor does a scalar product. -/
theorem dot_eq (left : p.Reading) (right : q.Reading) : left.dot right = p.dot q := by
  have products : (p.weights.products q.weights).Perm (left.entries.products right.entries) :=
    Weights.products_perm_of_perm float_mul_comm p.distinct_weights q.distinct_weights left.perm
      right.perm
  rw [dot, ← orderedSum_eq_of_perm products, Profile.dot]

end Reading

end Profile

/-- The orders in which a comparison reads the totals: once for the two lengths and once more
for the scalar product. -/
structure Comparison (p q : Profile) where
  forLengthLeft : p.Reading
  forLengthRight : q.Reading
  forProductLeft : p.Reading
  forProductRight : q.Reading

namespace Comparison

variable {p q : Profile}

/-- The similarity, where the totals are read in these orders. -/
def similarity (c : Comparison p q) : Except InvalidWeight Float := do
  let lengthP ← c.forLengthLeft.norm
  let lengthQ ← c.forLengthRight.norm
  if lengthP == 0.0 || lengthQ == 0.0 then
    return 0.0
  else
    let product ← c.forProductLeft.dot c.forProductRight
    return clampUnit (product / (lengthP * lengthQ))

/-- A similarity does not depend on the orders in which the totals are read. -/
theorem similarity_eq (c : Comparison p q) : c.similarity = p.similarity q := by
  rw [similarity, c.forLengthLeft.norm_eq, c.forLengthRight.norm_eq, c.forProductLeft.dot_eq,
    Profile.similarity]

end Comparison

namespace Profile

variable {p q : Profile}

/-- The length is `u`, in whatever order the totals are read. -/
structure HasNorm (p : Profile) (u : Float) : Prop where
  norm : p.norm = .ok u
  inOrder : ∀ reading : p.Reading, reading.norm = .ok u

/-- The similarity is `s`, in whatever orders the totals are read. -/
structure HasSimilarity (p q : Profile) (s : Float) : Prop where
  similarity : p.similarity q = .ok s
  inOrder : ∀ c : Comparison p q, c.similarity = .ok s

theorem Valid.hasNorm (h : p.Valid) : p.HasNorm p.length :=
  ⟨norm_eq h, fun reading => reading.norm_eq.trans (norm_eq h)⟩

theorem Valid.hasSimilarity (hp : p.Valid) (hq : q.Valid) : p.HasSimilarity q (p.cosine q) := by
  have accepted := (checked_similarity p q).eq_ok_iff.mpr ⟨hp, hq, rfl⟩
  exact ⟨accepted, fun c => c.similarity_eq.trans accepted⟩

theorem product_comm (p q : Profile) : p.product q = q.product p :=
  orderedSum_eq_of_perm
    (Weights.products_swap float_mul_comm p.distinct_weights q.distinct_weights)

theorem cosine_comm (p q : Profile) : p.cosine q = q.cosine p := by
  rw [cosine, cosine, Bool.or_comm, product_comm, float_mul_comm]

/-- The similarity of two profiles is the same number in both directions, and so is the scalar
product, whatever the orders in which the totals are read. -/
theorem similarity_comm (p q : Profile) :
    (∀ s, p.similarity q = .ok s ↔ q.similarity p = .ok s) ∧
      (∀ d, p.dot q = .ok d ↔ q.dot p = .ok d) ∧
      (∀ c : Comparison p q, c.similarity = p.similarity q) ∧
      ∀ (left : p.Reading) (right : q.Reading), left.dot right = p.dot q := by
  refine ⟨fun s => ?_, fun d => ?_, Comparison.similarity_eq, Reading.dot_eq⟩
  · rw [(checked_similarity p q).eq_ok_iff, (checked_similarity q p).eq_ok_iff, cosine_comm,
      and_left_comm]
  · rw [(checked_dot p q).eq_ok_iff, (checked_dot q p).eq_ok_iff, product_comm, and_left_comm]

end Profile

end Concordance
