import Concordance.Proofs.Binary64.ExactSums
import Concordance.Proofs.Profile.Counted
import Concordance.Proofs.Profile.SameWeights

/-!
# Profiles with little in common

Without a common facet there is no term of a scalar product, and a sum without terms is a zero.
So the similarity is a zero too, whatever the weights are: a length that is not zero does not get
so small that a product of two of them is lost. Where each common facet has the weight one on both
sides, the scalar product is the number of these facets.

* `Profile.cosine_of_apart`: profiles that share nothing are not similar.
* `Profile.product_of_ones`: a scalar product that counts.
-/

namespace Concordance

open Binary64 Float.Model Float.Model.UnpackedFloat

/-! ## Nothing in common -/

theorem beq_zero_iff {x : Float} : (x == 0.0) = true ↔ ∃ s, unpacked x = .zero s := by
  have zero : unpacked 0.0 = .zero .positive := rfl
  rw [beq_iff, zero]
  cases unpacked x with
  | notANumber => simp [UnpackedFloat.compare]
  | infinity s => cases s <;> simp [UnpackedFloat.compare]
  | zero s => simp [UnpackedFloat.compare]
  | finite s => cases s <;> simp [UnpackedFloat.compare]

/-- A zero is divided to a zero by what is neither a zero nor no number. -/
theorem zero_div_of_positive {x y : Float} {s : Sign} (hx : unpacked x = .zero s)
    (hy : Positive (unpacked y)) : ∃ s', unpacked (x / y) = .zero s' := by
  rw [unpacked_div, hx]
  cases hu : unpacked y with
  | notANumber | zero =>
    rw [hu] at hy
    cases hy
  | infinity | finite => exact ⟨_, repack_zero _⟩

theorem clampUnit_of_zero {x : Float} {s : Sign} (h : unpacked x = .zero s) :
    ∃ s', unpacked (clampUnit x) = .zero s' := by
  have nonneg : Nonneg (unpacked x) := by
    rw [h]
    trivial
  have below : ¬ x > 1.0 := by
    rw [gt_iff_lt, lt_iff, h]
    cases s <;> decide
  unfold clampUnit
  simp only [if_neg (not_lt_zero_of_nonneg nonneg), if_neg below]
  exact ⟨s, h⟩

namespace Profile

variable {p q : Profile}

/-- The product of two lengths that are not zero is not lost. -/
theorem positive_mul_length (hp : p.Valid) (hq : q.Valid) (left : (p.length == 0.0) = false)
    (right : (q.length == 0.0) = false) : Positive (unpacked (p.length * q.length)) := by
  have sp := nonneg_orderedSum (Weights.nonneg_squares (nonneg_weights hp))
  have sq := nonneg_orderedSum (Weights.nonneg_squares (nonneg_weights hq))
  have up : Positive (unpacked p.length) := positive_of_nonneg (nonneg_sqrt sp) left
  have uq : Positive (unpacked q.length) := positive_of_nonneg (nonneg_sqrt sq) right
  have infinite (h : unpacked p.length = .infinity .positive ∨
      unpacked q.length = .infinity .positive) : Positive (unpacked (p.length * q.length)) := by
    rw [unpacked_mul_infinity up uq h]
    rfl
  rcases infinity_or_rootRange_sqrt sp up with inf | rp
  · exact infinite (.inl inf)
  · rcases infinity_or_rootRange_sqrt sq uq with inf | rq
    · exact infinite (.inr inf)
    · obtain ⟨m, e, pos, product⟩ := exists_mul_of_rootRange rp rq
      show Positive (unpacked ((orderedSum p.weights.squares).sqrt *
        (orderedSum q.weights.squares).sqrt))
      rw [product]
      rfl

theorem unpacked_product_of_apart (apart : p.shares q = false) :
    unpacked (p.product q) = .zero .negative := by
  have none : p.weights.products q.weights = [] := by
    by_contra some
    rw [products_ne_nil_iff.mp some] at apart
    cases apart
  rw [product, none, orderedSum, List.mergeSort_nil]
  rfl

/-- Valid profiles that share no facet are not similar. -/
theorem cosine_of_apart (hp : p.Valid) (hq : q.Valid) (apart : p.shares q = false) :
    (p.cosine q == 0.0) = true := by
  unfold cosine
  split
  · decide
  · next some =>
    rw [Bool.not_eq_true, Bool.or_eq_false_iff] at some
    obtain ⟨s, quotient⟩ := zero_div_of_positive (unpacked_product_of_apart apart)
      (positive_mul_length hp hq some.1 some.2)
    exact beq_zero_iff.mpr (clampUnit_of_zero quotient)

end Profile

/-! ## Weights of one -/

/-- A sum of ones is their number. -/
theorem orderedSum_replicate {n : ℕ} (le : n ≤ 2 ^ 53) :
    (orderedSum (List.replicate n (Float.ofNat 1)) == Float.ofNat n) = true := by
  have sorted : (List.replicate n (Float.ofNat 1)).mergeSort totalLE =
      List.replicate n (Float.ofNat 1) :=
    List.perm_replicate.mp (List.mergeSort_perm _ _)
  rw [orderedSum, sorted]
  cases n with
  | zero => decide
  | succ n =>
    have first : -0.0 + Float.ofNat 1 = Float.ofNat 1 := by decide
    have counted : (List.replicate n (Float.ofNat 1)).foldl (· + ·) (Float.ofNat 1) =
        Float.ofNat (n + 1) := by
      have sum : (List.replicate n 1).sum = n := by simp
      rw [← List.map_replicate, foldl_ofNat (by omega), sum, Nat.add_comm]
    rw [List.replicate_succ, List.foldl_cons, first, counted]
    exact beq_self_of_unsigned (unsigned_ofNat _)

/-- Where the common facets weigh one on both sides, the scalar product is their number. -/
theorem Profile.product_of_ones {p q : Profile} {shared : List Facet}
    (common : (p.weights.common q.weights).Perm shared) (few : shared.length ≤ 2 ^ 53)
    (ones : ∀ f ∈ shared, p.weights.total f = Float.ofNat 1 ∧ q.weights.total f = Float.ofNat 1) :
    (p.product q == Float.ofNat shared.length) = true := by
  have square : Float.ofNat 1 * Float.ofNat 1 = Float.ofNat 1 := by decide
  have terms : (p.weights.products q.weights).Perm
      (List.replicate shared.length (Float.ofNat 1)) := by
    have products := Weights.products_perm float_mul_comm p.distinct_weights q.distinct_weights
    refine products.trans ((common.map _).trans (.of_eq ?_))
    refine List.eq_replicate_iff.mpr ⟨List.length_map _, List.forall_mem_map.mpr fun f mem => ?_⟩
    rw [(ones f mem).1, (ones f mem).2, square]
  rw [product, orderedSum_eq_of_perm terms]
  exact orderedSum_replicate few

end Concordance
