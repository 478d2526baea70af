import Concordance.Proofs.Binary64.Arithmetic
import Concordance.Proofs.Binary64.Naturals
import Concordance.Proofs.Profile.SameWeights
import Mathlib

/-!
# The law of cosines without rounding

Weights that are read as exact numbers are merged, multiplied and added up as the floating
numbers are, by the same definitions. Each profile is then a vector with the weight of a
facet as its coordinate, however many components share the facet, and scalar products and
squared lengths are those of the vectors. So the scalar product is at most the product of
the lengths, and as great where the vectors have one direction.

* `Binary64.exact`: the exact value of a number.
* `Profile.exactDot`, `Profile.exactNormSq`: the sums without rounding.
* `Profile.exactDot_eq_sum`, `Profile.exactNormSq_eq_sum`: these, from the weights of facets.
* `Profile.cosine_law`: the law.
-/

namespace Concordance

/-- The exact value of a number without sign, and zero for what is infinite or no number. -/
def Binary64.exact (x : Float) : ℚ≥0 :=
  match unpacked x with
  | .finite _ m e _ => m * ((2 : ℕ) : ℚ≥0) ^ e
  | _ => 0

theorem Binary64.cast_exact (x : Float) : (exact x : ℝ) = magnitude (unpacked x) := by
  unfold exact
  cases unpacked x with
  | finite s m e pos => simp [magnitude, dyadic]
  | notANumber | infinity | zero => simp [magnitude]

/-- A natural number that 53 bits hold is read back exactly. -/
theorem Binary64.exact_natCast {n : ℕ} (le : n ≤ 2 ^ 53) : exact (Float.ofNat n) = n := by
  have value := cast_exact (Float.ofNat n)
  rw [exact_ofNat le] at value
  exact_mod_cast value

/-- The sum of the terms in ascending order, without rounding. -/
def exactSum (terms : List ℚ≥0) : ℚ≥0 :=
  (terms.mergeSort fun x y => decide (x ≤ y)).foldl (· + ·) 0

theorem exactSum_eq_sum (terms : List ℚ≥0) : exactSum terms = terms.sum := by
  rw [exactSum, ← List.sum_eq_foldl]
  exact (List.mergeSort_perm terms _).sum_eq

/-! ## Terms and facets -/

namespace Weights

variable {a b : Weights ℚ≥0} {s : Finset Facet}

theorem sum_squares (h : a.Distinct) (cover : a.facets.toFinset ⊆ s) :
    a.squares.sum = ∑ f ∈ s, a.total f ^ 2 := by
  calc a.squares.sum = ∑ f ∈ a.facets.toFinset, a.total f * a.total f := by
        rw [squares_eq h, List.sum_toFinset _ h]
    _ = ∑ f ∈ s, a.total f * a.total f := by
        refine Finset.sum_subset cover fun f _ absent => ?_
        rw [total_of_notMem (mt List.mem_toFinset.mpr absent), zero_mul]
    _ = ∑ f ∈ s, a.total f ^ 2 := by simp only [pow_two]

theorem sum_products (ha : a.Distinct) (hb : b.Distinct) (cover : a.facets.toFinset ⊆ s) :
    (a.products b).sum = ∑ f ∈ s, a.total f * b.total f := by
  calc (a.products b).sum = ∑ f ∈ (a.common b).toFinset, a.total f * b.total f := by
        rw [(products_perm mul_comm ha hb).sum_eq, commonTerms, List.sum_toFinset _ (nodup_common ha)]
    _ = ∑ f ∈ s, a.total f * b.total f := by
        refine Finset.sum_subset (fun f mem => cover ?_) fun f _ absent => ?_
        · exact List.mem_toFinset.mpr (mem_common.mp (List.mem_toFinset.mp mem)).1
        · rw [List.mem_toFinset, mem_common, not_and_or] at absent
          rcases absent with absent | absent
          · rw [total_of_notMem absent, zero_mul]
          · rw [total_of_notMem absent, mul_zero]

end Weights

/-! ## Profiles -/

namespace Profile

/-- The total weight of each facet, where `read` tells what a component counts with. -/
def weightsBy {α : Type} [Add α] [OfNat α 0] (read : Component → α) (p : Profile) : Weights α :=
  .merge (p.components.map fun c => (c.facet, read c))

theorem weights_eq_weightsBy (p : Profile) : p.weights = p.weightsBy Component.weight := rfl

variable (read : Component → ℚ≥0) (p q : Profile)

/-- The scalar product without rounding. -/
def exactDot : ℚ≥0 := exactSum ((p.weightsBy read).products (q.weightsBy read))

/-- The square of the length without rounding. -/
def exactNormSq : ℚ≥0 := exactSum (p.weightsBy read).squares

/-- What all components with a facet count together. -/
def share (f : Facet) : ℚ≥0 := ((p.components.filter (·.facet = f)).map read).sum

/-- The weights of facets in one profile are those in the other, times a number. -/
def Proportional : Prop :=
  ∃ s t : ℚ≥0, (s ≠ 0 ∨ t ≠ 0) ∧ ∀ f, s * p.share read f = t * q.share read f

theorem distinct_weightsBy : (p.weightsBy read).Distinct := Weights.distinct_merge _

theorem total_weightsBy (f : Facet) : (p.weightsBy read).total f = p.share read f := by
  rw [weightsBy, Weights.total_merge, ← List.sum_eq_foldl, share, Weights.occurrences,
    List.filter_map, List.map_map]
  rfl

theorem mem_facets_of_share_pos {f : Facet} (h : 0 < p.share read f) :
    f ∈ (p.weightsBy read).facets.toFinset := by
  rw [← total_weightsBy] at h
  by_contra absent
  rw [Weights.total_of_notMem (mt List.mem_toFinset.mpr absent)] at h
  exact lt_irrefl 0 h

section

variable {s : Finset Facet} (cover : (p.weightsBy read).facets.toFinset ⊆ s)

include cover

/-- A scalar product is the sum over the facets of the products of their weights. -/
theorem exactDot_eq_sum : exactDot read p q = ∑ f ∈ s, p.share read f * q.share read f := by
  rw [exactDot, exactSum_eq_sum, Weights.sum_products (p.distinct_weightsBy read)
    (q.distinct_weightsBy read) cover]
  simp only [total_weightsBy]

/-- A squared length is the sum over the facets of the squares of their weights. -/
theorem exactNormSq_eq_sum : exactNormSq read p = ∑ f ∈ s, p.share read f ^ 2 := by
  rw [exactNormSq, exactSum_eq_sum, Weights.sum_squares (p.distinct_weightsBy read) cover]
  simp only [total_weightsBy]

end

theorem exists_cover : ∃ s, (p.weightsBy read).facets.toFinset ⊆ s ∧
    (q.weightsBy read).facets.toFinset ⊆ s :=
  ⟨_, Finset.subset_union_left, Finset.subset_union_right⟩

theorem exactDot_sq_le : exactDot read p q ^ 2 ≤ exactNormSq read p * exactNormSq read q := by
  obtain ⟨s, coverP, coverQ⟩ := exists_cover read p q
  rw [exactDot_eq_sum read p q coverP, exactNormSq_eq_sum read p coverP,
    exactNormSq_eq_sum read q coverQ]
  exact Finset.sum_mul_sq_le_sq_mul_sq s _ _

/-- Where one vector is a multiple of the other, the inequality is an equation. -/
theorem sum_mul_sq_eq_of_multiple (s : Finset Facet) {u v : Facet → ℚ≥0} (c : ℚ≥0)
    (multiple : ∀ f, v f = c * u f) :
    (∑ f ∈ s, u f * v f) ^ 2 = (∑ f ∈ s, u f ^ 2) * ∑ f ∈ s, v f ^ 2 := by
  have product : ∑ f ∈ s, u f * v f = c * ∑ f ∈ s, u f ^ 2 := by
    rw [Finset.mul_sum]
    refine Finset.sum_congr rfl fun f _ => ?_
    rw [multiple f]
    ring
  have square : ∑ f ∈ s, v f ^ 2 = c ^ 2 * ∑ f ∈ s, u f ^ 2 := by
    rw [Finset.mul_sum]
    refine Finset.sum_congr rfl fun f _ => ?_
    rw [multiple f]
    ring
  rw [product, square]
  ring

theorem exactDot_sq_eq_of_proportional (h : Proportional read p q) :
    exactDot read p q ^ 2 = exactNormSq read p * exactNormSq read q := by
  obtain ⟨x, y, nonzero, same⟩ := h
  obtain ⟨s, coverP, coverQ⟩ := exists_cover read p q
  rw [exactDot_eq_sum read p q coverP, exactNormSq_eq_sum read p coverP,
    exactNormSq_eq_sum read q coverQ]
  -- The number that is not zero can be divided by: one side is a multiple of the other.
  rcases nonzero with hx | hy
  · have multiple (f : Facet) : p.share read f = y / x * q.share read f := by
      rw [div_mul_eq_mul_div, ← same f, mul_div_cancel_left₀ _ hx]
    have swapped := sum_mul_sq_eq_of_multiple s (y / x) multiple
    simp only [mul_comm (q.share read _)] at swapped
    rw [swapped, mul_comm]
  · have multiple (f : Facet) : q.share read f = x / y * p.share read f := by
      rw [div_mul_eq_mul_div, same f, mul_div_cancel_left₀ _ hy]
    exact sum_mul_sq_eq_of_multiple s (x / y) multiple

theorem proportional_self : Proportional read p p := ⟨1, 1, .inl one_ne_zero, fun _ => rfl⟩

theorem exactDot_eq_zero_iff :
    exactDot read p q = 0 ↔ ¬ ∃ f, 0 < p.share read f ∧ 0 < q.share read f := by
  rw [exactDot_eq_sum read p q subset_rfl, Finset.sum_eq_zero_iff]
  refine ⟨fun zero ⟨f, hp, hq⟩ => ?_, fun none f _ => ?_⟩
  · exact (mul_pos hp hq).ne' (zero f (mem_facets_of_share_pos read p hp))
  · by_contra nonzero
    refine none ⟨f, ?_, ?_⟩
    · exact pos_iff_ne_zero.mpr (left_ne_zero_of_mul nonzero)
    · exact pos_iff_ne_zero.mpr (right_ne_zero_of_mul nonzero)

/-- The square of a scalar product is at most the product of the squared lengths, and as great
where the weights are proportional. A scalar product is zero just where the profiles share no
facet with a weight. -/
theorem cosine_law :
    exactDot read p q ^ 2 ≤ exactNormSq read p * exactNormSq read q ∧
      (Proportional read p q →
        exactDot read p q ^ 2 = exactNormSq read p * exactNormSq read q) ∧
      exactDot read p p ^ 2 = exactNormSq read p * exactNormSq read p ∧
      (exactDot read p q = 0 ↔ ¬ ∃ f, 0 < p.share read f ∧ 0 < q.share read f) :=
  ⟨exactDot_sq_le read p q, exactDot_sq_eq_of_proportional read p q,
    exactDot_sq_eq_of_proportional read p p (proportional_self read p),
    exactDot_eq_zero_iff read p q⟩

theorem share_divided (v w : Float) (f : Facet) : (divided v w).share read f =
    if ⟨⟨"title", .word⟩, .text "lean"⟩ = f
    then read ⟨⟨⟨"title", .word⟩, .text "lean"⟩, v, 0⟩ +
      read ⟨⟨⟨"title", .word⟩, .text "lean"⟩, w, 1⟩
    else 0 := by
  have components : (divided v w).components =
      [⟨⟨⟨"title", .word⟩, .text "lean"⟩, v, 0⟩, ⟨⟨⟨"title", .word⟩, .text "lean"⟩, w, 1⟩] := rfl
  rw [share, components]
  split
  · next same => simp [same]
  · next other => simp [other]

theorem cosine_law_divided :
    Proportional (fun c => Binary64.exact c.weight) (divided 1 2) (divided 0.5 1) ∧
      exactDot (fun c => Binary64.exact c.weight) (divided 1 2) (divided 0.5 1) ^ 2 =
        exactNormSq (fun c => Binary64.exact c.weight) (divided 1 2) *
          exactNormSq (fun c => Binary64.exact c.weight) (divided 0.5 1) := by
  have twice : 1 * (Binary64.exact 1 + Binary64.exact 2) =
      2 * (Binary64.exact 0.5 + Binary64.exact 1) := by decide +kernel
  have proportional :
      Proportional (fun c => Binary64.exact c.weight) (divided 1 2) (divided 0.5 1) := by
    refine ⟨1, 2, .inl one_ne_zero, fun f => ?_⟩
    rw [share_divided, share_divided]
    split
    · exact twice
    · rw [mul_zero, mul_zero]
  exact ⟨proportional, (cosine_law _ (divided 1 2) (divided 0.5 1)).2.1 proportional⟩

end Profile

end Concordance
