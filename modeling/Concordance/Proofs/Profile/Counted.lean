import Concordance.Proofs.Binary64.PowerBounds
import Concordance.Proofs.Profile.Symmetry
import Concordance.Proofs.Profile.UnitRange

/-!
# Profiles whose weights are counts

Weights that count something are whole numbers from one on. If they are below `2 ^ 32`, no
step of a comparison overflows, loses a term or divides by zero, however many components there
are. So the similarity is a number from zero to one, and it is greater than zero just where
the profiles share a facet.

* `IsCount`, `Profile.Counted`: weights that are counts.
* `Profile.shares`: whether two profiles have a facet in common.
* `Profile.Counted.within_length`, `Profile.Counted.within_product`: the bounds of what is computed.
* `Profile.Counted.cosine_mem_unit`, `Profile.Counted.cosine_pos_iff`: what this means for the
  similarity.
-/

namespace Concordance

open Binary64

/-- The weight is a whole number from one on, below `2 ^ 32`. -/
def IsCount (w : Float) : Prop := ∃ n : ℕ, 0 < n ∧ n < 2 ^ 32 ∧ w = Float.ofNat n

theorem IsCount.within {w : Float} (h : IsCount w) : Within 0 32 w := by
  obtain ⟨n, pos, lt, rfl⟩ := h
  exact within_ofNat (b := 32) pos lt.le (by decide)

theorem IsCount.validWeight {w : Float} (h : IsCount w) : validWeight w = true :=
  validWeight_iff.mpr ⟨h.within.isFinite, h.within.nonneg⟩

/-! ## Totals of weights within bounds -/

namespace Weights

variable {parts : List (Facet × Float)}

/-- A total sums up the weights that its facet comes with, and there are some. -/
theorem of_mem_merge {entry : Facet × Float} (mem : entry ∈ merge parts) :
    occurrences parts entry.1 ≠ [] ∧
      entry.2 = (occurrences parts entry.1).foldl (· + ·) 0 := by
  have found := (get?_eq_some_iff (distinct_merge parts)).mpr mem
  rw [get?_merge] at found
  split at found
  · cases found
  · next some =>
    rw [Option.some.injEq] at found
    exact ⟨some, found.symm⟩

theorem within_merge {l k : ℤ} (h : ∀ part ∈ parts, Within l k part.2)
    (exponents : Exponents l (k + 54)) (le : l ≤ k) :
    ∀ entry ∈ merge parts, Within l (k + 54) entry.2 := by
  intro entry mem
  obtain ⟨some, total⟩ := of_mem_merge mem
  have zero : unpacked 0 = .zero .positive := rfl
  have own : ∀ w ∈ occurrences parts entry.1, Within l k w :=
    fun w occurs => h (entry.1, w) (mem_of_mem_occurrences occurs)
  rw [total]
  exact within_foldl zero some own exponents le

variable {a b : Weights Float} {l k : ℤ}

theorem within_squares (h : ∀ entry ∈ a, Within l k entry.2)
    (exponents : Exponents (l + l) (k + k)) : ∀ x ∈ a.squares, Within (l + l) (k + k) x := by
  intro x mem
  obtain ⟨entry, total, rfl⟩ := List.mem_map.mp mem
  exact (h entry total).mul (h entry total) exponents

theorem within_products (ha : ∀ entry ∈ a, Within l k entry.2)
    (hb : ∀ entry ∈ b, Within l k entry.2) (exponents : Exponents (l + l) (k + k)) :
    ∀ x ∈ a.products b, Within (l + l) (k + k) x := by
  have both : ∀ entry ∈ a ++ b, Within l k entry.2 := List.forall_mem_append.mpr ⟨ha, hb⟩
  intro x mem
  obtain ⟨left, memLeft, right, memRight, rfl⟩ := exists_of_mem_products mem
  exact (both left memLeft).mul (both right memRight) exponents

end Weights

/-! ## Quotients and their range -/

theorem exists_zero_div {x y : Float} {s : Float.Model.UnpackedFloat.Sign} {l k : ℤ}
    (hx : unpacked x = .zero s) (hy : Within l k y) : ∃ s', unpacked (x / y) = .zero s' := by
  obtain ⟨m, e, pos, eq, -⟩ := hy
  rw [unpacked_div, hx, eq]
  exact ⟨_, repack_zero _⟩

/-- A number is not brought to zero, nor away from it. -/
theorem zero_lt_clampUnit_iff {x : Float} (h : Nonneg (unpacked x)) :
    0.0 < clampUnit x ↔ 0.0 < x := by
  unfold clampUnit
  simp only [if_neg (not_lt_zero_of_nonneg h)]
  split
  · next above =>
    refine iff_of_true (by decide) ?_
    rw [gt_iff_lt, lt_iff] at above
    rw [lt_iff]
    rcases h.cases with infinite | ⟨s, zero⟩ | ⟨m, e, pos, finite⟩
    · rw [infinite]
      rfl
    · rw [zero] at above
      cases above
    · rw [finite]
      rfl
  · exact Iff.rfl

/-! ## Profiles -/

namespace Profile

variable {p q : Profile}

/-- Every weight is a count. -/
def Counted (p : Profile) : Prop := ∀ c ∈ p.components, IsCount c.weight

/-- Whether the two profiles have a facet in common. -/
def shares (p q : Profile) : Bool :=
  p.components.any fun c => q.components.any fun d => c.facet == d.facet

theorem mem_facets_weights {f : Facet} :
    f ∈ p.weights.facets ↔ ∃ c ∈ p.components, c.facet = f := by
  rw [weights, Weights.mem_facets_merge]
  simp

/-- There are terms of a scalar product just where a facet is shared. -/
theorem products_ne_nil_iff : p.weights.products q.weights ≠ [] ↔ p.shares q = true := by
  have terms := Weights.products_perm float_mul_comm p.distinct_weights q.distinct_weights
  rw [← List.length_pos_iff, terms.length_eq, Weights.commonTerms, List.length_map,
    List.length_pos_iff_exists_mem]
  simp only [Weights.mem_common, mem_facets_weights, shares, List.any_eq_true, beq_iff_eq]
  constructor
  · rintro ⟨f, ⟨c, left, rfl⟩, d, right, same⟩
    exact ⟨c, left, d, right, same.symm⟩
  · rintro ⟨c, left, d, right, same⟩
    exact ⟨c.facet, ⟨c, left, rfl⟩, d, right, same.symm⟩

theorem weights_ne_nil (h : p.components ≠ []) : p.weights ≠ [] := by
  obtain ⟨c, mem⟩ := List.exists_mem_of_ne_nil _ h
  have occurs : c.facet ∈ p.weights.facets := mem_facets_weights.mpr ⟨c, mem, rfl⟩
  intro none
  rw [none] at occurs
  cases occurs

theorem components_ne_nil_of_shares (h : p.shares q = true) :
    p.components ≠ [] ∧ q.components ≠ [] := by
  obtain ⟨c, left, found⟩ := List.any_eq_true.mp h
  obtain ⟨d, right, -⟩ := List.any_eq_true.mp found
  exact ⟨List.ne_nil_of_mem left, List.ne_nil_of_mem right⟩

/-- The length of a profile without components is zero. -/
theorem length_of_components_eq_nil (h : p.components = []) : (p.length == 0.0) = true := by
  rw [length, weights, h]
  decide +kernel

namespace Counted

theorem valid (h : p.Counted) : p.Valid := fun c mem => (h c mem).validWeight

theorem within_weights (h : p.Counted) : ∀ entry ∈ p.weights, Within 0 86 entry.2 := by
  refine Weights.within_merge (k := 32) (fun part mem => ?_) ⟨by decide, by decide, by decide⟩
    (by decide)
  obtain ⟨c, own, rfl⟩ := List.mem_map.mp mem
  exact (h c own).within

/-- The length of a profile with components is from one to `2 ^ 113`. -/
theorem within_length (h : p.Counted) (some : p.components ≠ []) : Within 0 113 p.length := by
  have squares := Weights.within_squares h.within_weights ⟨by decide, by decide, by decide⟩
  have terms : p.weights.squares ≠ [] := mt List.map_eq_nil_iff.mp (weights_ne_nil some)
  have sum : Within 0 226 (orderedSum p.weights.squares) :=
    within_orderedSum terms squares ⟨by decide, by decide, by decide⟩ (by decide)
  exact Within.sqrt (l := 0) (k := 113) sum ⟨by decide, by decide, by decide⟩

/-- The scalar product of profiles that share a facet is from one to `2 ^ 226`. -/
theorem within_product (hp : p.Counted) (hq : q.Counted) (share : p.shares q = true) :
    Within 0 226 (p.product q) := by
  have products := Weights.within_products hp.within_weights hq.within_weights
    ⟨by decide, by decide, by decide⟩
  exact within_orderedSum (products_ne_nil_iff.mpr share) products
    ⟨by decide, by decide, by decide⟩ (by decide)

theorem within_lengths (hp : p.Counted) (hq : q.Counted) (someP : p.components ≠ [])
    (someQ : q.components ≠ []) : Within 0 226 (p.length * q.length) :=
  (hp.within_length someP).mul (hq.within_length someQ) ⟨by decide, by decide, by decide⟩

/-- The quotient that the similarity is: positive if a facet is shared, and else a zero. -/
theorem quotient_cases (hp : p.Counted) (hq : q.Counted) (someP : p.components ≠ [])
    (someQ : q.components ≠ []) :
    (p.shares q = true ∧ Within (-226) 226 (p.product q / (p.length * q.length))) ∨
      (p.shares q = false ∧ ∃ s, unpacked (p.product q / (p.length * q.length)) = .zero s) := by
  have lengths := hp.within_lengths hq someP someQ
  cases share : p.shares q with
  | true =>
    exact .inl ⟨rfl, (hp.within_product hq share).div lengths ⟨by decide, by decide, by decide⟩⟩
  | false =>
    have none : p.weights.products q.weights = [] := by
      by_contra some
      rw [products_ne_nil_iff.mp some] at share
      cases share
    have product : unpacked (p.product q) = .zero .negative := by
      rw [product, none, orderedSum, List.mergeSort_nil]
      rfl
    exact .inr ⟨rfl, exists_zero_div product lengths⟩

theorem nonneg_quotient (hp : p.Counted) (hq : q.Counted) (someP : p.components ≠ [])
    (someQ : q.components ≠ []) : Nonneg (unpacked (p.product q / (p.length * q.length))) := by
  rcases hp.quotient_cases hq someP someQ with ⟨-, within⟩ | ⟨-, s, zero⟩
  · exact within.nonneg
  · rw [zero]
    trivial

/-- A profile without components is similar to nothing, and others by their quotient. -/
theorem cosine_cases (hp : p.Counted) (hq : q.Counted) :
    (p.shares q = false ∧ p.cosine q = 0.0) ∨
      (p.components ≠ [] ∧ q.components ≠ [] ∧
        p.cosine q = clampUnit (p.product q / (p.length * q.length))) := by
  by_cases some : p.components ≠ [] ∧ q.components ≠ []
  · have lengths : (p.length == 0.0 || q.length == 0.0) = false := by
      rw [(hp.within_length some.1).ne_zero, (hq.within_length some.2).ne_zero]
      rfl
    refine .inr ⟨some.1, some.2, ?_⟩
    rw [cosine, lengths]
    rfl
  · have share : p.shares q = false := by
      rw [← Bool.not_eq_true]
      exact mt components_ne_nil_of_shares some
    have zero : (p.length == 0.0 || q.length == 0.0) = true := by
      rw [Bool.or_eq_true]
      rw [not_and_or, not_not, not_not] at some
      exact some.imp length_of_components_eq_nil length_of_components_eq_nil
    refine .inl ⟨share, ?_⟩
    rw [cosine, zero]
    rfl

/-- The similarity is a number from zero to one. -/
theorem cosine_mem_unit (hp : p.Counted) (hq : q.Counted) :
    (p.cosine q).isNaN = false ∧ 0.0 ≤ p.cosine q ∧ p.cosine q ≤ 1.0 := by
  have range : 0.0 ≤ p.cosine q ∧ p.cosine q ≤ 1.0 := by
    rcases hp.cosine_cases hq with ⟨-, zero⟩ | ⟨someP, someQ, quotient⟩
    · rw [zero]
      decide
    · rw [quotient]
      exact clampUnit_mem_unit (hp.nonneg_quotient hq someP someQ)
  refine ⟨?_, range⟩
  rw [← Bool.not_eq_true]
  exact fun none => (not_le_of_isNaN none).2 range.1

/-- The similarity is greater than zero just where a facet is shared. -/
theorem cosine_pos_iff (hp : p.Counted) (hq : q.Counted) :
    0.0 < p.cosine q ↔ p.shares q = true := by
  rcases hp.cosine_cases hq with ⟨apart, zero⟩ | ⟨someP, someQ, quotient⟩
  · rw [zero, apart]
    decide
  · rw [quotient, zero_lt_clampUnit_iff (hp.nonneg_quotient hq someP someQ)]
    rcases hp.quotient_cases hq someP someQ with ⟨share, within⟩ | ⟨apart, s, zero⟩
    · exact ⟨fun _ => share, fun _ => within.zero_lt⟩
    · rw [apart, lt_iff, zero]
      exact ⟨nofun, nofun⟩

theorem similarity_eq_ok (hp : p.Counted) (hq : q.Counted) : p.similarity q = .ok (p.cosine q) :=
  (checked_similarity p q).eq_ok_iff.mpr ⟨hp.valid, hq.valid, rfl⟩

end Counted

end Profile

end Concordance
