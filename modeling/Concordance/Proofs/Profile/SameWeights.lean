import Concordance.Proofs.Profile.Symmetry

/-!
# Profiles with the same weights

What is computed from valid profiles depends on nothing but the total weight of each facet.
How a weight is divided among the components of a facet, how many there are and which
indices they have does not matter. Totals that compare equal are the same numbers, since
none of them is a negative zero.

* `eq_of_beq_of_unsigned`: numbers without sign that compare equal are equal.
* `Weights.perm_of_agrees`, `Weights.agrees_of_perm`: the same weights are the same totals, up
  to order.
* `Profile.similarity_eq_of_sameWeights`: lengths and similarities are then the same.
-/

namespace Concordance

open Binary64

/-- Numbers without sign that compare equal are equal: only the two zeros are not. -/
theorem eq_of_beq_of_unsigned {x y : Float} (hx : Unsigned (unpacked x))
    (hy : Unsigned (unpacked y)) (h : (x == y) = true) : x = y := by
  obtain ⟨-, -, same | ⟨-, rfl⟩ | ⟨rfl, -⟩⟩ := Float.beq_iff_ne_nan_and_eq.mp h
  · exact same
  · cases hy
  · cases hx

theorem beq_self_of_unsigned {x : Float} (h : Unsigned (unpacked x)) : (x == x) = true := by
  have number : x ≠ Float.nan := by
    rintro rfl
    cases h
  exact Float.beq_iff_ne_nan_and_eq.mpr ⟨number, number, .inl rfl⟩

namespace Weights

variable {a b : Weights Float}

/-- Totals without sign that agree are the same, up to order. -/
theorem perm_of_agrees (ha : a.Distinct) (ua : ∀ entry ∈ a, Unsigned (unpacked entry.2))
    (ub : ∀ entry ∈ b, Unsigned (unpacked entry.2)) (h : a.agrees b = true) : a.Perm b := by
  obtain ⟨sameSize, found⟩ := Bool.and_eq_true_iff.mp h
  have subset : ∀ entry ∈ a, entry ∈ b := by
    intro entry mem
    have agreed : (b.get? entry.1).any (entry.2 == ·) = true := List.all_eq_true.mp found entry mem
    obtain ⟨w, there, equal⟩ := (Option.any_eq_true _ _).mp agreed
    have other : (entry.1, w) ∈ b := mem_of_get? there
    have unsigned : Unsigned (unpacked w) := ub (entry.1, w) other
    have same : entry.2 = w := eq_of_beq_of_unsigned (ua entry mem) unsigned equal
    rw [← same] at other
    exact other
  -- No entry is repeated, so as many entries on the other side leave room for nothing else.
  exact (List.subperm_of_subset ha.nodup subset).perm_of_length_le (beq_iff_eq.mp sameSize).ge

/-- The other way round, totals that are the same up to order agree. -/
theorem agrees_of_perm (ha : a.Distinct) (ua : ∀ entry ∈ a, Unsigned (unpacked entry.2))
    (h : a.Perm b) : a.agrees b = true := by
  unfold agrees
  rw [Bool.and_eq_true, beq_iff_eq]
  refine ⟨h.length_eq, List.all_eq_true.mpr fun (f, w) mem => ?_⟩
  have found : b.get? f = some w := (get?_eq_some_iff (ha.of_perm h)).mpr (h.mem_iff.mp mem)
  show (b.get? f).any (w == ·) = true
  rw [found]
  exact beq_self_of_unsigned (ua (f, w) mem)

end Weights

namespace Profile

variable {p p' q : Profile}

theorem weights_perm_of_sameWeights (hp : p.Valid) (hp' : p'.Valid)
    (same : p.sameWeights p' = true) : p.weights.Perm p'.weights :=
  Weights.perm_of_agrees p.distinct_weights (unsigned_weights hp) (unsigned_weights hp') same

section

variable (h : p.weights.Perm p'.weights)

include h

theorem length_eq_of_perm : p.length = p'.length :=
  congrArg Float.sqrt (orderedSum_eq_of_perm (h.map _))

theorem product_eq_of_perm (q : Profile) : p.product q = p'.product q :=
  orderedSum_eq_of_perm (Weights.products_perm_of_perm float_mul_comm p.distinct_weights
    q.distinct_weights h (.refl _))

theorem cosine_eq_of_perm (q : Profile) : p.cosine q = p'.cosine q := by
  rw [cosine, length_eq_of_perm h, product_eq_of_perm h, cosine]

end

/-- Valid profiles with the same weights have the same length and the same similarity to any
other, in both directions, whatever the orders in which the totals are read. -/
theorem similarity_eq_of_sameWeights (hp : p.Valid) (hp' : p'.Valid) (hq : q.Valid)
    (same : p.sameWeights p' = true) :
    (∃ u, p.HasNorm u ∧ p'.HasNorm u) ∧
      (∃ s, p.HasSimilarity q s ∧ p'.HasSimilarity q s) ∧
      ∃ s, q.HasSimilarity p s ∧ q.HasSimilarity p' s := by
  have totals := weights_perm_of_sameWeights hp hp' same
  have length := hp'.hasNorm
  have left := hp'.hasSimilarity hq
  have right := hq.hasSimilarity hp'
  rw [← length_eq_of_perm totals] at length
  rw [← cosine_eq_of_perm totals] at left
  rw [cosine_comm, ← cosine_eq_of_perm totals, cosine_comm] at right
  exact ⟨⟨_, hp.hasNorm, length⟩, ⟨_, hp.hasSimilarity hq, left⟩, ⟨_, hq.hasSimilarity hp, right⟩⟩

/-- A profile that says one word in two components. -/
def divided (v w : Float) : Profile :=
  .ofList [⟨⟨⟨"title", .word⟩, .text "lean"⟩, v, 0⟩, ⟨⟨⟨"title", .word⟩, .text "lean"⟩, w, 1⟩]

theorem similarity_eq_of_sameWeights_divided :
    (divided 1 2).Valid ∧ (divided 3 (-0.0)).Valid ∧ (divided 0.5 7).Valid ∧
      (divided 1 2).sameWeights (divided 3 (-0.0)) = true ∧
      (∃ u, (divided 1 2).HasNorm u ∧ (divided 3 (-0.0)).HasNorm u) ∧
      (∃ s, (divided 1 2).HasSimilarity (divided 0.5 7) s ∧
        (divided 3 (-0.0)).HasSimilarity (divided 0.5 7) s) ∧
      ∃ s, (divided 0.5 7).HasSimilarity (divided 1 2) s ∧
        (divided 0.5 7).HasSimilarity (divided 3 (-0.0)) s := by
  have left : (divided 1 2).Valid := by decide +kernel
  have right : (divided 3 (-0.0)).Valid := by decide +kernel
  have other : (divided 0.5 7).Valid := by decide +kernel
  have same : (divided 1 2).sameWeights (divided 3 (-0.0)) = true := by decide +kernel
  exact ⟨left, right, other, same, similarity_eq_of_sameWeights left right other same⟩

end Profile

end Concordance
