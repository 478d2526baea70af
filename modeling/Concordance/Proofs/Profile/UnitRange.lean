import Concordance.Proofs.Binary64.Range
import Concordance.Proofs.Profile.Valid

/-!
# The range of similarities

A similarity lies between zero and one as long as the lengths are finite, and also where
an infinite length meets a finite scalar product. Where the scalar product is not finite
either, the quotient is no number, and bringing it into the range leaves it so.

* `Profile.Overflow`: an infinite length meets a scalar product that is not finite.
* `Profile.similarity_mem_unit_iff`: exactly then a similarity is out of range.
* `Profile.similarity_isNaN_huge`: one great weight is enough.
-/

namespace Concordance

open Binary64 Float.Model

variable {x y : Float}

theorem isNaN_eq_false_of_nonneg (h : Nonneg (unpacked x)) : x.isNaN = false := by
  show (unpacked x).isNaN = false
  rcases h.cases with infinite | ⟨s, zero⟩ | ⟨m, e, pos, finite⟩
  · rw [infinite]
    rfl
  · rw [zero]
    rfl
  · rw [finite]
    rfl

theorem not_lt_zero_of_nonneg (h : Nonneg (unpacked x)) : ¬ x < 0.0 := by
  intro lt
  have below : (unpacked x).compare (.zero .positive) = some .lt := lt_iff.mp lt
  rcases h.cases with infinite | ⟨s, zero⟩ | ⟨m, e, pos, finite⟩
  · rw [infinite] at below
    cases below
  · rw [zero] at below
    cases below
  · rw [finite] at below
    cases below

/-- What is not negative is brought between zero and one. -/
theorem clampUnit_mem_unit (h : Nonneg (unpacked x)) : 0.0 ≤ clampUnit x ∧ clampUnit x ≤ 1.0 := by
  have number := isNaN_eq_false_of_nonneg h
  have notNegative := not_lt_zero_of_nonneg h
  unfold clampUnit
  simp only [if_neg notNegative]
  split
  · decide
  · next below => exact ⟨le_of_not_lt rfl number notNegative, le_of_not_lt number rfl below⟩

/-- What is no number stays so. -/
theorem clampUnit_of_isNaN (h : x.isNaN = true) : clampUnit x = x := by
  unfold clampUnit
  simp only [if_neg (not_lt_of_isNaN h).1, if_neg (not_lt_of_isNaN h).2, gt_iff_lt]

theorem positive_of_nonneg (h : Nonneg (unpacked x)) (ne : (x == 0.0) = false) :
    Positive (unpacked x) := by
  rcases h.cases with infinite | ⟨s, zero⟩ | ⟨m, e, pos, finite⟩
  · rw [infinite]
    rfl
  · have equal : (x == 0.0) = true := by
      rw [beq_iff, zero]
      rfl
    rw [equal] at ne
    cases ne
  · rw [finite]
    rfl

namespace Profile

/-- Neither length is zero, one of them is infinite, and the scalar product is not finite. -/
structure Overflow (u v d : Float) : Prop where
  left : (u == 0.0) = false
  right : (v == 0.0) = false
  infinite : u.isInf = true ∨ v.isInf = true
  product : d.isFinite = false

theorem isFinite_weights {p : Profile} (h : p.Valid)
    (finite : (orderedSum p.weights.squares).sqrt.isFinite = true) :
    ∀ entry ∈ p.weights, entry.2.isFinite = true :=
  Weights.isFinite_of_squares (isFinite_of_mem_orderedSum
    (Weights.nonneg_squares (nonneg_weights h)) (isFinite_of_sqrt finite))

/-- Between finite lengths a quotient is a number that is not negative. -/
theorem nonneg_quotient {p q : Profile} (hp : p.Valid) (hq : q.Valid)
    (up : RootRange (unpacked (orderedSum p.weights.squares).sqrt))
    (uq : RootRange (unpacked (orderedSum q.weights.squares).sqrt)) :
    Nonneg (unpacked (orderedSum (p.weights.products q.weights) /
      ((orderedSum p.weights.squares).sqrt * (orderedSum q.weights.squares).sqrt))) := by
  obtain ⟨m, e, pos, product⟩ := exists_mul_of_rootRange up uq
  refine nonneg_div (nonneg_orderedSum (Weights.nonneg_products ?_ ?_)) product
  · exact List.forall_mem_append.mpr ⟨nonneg_weights hp, nonneg_weights hq⟩
  · exact List.forall_mem_append.mpr
      ⟨isFinite_weights hp up.isFinite, isFinite_weights hq uq.isFinite⟩

/-- What a quotient is brought to: a number in the range, or no number. -/
def Ranged (s u v d : Float) : Prop :=
  ¬ Overflow u v d ∧ (0.0 ≤ s ∧ s ≤ 1.0) ∨ Overflow u v d ∧ s.isNaN = true

theorem ranged_of_infinity {u v d : Float} (hu : Positive (unpacked u))
    (hv : Positive (unpacked v)) (left : (u == 0.0) = false) (right : (v == 0.0) = false)
    (infinite : unpacked u = .infinity .positive ∨ unpacked v = .infinity .positive) :
    Ranged (clampUnit (d / (u * v))) u v d := by
  have product := unpacked_mul_infinity hu hv infinite
  cases finite : d.isFinite with
  | true =>
    refine .inl ⟨fun overflow => ?_, clampUnit_mem_unit (nonneg_div_infinity finite product)⟩
    rw [overflow.product] at finite
    cases finite
  | false =>
    have none := isNaN_div_infinity finite product
    refine .inr ⟨⟨left, right, ?_, finite⟩, ?_⟩
    · exact infinite.imp (congrArg UnpackedFloat.isInf) (congrArg UnpackedFloat.isInf)
    · rw [clampUnit_of_isNaN none]
      exact none

theorem ranged_of_rootRange {p q : Profile} (hp : p.Valid) (hq : q.Valid)
    (up : RootRange (unpacked (orderedSum p.weights.squares).sqrt))
    (uq : RootRange (unpacked (orderedSum q.weights.squares).sqrt)) :
    let u := (orderedSum p.weights.squares).sqrt
    let v := (orderedSum q.weights.squares).sqrt
    let d := orderedSum (p.weights.products q.weights)
    Ranged (clampUnit (d / (u * v))) u v d := by
  refine .inl ⟨fun overflow => ?_, clampUnit_mem_unit (nonneg_quotient hp hq up uq)⟩
  rcases overflow.infinite with infinite | infinite
  · exact Bool.noConfusion (infinite.symm.trans up.isInf)
  · exact Bool.noConfusion (infinite.symm.trans uq.isInf)

theorem ranged_similarity {p q : Profile} (hp : p.Valid) (hq : q.Valid) :
    let u := (orderedSum p.weights.squares).sqrt
    let v := (orderedSum q.weights.squares).sqrt
    let d := orderedSum (p.weights.products q.weights)
    Ranged (if u == 0.0 || v == 0.0 then 0.0 else clampUnit (d / (u * v))) u v d := by
  intro u v d
  by_cases zero : (u == 0.0 || v == 0.0) = true
  · rw [if_pos zero]
    refine .inl ⟨fun overflow => ?_, by decide⟩
    rw [overflow.left, overflow.right] at zero
    cases zero
  · rw [if_neg zero]
    rw [Bool.not_eq_true, Bool.or_eq_false_iff] at zero
    obtain ⟨left, right⟩ := zero
    have sp := nonneg_orderedSum (Weights.nonneg_squares (nonneg_weights hp))
    have sq := nonneg_orderedSum (Weights.nonneg_squares (nonneg_weights hq))
    have up := positive_of_nonneg (nonneg_sqrt sp) left
    have uq := positive_of_nonneg (nonneg_sqrt sq) right
    rcases infinity_or_rootRange_sqrt sp up with infinite | rp
    · exact ranged_of_infinity up uq left right (.inl infinite)
    · rcases infinity_or_rootRange_sqrt sq uq with infinite | rq
      · exact ranged_of_infinity up uq left right (.inr infinite)
      · exact ranged_of_rootRange hp hq rp rq

/-- The similarity of two valid profiles lies between zero and one unless an infinite length
meets a scalar product that is not finite, and then it is no number. -/
theorem similarity_mem_unit_iff {p q : Profile} (hp : p.Valid) (hq : q.Valid) :
    ∃ s u v d, p.similarity q = .ok s ∧ p.norm = .ok u ∧ q.norm = .ok v ∧ p.dot q = .ok d ∧
      (0.0 ≤ s ∧ s ≤ 1.0 ↔ ¬ Overflow u v d) ∧ (s.isNaN = true ↔ Overflow u v d) := by
  have hu := norm_eq hp
  have hv := norm_eq hq
  have hd := dot_eq hp hq
  refine ⟨_, _, _, _, similarity_eq hu hv hd, hu, hv, hd, ?_⟩
  rcases ranged_similarity hp hq with ⟨fits, range⟩ | ⟨overflow, none⟩
  · exact ⟨⟨fun _ => fits, fun _ => range⟩, fun none => absurd range.1 (not_le_of_isNaN none).2,
      fun overflow => absurd overflow fits⟩
  · exact ⟨⟨fun range => absurd range.1 (not_le_of_isNaN none).2, fun fits => absurd overflow fits⟩,
      fun _ => overflow, fun _ => none⟩

/-- A profile that says one word, with a weight. -/
def single (weight : Float) : Profile :=
  .ofList [⟨⟨⟨"title", .word⟩, .text "lean"⟩, weight, 0⟩]

theorem valid_single {weight : Float} (h : validWeight weight = true) : (single weight).Valid := by
  intro c mem
  rw [List.mem_singleton.mp mem]
  exact h

/-- The similarity to itself of a profile whose weight has no finite square is no number. -/
theorem similarity_isNaN_huge : (single 1e200).Valid ∧
    ∃ s, (single 1e200).similarity (single 1e200) = .ok s ∧ s.isNaN = true ∧
      ¬ (0.0 ≤ s ∧ s ≤ 1.0) := by
  have valid : (single 1e200).Valid := valid_single (by decide +kernel)
  refine ⟨valid, _, similarity_eq (norm_eq valid) (norm_eq valid) (dot_eq valid valid), ?_, ?_⟩
  · decide +kernel
  · decide +kernel

theorem similarity_mem_unit_single : (single 1.5).Valid ∧ (single 2).Valid ∧
    ∃ s u v d, (single 1.5).similarity (single 2) = .ok s ∧ (single 1.5).norm = .ok u ∧
      (single 2).norm = .ok v ∧ (single 1.5).dot (single 2) = .ok d ∧
      (0.0 ≤ s ∧ s ≤ 1.0 ↔ ¬ Overflow u v d) ∧ (s.isNaN = true ↔ Overflow u v d) := by
  have left : (single 1.5).Valid := valid_single (by decide +kernel)
  have right : (single 2).Valid := valid_single (by decide +kernel)
  exact ⟨left, right, similarity_mem_unit_iff left right⟩

end Profile

end Concordance
