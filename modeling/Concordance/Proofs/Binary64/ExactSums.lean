import Concordance.Proofs.Binary64.Range
import Concordance.Proofs.Binary64.Reordering
import Concordance.Proofs.Binary64.SumQuotient
import Concordance.Proofs.Binary64.TotalOrder

/-!
# Counting in floating point

A number that is finite and has no sign is determined by what it stands for, since the format has
one way of writing it. So natural numbers are added without any rounding, as long as 53 bits hold
the sum.

* `Canonical.unique`, `eq_of_magnitude_eq`: what a number stands for determines it.
* `zero_add_of_unsigned`, `zero_add_add_comm`: sums that start from zero.
* `ofNat_add_ofNat`, `foldl_ofNat`: sums of natural numbers.
-/

namespace Concordance.Binary64

open Float.Model Float.Model.UnpackedFloat

variable {x y : Float}

/-! ## One way of writing a number -/

/-- The format has one way of writing a number. -/
theorem Canonical.unique {m m' : ℕ} {e e' : ℤ} (h : Canonical m e) (h' : Canonical m' e')
    (same : dyadic m e = dyadic m' e') : m = m' ∧ e = e' := by
  have most {n : ℕ} {k : ℤ} (canonical : Canonical n k) : dyadic n k ≤ dyadic (2 ^ 53 - 1) k :=
    dyadic_le_dyadic (Nat.le_pred_of_lt canonical.lt) k
  have le : e ≤ e' := h.exponent_le h'.least (same.le.trans (most h'))
  have ge : e' ≤ e := h'.exponent_le h.least (same.ge.trans (most h))
  obtain rfl := le_antisymm le ge
  refine ⟨?_, rfl⟩
  rcases lt_trichotomy m m' with lt | eq | gt
  · exact absurd same (dyadic_lt_dyadic lt e).ne
  · exact eq
  · exact absurd same (dyadic_lt_dyadic gt e).ne'

/-- What a number without sign stands for determines its pattern. -/
theorem eq_of_unpacked_eq (hx : Unsigned (unpacked x)) (same : unpacked x = unpacked y) : x = y := by
  have hy : Unsigned (unpacked y) := same ▸ hx
  have irrefl {x y : Float} (same : unpacked x = unpacked y) : ¬ x < y := by
    intro less
    have greater : y < x := by
      rw [lt_iff, same] at less ⊢
      exact less
    exact lt_asymm less greater
  rcases lt_trichotomy (totalKey x) (totalKey y) with lt | eq | gt
  · exact absurd (lt_of_totalKey_lt hx hy lt) (irrefl same)
  · exact totalKey_injective eq
  · exact absurd (lt_of_totalKey_lt hy hx gt) (irrefl same.symm)

theorem ofParts_of_unsigned {s : Sign} {m : ℕ} {e : ℤ} (h : Unsigned (ofParts s m e)) :
    ofParts s m e = ofParts .positive m e := by
  rcases Nat.eq_zero_or_pos m with rfl | pos
  · obtain rfl : s = .positive := h
    rfl
  · rw [ofParts_of_pos s pos] at h
    obtain rfl : s = .positive := h
    rfl

/-- Finite numbers without sign that stand for the same are the same. -/
theorem eq_of_magnitude_eq (hx : Unsigned (unpacked x)) (hy : Unsigned (unpacked y))
    (fx : x.isFinite = true) (fy : y.isFinite = true)
    (same : magnitude (unpacked x) = magnitude (unpacked y)) : x = y := by
  obtain ⟨s, m, e, canonical, -, eq⟩ := parts_of_isFinite fx
  obtain ⟨s', m', e', canonical', -, eq'⟩ := parts_of_isFinite fy
  rw [eq, eq', magnitude_ofParts, magnitude_ofParts] at same
  obtain ⟨rfl, rfl⟩ := canonical.unique canonical' same
  refine eq_of_unpacked_eq hx ?_
  rw [eq] at hx ⊢
  rw [eq'] at hy ⊢
  rw [ofParts_of_unsigned hx, ofParts_of_unsigned hy]

/-! ## Sums from zero -/

theorem repack_unpacked (x : Float) : (Float.Model.pack (unpacked x)).unpack = unpacked x := by
  rcases unpack_cases x.toModel with nan | ⟨s, inf⟩ | ⟨s, m, e, canonical, le, parts⟩
  · rw [unpacked, nan]
    exact repack_notANumber
  · rw [unpacked, inf]
    exact repack_infinity s
  · rw [unpacked, parts, repack_ofParts canonical, if_pos le]

/-- A zero of either sign adds nothing to a number without sign. -/
theorem zero_add_of_unsigned {s : Sign} (hx : unpacked x = .zero s) (hy : Unsigned (unpacked y)) :
    x + y = y := by
  have same : UnpackedFloat.add Format.binary64 (.zero s) (unpacked y) = unpacked y := by
    cases h : unpacked y with
    | notANumber | infinity | finite => rfl
    | zero s' =>
      rw [h] at hy
      obtain rfl : s' = .positive := hy
      cases s <;> rfl
  have sum : unpacked (x + y) = unpacked y := by
    rw [unpacked_add, hx, same, repack_unpacked]
  exact eq_of_unpacked_eq (sum ▸ hy) sum

/-- The order of two terms does not matter for a sum from zero. -/
theorem zero_add_add_comm (hx : Nonneg (unpacked x)) (hy : Nonneg (unpacked y)) :
    0 + x + y = 0 + y + x := by
  have origin : unpacked 0 = .zero .positive := rfl
  have nothing {x y : Float} {s : Sign} (hx : Nonneg (unpacked x)) (zero : unpacked y = .zero s) :
      0 + x + y = 0 + y + x := by
    have none : 0 + y = 0 := by
      rw [float_add_comm]
      exact zero_add_of_unsigned zero rfl
    have unsigned : Unsigned (unpacked (0 + x)) := unsigned_add rfl hx
    rw [none, float_add_comm, zero_add_of_unsigned zero unsigned]
  rcases hx.unsigned_or with ux | ⟨s, zero⟩
  · rcases hy.unsigned_or with uy | ⟨s, zero⟩
    · rw [zero_add_of_unsigned origin ux, zero_add_of_unsigned origin uy, float_add_comm]
    · exact nothing hx zero
  · exact (nothing hy zero).symm

/-! ## Sums of natural numbers -/

/-- Natural numbers are added exactly if 53 bits hold their sum. -/
theorem ofNat_add_ofNat {m n : ℕ} (le : m + n ≤ 2 ^ 53) :
    Float.ofNat m + Float.ofNat n = Float.ofNat (m + n) := by
  have range : ((m + n : ℕ) : ℝ) ≤ dyadic (2 ^ 53 - 1) 971 := natCast_le_range (by omega)
  have unsigned := unsigned_add (unsigned_ofNat m) (unsigned_ofNat n).nonneg
  have sum := rounded_add (unsigned_ofNat m).nonneg (unsigned_ofNat n).nonneg
    (isFinite_ofNat (by omega)) (isFinite_ofNat (by omega))
  rw [exact_ofNat (by omega), exact_ofNat (by omega), ← Nat.cast_add] at sum
  refine eq_of_magnitude_eq unsigned (unsigned_ofNat _) (sum.isFinite range)
    (isFinite_ofNat (by omega)) ?_
  rw [sum.magnitude_eq range (representable_natCast le), exact_ofNat le]

/-- So are many of them, from the left. -/
theorem foldl_ofNat {ns : List ℕ} {start : ℕ} (le : start + ns.sum ≤ 2 ^ 53) :
    (ns.map Float.ofNat).foldl (· + ·) (Float.ofNat start) = Float.ofNat (start + ns.sum) := by
  induction ns generalizing start with
  | nil => rfl
  | cons n rest ih =>
    rw [List.sum_cons] at le
    rw [List.map_cons, List.foldl_cons, ofNat_add_ofNat (by omega), ih (by omega), List.sum_cons,
      Nat.add_assoc]

theorem zero_foldl_ofNat {ns : List ℕ} (le : ns.sum ≤ 2 ^ 53) :
    (ns.map Float.ofNat).foldl (· + ·) 0 = Float.ofNat ns.sum := by
  have counted : (ns.map Float.ofNat).foldl (· + ·) (Float.ofNat 0) = Float.ofNat (0 + ns.sum) :=
    foldl_ofNat (by omega)
  rwa [Nat.zero_add] at counted

end Concordance.Binary64
