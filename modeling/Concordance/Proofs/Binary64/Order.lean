import Concordance.Proofs.Binary64.Arithmetic

/-!
# Comparisons

Numbers are compared by what they stand for. Only what is no number cannot be compared,
and of two numbers that can be, one is at most the other.

* `lt_iff`, `le_iff`, `beq_iff`: the three comparisons of patterns.
* `compare_swap`: a comparison the other way round.
* `le_of_not_lt`: of two numbers one is at most the other.
-/

namespace Concordance.Binary64

open Float.Model Float.Model.UnpackedFloat

variable {x y : Float}

theorem lt_iff : x < y ↔ (unpacked x).compare (unpacked y) = some .lt := by
  show decide (x.toModel < y.toModel) = true ↔ _
  rw [decide_eq_true_iff]
  exact beq_iff_eq

theorem le_iff : x ≤ y ↔ ∃ o, (unpacked x).compare (unpacked y) = some o ∧ o.isLE = true := by
  show decide (x.toModel ≤ y.toModel) = true ↔ _
  rw [decide_eq_true_iff]
  exact Option.any_eq_true _ _

theorem beq_iff : (x == y) = true ↔ (unpacked x).compare (unpacked y) = some .eq := by
  show ((unpacked x).compare (unpacked y) == some .eq) = true ↔ _
  exact beq_iff_eq

theorem swap_then_compare (m m' : ℕ) (e e' : ℤ) :
    ((compare e e').then (compare m m')).swap = (compare e' e).then (compare m' m) := by
  rw [Ordering.swap_then, ← Std.OrientedCmp.eq_swap, ← Std.OrientedCmp.eq_swap]

/-- A comparison the other way round. -/
theorem compare_swap : ∀ u v : UnpackedFloat, (u.compare v).map .swap = v.compare u
  | .notANumber, v => by cases v <;> rfl
  | .infinity _, .notANumber => rfl
  | .infinity s, .infinity s' => by cases s <;> cases s' <;> rfl
  | .infinity s, .zero _ => by cases s <;> rfl
  | .infinity s, .finite s' .. => by cases s <;> cases s' <;> rfl
  | .zero _, .notANumber => rfl
  | .zero _, .infinity s' => by cases s' <;> rfl
  | .zero _, .zero _ => rfl
  | .zero _, .finite s' .. => by cases s' <;> rfl
  | .finite .., .notANumber => rfl
  | .finite s .., .infinity s' => by cases s <;> cases s' <;> rfl
  | .finite s .., .zero _ => by cases s <;> rfl
  | .finite s m e _, .finite s' m' e' _ => by
    have swap := swap_then_compare m m' e e'
    cases s with
    | negative =>
      cases s' with
      | negative => exact congrArg (some ∘ Ordering.swap) swap
      | positive => rfl
    | positive =>
      cases s' with
      | negative => rfl
      | positive => exact congrArg some swap

theorem compare_ne_none : ∀ {u v : UnpackedFloat}, u.isNaN = false → v.isNaN = false →
    u.compare v ≠ none
  | .infinity s, .infinity s', _, _ => nofun
  | .infinity s, .zero _, _, _ => by cases s <;> nofun
  | .infinity s, .finite .., _, _ => by cases s <;> nofun
  | .zero _, .infinity s', _, _ => by cases s' <;> nofun
  | .zero _, .zero _, _, _ => nofun
  | .zero _, .finite s' .., _, _ => by cases s' <;> nofun
  | .finite s .., .infinity s', _, _ => by cases s <;> cases s' <;> nofun
  | .finite s .., .zero _, _, _ => by cases s <;> nofun
  | .finite s .., .finite s' .., _, _ => by cases s <;> cases s' <;> nofun

/-- Of two numbers one is at most the other. -/
theorem le_of_not_lt (hx : x.isNaN = false) (hy : y.isNaN = false) (h : ¬ y < x) : x ≤ y := by
  have comparable : (unpacked x).compare (unpacked y) ≠ none := compare_ne_none hx hy
  obtain ⟨o, comparison⟩ := Option.ne_none_iff_exists'.mp comparable
  have swapped := compare_swap (unpacked x) (unpacked y)
  rw [comparison] at swapped
  rw [lt_iff, ← swapped] at h
  refine le_iff.mpr ⟨o, comparison, ?_⟩
  cases o with
  | lt => rfl
  | eq => rfl
  | gt => exact absurd rfl h

/-- What is no number compares with nothing. -/
theorem compare_eq_none {u v : UnpackedFloat} (h : u.isNaN = true) :
    u.compare v = none ∧ v.compare u = none := by
  cases u with
  | notANumber => cases v <;> exact ⟨rfl, rfl⟩
  | infinity | zero | finite => cases h

theorem not_lt_of_isNaN (h : x.isNaN = true) : ¬ x < y ∧ ¬ y < x := by
  have uncomparable : (unpacked x).compare (unpacked y) = none ∧
    (unpacked y).compare (unpacked x) = none := compare_eq_none h
  rw [lt_iff, lt_iff, uncomparable.1, uncomparable.2]
  exact ⟨nofun, nofun⟩

theorem not_le_of_isNaN (h : x.isNaN = true) : ¬ x ≤ y ∧ ¬ y ≤ x := by
  have uncomparable : (unpacked x).compare (unpacked y) = none ∧
    (unpacked y).compare (unpacked x) = none := compare_eq_none h
  rw [le_iff, le_iff, uncomparable.1, uncomparable.2]
  exact ⟨nofun, nofun⟩

end Concordance.Binary64
