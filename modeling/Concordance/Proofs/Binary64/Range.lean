import Concordance.Proofs.Binary64.Nonneg

/-!
# What roots and their products range over

The root of a finite number lies far from both ends of the range, so far that the
product of two roots is neither zero nor infinite.

* `Canonical.magnitude_le`, `Canonical.le_magnitude`: the range of the format.
* `Nearest.root_le`, `Nearest.le_root`: the range of the roots.
* `RootRange`, `rootRange_sqrt`: a root of a positive number is positive, in that range.
* `exists_mul_of_rootRange`: so is the product of two, in the range of the format.
-/

namespace Concordance.Binary64

open Float.Model Float.Model.UnpackedFloat

section

variable {m : ℕ} {e : ℤ}

theorem Canonical.magnitude_le (h : Canonical m e) (le : e ≤ 971) :
    dyadic m e ≤ dyadic (2 ^ 53 - 1) 971 :=
  (dyadic_le_dyadic (Nat.le_pred_of_lt h.lt) e).trans (dyadic_mono _ le)

theorem Canonical.le_magnitude (h : Canonical m e) (pos : 0 < m) :
    dyadic 1 (-1074) ≤ dyadic m e :=
  (dyadic_mono 1 h.least).trans (dyadic_le_dyadic pos e)

/-- A number in the range of an exponent is written with it or with a lesser one. -/
theorem Canonical.exponent_le (h : Canonical m e) {k : ℤ} (hk : -1074 ≤ k)
    (le : dyadic m e ≤ dyadic (2 ^ 53 - 1) k) : e ≤ k := by
  by_contra gt
  have full : 2 ^ 52 ≤ m := h.full.resolve_right (by omega)
  refine absurd le (not_le.mpr ?_)
  calc dyadic (2 ^ 53 - 1) k < dyadic (2 ^ 52 * 2) k := dyadic_lt_dyadic (by decide) k
    _ = dyadic (2 ^ 52) (k + 1) := (dyadic_succ _ k).symm
    _ ≤ dyadic (2 ^ 52) e := dyadic_mono _ (by omega)
    _ ≤ dyadic m e := dyadic_le_dyadic full e

end

/-! ## Roots -/

variable {x y v : ℝ}

/-- The root of the greatest number is rounded down. -/
theorem Nearest.root_le (h : Nearest √x v) (le : x ≤ dyadic (2 ^ 53 - 1) 971) :
    v ≤ dyadic (2 ^ 53 - 1) 459 := by
  have middle : √x < dyadic ((2 ^ 53 - 1) * 2 + 1) 458 := by
    refine (Real.sqrt_lt' (dyadic_pos (by decide) _)).mpr ?_
    calc x ≤ dyadic (2 ^ 53 - 1) (916 + (55 : ℕ)) := le
      _ = dyadic ((2 ^ 53 - 1) * 2 ^ 55) 916 := dyadic_add _ _ _
      _ < dyadic (((2 ^ 53 - 1) * 2 + 1) * ((2 ^ 53 - 1) * 2 + 1)) (458 + 458) :=
          dyadic_lt_dyadic (by decide) _
      _ = dyadic ((2 ^ 53 - 1) * 2 + 1) 458 ^ 2 := by rw [pow_two, dyadic_mul]
  exact h.le_of_lt_middle (by decide) (by decide) (by decide) middle

theorem Nearest.le_root (h : Nearest √x v) (ge : dyadic 1 (-1074) ≤ x) : dyadic 1 (-537) ≤ v := by
  have written : Representable (dyadic 1 (-537)) := representable_of_le (by decide) (by decide)
  refine h.le_of_le written (Real.le_sqrt_of_sq_le ?_)
  rw [pow_two, dyadic_mul]
  exact ge

theorem Nearest.mul_le (h : Nearest (x * y) v) (nonneg : 0 ≤ y)
    (hx : x ≤ dyadic (2 ^ 53 - 1) 459) (hy : y ≤ dyadic (2 ^ 53 - 1) 459) :
    v ≤ dyadic (2 ^ 53 - 1) 971 := by
  refine h.ge_of_ge (representable_of_le (by decide) (by decide)) ?_
  calc x * y ≤ dyadic (2 ^ 53 - 1) 459 * dyadic (2 ^ 53 - 1) 459 :=
        mul_le_mul hx hy nonneg (dyadic_nonneg _ _)
    _ = dyadic ((2 ^ 53 - 1) * (2 ^ 53 - 1)) 918 := dyadic_mul _ _ _ _
    _ ≤ dyadic ((2 ^ 53 - 1) * 2 ^ 53) 918 := dyadic_le_dyadic (by decide) _
    _ = dyadic (2 ^ 53 - 1) (918 + (53 : ℕ)) := (dyadic_add _ _ _).symm

theorem Nearest.le_mul (h : Nearest (x * y) v) (hx : dyadic 1 (-537) ≤ x)
    (hy : dyadic 1 (-537) ≤ y) : dyadic 1 (-1074) ≤ v := by
  refine h.le_of_le (representable_of_le (by decide) (by decide)) ?_
  calc dyadic 1 (-1074) = dyadic 1 (-537) * dyadic 1 (-537) := by
        rw [dyadic_mul]
        norm_num
    _ ≤ x * y := mul_le_mul hx hy (dyadic_nonneg _ _) ((dyadic_nonneg _ _).trans hx)

/-! ## Positive numbers -/

/-- What is rounded to a positive number of the format, since it is within these bounds. -/
theorem Rounded.eq_finite {u : UnpackedFloat} (h : Rounded x u) (nonneg : Nonneg u) {k l : ℤ}
    (lower : ∀ v, Nearest x v → dyadic 1 l ≤ v)
    (upper : ∀ v, Nearest x v → v ≤ dyadic (2 ^ 53 - 1) k) (hk : -1074 ≤ k) (le : k ≤ 971) :
    ∃ m e pos, u = .finite .positive m e pos ∧ Nearest x (dyadic m e) := by
  obtain ⟨s, m, e, canonical, nearest, rfl⟩ := h
  have fits : e ≤ 971 := (canonical.exponent_le hk (upper _ nearest)).trans le
  have positive : 0 < m := by
    refine Nat.pos_of_ne_zero fun zero => ?_
    have := lower _ nearest
    rw [zero, dyadic_zero] at this
    exact absurd (dyadic_pos one_pos l) (not_lt.mpr this)
  rw [if_pos fits, ofParts_of_pos s positive] at nonneg ⊢
  obtain rfl : s = .positive := nonneg
  exact ⟨m, e, positive, rfl, nearest⟩

theorem canonical_of_finite {x : Float} {s : Sign} {m : ℕ} {e : ℤ} {pos : 0 < m}
    (h : unpacked x = .finite s m e pos) : Canonical m e ∧ e ≤ 971 := by
  have finite : x.isFinite = true := by
    show (unpacked x).isFinite = true
    rw [h]
    rfl
  obtain ⟨s', m', e', canonical, le, eq⟩ := parts_of_isFinite finite
  rw [h] at eq
  rcases Nat.eq_zero_or_pos m' with rfl | pos'
  · cases eq
  · rw [ofParts_of_pos s' pos'] at eq
    cases eq
    exact ⟨canonical, le⟩

/-- A positive number in the range of the roots. -/
def RootRange (u : UnpackedFloat) : Prop :=
  ∃ m e pos, u = .finite .positive m e pos ∧ dyadic 1 (-537) ≤ dyadic m e ∧
    dyadic m e ≤ dyadic (2 ^ 53 - 1) 459

theorem rootRange_sqrt {x : Float} {m : ℕ} {e : ℤ} {pos : 0 < m}
    (h : unpacked x = .finite .positive m e pos) : RootRange (unpacked x.sqrt) := by
  obtain ⟨canonical, le⟩ := canonical_of_finite h
  have nonneg : Nonneg (unpacked x.sqrt) := nonneg_sqrt (by rw [h]; rfl)
  have lower : ∀ v, Nearest √(dyadic m e) v → dyadic 1 (-537) ≤ v := fun v nearest =>
    nearest.le_root (canonical.le_magnitude pos)
  have upper : ∀ v, Nearest √(dyadic m e) v → v ≤ dyadic (2 ^ 53 - 1) 459 := fun v nearest =>
    nearest.root_le (canonical.magnitude_le le)
  obtain ⟨m', e', pos', eq, nearest⟩ :=
    (rounded_sqrt canonical pos h).eq_finite nonneg lower upper (by decide) (by decide)
  exact ⟨m', e', pos', eq, lower _ nearest, upper _ nearest⟩

/-- A positive root is infinite or in its range. -/
theorem infinity_or_rootRange_sqrt {x : Float} (h : Nonneg (unpacked x))
    (positive : Positive (unpacked x.sqrt)) :
    unpacked x.sqrt = .infinity .positive ∨ RootRange (unpacked x.sqrt) := by
  have root := unpacked_sqrt x
  rcases h.cases with infinite | ⟨s, zero⟩ | ⟨m, e, pos, finite⟩
  · rw [infinite] at root
    exact .inl (root.trans (repack_infinity .positive))
  · rw [zero] at root
    rw [root.trans (repack_zero s)] at positive
    cases positive
  · exact .inr (rootRange_sqrt finite)

theorem RootRange.isFinite {u : UnpackedFloat} (h : RootRange u) : u.isFinite = true := by
  obtain ⟨m, e, pos, rfl, -⟩ := h
  rfl

theorem RootRange.isInf {u : UnpackedFloat} (h : RootRange u) : u.isInf = false := by
  obtain ⟨m, e, pos, rfl, -⟩ := h
  rfl

/-- The product of two numbers in the range of the roots is positive and finite. -/
theorem exists_mul_of_rootRange {x y : Float} (hx : RootRange (unpacked x))
    (hy : RootRange (unpacked y)) :
    ∃ m e pos, unpacked (x * y) = .finite .positive m e pos := by
  obtain ⟨m, e, pos, eq, lower, upper⟩ := hx
  obtain ⟨m', e', pos', eq', lower', upper'⟩ := hy
  have finite : x.isFinite = true := by
    show (unpacked x).isFinite = true
    rw [eq]
    rfl
  have finite' : y.isFinite = true := by
    show (unpacked y).isFinite = true
    rw [eq']
    rfl
  have nonneg : Nonneg (unpacked (x * y)) :=
    nonneg_mul (by rw [eq]; rfl) (by rw [eq']; rfl) finite finite'
  have rounded := rounded_mul finite finite'
  rw [eq, eq'] at rounded
  obtain ⟨n, k, positive, result, -⟩ := rounded.eq_finite nonneg
    (fun v nearest => nearest.le_mul lower lower')
    (fun v nearest => nearest.mul_le (dyadic_nonneg m' e') upper upper') (by decide) (by decide)
  exact ⟨n, k, positive, result⟩

end Concordance.Binary64
