import Concordance.Proofs.Binary64.Packing
import Mathlib.Analysis.Real.Sqrt

/-!
# Products and roots

A product and a square root are nearest numbers to the exact ones, or infinite where
those are too great.

* `unpacked`, `magnitude`: what a pattern stands for.
* `Rounded`: what an exact number becomes.
* `rounded_mul`, `rounded_sqrt`: a product and a root.
-/

namespace Concordance.Binary64

open Float.Model Float.Model.UnpackedFloat Float.Model.Format

/-- What the pattern of a number stands for. -/
def unpacked (x : Float) : UnpackedFloat := x.toModel.unpack

/-- The absolute value of a finite number, and zero for the others. -/
noncomputable def magnitude : UnpackedFloat → ℝ
  | .finite _ m e _ => dyadic m e
  | _ => 0

@[simp] theorem magnitude_ofParts (s : Sign) (m : ℕ) (e : ℤ) :
    magnitude (ofParts s m e) = dyadic m e := by
  rcases Nat.eq_zero_or_pos m with rfl | pos
  · rw [ofParts_zero, dyadic_zero]
    rfl
  · rw [ofParts_of_pos s pos]
    rfl

/-- What a number whose absolute value is `x` becomes in the format, with either sign. -/
def Rounded (x : ℝ) (u : UnpackedFloat) : Prop :=
  ∃ s m e, Canonical m e ∧ Nearest x (dyadic m e) ∧
    u = if e ≤ 971 then ofParts s m e else .infinity s

theorem rounded_repack {x : ℝ} {m : ℕ} {e : ℤ} (canonical : Canonical m e)
    (nearest : Nearest x (dyadic m e)) (s : Sign) :
    Rounded x (Float.Model.pack (ofParts s m e)).unpack :=
  ⟨s, m, e, canonical, nearest, repack_ofParts canonical s⟩

theorem rounded_zero (s : Sign) : Rounded 0 (Float.Model.pack (.zero s)).unpack := by
  have canonical : Canonical 0 (-1074) := ⟨by decide, by decide, .inr rfl⟩
  refine rounded_repack canonical ⟨representable_of_le (by decide) (by decide), fun c _ => ?_⟩ s
  rw [dyadic_zero, sub_zero, abs_zero]
  exact abs_nonneg _

theorem rounded_roundWithAccuracy {m : ℕ} {e : ℤ} {acc : Accuracy} {y : ℝ}
    (le : e ≤ target m e) (holds : Holds (.ofMantissaAndAccuracy m acc) y) (s : Sign) :
    Rounded (y * 2 ^ e) (Float.Model.pack (roundWithAccuracy binary64 s m e acc)).unpack := by
  obtain ⟨m', e', canonical, nearest, eq⟩ := exists_canonical_roundWithAccuracy le holds s
  rw [eq]
  exact rounded_repack canonical nearest s

theorem parts_of_isFinite {x : Float} (h : x.isFinite = true) :
    ∃ s m e, Canonical m e ∧ e ≤ 971 ∧ unpacked x = ofParts s m e := by
  change (unpacked x).isFinite = true at h
  rcases unpack_cases x.toModel with nan | ⟨s, inf⟩ | parts
  · rw [unpacked, nan] at h
    cases h
  · rw [unpacked, inf] at h
    cases h
  · exact parts

/-! ## Products -/

theorem unpacked_mul (x y : Float) : unpacked (x * y) =
    (Float.Model.pack (UnpackedFloat.mul binary64 (unpacked x) (unpacked y))).unpack := rfl

/-- A product of mantissas has 53 bits, or the exponents are the least. -/
theorem add_le_target_mul {m m' : ℕ} {e e' : ℤ} (h : Canonical m e) (h' : Canonical m' e')
    (pos : 0 < m) (pos' : 0 < m') : e + e' ≤ target (m * m') (e + e') := by
  unfold target
  have le : m ≤ m * m' := Nat.le_mul_of_pos_right m pos'
  have le' : m' ≤ m * m' := Nat.le_mul_of_pos_left m' pos
  by_cases full : 2 ^ 52 ≤ m * m'
  · have bits := (Nat.le_log2 (Nat.mul_pos pos pos').ne').mpr full
    omega
  · have least := h.full.resolve_left (by omega)
    have least' := h'.full.resolve_left (by omega)
    omega

/-- A product is a nearest number. -/
theorem rounded_mul {x y : Float} (hx : x.isFinite = true) (hy : y.isFinite = true) :
    Rounded (magnitude (unpacked x) * magnitude (unpacked y)) (unpacked (x * y)) := by
  obtain ⟨s, m, e, canonical, -, eq⟩ := parts_of_isFinite hx
  obtain ⟨s', m', e', canonical', -, eq'⟩ := parts_of_isFinite hy
  rw [unpacked_mul, eq, eq', magnitude_ofParts, magnitude_ofParts]
  rcases Nat.eq_zero_or_pos m with rfl | pos
  · rw [dyadic_zero, zero_mul]
    rcases Nat.eq_zero_or_pos m' with rfl | pos'
    · exact rounded_zero (s * s')
    · rw [ofParts_zero, ofParts_of_pos s' pos']
      exact rounded_zero (s * s')
  · rcases Nat.eq_zero_or_pos m' with rfl | pos'
    · rw [dyadic_zero, mul_zero, ofParts_zero, ofParts_of_pos s pos]
      exact rounded_zero (s * s')
    · rw [dyadic_mul, ofParts_of_pos s pos, ofParts_of_pos s' pos']
      exact rounded_roundWithAccuracy (add_le_target_mul canonical canonical' pos pos')
        (holds_exact _) _

/-! ## Roots -/

/-- How a whole root compares with the root is told by what remains. -/
theorem holds_sqrt (n : ℕ) :
    let root := Nat.sqrt n
    let rest := n - root * root
    Holds (.ofMantissaAndAccuracy root
      (if rest = 0 then .exact else .inexact (if rest ≤ root then .lt else .gt))) √n := by
  intro root rest
  have low : root * root ≤ n := Nat.sqrt_le n
  have high : n < (root + 1) * (root + 1) := Nat.lt_succ_sqrt n
  have square : n = root * root + rest := (Nat.add_sub_cancel' low).symm
  have nonneg : (0 : ℝ) ≤ root := Nat.cast_nonneg _
  split
  · next exact =>
    have whole : √(n : ℝ) = root := by
      rw [square, exact, Nat.add_zero, Nat.cast_mul, Real.sqrt_mul_self nonneg]
    rw [whole]
    exact holds_exact root
  · next inexact =>
    split
    · next below =>
      refine holds_below ((Real.lt_sqrt nonneg).mpr ?_) ((Real.sqrt_lt' (by linarith)).mpr ?_)
      · exact_mod_cast (show root ^ 2 < n by rw [pow_two]; omega)
      · have : (n : ℝ) ≤ root * root + root := by exact_mod_cast (by omega)
        linarith
    · next above =>
      refine holds_above ((Real.lt_sqrt (by linarith)).mpr ?_)
        ((Real.sqrt_lt' (by linarith)).mpr ?_)
      · have : (root * root + root + 1 : ℝ) ≤ n := by exact_mod_cast (by omega)
        linarith
      · exact_mod_cast (show n < (root + 1) ^ 2 by rw [pow_two]; exact high)

/-- The exponent at which the root of a number is taken. -/
def rootExponent (m : ℕ) (e : ℤ) : ℤ := min (e / 2) (max ((m.log2 + 1 + e + 1) / 2 - 53) (-1074))

theorem sqrtCore_eq (m : ℕ) (e : ℤ) :
    let n := m <<< (e - 2 * rootExponent m e).toNat
    let rest := n - n.sqrt * n.sqrt
    sqrtCore binary64 m e = (n.sqrt, rootExponent m e,
      if rest = 0 then .exact else .inexact (if rest ≤ n.sqrt then .lt else .gt)) := rfl

/-- A root has 53 bits. -/
theorem rootExponent_le_target {m k : ℕ} {e : ℤ} (h : Canonical m e) (pos : 0 < m)
    (shift : e - 2 * rootExponent m e = k) :
    rootExponent m e ≤ target (m <<< k).sqrt (rootExponent m e) := by
  have least := h.least
  have bits : 104 ≤ m.log2 + k := by
    unfold rootExponent at shift
    omega
  have wide : 2 ^ 52 * 2 ^ 52 ≤ m <<< k := by
    rw [Nat.shiftLeft_eq, ← pow_add]
    calc 2 ^ (52 + 52) ≤ 2 ^ (m.log2 + k) := Nat.pow_le_pow_right two_pos bits
      _ = 2 ^ m.log2 * 2 ^ k := pow_add 2 _ _
      _ ≤ m * 2 ^ k := Nat.mul_le_mul_right _ (Nat.log2_self_le pos.ne')
  have root : 2 ^ 52 ≤ (m <<< k).sqrt := Nat.le_sqrt.mpr wide
  have rootBits := (Nat.le_log2 (by omega)).mpr root
  unfold target
  omega

theorem unpacked_sqrt (x : Float) : unpacked x.sqrt =
    (Float.Model.pack (UnpackedFloat.sqrt binary64 (unpacked x))).unpack := rfl

/-- A root is a nearest number. -/
theorem rounded_sqrt {x : Float} {m : ℕ} {e : ℤ} (canonical : Canonical m e) (pos : 0 < m)
    (hx : unpacked x = .finite .positive m e pos) :
    Rounded √(dyadic m e) (unpacked x.sqrt) := by
  obtain ⟨k, shift⟩ : ∃ k : ℕ, e - 2 * rootExponent m e = k :=
    Int.eq_ofNat_of_zero_le (by unfold rootExponent; omega)
  have split : dyadic m e = (m <<< k : ℕ) * (2 ^ rootExponent m e * 2 ^ rootExponent m e) := by
    have whole : e = rootExponent m e + rootExponent m e + k := by omega
    conv_lhs => rw [whole]
    rw [dyadic_add, Nat.shiftLeft_eq, dyadic, zpow_add₀ two_ne_zero]
  have value : √(dyadic m e) = √(m <<< k : ℕ) * 2 ^ rootExponent m e := by
    rw [split, Real.sqrt_mul (Nat.cast_nonneg _), Real.sqrt_mul_self (two_zpow_pos _).le]
  have bits : (e - 2 * rootExponent m e).toNat = k := by omega
  rw [value, unpacked_sqrt, hx]
  show Rounded _ (Float.Model.pack (roundWithAccuracy binary64 .positive
    (sqrtCore binary64 m e).1 (sqrtCore binary64 m e).2.1 (sqrtCore binary64 m e).2.2)).unpack
  rw [sqrtCore_eq, bits]
  exact rounded_roundWithAccuracy (rootExponent_le_target canonical pos shift) (holds_sqrt _) _

end Concordance.Binary64
