import Concordance.Proofs.Binary64.Naturals
import Concordance.Proofs.Binary64.Nonneg

/-!
# Sums and quotients

A sum of two numbers that are not negative and a quotient are nearest numbers to the exact
ones, or infinite where those are too great.

* `rounded_add`: a sum.
* `holds_div`: a whole quotient and what remains stand for the quotient.
* `rounded_div`: a quotient.
-/

namespace Concordance.Binary64

open Float.Model Float.Model.UnpackedFloat Float.Model.Format

variable {x y : Float}

/-! ## Sums -/

/-- What can be written is nearest to itself. -/
theorem Representable.nearest {v : ℝ} (h : Representable v) : Nearest v v := by
  refine ⟨h, fun c _ => ?_⟩
  rw [sub_self, abs_zero]
  exact abs_nonneg _

theorem Canonical.representable {m : ℕ} {e : ℤ} (h : Canonical m e) : Representable (dyadic m e) :=
  representable_of_le h.lt.le h.least

/-- The mantissas of a sum are brought to one exponent and added. -/
theorem add_finite {m m' : ℕ} {e e' : ℤ} {pos : 0 < m} {pos' : 0 < m'} :
    UnpackedFloat.add binary64 (.finite .positive m e pos) (.finite .positive m' e' pos') =
      UnpackedFloat.normalize binary64
        ((m <<< (e - min e e').toNat + m' <<< (e' - min e e').toNat : ℕ) : ℤ) (min e e')
        .positive := rfl

theorem dyadic_shiftLeft_toNat {m : ℕ} {e e' : ℤ} (le : e' ≤ e) :
    dyadic (m <<< (e - e').toNat) e' = dyadic m e := by
  obtain ⟨k, rfl⟩ := Int.le.dest le
  have bits : (e' + k - e').toNat = k := by omega
  rw [bits, Nat.shiftLeft_eq, ← dyadic_add]

theorem dyadic_add_dyadic (m m' : ℕ) (e : ℤ) : dyadic m e + dyadic m' e = dyadic (m + m') e := by
  rw [dyadic, dyadic, dyadic, Nat.cast_add, add_mul]

/-- A sum of numbers that are not negative is a nearest number. -/
theorem rounded_add (hx : Nonneg (unpacked x)) (hy : Nonneg (unpacked y))
    (fx : x.isFinite = true) (fy : y.isFinite = true) :
    Rounded (magnitude (unpacked x) + magnitude (unpacked y)) (unpacked (x + y)) := by
  obtain ⟨s, m, e, canonical, -, eq⟩ := parts_of_isFinite fx
  obtain ⟨s', m', e', canonical', -, eq'⟩ := parts_of_isFinite fy
  rw [unpacked_add]
  rw [eq] at hx ⊢
  rw [eq'] at hy ⊢
  rw [magnitude_ofParts, magnitude_ofParts]
  rcases Nat.eq_zero_or_pos m with rfl | pos
  · rw [dyadic_zero, zero_add, ofParts_zero]
    rcases Nat.eq_zero_or_pos m' with rfl | pos'
    · rw [dyadic_zero, ofParts_zero]
      show Rounded 0
        (Float.Model.pack (if (s == s') = true then .zero s else .zero .positive)).unpack
      split
      · exact rounded_zero s
      · exact rounded_zero .positive
    · have sum : UnpackedFloat.add binary64 (.zero s) (ofParts s' m' e') = ofParts s' m' e' := by
        rw [ofParts_of_pos s' pos']
        rfl
      rw [sum]
      exact rounded_repack canonical' canonical'.representable.nearest s'
  · rcases Nat.eq_zero_or_pos m' with rfl | pos'
    · have sum : UnpackedFloat.add binary64 (ofParts s m e) (.zero s') = ofParts s m e := by
        rw [ofParts_of_pos s pos]
        rfl
      rw [dyadic_zero, add_zero, ofParts_zero, sum]
      exact rounded_repack canonical canonical.representable.nearest s
    · rw [ofParts_of_pos s pos] at hx ⊢
      rw [ofParts_of_pos s' pos'] at hy ⊢
      obtain rfl : s = .positive := hx
      obtain rfl : s' = .positive := hy
      have mantissa : 0 < m <<< (e - min e e').toNat + m' <<< (e' - min e e').toNat :=
        Nat.add_pos_left (shiftLeft_pos pos _) _
      rw [add_finite, normalize_natCast mantissa, ← dyadic_shiftLeft_toNat (min_le_left e e'),
        ← dyadic_shiftLeft_toNat (m := m') (min_le_right e e'), dyadic_add_dyadic]
      exact rounded_round mantissa (min e e') .positive

/-! ## Quotients -/

theorem holds_middle (m : ℕ) : Holds (.ofMantissaAndAccuracy m (.inexact .eq)) (m + 1 / 2) := by
  refine ⟨0, le_rfl, one_pos, ⟨fun _ => rfl, fun _ => rfl⟩, ?_⟩
  simp only [ExtendedMantissa.ofMantissaAndAccuracy, if_true]
  ring

/-- How a whole quotient compares with the quotient is told by what remains. -/
theorem holds_div (n : ℕ) {d : ℕ} (pos : 0 < d) :
    Holds (.ofMantissaAndAccuracy (n / d) (accuracyOfFraction (n % d) d)) (n / d) := by
  have positive : (0 : ℝ) < d := Nat.cast_pos.mpr pos
  have split : (n : ℝ) / d = (n / d : ℕ) + (n % d : ℕ) / d := by
    rw [div_eq_iff positive.ne', add_mul, div_mul_cancel₀ _ positive.ne']
    exact_mod_cast (Nat.div_add_mod' n d).symm
  have below : ((n % d : ℕ) : ℝ) / d < 1 := by
    rw [div_lt_one positive]
    exact_mod_cast Nat.mod_lt n pos
  rw [split]
  unfold accuracyOfFraction
  split_ifs with exact
  · rw [exact, Nat.cast_zero, zero_div, add_zero]
    exact holds_exact _
  · have above : (0 : ℝ) < (n % d : ℕ) / d :=
      div_pos (Nat.cast_pos.mpr (Nat.pos_of_ne_zero exact)) positive
    rcases lt_trichotomy (2 * (n % d)) d with lt | eq | gt
    · have half : ((n % d : ℕ) : ℝ) / d < 1 / 2 := by
        rw [div_lt_div_iff₀ positive two_pos]
        exact_mod_cast (by omega : n % d * 2 < 1 * d)
      rw [compare_lt_iff_lt.mpr lt]
      exact holds_below (by linarith) (by linarith)
    · have half : ((n % d : ℕ) : ℝ) / d = 1 / 2 := by
        rw [div_eq_div_iff positive.ne' two_ne_zero]
        exact_mod_cast (by omega : n % d * 2 = 1 * d)
      rw [compare_eq_iff_eq.mpr eq, half]
      exact holds_middle _
    · have half : 1 / 2 < ((n % d : ℕ) : ℝ) / d := by
        rw [div_lt_div_iff₀ two_pos positive]
        exact_mod_cast (by omega : 1 * d < n % d * 2)
      rw [compare_gt_iff_gt.mpr gt]
      exact holds_above (by linarith) (by linarith)

/-- The exponent at which a quotient is taken. -/
def quotientExponent (m : ℕ) (e : ℤ) (m' : ℕ) (e' : ℤ) : ℤ :=
  min (e - e') (max (m.log2 + 1 + e - (m'.log2 + 1 + e') - 53) (-1074))

theorem divCore_eq (m m' : ℕ) (e e' : ℤ) :
    let n := m <<< (e - e' - quotientExponent m e m' e').toNat
    divCore binary64 m e m' e' =
      (n / m', quotientExponent m e m' e', accuracyOfFraction (n % m') m') := rfl

/-- The bits of a quotient are those of the dividend less those of the divisor, or one less. -/
theorem log2_le_log2_div {n d : ℕ} (pos : 0 < d) (le : d ≤ n) :
    n.log2 ≤ (n / d).log2 + d.log2 + 1 := by
  have whole : n / d ≠ 0 := (Nat.div_pos le pos).ne'
  have lt : n < 2 ^ ((n / d).log2 + 1 + (d.log2 + 1)) := by
    calc n < d * (n / d + 1) := Nat.lt_mul_div_succ n pos
      _ ≤ 2 ^ (d.log2 + 1) * 2 ^ ((n / d).log2 + 1) :=
          Nat.mul_le_mul Nat.lt_log2_self.le Nat.lt_log2_self
      _ = 2 ^ ((n / d).log2 + 1 + (d.log2 + 1)) := by rw [← pow_add, add_comm]
  have bits := (Nat.log2_lt (by omega)).mpr lt
  omega

/-- A quotient has 53 bits, or its exponent is the least. -/
theorem quotientExponent_le_target {m m' k : ℕ} {e e' : ℤ} (h : Canonical m e) (pos : 0 < m)
    (pos' : 0 < m') (shift : e - e' - quotientExponent m e m' e' = k) :
    quotientExponent m e m' e' ≤ target ((m <<< k) / m') (quotientExponent m e m' e') := by
  have short : m.log2 ≤ 52 := Nat.le_of_lt_succ ((Nat.log2_lt pos.ne').mpr h.lt)
  have bits := log2_shiftLeft pos k
  unfold target
  rcases Nat.lt_or_ge (m <<< k) m' with small | large
  · -- Without a whole quotient there is no exponent above the least one.
    have fewer : (m <<< k).log2 ≤ m'.log2 := (Nat.le_log2 pos'.ne').mpr
      ((Nat.log2_self_le (shiftLeft_pos pos k).ne').trans small.le)
    rw [bits] at fewer
    unfold quotientExponent at shift ⊢
    omega
  · have quotientBits := log2_le_log2_div pos' large
    rw [bits] at quotientBits
    unfold quotientExponent at shift ⊢
    omega

theorem div_finite {s s' : Sign} {m m' : ℕ} {e e' : ℤ} {pos : 0 < m} {pos' : 0 < m'} :
    UnpackedFloat.div binary64 (.finite s m e pos) (.finite s' m' e' pos') =
      roundWithAccuracy binary64 (s / s') (divCore binary64 m e m' e').1
        (divCore binary64 m e m' e').2.1 (divCore binary64 m e m' e').2.2 := rfl

theorem dyadic_div {m m' k : ℕ} {e e' q : ℤ} (shift : e - e' - q = k) :
    dyadic m e / dyadic m' e' = ((m <<< k : ℕ) : ℝ) / m' * 2 ^ q := by
  have whole : e = q + k + e' := by omega
  have two : (2 : ℝ) ^ e' ≠ 0 := (two_zpow_pos e').ne'
  rw [dyadic, dyadic, whole, zpow_add₀ two_ne_zero, zpow_add₀ two_ne_zero, ← mul_assoc,
    mul_div_mul_right _ _ two, Nat.shiftLeft_eq]
  push_cast
  rw [zpow_natCast]
  ring

/-- A quotient is a nearest number. -/
theorem rounded_div (hx : x.isFinite = true) (hy : 0 < magnitude (unpacked y)) :
    Rounded (magnitude (unpacked x) / magnitude (unpacked y)) (unpacked (x / y)) := by
  obtain ⟨s, m, e, canonical, -, eq⟩ := parts_of_isFinite hx
  obtain ⟨s', m', e', pos', eq'⟩ : ∃ s' m' e' pos', unpacked y = .finite s' m' e' pos' := by
    cases h : unpacked y with
    | finite s' m' e' pos' => exact ⟨s', m', e', pos', rfl⟩
    | notANumber | infinity | zero =>
      rw [h] at hy
      exact absurd hy (lt_irrefl 0)
  rw [unpacked_div, eq, eq', magnitude_ofParts]
  show Rounded (dyadic m e / dyadic m' e') _
  rcases Nat.eq_zero_or_pos m with rfl | pos
  · rw [dyadic_zero, zero_div, ofParts_zero]
    exact rounded_zero (s / s')
  · obtain ⟨k, shift⟩ : ∃ k : ℕ, e - e' - quotientExponent m e m' e' = k :=
      Int.eq_ofNat_of_zero_le (by unfold quotientExponent; omega)
    have bits : (e - e' - quotientExponent m e m' e').toNat = k := by omega
    rw [ofParts_of_pos s pos, div_finite, divCore_eq, bits, dyadic_div shift]
    exact rounded_roundWithAccuracy (quotientExponent_le_target canonical pos pos' shift)
      (holds_div _ pos') _

end Concordance.Binary64
