import Concordance.Proofs.Binary64.Range

/-!
# Natural numbers in floating point

A natural number becomes a nearest number of the format: itself if 53 bits hold it, a finite
number if it is at most `2 ^ 1023`, and never one with a sign.

* `rounded_round`, `rounded_toFloat`: rounding a mantissa that may be short.
* `rounded_ofNat`, `unsigned_ofNat`: what a natural number becomes.
* `exact_ofNat`, `isFinite_ofNat`: small ones are kept as they are, large ones stay finite.
-/

namespace Concordance.Binary64

open Float.Model Float.Model.UnpackedFloat Float.Model.Format

/-- What can be written is nearest to nothing but itself. -/
theorem Nearest.eq_of_representable {x v : ℝ} (h : Nearest x v) (hx : Representable x) : v = x := by
  have best := h.abs_sub_le x hx
  rw [sub_self, abs_zero] at best
  have gap := abs_nonpos_iff.mp best
  linarith

theorem dyadic_zero_right (n : ℕ) : dyadic n 0 = n := by simp [dyadic]

theorem representable_natCast {n : ℕ} (le : n ≤ 2 ^ 53) : Representable n := by
  rw [← dyadic_zero_right]
  exact representable_of_le le (by omega)

/-! ## Short mantissas -/

theorem shiftLeft_pos {m : ℕ} (pos : 0 < m) (k : ℕ) : 0 < m <<< k := by
  rw [Nat.shiftLeft_eq]
  exact Nat.mul_pos pos (Nat.two_pow_pos k)

theorem log2_shiftLeft {m : ℕ} (pos : 0 < m) (k : ℕ) : (m <<< k).log2 = m.log2 + k := by
  induction k with
  | zero => rfl
  | succ k ih =>
    rw [Nat.shiftLeft_succ, Nat.log2_two_mul (shiftLeft_pos pos k).ne', ih]
    omega

/-- A shift to the left changes the bits and the exponent alike. -/
theorem target_shiftLeft {m : ℕ} (pos : 0 < m) (k : ℕ) (e : ℤ) :
    target (m <<< k) (e - k) = target m e := by
  have bits := log2_shiftLeft pos k
  unfold target
  omega

theorem dyadic_shiftLeft (m k : ℕ) (e : ℤ) : dyadic (m <<< k) (e - k) = dyadic m e := by
  rw [Nat.shiftLeft_eq, ← dyadic_add, sub_add_cancel]

/-- A number that is shifted to the left and then rounded becomes a nearest one. -/
theorem rounded_shiftLeft {m k : ℕ} {e : ℤ} (pos : 0 < m) (reach : e - k ≤ target m e) (s : Sign) :
    Rounded (dyadic m e)
      (Float.Model.pack (roundWithAccuracy binary64 s (m <<< k) (e - k) .exact)).unpack := by
  rw [← target_shiftLeft pos k e] at reach
  rw [← dyadic_shiftLeft m k e, dyadic]
  exact rounded_roundWithAccuracy reach (holds_exact _) s

/-- A mantissa of few bits is shifted to the left before it is rounded. -/
theorem round_eq (s : Sign) {m k : ℕ} {e : ℤ} (shift : (e - target m e).toNat = k) :
    UnpackedFloat.round binary64 s m e =
      roundWithAccuracy binary64 s (m <<< k) (e - k) .exact := by
  subst shift
  rfl

theorem rounded_round {m : ℕ} (pos : 0 < m) (e : ℤ) (s : Sign) :
    Rounded (dyadic m e) (Float.Model.pack (UnpackedFloat.round binary64 s m e)).unpack := by
  obtain ⟨k, shift⟩ : ∃ k, (e - target m e).toNat = k := ⟨_, rfl⟩
  rw [round_eq s shift]
  exact rounded_shiftLeft pos (by omega) s

/-! ## Words and natural numbers -/

theorem normalize_natCast {n : ℕ} (pos : 0 < n) (e : ℤ) :
    UnpackedFloat.normalize binary64 n e .positive =
      UnpackedFloat.round binary64 .positive n e := by
  have gt : compare (n : ℤ) 0 = .gt := compare_gt_iff_gt.mpr (by omega)
  rw [UnpackedFloat.normalize, gt]
  rfl

theorem unpacked_toFloat (n : UInt64) : unpacked n.toFloat =
    (Float.Model.pack (UnpackedFloat.normalize binary64 n.toNat 0 .positive)).unpack := rfl

/-- A machine word becomes a nearest number. -/
theorem rounded_toFloat (n : UInt64) : Rounded n.toNat (unpacked n.toFloat) := by
  rw [unpacked_toFloat]
  rcases Nat.eq_zero_or_pos n.toNat with zero | pos
  · rw [zero, Nat.cast_zero]
    exact rounded_zero .positive
  · rw [← dyadic_zero_right, normalize_natCast pos]
    exact rounded_round pos 0 .positive

theorem unsigned_toFloat (n : UInt64) : Unsigned (unpacked n.toFloat) := by
  rw [unpacked_toFloat]
  refine unsigned_repack ?_
  rcases Nat.eq_zero_or_pos n.toNat with zero | pos
  · rw [zero]
    rfl
  · exact unsigned_normalize (by omega) 0 .positive

theorem ofNat_of_lt {n : ℕ} (lt : n < 2 ^ 53) :
    Float.ofNat n = n.toUInt64.toFloat * Float.ofBits 0x3FF0000000000000 := by
  show Float.ofScientific n false 0 = _
  rw [Float.ofScientific, dif_pos ⟨lt, by omega⟩]
  rfl

theorem ofNat_of_ge {n : ℕ} (ge : 2 ^ 53 ≤ n) :
    Float.ofNat n = Float.ofModel (Float.Model.ofScientific n 0) := by
  show Float.ofScientific n false 0 = _
  rw [Float.ofScientific, dif_neg (by omega)]
  rfl

theorem ofScientific_zero {n : ℕ} (pos : 0 < n) : UnpackedFloat.ofScientific binary64 n 0 =
    roundWithAccuracy binary64 .positive (n <<< 53) (0 - (53 : ℕ)) .exact := by
  have range : (0 : ℤ) < 2 ^ binary64.exponentBits := by decide
  rw [UnpackedFloat.ofScientific, dif_neg pos.ne', if_neg (by omega), if_neg (by omega),
    if_pos le_rfl, ← Nat.mul_one (n <<< 53)]
  rfl

theorem unpacked_ofNat_of_ge {n : ℕ} (ge : 2 ^ 53 ≤ n) : unpacked (Float.ofNat n) =
    (Float.Model.pack
      (roundWithAccuracy binary64 .positive (n <<< 53) (0 - (53 : ℕ)) .exact)).unpack := by
  rw [ofNat_of_ge ge, ← ofScientific_zero (by omega)]
  rfl

/-! ## Numbers that stay finite -/

section

variable {x : ℝ} {u : UnpackedFloat}

/-- A number in the range of the format does not become infinite. -/
theorem Rounded.eq_ofParts (h : Rounded x u) (le : x ≤ dyadic (2 ^ 53 - 1) 971) :
    ∃ s m e, Nearest x (dyadic m e) ∧ u = ofParts s m e := by
  obtain ⟨s, m, e, canonical, nearest, eq⟩ := h
  have below : dyadic m e ≤ dyadic (2 ^ 53 - 1) 971 :=
    nearest.ge_of_ge (representable_of_le (by decide) (by decide)) le
  have fits : e ≤ 971 := canonical.exponent_le (by decide) below
  rw [if_pos fits] at eq
  exact ⟨s, m, e, nearest, eq⟩

theorem isFinite_ofParts (s : Sign) (m : ℕ) (e : ℤ) : (ofParts s m e).isFinite = true := by
  rcases Nat.eq_zero_or_pos m with rfl | pos
  · rw [ofParts_zero]
    rfl
  · rw [ofParts_of_pos s pos]
    rfl

theorem Rounded.isFinite (h : Rounded x u) (le : x ≤ dyadic (2 ^ 53 - 1) 971) :
    u.isFinite = true := by
  obtain ⟨s, m, e, -, rfl⟩ := h.eq_ofParts le
  exact isFinite_ofParts s m e

/-- What can be written already is kept as it is. -/
theorem Rounded.magnitude_eq (h : Rounded x u) (le : x ≤ dyadic (2 ^ 53 - 1) 971)
    (written : Representable x) : magnitude u = x := by
  obtain ⟨s, m, e, nearest, rfl⟩ := h.eq_ofParts le
  rw [magnitude_ofParts]
  exact nearest.eq_of_representable written

end

theorem natCast_le_range {n : ℕ} (le : n ≤ 2 ^ 1023) : (n : ℝ) ≤ dyadic (2 ^ 53 - 1) 971 := by
  calc (n : ℝ) ≤ (2 ^ 1023 : ℕ) := by exact_mod_cast le
    _ = dyadic (2 ^ 52) 971 := by
      rw [dyadic, Nat.cast_pow, Nat.cast_pow, Nat.cast_ofNat, ← zpow_natCast, ← zpow_natCast,
        ← zpow_add₀ two_ne_zero]
      norm_num
    _ ≤ dyadic (2 ^ 53 - 1) 971 := dyadic_le_dyadic (by decide) 971

/-! ## Natural numbers -/

theorem toFloat_exact {n : ℕ} (lt : n < 2 ^ 53) :
    n.toUInt64.toFloat.isFinite = true ∧ magnitude (unpacked n.toUInt64.toFloat) = n := by
  have small : n.toUInt64.toNat = n := by
    show n % 2 ^ 64 = n
    omega
  have rounded := rounded_toFloat n.toUInt64
  rw [small] at rounded
  have range : (n : ℝ) ≤ dyadic (2 ^ 53 - 1) 971 := natCast_le_range (by omega)
  exact ⟨rounded.isFinite range, rounded.magnitude_eq range (representable_natCast lt.le)⟩

theorem unpacked_one : unpacked (Float.ofBits 0x3FF0000000000000) =
    ofParts .positive (2 ^ 52) (-52) := by rfl

/-- A natural number becomes a nearest number. -/
theorem rounded_ofNat (n : ℕ) : Rounded n (unpacked (Float.ofNat n)) := by
  rcases Nat.lt_or_ge n (2 ^ 53) with lt | ge
  · obtain ⟨finite, value⟩ := toFloat_exact lt
    have one : magnitude (unpacked (Float.ofBits 0x3FF0000000000000)) = 1 := by
      rw [unpacked_one, magnitude_ofParts]
      norm_num [dyadic]
    have product := rounded_mul finite (y := Float.ofBits 0x3FF0000000000000) (by decide)
    rw [value, one, mul_one] at product
    rw [ofNat_of_lt lt]
    exact product
  · have reach : (0 : ℤ) - (53 : ℕ) ≤ target n 0 := by
      unfold target
      omega
    rw [unpacked_ofNat_of_ge ge, ← dyadic_zero_right]
    exact rounded_shiftLeft (by omega) reach .positive

/-- It gets no sign. -/
theorem unsigned_ofNat (n : ℕ) : Unsigned (unpacked (Float.ofNat n)) := by
  rcases Nat.lt_or_ge n (2 ^ 53) with lt | ge
  · have one : Unsigned (unpacked (Float.ofBits 0x3FF0000000000000)) := by
      rw [unpacked_one]
      exact unsigned_ofParts _ _
    rw [ofNat_of_lt lt]
    exact unsigned_mul (unsigned_toFloat _) one (toFloat_exact lt).1 (by decide)
  · obtain ⟨m, e, parts⟩ := exists_roundWithAccuracy .positive (n <<< 53) (0 - (53 : ℕ)) .exact
    rw [unpacked_ofNat_of_ge ge, parts]
    exact unsigned_repack (unsigned_ofParts m e)

/-- It is kept as it is if 53 bits hold it. -/
theorem exact_ofNat {n : ℕ} (le : n ≤ 2 ^ 53) : magnitude (unpacked (Float.ofNat n)) = n :=
  (rounded_ofNat n).magnitude_eq (natCast_le_range (by omega)) (representable_natCast le)

theorem isFinite_ofNat {n : ℕ} (le : n ≤ 2 ^ 1023) : (Float.ofNat n).isFinite = true :=
  (rounded_ofNat n).isFinite (natCast_le_range le)

end Concordance.Binary64
