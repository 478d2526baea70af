import Concordance.Proofs.Binary64.Nearest

/-!
# Rounding to the format

A mantissa with two residual bits stands for a number: the round bit for a half, the
other bit for what lies between that and the next half. Shifts keep this meaning, so
that the mantissa rounded in the end is a nearest integer, and what is built from it is
a nearest number of 53 bits.

* `Holds`: what a mantissa with residual bits stands for.
* `Holds.shiftRight`, `Holds.abs_sub_le`: a shift halves it, rounding goes to a nearest
  integer.
* `Canonical`: the one way of writing a number that the format has.
* `exists_canonical_roundWithAccuracy`: what `roundWithAccuracy` gives.
-/

namespace Concordance.Binary64

open Float.Model Float.Model.UnpackedFloat Float.Model.Format

/-! ## Residual bits -/

/-- The mantissa and the residual bits stand for `y`. Counted in halves, the round bit is one,
and what is left is less than one. -/
def Holds (em : ExtendedMantissa) (y : ℝ) : Prop :=
  ∃ rest : ℝ, 0 ≤ rest ∧ rest < 1 ∧ (em.stickyBit = false ↔ rest = 0) ∧
    y + y = em.mantissa + em.mantissa + (if em.roundBit then 1 else 0) + rest

theorem holds_exact (m : ℕ) : Holds (.ofMantissaAndAccuracy m .exact) m := by
  refine ⟨0, le_rfl, one_pos, ⟨fun _ => rfl, fun _ => rfl⟩, ?_⟩
  simp [ExtendedMantissa.ofMantissaAndAccuracy]

theorem holds_below {m : ℕ} {y : ℝ} (lower : m < y) (upper : y < m + 1 / 2) :
    Holds (.ofMantissaAndAccuracy m (.inexact .lt)) y := by
  refine ⟨2 * (y - m), by linarith, by linarith, ⟨nofun, fun zero => ?_⟩, ?_⟩
  · linarith
  · simp only [ExtendedMantissa.ofMantissaAndAccuracy, Bool.false_eq_true, if_false]
    ring

theorem holds_above {m : ℕ} {y : ℝ} (lower : m + 1 / 2 < y) (upper : y < m + 1) :
    Holds (.ofMantissaAndAccuracy m (.inexact .gt)) y := by
  refine ⟨2 * (y - m) - 1, by linarith, by linarith, ⟨nofun, fun zero => ?_⟩, ?_⟩
  · linarith
  · simp only [ExtendedMantissa.ofMantissaAndAccuracy, if_true]
    ring

section

variable {em : ExtendedMantissa} {y : ℝ}

theorem Holds.mantissa_le (h : Holds em y) : (em.mantissa : ℝ) ≤ y := by
  obtain ⟨rest, nonneg, -, -, eq⟩ := h
  split at eq <;> linarith

theorem Holds.lt_mantissa_add_one (h : Holds em y) : y < em.mantissa + 1 := by
  obtain ⟨rest, -, small, -, eq⟩ := h
  split at eq <;> linarith

theorem Holds.shiftRightOne (h : Holds em y) : Holds em.shiftRightOne (y / 2) := by
  obtain ⟨m, roundBit, stickyBit⟩ := em
  obtain ⟨rest, nonneg, small, sticky, eq⟩ := h
  have split : (m : ℝ) = 2 * (m / 2 : ℕ) + (m % 2 : ℕ) := by
    exact_mod_cast (Nat.div_add_mod m 2).symm
  -- The old round bit and the old rest make up the new rest.
  refine ⟨((if roundBit then 1 else 0) + rest) / 2, ?_, ?_, ?_, ?_⟩
  · split <;> linarith
  · split <;> linarith
  · cases roundBit <;> simp_all [ExtendedMantissa.shiftRightOne]
    linarith
  · rcases Nat.mod_two_eq_zero_or_one m with even | odd
    · simp only [ExtendedMantissa.shiftRightOne, even, bne_self_eq_false, Bool.false_eq_true,
        if_false]
      rw [even, Nat.cast_zero] at split
      linarith
    · simp only [ExtendedMantissa.shiftRightOne, odd]
      rw [odd, Nat.cast_one] at split
      rw [if_pos (by decide)]
      linarith

theorem Holds.shiftRight (h : Holds em y) (n : ℕ) : Holds (em >>> n) (y / 2 ^ n) := by
  induction n with
  | zero =>
    rw [pow_zero, div_one]
    exact h
  | succ n ih =>
    rw [pow_succ, ← div_div]
    exact ih.shiftRightOne

/-- Rounding goes to a nearest integer. -/
theorem Holds.abs_sub_le (h : Holds em y) : |y - em.roundedMantissa| ≤ 1 / 2 := by
  obtain ⟨m, roundBit, stickyBit⟩ := em
  obtain ⟨rest, nonneg, small, sticky, eq⟩ := h
  rw [abs_le]
  cases roundBit with
  | false =>
    have down : ExtendedMantissa.roundedMantissa ⟨m, false, stickyBit⟩ = m := by
      cases stickyBit <;> rfl
    rw [if_neg Bool.false_ne_true] at eq
    rw [down]
    constructor <;> linarith
  | true =>
    rw [if_pos rfl] at eq
    cases stickyBit with
    | false =>
      -- Halfway, to the even neighbour.
      have even : ExtendedMantissa.roundedMantissa ⟨m, true, false⟩ = m + m % 2 := rfl
      have small : ((m % 2 : ℕ) : ℝ) ≤ 1 := by
        exact_mod_cast Nat.le_of_lt_succ (Nat.mod_lt m two_pos)
      have nonneg : (0 : ℝ) ≤ (m % 2 : ℕ) := Nat.cast_nonneg _
      rw [sticky.mp rfl] at eq
      rw [even, Nat.cast_add]
      constructor <;> linarith
    | true =>
      have up : ExtendedMantissa.roundedMantissa ⟨m, true, true⟩ = m + 1 := rfl
      rw [up, Nat.cast_add, Nat.cast_one]
      constructor <;> linarith

end

/-! ## The format -/

/-- The mantissa and the exponent are as the format has them: the mantissa has 53 bits, or
fewer at the least exponent. -/
structure Canonical (m : ℕ) (e : ℤ) : Prop where
  lt : m < 2 ^ 53
  least : -1074 ≤ e
  full : 2 ^ 52 ≤ m ∨ e = -1074

/-- The number without sign that `m` and `e` write, with a sign. -/
def ofParts (sign : Sign) (m : ℕ) (e : ℤ) : UnpackedFloat :=
  if h : m = 0 then .zero sign else .finite sign m e (Nat.pos_of_ne_zero h)

@[simp] theorem ofParts_zero (sign : Sign) (e : ℤ) : ofParts sign 0 e = .zero sign := rfl

theorem ofParts_of_pos (sign : Sign) {m : ℕ} (pos : 0 < m) (e : ℤ) :
    ofParts sign m e = .finite sign m e pos := dif_neg pos.ne'

/-- The exponent at which the number with this mantissa and exponent has 53 bits, or the
least one. -/
def target (m : ℕ) (e : ℤ) : ℤ := max (m.log2 + 1 + e - 53) (-1074)

theorem shiftToTargetExponent_eq (m : ℕ) (e : ℤ) (acc : Accuracy) :
    shiftToTargetExponent binary64 m e acc =
      (ExtendedMantissa.ofMantissaAndAccuracy m acc >>> (target m e - e).toNat,
        e + (target m e - e).toNat) := rfl

/-- What has 53 bits already stays. -/
theorem target_le_of_lt {m : ℕ} {e : ℤ} (hm : m < 2 ^ 53) (he : -1074 ≤ e) : target m e ≤ e := by
  have bits : m.log2 ≤ 52 := by
    rcases Nat.eq_zero_or_pos m with rfl | pos
    · decide
    · exact Nat.le_of_lt_succ ((Nat.log2_lt pos.ne').mpr hm)
  unfold target
  omega

/-- A mantissa of 53 bits and a carry is brought back into the format. -/
theorem shiftToTargetExponent_carry {m : ℕ} {e : ℤ} (le : m ≤ 2 ^ 53) (he : -1074 ≤ e)
    (full : 2 ^ 52 ≤ m ∨ e = -1074) :
    ∃ m' e', Canonical m' e' ∧ dyadic m' e' = dyadic m e ∧
      (shiftToTargetExponent binary64 m e .exact).1.mantissa = m' ∧
      (shiftToTargetExponent binary64 m e .exact).2 = e' := by
  rw [shiftToTargetExponent_eq]
  rcases Nat.lt_or_eq_of_le le with lt | rfl
  · have stay : (target m e - e).toNat = 0 := by
      have := target_le_of_lt lt he
      omega
    refine ⟨m, e, ⟨lt, he, full⟩, rfl, ?_, ?_⟩
    · rw [stay]
      rfl
    · rw [stay]
      exact Int.add_zero e
  · have shift : (target (2 ^ 53) e - e).toNat = 1 := by
      rw [target, Nat.log2_two_pow]
      omega
    refine ⟨2 ^ 52, e + 1, ⟨by decide, by omega, .inl le_rfl⟩, ?_, ?_, ?_⟩
    · rw [dyadic_succ]
      congr 1
    · rw [shift]
      rfl
    · rw [shift]
      rfl

/-- At the target exponent a number has 53 bits before the point, or fewer at the least one. -/
theorem scaled_bounds {m n : ℕ} {e : ℤ} {y : ℝ} (reach : e + n = target m e)
    (lower : m ≤ y) (upper : y < m + 1) :
    y / 2 ^ n < 2 ^ 53 ∧ (target m e = -1074 ∨ 2 ^ 52 ≤ y / 2 ^ n) := by
  have two : (0 : ℝ) < 2 ^ n := pow_pos two_pos n
  constructor
  · have bits : m.log2 + 1 ≤ 53 + n := by
      unfold target at reach
      omega
    have lt : m + 1 ≤ 2 ^ (53 + n) :=
      (Nat.lt_log2_self).trans_le (Nat.pow_le_pow_right two_pos bits)
    rw [div_lt_iff₀ two, ← pow_add]
    have : (m : ℝ) + 1 ≤ 2 ^ (53 + n) := by exact_mod_cast lt
    linarith
  · rcases eq_or_ne (target m e) (-1074) with eq | ne
    · exact .inl eq
    · have bits : 52 + n ≤ m.log2 := by
        unfold target at reach ne
        omega
      have pos : m ≠ 0 := by
        rintro rfl
        rw [Nat.log2_zero] at bits
        omega
      have ge : 2 ^ (52 + n) ≤ m :=
        (Nat.pow_le_pow_right two_pos bits).trans (Nat.log2_self_le pos)
      right
      rw [le_div_iff₀ two, ← pow_add]
      have : (2 : ℝ) ^ (52 + n) ≤ m := by exact_mod_cast ge
      linarith

/-- Rounding shifts, goes to an integer, and takes the carry back. -/
theorem roundWithAccuracy_eq (sign : Sign) {m n r : ℕ} {e : ℤ} {acc : Accuracy}
    (shift : (target m e - e).toNat = n)
    (rounded : (ExtendedMantissa.ofMantissaAndAccuracy m acc >>> n).roundedMantissa = r) :
    roundWithAccuracy binary64 sign m e acc =
      ofParts sign (shiftToTargetExponent binary64 r (e + n) .exact).1.mantissa
        (shiftToTargetExponent binary64 r (e + n) .exact).2 := by
  subst shift rounded
  rfl

/-- Rounding gives a nearest number, in the format. -/
theorem exists_canonical_roundWithAccuracy {m : ℕ} {e : ℤ} {acc : Accuracy} {y : ℝ}
    (le : e ≤ target m e) (holds : Holds (.ofMantissaAndAccuracy m acc) y) (sign : Sign) :
    ∃ m' e', Canonical m' e' ∧ Nearest (y * 2 ^ e) (dyadic m' e') ∧
      roundWithAccuracy binary64 sign m e acc = ofParts sign m' e' := by
  obtain ⟨n, reach⟩ := Int.le.dest le
  have shift : (target m e - e).toNat = n := by omega
  have mantissa : (ExtendedMantissa.ofMantissaAndAccuracy m acc).mantissa = m := by
    cases acc with
    | exact => rfl
    | inexact o => cases o <;> rfl
  have lower := holds.mantissa_le
  have upper := holds.lt_mantissa_add_one
  rw [mantissa] at lower upper
  obtain ⟨below, full⟩ := scaled_bounds reach lower upper
  have near := (holds.shiftRight n).abs_sub_le
  set r := (ExtendedMantissa.ofMantissaAndAccuracy m acc >>> n).roundedMantissa with hr
  have least : -1074 ≤ e + n := by
    rw [reach]
    exact le_max_right _ _
  have carry : r ≤ 2 ^ 53 := le_of_le_half near (by exact_mod_cast below.le)
  have full' : 2 ^ 52 ≤ r ∨ e + n = -1074 := by
    rw [reach]
    exact full.symm.imp_left fun ge => ge_of_le_half near (by exact_mod_cast ge)
  have unscale : y * 2 ^ e = y / 2 ^ n * 2 ^ (e + n) := by
    rw [zpow_add₀ two_ne_zero, zpow_natCast, mul_comm ((2 : ℝ) ^ e), ← mul_assoc,
      div_mul_cancel₀ _ (pow_ne_zero n two_ne_zero)]
  obtain ⟨m', e', canonical, value, final, exponent⟩ :=
    shiftToTargetExponent_carry carry least full'
  refine ⟨m', e', canonical, ?_, ?_⟩
  · rw [value, unscale]
    rw [← reach] at full
    exact nearest_of_scaled least carry full near
  · rw [roundWithAccuracy_eq sign shift hr.symm, final, exponent]

end Concordance.Binary64
