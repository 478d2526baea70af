import Mathlib.Data.Real.Basic
import Mathlib.Tactic.Linarith
import Mathlib.Tactic.NormNum
import Mathlib.Tactic.Ring

/-!
# Nearest numbers of 53 bits

The numbers that a mantissa of 53 bits and a power of two can write are spaced evenly
between one power of two and the next. To round is to go to one that is nearest. Here
the power has a least value, as it does in the format, and no greatest one.

* `dyadic`: what a mantissa and an exponent write.
* `Representable`: the numbers that can be written.
* `Nearest`: one of those nearest to a number.
* `nearest_of_scaled`: in units of the spacing it is a nearest integer.
* `Nearest.le_of_le`, `Nearest.ge_of_ge`: rounding does not pass a number that can be
  written.
-/

namespace Concordance.Binary64

/-- The number that a mantissa and an exponent write. -/
noncomputable def dyadic (m : ℕ) (e : ℤ) : ℝ := m * 2 ^ e

theorem two_zpow_pos (e : ℤ) : (0 : ℝ) < 2 ^ e := zpow_pos (by norm_num) e

@[simp] theorem dyadic_zero (e : ℤ) : dyadic 0 e = 0 := by
  rw [dyadic, Nat.cast_zero, zero_mul]

theorem dyadic_nonneg (m : ℕ) (e : ℤ) : 0 ≤ dyadic m e :=
  mul_nonneg (Nat.cast_nonneg m) (two_zpow_pos e).le

theorem dyadic_pos {m : ℕ} (pos : 0 < m) (e : ℤ) : 0 < dyadic m e :=
  mul_pos (Nat.cast_pos.mpr pos) (two_zpow_pos e)

theorem dyadic_le_dyadic {m n : ℕ} (le : m ≤ n) (e : ℤ) : dyadic m e ≤ dyadic n e :=
  mul_le_mul_of_nonneg_right (Nat.cast_le.mpr le) (two_zpow_pos e).le

theorem dyadic_lt_dyadic {m n : ℕ} (lt : m < n) (e : ℤ) : dyadic m e < dyadic n e :=
  mul_lt_mul_of_pos_right (Nat.cast_lt.mpr lt) (two_zpow_pos e)

theorem dyadic_mono (m : ℕ) {e e' : ℤ} (le : e ≤ e') : dyadic m e ≤ dyadic m e' :=
  mul_le_mul_of_nonneg_left (zpow_le_zpow_right₀ (by norm_num) le) (Nat.cast_nonneg m)

/-- A power of two goes over from the exponent to the mantissa. -/
theorem dyadic_add (m k : ℕ) (e : ℤ) : dyadic m (e + k) = dyadic (m * 2 ^ k) e := by
  rw [dyadic, dyadic, zpow_add₀ two_ne_zero, zpow_natCast]
  push_cast
  ring

theorem dyadic_succ (m : ℕ) (e : ℤ) : dyadic m (e + 1) = dyadic (m * 2) e := dyadic_add m 1 e

theorem dyadic_mul (m m' : ℕ) (e e' : ℤ) : dyadic m e * dyadic m' e' = dyadic (m * m') (e + e') := by
  rw [dyadic, dyadic, dyadic, zpow_add₀ two_ne_zero]
  push_cast
  ring

/-- A number that a mantissa of 53 bits and a power of two can write. -/
def Representable (x : ℝ) : Prop := ∃ (m : ℕ) (e : ℤ), m < 2 ^ 53 ∧ -1074 ≤ e ∧ x = dyadic m e

/-- The number `v` can be written, and no other such number is nearer to `x`. -/
structure Nearest (x v : ℝ) : Prop where
  representable : Representable v
  abs_sub_le : ∀ c, Representable c → |x - v| ≤ |x - c|

section

variable {x v c : ℝ}

theorem Nearest.le_of_le (h : Nearest x v) (hc : Representable c) (le : c ≤ x) : c ≤ v := by
  by_contra lt
  have := h.abs_sub_le c hc
  rw [abs_of_nonneg (by linarith), abs_of_nonneg (by linarith)] at this
  linarith

theorem Nearest.ge_of_ge (h : Nearest x v) (hc : Representable c) (ge : x ≤ c) : v ≤ c := by
  by_contra lt
  have := h.abs_sub_le c hc
  rw [abs_of_nonpos (by linarith), abs_of_nonpos (by linarith)] at this
  linarith

end

/-! ## The spacing -/

/-- The mantissa may be `2 ^ 53` too, since that is a power of two. -/
theorem representable_of_le {m : ℕ} {e : ℤ} (le : m ≤ 2 ^ 53) (he : -1074 ≤ e) :
    Representable (dyadic m e) := by
  rcases Nat.lt_or_eq_of_le le with lt | carry
  · exact ⟨m, e, lt, he, rfl⟩
  · refine ⟨2 ^ 52, e + 1, by decide, by omega, ?_⟩
    rw [dyadic_succ]
    congr 1

/-- What can be written is a multiple of the spacing `2 ^ e`, or it is less than `2 ^ 52`
times the spacing. -/
theorem Representable.multiple_or_lt {c : ℝ} (h : Representable c) (e : ℤ) :
    (∃ n : ℕ, c = dyadic n e) ∨ e ≠ -1074 ∧ c < dyadic (2 ^ 52) e := by
  obtain ⟨m, e', hm, he', rfl⟩ := h
  rcases le_or_gt e e' with le | gt
  · obtain ⟨k, rfl⟩ := Int.le.dest le
    exact .inl ⟨m * 2 ^ k, dyadic_add m k e⟩
  · refine .inr ⟨by omega, ?_⟩
    calc dyadic m e' < dyadic (2 ^ 52 * 2) e' := dyadic_lt_dyadic hm e'
      _ = dyadic (2 ^ 52) (e' + 1) := (dyadic_succ (2 ^ 52) e').symm
      _ ≤ dyadic (2 ^ 52) e := dyadic_mono _ gt

/-- Nothing can be written between two neighbouring multiples of the spacing. -/
theorem Representable.le_or_ge {c : ℝ} (h : Representable c) {k : ℕ} (full : 2 ^ 52 ≤ k) (e : ℤ) :
    c ≤ dyadic k e ∨ dyadic (k + 1) e ≤ c := by
  rcases h.multiple_or_lt e with ⟨n, rfl⟩ | ⟨-, lt⟩
  · rcases le_or_gt n k with le | gt
    · exact .inl (dyadic_le_dyadic le e)
    · exact .inr (dyadic_le_dyadic gt e)
  · exact .inl (lt.le.trans (dyadic_le_dyadic full e))

/-- Below the middle of two neighbouring multiples a number is rounded down. -/
theorem Nearest.le_of_lt_middle {x v : ℝ} (h : Nearest x v) {k : ℕ} {e : ℤ} (full : 2 ^ 52 ≤ k)
    (le : k ≤ 2 ^ 53) (he : -1074 ≤ e + 1) (lt : x < dyadic (k * 2 + 1) e) :
    v ≤ dyadic k (e + 1) := by
  have lower : Representable (dyadic k (e + 1)) := representable_of_le le he
  have middle : 2 * dyadic (k * 2 + 1) e = dyadic k (e + 1) + dyadic (k + 1) (e + 1) := by
    rw [dyadic_succ, dyadic_succ, dyadic, dyadic, dyadic]
    push_cast
    ring
  rcases le_total x (dyadic k (e + 1)) with below | above
  · exact h.ge_of_ge lower below
  · refine (h.representable.le_or_ge full (e + 1)).resolve_right fun far => ?_
    have best := h.abs_sub_le _ lower
    rw [abs_of_nonneg (a := x - dyadic k (e + 1)) (by linarith)] at best
    have := neg_abs_le (x - v)
    linarith

/-- An integer within one half is nearest of all integers. -/
theorem abs_sub_le_of_le_half {y : ℝ} {r : ℕ} (near : |y - r| ≤ 1 / 2) (n : ℕ) :
    |y - r| ≤ |y - n| := by
  rcases eq_or_ne n r with rfl | ne
  · exact le_rfl
  · have step : (1 : ℝ) ≤ |(n : ℝ) - r| := by
      exact_mod_cast Int.one_le_abs (show (n : ℤ) - r ≠ 0 by omega)
    have triangle := abs_sub_le (n : ℝ) y r
    rw [abs_sub_comm (n : ℝ) y] at triangle
    linarith

/-- An integer within one half is on no other side of an integer. -/
theorem le_of_le_half {y : ℝ} {r n : ℕ} (near : |y - r| ≤ 1 / 2) (le : y ≤ n) : r ≤ n := by
  have := (abs_le.mp near).1
  have lt : (r : ℝ) < n + 1 := by linarith
  exact Nat.le_of_lt_succ (by exact_mod_cast lt)

theorem ge_of_le_half {y : ℝ} {r n : ℕ} (near : |y - r| ≤ 1 / 2) (ge : n ≤ y) : n ≤ r := by
  have := (abs_le.mp near).2
  have lt : (n : ℝ) < r + 1 := by linarith
  exact Nat.le_of_lt_succ (by exact_mod_cast lt)

/-- Between `2 ^ 52` and `2 ^ 53` times the spacing, and below that at the least spacing, a
nearest integer multiple of the spacing is nearest of all that can be written. -/
theorem nearest_of_scaled {y : ℝ} {e : ℤ} {r : ℕ} (he : -1074 ≤ e) (hr : r ≤ 2 ^ 53)
    (lower : e = -1074 ∨ 2 ^ 52 ≤ y) (near : |y - r| ≤ 1 / 2) :
    Nearest (y * 2 ^ e) (dyadic r e) := by
  have pos := two_zpow_pos e
  have scaled (n : ℕ) : |y * 2 ^ e - dyadic n e| = |y - n| * 2 ^ e := by
    rw [← abs_of_pos pos, ← abs_mul, abs_of_pos pos, sub_mul, dyadic]
  have best (n : ℕ) : |y * 2 ^ e - dyadic r e| ≤ |y * 2 ^ e - dyadic n e| := by
    rw [scaled, scaled]
    exact mul_le_mul_of_nonneg_right (abs_sub_le_of_le_half near n) pos.le
  refine ⟨representable_of_le hr he, fun c hc => ?_⟩
  rcases hc.multiple_or_lt e with ⟨n, rfl⟩ | ⟨ne, lt⟩
  · exact best n
  · -- The least multiple in range lies between `c` and the number.
    have from52 : ((2 ^ 52 : ℕ) : ℝ) ≤ y := by exact_mod_cast lower.resolve_left ne
    have le : dyadic (2 ^ 52) e ≤ y * 2 ^ e := mul_le_mul_of_nonneg_right from52 pos.le
    have first := best (2 ^ 52)
    rw [abs_of_nonneg (a := y * 2 ^ e - dyadic (2 ^ 52) e) (by linarith)] at first
    rw [abs_of_nonneg (a := y * 2 ^ e - c) (by linarith)]
    linarith

end Concordance.Binary64
