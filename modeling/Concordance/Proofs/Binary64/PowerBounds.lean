import Concordance.Proofs.Binary64.Order
import Concordance.Proofs.Binary64.SumQuotient

/-!
# Bounds that are powers of two

A positive number between two powers of two gives positive numbers between powers of two: the
exponents of the bounds are added for a product, subtracted for a quotient and halved for a
root. For a sum they do not grow with the number of its terms. As soon as the sum is so great
that a term is less than half of the spacing, adding it changes nothing.

* `Within`: a positive number between two powers of two.
* `Rounded.within`: rounding does not pass the bounds.
* `within_ofNat`, `Within.mul`, `Within.sqrt`, `Within.div`: conversions and operations.
* `within_foldl`, `within_orderedSum`: sums of any number of terms.
-/

namespace Concordance.Binary64

open Float.Model Float.Model.UnpackedFloat

/-- The number is positive, and it lies between the powers of two with the exponents `l` and
`k`. -/
def Within (l k : ℤ) (x : Float) : Prop :=
  ∃ m e pos, unpacked x = .finite .positive m e pos ∧ dyadic 1 l ≤ dyadic m e ∧
    dyadic m e ≤ dyadic 1 k

/-- The exponents are in the range of the format. -/
structure Exponents (l k : ℤ) : Prop where
  least : -1074 ≤ l
  le : l ≤ k
  most : k ≤ 1023

section

variable {x y : Float} {l k l' k' : ℤ}

namespace Within

theorem nonneg (h : Within l k x) : Nonneg (unpacked x) := by
  obtain ⟨m, e, pos, eq, -⟩ := h
  rw [eq]
  rfl

theorem isFinite (h : Within l k x) : x.isFinite = true := by
  obtain ⟨m, e, pos, eq, -⟩ := h
  show (unpacked x).isFinite = true
  rw [eq]
  rfl

theorem le_magnitude (h : Within l k x) : dyadic 1 l ≤ magnitude (unpacked x) := by
  obtain ⟨m, e, pos, eq, lower, -⟩ := h
  rw [eq]
  exact lower

theorem magnitude_le (h : Within l k x) : magnitude (unpacked x) ≤ dyadic 1 k := by
  obtain ⟨m, e, pos, eq, -, upper⟩ := h
  rw [eq]
  exact upper

theorem magnitude_pos (h : Within l k x) : 0 < magnitude (unpacked x) :=
  (dyadic_pos one_pos l).trans_le h.le_magnitude

/-- It is greater than zero. -/
theorem zero_lt (h : Within l k x) : 0.0 < x := by
  obtain ⟨m, e, pos, eq, -⟩ := h
  rw [lt_iff, eq]
  rfl

theorem ne_zero (h : Within l k x) : (x == 0.0) = false := by
  obtain ⟨m, e, pos, eq, -⟩ := h
  rw [← Bool.not_eq_true, beq_iff, eq]
  nofun

end Within

/-! ## Rounding -/

theorem representable_dyadic_one {e : ℤ} (h : -1074 ≤ e) : Representable (dyadic 1 e) :=
  representable_of_le (by decide) h

/-- What rounds to numbers between the bounds only is rounded to a finite number. -/
theorem Rounded.within_of_nearest {z : ℝ} (h : Rounded z (unpacked x))
    (nonneg : Nonneg (unpacked x)) (exponents : Exponents l k)
    (lower : ∀ v, Nearest z v → dyadic 1 l ≤ v) (upper : ∀ v, Nearest z v → v ≤ dyadic 1 k) :
    Within l k x := by
  have range : dyadic 1 k ≤ dyadic (2 ^ 53 - 1) 971 := by
    have most := exponents.most
    calc dyadic 1 k ≤ dyadic 1 (971 + (52 : ℕ)) := dyadic_mono 1 (by omega)
      _ = dyadic (1 * 2 ^ 52) 971 := dyadic_add 1 52 971
      _ ≤ dyadic (2 ^ 53 - 1) 971 := dyadic_le_dyadic (by decide) 971
  obtain ⟨m, e, pos, eq, nearest⟩ := h.eq_finite nonneg lower
    (fun v best => (upper v best).trans range) (by decide) le_rfl
  exact ⟨m, e, pos, eq, lower _ nearest, upper _ nearest⟩

/-- Rounding does not pass the bounds. -/
theorem Rounded.within {z : ℝ} (h : Rounded z (unpacked x)) (nonneg : Nonneg (unpacked x))
    (exponents : Exponents l k) (lower : dyadic 1 l ≤ z) (upper : z ≤ dyadic 1 k) :
    Within l k x := by
  have least := representable_dyadic_one exponents.least
  have most := representable_dyadic_one (exponents.least.trans exponents.le)
  exact h.within_of_nearest nonneg exponents (fun v best => best.le_of_le least lower)
    fun v best => best.ge_of_ge most upper

/-! ## Operations -/

theorem dyadic_one_mul (e e' : ℤ) : dyadic 1 e * dyadic 1 e' = dyadic 1 (e + e') :=
  dyadic_mul 1 1 e e'

theorem dyadic_one_div (e e' : ℤ) : dyadic 1 e / dyadic 1 e' = dyadic 1 (e - e') := by
  rw [div_eq_iff (dyadic_pos one_pos e').ne', dyadic_one_mul, sub_add_cancel]

/-- A natural number from one to a power of two. -/
theorem within_ofNat {n b : ℕ} (pos : 0 < n) (le : n ≤ 2 ^ b) (hb : b ≤ 1023) :
    Within 0 b (Float.ofNat n) := by
  refine (rounded_ofNat n).within (unsigned_ofNat n).nonneg ⟨by decide, by omega, by omega⟩ ?_ ?_
  · rw [dyadic_zero_right]
    exact_mod_cast pos
  · rw [dyadic, Nat.cast_one, one_mul, zpow_natCast]
    exact_mod_cast le

theorem Within.mul (hx : Within l k x) (hy : Within l' k' y)
    (exponents : Exponents (l + l') (k + k')) : Within (l + l') (k + k') (x * y) := by
  refine (rounded_mul hx.isFinite hy.isFinite).within
    (nonneg_mul hx.nonneg hy.nonneg hx.isFinite hy.isFinite) exponents ?_ ?_
  · rw [← dyadic_one_mul]
    exact mul_le_mul hx.le_magnitude hy.le_magnitude (dyadic_nonneg 1 l') hx.magnitude_pos.le
  · rw [← dyadic_one_mul]
    exact mul_le_mul hx.magnitude_le hy.magnitude_le hy.magnitude_pos.le (dyadic_nonneg 1 k)

theorem Within.sqrt (h : Within (l + l) (k + k) x) (exponents : Exponents l k) :
    Within l k x.sqrt := by
  have nonneg := nonneg_sqrt h.nonneg
  obtain ⟨m, e, pos, eq, lower, upper⟩ := h
  rw [← dyadic_one_mul, ← pow_two] at lower upper
  refine (rounded_sqrt (canonical_of_finite eq).1 pos eq).within nonneg exponents ?_ ?_
  · exact Real.le_sqrt_of_sq_le lower
  · exact (Real.sqrt_le_left (dyadic_nonneg 1 k)).mpr upper

theorem Within.div (hx : Within l k x) (hy : Within l' k' y)
    (exponents : Exponents (l - k') (k - l')) : Within (l - k') (k - l') (x / y) := by
  have nonneg : Nonneg (unpacked (x / y)) := by
    obtain ⟨m, e, pos, eq, -⟩ := hy
    exact nonneg_div hx.nonneg eq
  refine (rounded_div hx.isFinite hy.magnitude_pos).within nonneg exponents ?_ ?_
  · rw [← dyadic_one_div]
    exact div_le_div₀ hx.magnitude_pos.le hx.le_magnitude hy.magnitude_pos hy.magnitude_le
  · rw [← dyadic_one_div]
    exact div_le_div₀ (dyadic_nonneg 1 k) hx.magnitude_le (dyadic_pos one_pos l') hy.le_magnitude

/-! ## Sums -/

/-- A term is added to nothing. -/
theorem within_zero_add {s : Sign} (hx : unpacked x = .zero s) (hy : Within l k y)
    (exponents : Exponents l k) : Within l k (x + y) := by
  have nonneg : Nonneg (unpacked x) := by
    rw [hx]
    trivial
  have finite : x.isFinite = true := by
    show (unpacked x).isFinite = true
    rw [hx]
    rfl
  have none : magnitude (unpacked x) = 0 := by
    rw [hx]
    rfl
  have sum := rounded_add nonneg hy.nonneg finite hy.isFinite
  rw [none, zero_add] at sum
  exact sum.within (nonneg_add nonneg hy.nonneg) exponents hy.le_magnitude hy.magnitude_le

/-- Next to `2 ^ 54` times its bound, a term is less than half of the spacing. -/
theorem Within.add (hx : Within l (k + 54) x) (hy : Within l k y) (exponents : Exponents l (k + 54))
    (le : l ≤ k) : Within l (k + 54) (x + y) := by
  have least := exponents.least
  have sum : magnitude (unpacked x) + magnitude (unpacked y) < dyadic (2 ^ 52 * 2 + 1) (k + 1) := by
    calc magnitude (unpacked x) + magnitude (unpacked y) ≤ dyadic 1 (k + 54) + dyadic 1 k :=
          add_le_add hx.magnitude_le hy.magnitude_le
      _ < dyadic 1 (k + 54) + dyadic 1 (k + 1) := by
          rw [dyadic_succ 1 k]
          exact add_lt_add_right (dyadic_lt_dyadic (by decide) k) _
      _ = dyadic (1 * 2 ^ 53) (k + 1) + dyadic 1 (k + 1) := by
          rw [← dyadic_add, add_assoc]
          rfl
      _ = dyadic (2 ^ 52 * 2 + 1) (k + 1) := dyadic_add_dyadic _ _ _
  have round := rounded_add hx.nonneg hy.nonneg hx.isFinite hy.isFinite
  refine round.within_of_nearest (nonneg_add hx.nonneg hy.nonneg) exponents (fun v best => ?_)
    fun v best => ?_
  · refine best.le_of_le (representable_dyadic_one least) ?_
    exact hx.le_magnitude.trans (le_add_of_nonneg_right hy.magnitude_pos.le)
  · have below := best.le_of_lt_middle (by decide) (by decide) (by omega) sum
    calc v ≤ dyadic (2 ^ 52) (k + 1 + 1) := below
      _ = dyadic (1 * 2 ^ 52) (k + 2) := by rw [one_mul, add_assoc]; rfl
      _ = dyadic 1 (k + 54) := by rw [← dyadic_add, add_assoc]; rfl

end

section

variable {terms : List Float} {l k : ℤ}

theorem within_foldl_of_within {x : Float} (hx : Within l (k + 54) x)
    (h : ∀ y ∈ terms, Within l k y) (exponents : Exponents l (k + 54)) (le : l ≤ k) :
    Within l (k + 54) (terms.foldl (· + ·) x) := by
  induction terms generalizing x with
  | nil => exact hx
  | cons y rest ih =>
    obtain ⟨own, others⟩ := List.forall_mem_cons.mp h
    exact ih (hx.add own exponents le) others

/-- A sum that starts from nothing stays within bounds, however many terms it has. -/
theorem within_foldl {zero : Float} {s : Sign} (start : unpacked zero = .zero s) (ne : terms ≠ [])
    (h : ∀ y ∈ terms, Within l k y) (exponents : Exponents l (k + 54)) (le : l ≤ k) :
    Within l (k + 54) (terms.foldl (· + ·) zero) := by
  cases terms with
  | nil => exact absurd rfl ne
  | cons y rest =>
    obtain ⟨own, others⟩ := List.forall_mem_cons.mp h
    obtain ⟨least, -, most⟩ := exponents
    obtain ⟨m, e, pos, eq, lower, upper⟩ := within_zero_add start own ⟨least, le, by omega⟩
    have first : Within l (k + 54) (zero + y) :=
      ⟨m, e, pos, eq, lower, upper.trans (dyadic_mono 1 (by omega))⟩
    rw [List.foldl_cons]
    exact within_foldl_of_within first others ⟨least, by omega, most⟩ le

/-- So does a sum of terms that are put in order. -/
theorem within_orderedSum (ne : terms ≠ []) (h : ∀ y ∈ terms, Within l k y)
    (exponents : Exponents l (k + 54)) (le : l ≤ k) : Within l (k + 54) (orderedSum terms) := by
  have some : terms.mergeSort totalLE ≠ [] := by
    rw [← List.length_pos_iff, List.length_mergeSort]
    exact List.length_pos_iff.mpr ne
  have start : unpacked (-0.0) = .zero .negative := rfl
  exact within_foldl start some (fun y mem => h y (List.mem_mergeSort.mp mem)) exponents le

end

end Concordance.Binary64
