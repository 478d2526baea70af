import Concordance.Binary64.Sum
import Concordance.Proofs.Binary64.Arithmetic

/-!
# Numbers that are not negative

What is computed from numbers that are not negative is not negative, and it is a number
as long as no infinite value meets a zero or another infinite value in a product or a
quotient. Both zeros count as not negative.

* `Nonneg`: neither negative nor no number.
* `Unsigned`: no negative zero either. A sum that starts without sign gets none.
* `nonneg_add`, `nonneg_mul`, `nonneg_sqrt`, `nonneg_div`: what keeps it.
* `nonneg_orderedSum`, `isFinite_of_mem_orderedSum`: sums.
-/

namespace Concordance.Binary64

open Float.Model Float.Model.UnpackedFloat Float.Model.Format

/-- The value is a number, and it is a zero or has no sign. -/
def Nonneg : UnpackedFloat → Prop
  | .notANumber => False
  | .infinity s => s = .positive
  | .zero _ => True
  | .finite s _ _ _ => s = .positive

/-- It is infinite, a zero, or finite without sign. -/
theorem Nonneg.cases : ∀ {u : UnpackedFloat}, Nonneg u → u = .infinity .positive ∨
    (∃ s, u = .zero s) ∨ ∃ m e pos, u = .finite .positive m e pos
  | .infinity _, rfl => .inl rfl
  | .zero s, _ => .inr (.inl ⟨s, rfl⟩)
  | .finite _ m e pos, rfl => .inr (.inr ⟨m, e, pos, rfl⟩)

/-- The value is a number without sign. -/
def Unsigned : UnpackedFloat → Prop
  | .notANumber => False
  | .infinity s => s = .positive
  | .zero s => s = .positive
  | .finite s _ _ _ => s = .positive

theorem Unsigned.nonneg : ∀ {u : UnpackedFloat}, Unsigned u → Nonneg u
  | .infinity _, h => h
  | .zero _, _ => trivial
  | .finite .., h => h

/-- Only one of the two zeros has a sign. -/
theorem Nonneg.unsigned_or : ∀ {u : UnpackedFloat}, Nonneg u → Unsigned u ∨ ∃ s, u = .zero s
  | .infinity _, h => .inl h
  | .zero s, _ => .inr ⟨s, rfl⟩
  | .finite .., h => .inl h

theorem unsigned_ofParts (m : ℕ) (e : ℤ) : Unsigned (ofParts .positive m e) := by
  rcases Nat.eq_zero_or_pos m with rfl | pos
  · rw [ofParts_zero]
    rfl
  · rw [ofParts_of_pos .positive pos]
    rfl

theorem unsigned_ofFields {e m : ℕ} (ne : e ≠ 2047) : Unsigned (ofFields .positive e m) := by
  rw [ofFields, if_neg ne]
  split
  · exact unsigned_ofParts _ _
  · exact unsigned_ofParts _ _

/-- Packing gives no sign to a number that has none. -/
theorem unsigned_repack {u : UnpackedFloat} (h : Unsigned u) :
    Unsigned (Float.Model.pack u).unpack := by
  cases u with
  | notANumber => cases h
  | infinity s =>
    rw [repack_infinity]
    exact h
  | zero s =>
    rw [repack_zero]
    exact h
  | finite s m e pos =>
    obtain rfl : s = .positive := h
    show Unsigned (UnpackedFloat.unpack binary64 (UnpackedFloat.pack binary64 _))
    rw [pack_finite .positive pos rfl]
    split
    · rw [packedInfinity, unpack_packComponents]
      rfl
    · next fits =>
      split
      · have exponent : (BitVec.ofNat 11 (e + 1075).toNat).toNat ≠ 2047 := by
          rw [BitVec.toNat_ofNat, Nat.mod_eq_of_lt (by omega)]
          omega
        rw [unpack_packComponents]
        exact unsigned_ofFields exponent
      · rw [unpack_packComponents]
        exact unsigned_ofFields (by decide)

theorem nonneg_repack {u : UnpackedFloat} (h : Nonneg u) : Nonneg (Float.Model.pack u).unpack := by
  rcases h.unsigned_or with unsigned | ⟨s, rfl⟩
  · exact (unsigned_repack unsigned).nonneg
  · rw [repack_zero]
    trivial

theorem exists_roundWithAccuracy (s : Sign) (m : ℕ) (e : ℤ) (acc : Accuracy) :
    ∃ m' e', roundWithAccuracy binary64 s m e acc = ofParts s m' e' := by
  unfold roundWithAccuracy ofParts
  exact ⟨_, _, rfl⟩

theorem unsigned_roundWithAccuracy (m : ℕ) (e : ℤ) (acc : Accuracy) :
    Unsigned (roundWithAccuracy binary64 .positive m e acc) := by
  obtain ⟨m', e', eq⟩ := exists_roundWithAccuracy .positive m e acc
  rw [eq]
  exact unsigned_ofParts m' e'

theorem nonneg_roundWithAccuracy (m : ℕ) (e : ℤ) (acc : Accuracy) :
    Nonneg (roundWithAccuracy binary64 .positive m e acc) :=
  (unsigned_roundWithAccuracy m e acc).nonneg

/-! ## Sums -/

theorem unpacked_add (x y : Float) : unpacked (x + y) =
    (Float.Model.pack (UnpackedFloat.add binary64 (unpacked x) (unpacked y))).unpack := rfl

theorem unsigned_normalize {m : ℤ} (pos : 0 < m) (e : ℤ) (s : Sign) :
    Unsigned (UnpackedFloat.normalize binary64 m e s) := by
  have gt : compare m 0 = .gt := compare_gt_iff_gt.mpr pos
  rw [UnpackedFloat.normalize, gt]
  exact unsigned_roundWithAccuracy _ _ _

theorem decreaseExponent_pos {m : ℕ} (pos : 0 < m) (e e' : ℤ) : 0 < (decreaseExponent m e e').1 := by
  show 0 < m <<< (e - e').toNat
  rw [Nat.shiftLeft_eq]
  exact Nat.mul_pos pos (Nat.two_pow_pos _)

/-- What is not negative gives no sign to a sum. -/
theorem Unsigned.add : ∀ {u v : UnpackedFloat}, Unsigned u → Nonneg v →
    Unsigned (UnpackedFloat.add binary64 u v)
  | .infinity _, .infinity _, rfl, rfl => rfl
  | .infinity _, .zero _, rfl, _ => rfl
  | .infinity _, .finite .., rfl, _ => rfl
  | .zero _, .infinity _, _, rfl => rfl
  | .zero .positive, .zero .positive, _, _ => rfl
  | .zero .positive, .zero .negative, _, _ => rfl
  | .zero _, .finite .., _, rfl => rfl
  | .finite .., .infinity _, _, rfl => rfl
  | .finite .., .zero _, rfl, _ => rfl
  | .finite _ _ _ pos, .finite _ _ _ pos', rfl, rfl => by
    refine unsigned_normalize ?_ _ _
    exact Int.add_pos (Int.natCast_pos.mpr (decreaseExponent_pos pos _ _))
      (Int.natCast_pos.mpr (decreaseExponent_pos pos' _ _))

theorem Nonneg.zero_add (s : Sign) : ∀ {v : UnpackedFloat}, Nonneg v →
    Nonneg (UnpackedFloat.add binary64 (.zero s) v)
  | .infinity _, rfl => rfl
  | .zero s', _ => by
    show Nonneg (if (s == s') = true then .zero s else .zero .positive)
    split <;> trivial
  | .finite .., rfl => rfl

theorem Nonneg.add {u v : UnpackedFloat} (hu : Nonneg u) (hv : Nonneg v) :
    Nonneg (UnpackedFloat.add binary64 u v) := by
  rcases hu.unsigned_or with unsigned | ⟨s, rfl⟩
  · exact (unsigned.add hv).nonneg
  · exact hv.zero_add s

variable {x y : Float}

theorem nonneg_add (hx : Nonneg (unpacked x)) (hy : Nonneg (unpacked y)) :
    Nonneg (unpacked (x + y)) := by
  rw [unpacked_add]
  exact nonneg_repack (hx.add hy)

theorem unsigned_add (hx : Unsigned (unpacked x)) (hy : Nonneg (unpacked y)) :
    Unsigned (unpacked (x + y)) := by
  rw [unpacked_add]
  exact unsigned_repack (hx.add hy)

/-- Infinite terms do not get lost in a sum. -/
theorem Nonneg.isFinite_of_add : ∀ {u v : UnpackedFloat}, Nonneg u → Nonneg v →
    (UnpackedFloat.add binary64 u v).isFinite = true → u.isFinite = true ∧ v.isFinite = true
  | .infinity _, .infinity _, rfl, rfl, h => by cases h
  | .infinity _, .zero _, _, _, h => by cases h
  | .infinity _, .finite .., _, _, h => by cases h
  | .zero _, .infinity _, _, _, h => by cases h
  | .finite .., .infinity _, _, _, h => by cases h
  | .zero _, .zero _, _, _, _ => ⟨rfl, rfl⟩
  | .zero _, .finite .., _, _, _ => ⟨rfl, rfl⟩
  | .finite .., .zero _, _, _, _ => ⟨rfl, rfl⟩
  | .finite .., .finite .., _, _, _ => ⟨rfl, rfl⟩

theorem isFinite_of_repack {u : UnpackedFloat}
    (h : (Float.Model.pack u).unpack.isFinite = true) : u.isFinite = true := by
  cases u with
  | notANumber =>
    rw [repack_notANumber] at h
    cases h
  | infinity s =>
    rw [repack_infinity] at h
    cases h
  | zero | finite => rfl

theorem isFinite_of_add (hx : Nonneg (unpacked x)) (hy : Nonneg (unpacked y))
    (h : (x + y).isFinite = true) : x.isFinite = true ∧ y.isFinite = true :=
  hx.isFinite_of_add hy (isFinite_of_repack h)

theorem nonneg_foldl {terms : List Float} (hx : Nonneg (unpacked x))
    (h : ∀ y ∈ terms, Nonneg (unpacked y)) : Nonneg (unpacked (terms.foldl (· + ·) x)) := by
  induction terms generalizing x with
  | nil => exact hx
  | cons y rest ih =>
    exact ih (nonneg_add hx (h y List.mem_cons_self)) fun z hz => h z (List.mem_cons_of_mem _ hz)

theorem isFinite_of_foldl {terms : List Float} (hx : Nonneg (unpacked x))
    (h : ∀ y ∈ terms, Nonneg (unpacked y)) (finite : (terms.foldl (· + ·) x).isFinite = true) :
    x.isFinite = true ∧ ∀ y ∈ terms, y.isFinite = true := by
  induction terms generalizing x with
  | nil => exact ⟨finite, nofun⟩
  | cons y rest ih =>
    have hy := h y List.mem_cons_self
    obtain ⟨first, others⟩ := ih (nonneg_add hx hy)
      (fun z hz => h z (List.mem_cons_of_mem _ hz)) finite
    obtain ⟨own, next⟩ := isFinite_of_add hx hy first
    refine ⟨own, fun z hz => ?_⟩
    rcases List.mem_cons.mp hz with rfl | hz
    · exact next
    · exact others z hz

theorem nonneg_orderedSum {terms : List Float} (h : ∀ x ∈ terms, Nonneg (unpacked x)) :
    Nonneg (unpacked (orderedSum terms)) :=
  nonneg_foldl trivial fun y hy => h y (List.mem_mergeSort.mp hy)

/-- The terms of a finite sum are finite. -/
theorem isFinite_of_mem_orderedSum {terms : List Float} (h : ∀ x ∈ terms, Nonneg (unpacked x))
    (finite : (orderedSum terms).isFinite = true) : ∀ x ∈ terms, x.isFinite = true := by
  intro x hx
  have zero : Nonneg (unpacked (-0.0)) := trivial
  have all := isFinite_of_foldl zero (fun y hy => h y (List.mem_mergeSort.mp hy)) finite
  exact all.2 x (List.mem_mergeSort.mpr hx)

/-! ## Products, roots and quotients -/

theorem Nonneg.mul : ∀ {u v : UnpackedFloat}, Nonneg u → Nonneg v → u.isFinite = true →
    v.isFinite = true → Nonneg (UnpackedFloat.mul binary64 u v)
  | .zero _, .zero _, _, _, _, _ => trivial
  | .zero _, .finite .., _, _, _, _ => trivial
  | .finite .., .zero _, _, _, _, _ => trivial
  | .finite .., .finite .., rfl, rfl, _, _ => nonneg_roundWithAccuracy _ _ _

theorem nonneg_mul (hx : Nonneg (unpacked x)) (hy : Nonneg (unpacked y))
    (fx : x.isFinite = true) (fy : y.isFinite = true) : Nonneg (unpacked (x * y)) := by
  rw [unpacked_mul]
  exact nonneg_repack (hx.mul hy fx fy)

theorem Unsigned.mul : ∀ {u v : UnpackedFloat}, Unsigned u → Unsigned v → u.isFinite = true →
    v.isFinite = true → Unsigned (UnpackedFloat.mul binary64 u v)
  | .zero _, .zero _, rfl, rfl, _, _ => rfl
  | .zero _, .finite .., rfl, rfl, _, _ => rfl
  | .finite .., .zero _, rfl, rfl, _, _ => rfl
  | .finite .., .finite .., rfl, rfl, _, _ => unsigned_roundWithAccuracy _ _ _

theorem unsigned_mul (hx : Unsigned (unpacked x)) (hy : Unsigned (unpacked y))
    (fx : x.isFinite = true) (fy : y.isFinite = true) : Unsigned (unpacked (x * y)) := by
  rw [unpacked_mul]
  exact unsigned_repack (hx.mul hy fx fy)

/-- A square needs no bound: an infinite value times itself is infinite. -/
theorem Nonneg.mul_self : ∀ {u : UnpackedFloat}, Nonneg u → Nonneg (UnpackedFloat.mul binary64 u u)
  | .infinity _, rfl => rfl
  | .zero _, _ => trivial
  | .finite .., rfl => nonneg_roundWithAccuracy _ _ _

theorem nonneg_mul_self (hx : Nonneg (unpacked x)) : Nonneg (unpacked (x * x)) := by
  rw [unpacked_mul]
  exact nonneg_repack hx.mul_self

theorem finite_of_mul_self : ∀ {u : UnpackedFloat},
    (UnpackedFloat.mul binary64 u u).isFinite = true → u.isFinite = true
  | .notANumber, h => by cases h
  | .infinity _, h => by cases h
  | .zero _, _ => rfl
  | .finite .., _ => rfl

theorem isFinite_of_mul_self (h : (x * x).isFinite = true) : x.isFinite = true :=
  finite_of_mul_self (isFinite_of_repack h)

theorem Nonneg.sqrt : ∀ {u : UnpackedFloat}, Nonneg u → Nonneg (UnpackedFloat.sqrt binary64 u)
  | .infinity _, rfl => rfl
  | .zero _, _ => trivial
  | .finite .., rfl => nonneg_roundWithAccuracy _ _ _

theorem nonneg_sqrt (hx : Nonneg (unpacked x)) : Nonneg (unpacked x.sqrt) := by
  rw [unpacked_sqrt]
  exact nonneg_repack hx.sqrt

theorem finite_of_sqrt : ∀ {u : UnpackedFloat},
    (UnpackedFloat.sqrt binary64 u).isFinite = true → u.isFinite = true
  | .notANumber, h => by cases h
  | .infinity s, h => by cases s <;> cases h
  | .zero _, _ => rfl
  | .finite .., _ => rfl

theorem isFinite_of_sqrt (h : x.sqrt.isFinite = true) : x.isFinite = true :=
  finite_of_sqrt (isFinite_of_repack h)

theorem unpacked_div (x y : Float) : unpacked (x / y) =
    (Float.Model.pack (UnpackedFloat.div binary64 (unpacked x) (unpacked y))).unpack := rfl

theorem nonneg_div {m : ℕ} {e : ℤ} {pos : 0 < m} (hx : Nonneg (unpacked x))
    (hy : unpacked y = .finite .positive m e pos) : Nonneg (unpacked (x / y)) := by
  rw [unpacked_div, hy]
  refine nonneg_repack ?_
  rcases hx.cases with infinite | ⟨s, zero⟩ | ⟨m, e, pos, finite⟩
  · rw [infinite]
    rfl
  · rw [zero]
    trivial
  · rw [finite]
    exact nonneg_roundWithAccuracy _ _ _

/-- A quotient by an infinite value is a zero. -/
theorem nonneg_div_infinity {s : Sign} (hx : x.isFinite = true) (hy : unpacked y = .infinity s) :
    Nonneg (unpacked (x / y)) := by
  change (unpacked x).isFinite = true at hx
  rw [unpacked_div, hy]
  refine nonneg_repack ?_
  cases hu : unpacked x with
  | zero | finite => trivial
  | notANumber | infinity =>
    rw [hu] at hx
    cases hx

/-- It is no number where what is divided is infinite too, or no number. -/
theorem isNaN_div_infinity {s : Sign} (hx : x.isFinite = false) (hy : unpacked y = .infinity s) :
    (x / y).isNaN = true := by
  change (unpacked x).isFinite = false at hx
  show (unpacked (x / y)).isNaN = true
  rw [unpacked_div, hy]
  cases hu : unpacked x with
  | zero | finite =>
    rw [hu] at hx
    cases hx
  | notANumber | infinity =>
    exact congrArg UnpackedFloat.isNaN repack_notANumber

/-! ## Positive values -/

/-- The value is a number without sign, and no zero. -/
def Positive : UnpackedFloat → Prop
  | .infinity s => s = .positive
  | .finite s _ _ _ => s = .positive
  | _ => False

theorem Positive.mul_infinity : ∀ {u v : UnpackedFloat}, Positive u → Positive v →
    u = .infinity .positive ∨ v = .infinity .positive →
    UnpackedFloat.mul binary64 u v = .infinity .positive
  | .infinity _, .infinity _, rfl, rfl, _ => rfl
  | .infinity _, .finite .., rfl, rfl, _ => rfl
  | .finite .., .infinity _, rfl, rfl, _ => rfl
  | .finite .., .finite .., _, _, h => by rcases h with h | h <;> cases h

theorem unpacked_mul_infinity (hx : Positive (unpacked x)) (hy : Positive (unpacked y))
    (h : unpacked x = .infinity .positive ∨ unpacked y = .infinity .positive) :
    unpacked (x * y) = .infinity .positive := by
  rw [unpacked_mul, hx.mul_infinity hy h]
  exact repack_infinity .positive

end Concordance.Binary64
