import Concordance.Binary64.Sum
import Concordance.Proofs.Binary64.Arithmetic
import Mathlib

/-!
# Sums and products in another order

A number is determined by its place in the total order, so terms that are put in order
come out the same whatever order they came in, and so does their sum: nothing is asked
of the addition. A product does not depend on the order of its factors.

* `place`, `totalKey_injective`: no two patterns, and no two numbers, share a place.
* `mergeSort_eq_of_perm`: what has places of its own is put in order in one way.
* `orderedSum_eq_of_perm`: the order of the terms does not matter.
* `float_mul_comm`: the order of the factors does not matter.
* `float_add_comm`: nor that of two terms.
-/

namespace Concordance.Binary64

open Float.Model

variable {x y : Float}

/-! ## Places -/

/-- The place of a bit pattern in the total order, also where it stands for no number. -/
def place (bits : UInt64) : ℤ :=
  if bits.toNat < 0x8000000000000000 then bits.toNat else 0x7fffffffffffffff - bits.toNat

/-- No two patterns share a place. -/
theorem place_injective : place.Injective := by
  intro a b h
  have shortA := a.toNat_lt
  have shortB := b.toNat_lt
  have same : a.toNat = b.toNat := by
    unfold place at h
    split at h <;> split at h <;> omega
  exact UInt64.toNat_inj.mp same

theorem totalKey_eq_place (x : Float) : totalKey x = place x.toBits := rfl

/-- No two numbers share a place in the total order. -/
theorem totalKey_injective (h : totalKey x = totalKey y) : x = y :=
  Float.toBits_inj.mp (place_injective h)

/-- What has places of its own is put in the same order, whatever order it comes in. -/
theorem mergeSort_eq_of_perm {α : Type} {key : α → ℤ} (apart : key.Injective) {l l' : List α}
    (h : l.Perm l') :
    l.mergeSort (fun a b => decide (key a ≤ key b)) =
      l'.mergeSort (fun a b => decide (key a ≤ key b)) := by
  have ascending (l : List α) :
      (l.mergeSort fun a b => decide (key a ≤ key b)).Pairwise fun a b => key a ≤ key b := by
    refine (List.pairwise_mergeSort (fun a b c hab hbc => ?_) (fun a b => ?_) l).imp of_decide_eq_true
    · exact decide_eq_true (le_trans (of_decide_eq_true hab) (of_decide_eq_true hbc))
    · simpa using le_total (key a) (key b)
  have sorted := List.mergeSort_perm l fun a b => decide (key a ≤ key b)
  have sorted' := List.mergeSort_perm l' fun a b => decide (key a ≤ key b)
  -- Two ascending lists of the same things agree, since no two of these share a place.
  exact (sorted.trans (h.trans sorted'.symm)).eq_of_pairwise
    (fun a b _ _ hab hba => apart (le_antisymm hab hba)) (ascending l) (ascending l')

/-! ## Sums -/

/-- Terms are put in the same order, whatever order they come in. -/
theorem mergeSort_totalLE_eq_of_perm {terms terms' : List Float} (h : terms.Perm terms') :
    terms.mergeSort totalLE = terms'.mergeSort totalLE := by
  have apart : totalKey.Injective := fun _ _ => totalKey_injective
  exact mergeSort_eq_of_perm apart h

/-- The order of the terms does not matter for their sum. -/
theorem orderedSum_eq_of_perm {terms terms' : List Float} (h : terms.Perm terms') :
    orderedSum terms = orderedSum terms' := by
  rw [orderedSum, mergeSort_totalLE_eq_of_perm h, orderedSum]

/-! ## Products -/

theorem sign_mul_comm : ∀ s s' : UnpackedFloat.Sign, s * s' = s' * s
  | .positive, .positive => rfl
  | .positive, .negative => rfl
  | .negative, .positive => rfl
  | .negative, .negative => rfl

theorem unpackedMul_comm (format : Format) : ∀ u v : UnpackedFloat,
    UnpackedFloat.mul format u v = UnpackedFloat.mul format v u
  | .notANumber, v => by cases v <;> rfl
  | .infinity _, .notANumber => rfl
  | .infinity s, .infinity s' => congrArg UnpackedFloat.infinity (sign_mul_comm s s')
  | .infinity _, .zero _ => rfl
  | .infinity s, .finite s' .. => congrArg UnpackedFloat.infinity (sign_mul_comm s s')
  | .zero _, .notANumber => rfl
  | .zero _, .infinity _ => rfl
  | .zero s, .zero s' => congrArg UnpackedFloat.zero (sign_mul_comm s s')
  | .zero s, .finite s' .. => congrArg UnpackedFloat.zero (sign_mul_comm s s')
  | .finite .., .notANumber => rfl
  | .finite s .., .infinity s' => congrArg UnpackedFloat.infinity (sign_mul_comm s s')
  | .finite s .., .zero s' => congrArg UnpackedFloat.zero (sign_mul_comm s s')
  | .finite s m e _, .finite s' m' e' _ => by
    show UnpackedFloat.roundWithAccuracy format (s * s') (m * m') (e + e') .exact =
      UnpackedFloat.roundWithAccuracy format (s' * s) (m' * m) (e' + e) .exact
    rw [sign_mul_comm, Nat.mul_comm, Int.add_comm]

/-- The order of the factors does not matter for their product. -/
theorem float_mul_comm (x y : Float) : x * y = y * x :=
  congrArg (fun u => Float.ofModel (Float.Model.pack u))
    (unpackedMul_comm Format.binary64 (unpacked x) (unpacked y))

/-! ## Two terms -/

theorem unpackedAdd_comm (format : Format) : ∀ u v : UnpackedFloat,
    UnpackedFloat.add format u v = UnpackedFloat.add format v u
  | .notANumber, v => by cases v <;> rfl
  | .infinity _, .notANumber => rfl
  | .infinity s, .infinity s' => by cases s <;> cases s' <;> rfl
  | .infinity _, .zero _ => rfl
  | .infinity _, .finite .. => rfl
  | .zero _, .notANumber => rfl
  | .zero _, .infinity _ => rfl
  | .zero s, .zero s' => by cases s <;> cases s' <;> rfl
  | .zero _, .finite .. => rfl
  | .finite .., .notANumber => rfl
  | .finite .., .infinity _ => rfl
  | .finite .., .zero _ => rfl
  | .finite s m e _, .finite s' m' e' _ => by
    simp only [UnpackedFloat.add]
    rw [min_comm, Int.add_comm]

/-- The order of two terms does not matter for their sum. -/
theorem float_add_comm (x y : Float) : x + y = y + x :=
  congrArg (fun u => Float.ofModel (Float.Model.pack u))
    (unpackedAdd_comm Format.binary64 (unpacked x) (unpacked y))

end Concordance.Binary64
