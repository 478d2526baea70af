import Concordance.Binary64.Sum
import Concordance.Proofs.Binary64.Nonneg
import Concordance.Proofs.Binary64.Order

/-!
# The total order and comparisons

Numbers without sign are put in the same order by their places in the total order and by what
they stand for: their patterns count upwards, first by the exponent and then by the mantissa.

* `toNat_lt_of_unsigned`, `unpacked_eq_ofFields`: the pattern of a number without sign.
* `compare_ofFields`: patterns without sign are compared like the numbers that they write.
* `lt_of_totalKey_lt`: a number without sign that stands earlier in the total order is less.
-/

namespace Concordance.Binary64

open Float.Model Float.Model.UnpackedFloat Float.Model.Format

variable {x y : Float}

/-! ## The fields of a pattern -/

theorem toNat_unpackMantissa (b : BitVec binary64.numBits) :
    (unpackMantissa b).toNat = b.toNat % 2 ^ 52 := by
  show (BitVec.extractLsb 51 0 b).toNat = _
  rw [BitVec.extractLsb_toNat, Nat.shiftRight_zero]

theorem toNat_unpackExponent (b : BitVec binary64.numBits) :
    (unpackExponent b).toNat = b.toNat / 2 ^ 52 % 2 ^ 11 := by
  show (BitVec.extractLsb 62 52 b).toNat = _
  rw [BitVec.extractLsb_toNat, Nat.shiftRight_eq_div_pow]

theorem ofBitVec_unpackSign (b : BitVec binary64.numBits) :
    Sign.ofBitVec (unpackSign b) = if b.toNat < 2 ^ 63 then .positive else .negative := by
  have bit : (unpackSign b).toNat = b.toNat / 2 ^ 63 % 2 ^ 1 := by
    show (BitVec.extractLsb 63 63 b).toNat = _
    rw [BitVec.extractLsb_toNat, Nat.shiftRight_eq_div_pow]
  have bound : b.toNat < 2 ^ 64 := b.isLt
  have clear : unpackSign b = 0#1 ↔ b.toNat < 2 ^ 63 := by
    rw [← BitVec.toNat_inj, bit]
    show _ = 0 ↔ _
    omega
  simp only [Sign.ofBitVec, clear]

/-- A pattern with the sign bit stands for nothing without sign. -/
theorem not_unsigned_ofFields_negative (exponent mantissa : ℕ) :
    ¬ Unsigned (ofFields .negative exponent mantissa) := by
  have parts (m : ℕ) (e : ℤ) : ¬ Unsigned (ofParts .negative m e) := by
    rcases Nat.eq_zero_or_pos m with rfl | pos
    · nofun
    · rw [ofParts_of_pos .negative pos]
      nofun
  unfold ofFields
  split
  · split <;> nofun
  · split <;> exact parts _ _

/-- The sign bit, and what the two other fields of a pattern write. -/
theorem unpacked_eq (x : Float) : unpacked x =
    ofFields (if x.toBits.toNat < 2 ^ 63 then .positive else .negative)
      (x.toBits.toNat / 2 ^ 52 % 2 ^ 11) (x.toBits.toNat % 2 ^ 52) := by
  have fields : unpacked x = _ := unpack_eq_ofFields x.toBits.toBitVec
  rw [fields, ofBitVec_unpackSign, toNat_unpackExponent, toNat_unpackMantissa]
  rfl

/-- A number without sign has no sign bit. -/
theorem toNat_lt_of_unsigned (h : Unsigned (unpacked x)) : x.toBits.toNat < 2 ^ 63 := by
  refine Decidable.byContradiction fun large => ?_
  rw [unpacked_eq, if_neg large] at h
  exact not_unsigned_ofFields_negative _ _ h

/-- A number without sign is what the two other fields of its pattern write. -/
theorem unpacked_eq_ofFields (h : Unsigned (unpacked x)) :
    unpacked x = ofFields .positive (x.toBits.toNat / 2 ^ 52) (x.toBits.toNat % 2 ^ 52) := by
  have bound := toNat_lt_of_unsigned h
  have exponent : x.toBits.toNat / 2 ^ 52 % 2 ^ 11 = x.toBits.toNat / 2 ^ 52 := by omega
  rw [unpacked_eq, if_pos bound, exponent]

/-! ## Comparing patterns -/

theorem compare_ofParts {m m' : ℕ} {e e' : ℤ} (pos' : 0 < m') (lt : e < e' ∨ e = e' ∧ m < m') :
    (ofParts .positive m e).compare (ofParts .positive m' e') = some .lt := by
  rw [ofParts_of_pos _ pos']
  rcases Nat.eq_zero_or_pos m with rfl | pos
  · rfl
  · rw [ofParts_of_pos _ pos]
    show some ((compare e e').then (compare m m')) = _
    rcases lt with lt | ⟨rfl, lt⟩
    · rw [compare_lt_iff_lt.mpr lt]
      rfl
    · rw [compare_eq_iff_eq.mpr rfl, compare_lt_iff_lt.mpr lt]
      rfl

/-- Patterns without sign are compared like the numbers that they write. -/
theorem compare_ofFields {exponent mantissa exponent' mantissa' : ℕ} (small : mantissa < 2 ^ 52)
    (number : exponent' < 2047 ∨ exponent' = 2047 ∧ mantissa' = 0)
    (lt : exponent < exponent' ∨ exponent = exponent' ∧ mantissa < mantissa') :
    (ofFields .positive exponent mantissa).compare (ofFields .positive exponent' mantissa') =
      some .lt := by
  obtain ⟨m, e, parts, value⟩ : ∃ m e, ofFields .positive exponent mantissa = ofParts .positive m e ∧
      (exponent = 0 ∧ m = mantissa ∧ e = -1074 ∨
        exponent ≠ 0 ∧ m = 2 ^ 52 + mantissa ∧ e = exponent - 1075) := by
    rw [ofFields, if_neg (by omega)]
    split
    · next least => exact ⟨_, _, rfl, .inl ⟨least, rfl, rfl⟩⟩
    · next normal => exact ⟨_, _, rfl, .inr ⟨normal, rfl, rfl⟩⟩
  rw [parts]
  rcases number with number | ⟨rfl, rfl⟩
  · rw [ofFields, if_neg (by omega)]
    split
    · exact compare_ofParts (by omega) (by omega)
    · -- Leaving the least exponent, the mantissa gets its leading bit.
      exact compare_ofParts (by omega) (by omega)
  · show (ofParts .positive m e).compare (.infinity .positive) = _
    rcases Nat.eq_zero_or_pos m with rfl | pos
    · rfl
    · rw [ofParts_of_pos _ pos]
      rfl

/-- A number without sign that stands earlier in the total order is less. -/
theorem lt_of_totalKey_lt (hx : Unsigned (unpacked x)) (hy : Unsigned (unpacked y))
    (h : totalKey x < totalKey y) : x < y := by
  have shortX := toNat_lt_of_unsigned hx
  have shortY := toNat_lt_of_unsigned hy
  have fieldsY := unpacked_eq_ofFields hy
  rw [lt_iff, unpacked_eq_ofFields hx, fieldsY]
  have less : x.toBits.toNat < y.toBits.toNat := by
    unfold totalKey at h
    dsimp only at h
    rw [if_pos (by omega), if_pos (by omega)] at h
    omega
  refine compare_ofFields (by omega) ?_ (by omega)
  -- The pattern of `y` is that of a number, so no mantissa follows the greatest exponent.
  refine Decidable.byContradiction fun none => ?_
  have nan : ofFields .positive (y.toBits.toNat / 2 ^ 52) (y.toBits.toNat % 2 ^ 52) =
      .notANumber := by
    rw [ofFields, if_pos (by omega), if_neg (by omega)]
  rw [fieldsY, nan] at hy
  exact hy

theorem unsigned_of_zero_lt (h : 0.0 < x) : Unsigned (unpacked x) := by
  have zero : unpacked 0.0 = .zero .positive := rfl
  rw [lt_iff, zero] at h
  cases hu : unpacked x with
  | notANumber | zero =>
    rw [hu] at h
    cases h
  | infinity s | finite s =>
    rw [hu] at h
    cases s with
    | positive => rfl
    | negative => cases h

theorem lt_asymm (h : x < y) : ¬ y < x := by
  rw [lt_iff] at h
  rw [lt_iff, ← compare_swap, h]
  nofun

end Concordance.Binary64
