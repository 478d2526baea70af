import Concordance.Proofs.Binary64.Rounding

/-!
# Packing and unpacking

Every operation unpacks its operands and packs its result. A result that is in the
format is unpacked again as it was packed, unless its exponent is too great, and
everything that is unpacked is in the format.

* `ofFields`, `unpack_eq_ofFields`: what the three fields of a pattern stand for.
* `repack_ofParts`: a finite number, packed and unpacked.
* `unpack_cases`: what can be unpacked.
-/

namespace Concordance.Binary64

open Float.Model Float.Model.UnpackedFloat Float.Model.Format

/-! ## Fields -/

/-- What a sign, a biased exponent and a mantissa without its leading bit stand for. -/
def ofFields (s : Sign) (exponent mantissa : ℕ) : UnpackedFloat :=
  if exponent = 2047 then if mantissa = 0 then .infinity s else .notANumber
  else if exponent = 0 then ofParts s mantissa (-1074)
  else ofParts s (2 ^ 52 + mantissa) (exponent - 1075)

theorem toNat_one_append (m : BitVec 52) : (1#1 ++ m).toNat = 2 ^ 52 + m.toNat := by
  rw [BitVec.toNat_append, ← Nat.shiftLeft_add_eq_or_of_lt m.isLt]
  rfl

theorem unpack_eq_ofFields (b : BitVec binary64.numBits) : UnpackedFloat.unpack binary64 b =
    ofFields (.ofBitVec (unpackSign b)) (unpackExponent b).toNat (unpackMantissa b).toNat := by
  have ones : unpackExponent b = -1#11 ↔ (unpackExponent b).toNat = 2047 := BitVec.toNat_inj.symm
  have none : unpackExponent b = 0#11 ↔ (unpackExponent b).toNat = 0 := BitVec.toNat_inj.symm
  have zero : unpackMantissa b = 0#52 ↔ (unpackMantissa b).toNat = 0 := BitVec.toNat_inj.symm
  have full := toNat_one_append (unpackMantissa b)
  unfold UnpackedFloat.unpack ofFields
  by_cases special : unpackExponent b = -1#11
  · rw [if_pos special, if_pos (ones.mp special)]
    by_cases empty : unpackMantissa b = 0#52
    · rw [if_pos empty, if_pos (zero.mp empty)]
    · rw [if_neg empty, if_neg (mt zero.mpr empty)]
  · rw [if_neg special, if_neg (mt ones.mpr special)]
    by_cases subnormal : unpackExponent b = 0#11
    · rw [if_pos subnormal, if_pos (none.mp subnormal)]
      by_cases empty : unpackMantissa b = 0#52
      · rw [dif_pos empty, zero.mp empty, ofParts_zero]
      · rw [dif_neg empty, ofParts_of_pos _ (Nat.pos_of_ne_zero (mt zero.mpr empty)), subnormal]
        rfl
    · rw [if_neg subnormal, if_neg (mt none.mpr subnormal), ofParts_of_pos _ (by omega)]
      congr 1

theorem ofBitVec_toBitVec (s : Sign) : Sign.ofBitVec s.toBitVec = s := by
  cases s <;> rfl

theorem unpackSign_packComponents (s : Sign) (e : BitVec 11) (m : BitVec 52) :
    unpackSign (packComponents binary64 s e m) = s.toBitVec := by
  refine BitVec.eq_of_getLsbD_eq fun i hi => ?_
  obtain rfl : i = 0 := by omega
  have top : (s.toBitVec ++ e ++ m).getLsbD 63 = s.toBitVec.getLsbD 0 := by
    rw [BitVec.getLsbD_append, if_neg (by omega), BitVec.getLsbD_append, if_neg (by omega)]
  show ((s.toBitVec ++ e ++ m).extractLsb 63 63).getLsbD 0 = _
  rw [BitVec.getLsbD_extractLsb]
  exact top

theorem unpack_packComponents (s : Sign) (e : BitVec 11) (m : BitVec 52) :
    UnpackedFloat.unpack binary64 (packComponents binary64 s e m) = ofFields s e.toNat m.toNat := by
  rw [unpack_eq_ofFields, unpackSign_packComponents, ofBitVec_toBitVec,
    unpackExponent_packComponents, unpackMantissa_packComponents]

/-! ## Packed and unpacked -/

theorem repack_notANumber : (Float.Model.pack .notANumber).unpack = .notANumber :=
  unpack_packComponents .positive (-1#11) (1#52 <<< 51)

theorem repack_infinity (s : Sign) : (Float.Model.pack (.infinity s)).unpack = .infinity s :=
  unpack_packComponents s (-1#11) 0

theorem repack_zero (s : Sign) : (Float.Model.pack (.zero s)).unpack = .zero s :=
  unpack_packComponents s 0 0

/-- The number of bits tells the full mantissas from the others. -/
theorem Canonical.log2_add_one_eq_iff {m : ℕ} {e : ℤ} (h : Canonical m e) (pos : 0 < m) :
    m.log2 + 1 = 53 ↔ 2 ^ 52 ≤ m := by
  have upper := (Nat.log2_lt pos.ne').mpr h.lt
  have lower := Nat.le_log2 (n := m) (k := 52) pos.ne'
  omega

theorem pack_finite {m b : ℕ} {e : ℤ} (s : Sign) (pos : 0 < m) (biased : (e + 1075).toNat = b) :
    UnpackedFloat.pack binary64 (.finite s m e pos) =
      if 2 ^ 11 ≤ b + 1 then packedInfinity binary64 s
      else if m.log2 + 1 = 53 then
        packComponents binary64 s (BitVec.ofNat 11 b) (BitVec.ofNat 52 m)
      else packComponents binary64 s 0#11 (BitVec.ofNat 52 m) := by
  have bits : (e + (1023 : ℕ) + (52 : ℕ)).toNat = b := by omega
  rw [← bits]
  rfl

/-- A finite number stays as it is, or it becomes infinite where its exponent is too great. -/
theorem repack_ofParts {m : ℕ} {e : ℤ} (h : Canonical m e) (s : Sign) :
    (Float.Model.pack (ofParts s m e)).unpack =
      if e ≤ 971 then ofParts s m e else .infinity s := by
  have bits := h.log2_add_one_eq_iff
  obtain ⟨lt, least, full⟩ := h
  obtain ⟨b, biased⟩ : ∃ b : ℕ, e + 1075 = b := Int.eq_ofNat_of_zero_le (by omega)
  rcases Nat.eq_zero_or_pos m with rfl | pos
  · rw [if_pos (by omega)]
    exact repack_zero s
  have parts := ofParts_of_pos s pos e
  show UnpackedFloat.unpack binary64 (UnpackedFloat.pack binary64 (ofParts s m e)) = _
  rw [parts, pack_finite s pos (by omega : (e + 1075).toNat = b), ← parts]
  by_cases fits : e ≤ 971
  · have exponent : (BitVec.ofNat 11 b).toNat = b := by
      rw [BitVec.toNat_ofNat, Nat.mod_eq_of_lt (by omega)]
    rw [if_pos fits, if_neg (by omega)]
    by_cases normal : 2 ^ 52 ≤ m
    · have mantissa : (BitVec.ofNat 52 m).toNat = m - 2 ^ 52 := by
        rw [BitVec.toNat_ofNat]
        omega
      have whole : 2 ^ 52 + (m - 2 ^ 52) = m := by omega
      have unbiased : (b : ℤ) - 1075 = e := by omega
      rw [if_pos ((bits pos).mpr normal), unpack_packComponents, exponent, mantissa, ofFields,
        if_neg (by omega), if_neg (by omega), whole, unbiased]
    · have mantissa : (BitVec.ofNat 52 m).toNat = m := by
        rw [BitVec.toNat_ofNat, Nat.mod_eq_of_lt (by omega)]
      rw [if_neg (mt (bits pos).mp normal), unpack_packComponents, mantissa,
        full.resolve_left normal]
      rfl
  · rw [if_neg fits, if_pos (by omega)]
    exact repack_infinity s

theorem ofFields_cases (s : Sign) {exponent mantissa : ℕ} (short : exponent < 2 ^ 11)
    (small : mantissa < 2 ^ 52) :
    ofFields s exponent mantissa = .notANumber ∨ ofFields s exponent mantissa = .infinity s ∨
      ∃ m e, Canonical m e ∧ e ≤ 971 ∧ ofFields s exponent mantissa = ofParts s m e := by
  unfold ofFields
  split
  · split
    · exact .inr (.inl rfl)
    · exact .inl rfl
  · split
    · exact .inr (.inr ⟨mantissa, -1074, ⟨by omega, by omega, .inr rfl⟩, by omega, rfl⟩)
    · refine .inr (.inr ⟨2 ^ 52 + mantissa, exponent - 1075, ⟨?_, ?_, .inl ?_⟩, ?_, rfl⟩) <;> omega

/-- What is unpacked is no number, or infinite, or in the format. -/
theorem unpack_cases (x : Float.Model) :
    x.unpack = .notANumber ∨ (∃ s, x.unpack = .infinity s) ∨
      ∃ s m e, Canonical m e ∧ e ≤ 971 ∧ x.unpack = ofParts s m e := by
  have fields := unpack_eq_ofFields x.toBits.toBitVec
  rcases ofFields_cases (.ofBitVec (@unpackSign binary64 x.toBits.toBitVec))
    (@unpackExponent binary64 x.toBits.toBitVec).isLt
    (@unpackMantissa binary64 x.toBits.toBitVec).isLt with nan | inf | ⟨m, e, canonical, le, eq⟩
  · exact .inl (fields.trans nan)
  · exact .inr (.inl ⟨_, fields.trans inf⟩)
  · exact .inr (.inr ⟨_, m, e, canonical, le, fields.trans eq⟩)

end Concordance.Binary64
