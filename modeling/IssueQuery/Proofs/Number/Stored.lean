import IssueQuery.Number.Binary

namespace IssueQuery.Number

open Float.Model (Format UnpackedFloat)
open Float.Model.UnpackedFloat (Sign packComponents packedInfinity unpackSign unpackExponent unpackMantissa)

namespace Binary

def ofUnpacked : UnpackedFloat → Binary
  | .notANumber => .nan
  | .infinity sign => .infinite (sign == .negative)
  | .zero sign => .finite (sign == .negative) 0 (-1074)
  | .finite sign mant exp _ => .finite (sign == .negative) mant exp

def ofFields (negative : Bool) (field fraction : Nat) : Binary :=
  if field = 2047 then
    if fraction = 0 then .infinite negative else .nan
  else if field = 0 then .finite negative fraction (-1074)
  else .finite negative (2 ^ 52 + fraction) ((field : Int) - 1075)

variable (b : BitVec Format.binary64.numBits)

theorem ofUnpacked_unpack :
    ofUnpacked (UnpackedFloat.unpack Format.binary64 b) =
      ofFields (Sign.ofBitVec (unpackSign b) == .negative) (unpackExponent b).toNat
        (unpackMantissa b).toNat := by
  have hones : unpackExponent b = -1#_ ↔ (unpackExponent b).toNat = 2047 := by
    rw [← BitVec.toNat_inj]
    rfl
  have hnone : unpackExponent b = 0#_ ↔ (unpackExponent b).toNat = 0 := by
    rw [← BitVec.toNat_inj]
    rfl
  have hwhole : unpackMantissa b = 0#_ ↔ (unpackMantissa b).toNat = 0 := by
    rw [← BitVec.toNat_inj]
    rfl
  have hmant : (1#1 ++ unpackMantissa b).toNat = 2 ^ 52 + (unpackMantissa b).toNat := by
    rw [BitVec.toNat_append, ← Nat.shiftLeft_add_eq_or_of_lt (unpackMantissa b).isLt]
    rfl
  delta UnpackedFloat.unpack
  dsimp only
  by_cases hspecial : unpackExponent b = -1#_
  · rw [ofFields, if_pos hspecial, if_pos (hones.mp hspecial)]
    by_cases hzero : unpackMantissa b = 0#_
    · rw [if_pos hzero, if_pos (hwhole.mp hzero)]
      rfl
    · rw [if_neg hzero, if_neg (mt hwhole.mpr hzero)]
      rfl
  · rw [ofFields, if_neg hspecial, if_neg (mt hones.mpr hspecial)]
    by_cases hsmall : unpackExponent b = 0#_
    · rw [if_pos hsmall, if_pos (hnone.mp hsmall), hnone.mp hsmall]
      by_cases hzero : unpackMantissa b = 0#_
      · rw [dif_pos hzero, hwhole.mp hzero]
        rfl
      · rw [dif_neg hzero]
        rfl
    · rw [if_neg hsmall, if_neg (mt hnone.mpr hsmall), ← hmant]
      rfl

theorem toNat_unpackExponent : (unpackExponent b).toNat = b.toNat / 2 ^ 52 % 2 ^ 11 := by
  simp [unpackExponent, Nat.shiftRight_eq_div_pow]

theorem toNat_unpackMantissa : (unpackMantissa b).toNat = b.toNat % 2 ^ 52 := by
  simp [unpackMantissa]

theorem isNegative_unpackSign :
    (Sign.ofBitVec (unpackSign b) == .negative) = (b.toNat / 2 ^ 63 == 1) := by
  have hb : b.toNat < 2 ^ 64 := b.isLt
  have hs : (unpackSign b).toNat = b.toNat / 2 ^ 63 := by
    change (b.extractLsb 63 63).toNat = _
    simp [Nat.shiftRight_eq_div_pow]
    omega
  rcases BitVec.eq_zero_or_eq_one (unpackSign b) with h | h
  · rw [← hs, h]
    rfl
  · rw [← hs, h]
    rfl

theorem ofFloat_eq (x : Float) : ofFloat x = ofUnpacked x.toModel.unpack := by
  show _ = ofUnpacked (UnpackedFloat.unpack Format.binary64 x.toBits.toBitVec)
  rw [ofUnpacked_unpack, toNat_unpackExponent, toNat_unpackMantissa, isNegative_unpackSign]
  simp only [ofFloat, ofFields, beq_iff_eq]
  rfl

def stored (u : UnpackedFloat) : Binary :=
  ofUnpacked (Float.Model.pack u).unpack

theorem stored_eq (u : UnpackedFloat) :
    stored u = ofUnpacked (UnpackedFloat.unpack Format.binary64 (UnpackedFloat.pack Format.binary64 u)) :=
  rfl

theorem ofBitVec_unpackSign (sign : Sign) (exp : BitVec Format.binary64.exponentBits)
    (mant : BitVec Format.binary64.mantissaBitsWithoutImplicit) :
    Sign.ofBitVec (unpackSign (packComponents Format.binary64 sign exp mant)) = sign := by
  have hbit : unpackSign (packComponents Format.binary64 sign exp mant) = sign.toBitVec := by
    change BitVec.extractLsb' 63 1 (sign.toBitVec ++ exp ++ mant) = _
    rw [BitVec.extractLsb'_append_eq_of_le (by decide), BitVec.extractLsb'_append_eq_of_le (by decide)]
    exact BitVec.extractLsb'_eq_self
  rw [hbit]
  cases sign <;> rfl

theorem ofUnpacked_packComponents (sign : Sign) (exp : BitVec Format.binary64.exponentBits)
    (mant : BitVec Format.binary64.mantissaBitsWithoutImplicit) :
    ofUnpacked (UnpackedFloat.unpack Format.binary64 (packComponents Format.binary64 sign exp mant)) =
      ofFields (sign == .negative) exp.toNat mant.toNat := by
  rw [ofUnpacked_unpack, ofBitVec_unpackSign, Float.Model.UnpackedFloat.unpackExponent_packComponents,
    Float.Model.UnpackedFloat.unpackMantissa_packComponents]

theorem stored_notANumber : stored .notANumber = .nan := rfl

theorem stored_infinity (sign : Sign) : stored (.infinity sign) = .infinite (sign == .negative) := by
  cases sign <;> rfl

theorem stored_zero (sign : Sign) : stored (.zero sign) = .finite (sign == .negative) 0 (-1074) := by
  cases sign <;> rfl

/-- The mantissa is as long as it can be, which leaves one form to every value. -/
def IsCanonical : Binary → Prop
  | .finite _ mant exp => mant < 2 ^ 53 ∧ (2 ^ 52 ≤ mant ∨ exp = -1074) ∧ -1074 ≤ exp ∧ exp ≤ 971
  | _ => True

theorem isCanonical_ofFields {negative : Bool} {field fraction : Nat} (hfield : field < 2 ^ 11)
    (hfraction : fraction < 2 ^ 52) : (ofFields negative field fraction).IsCanonical := by
  rw [ofFields]
  split
  · split <;> trivial
  · split
    · exact ⟨by omega, .inr rfl, by omega, by omega⟩
    · exact ⟨by omega, .inl (by omega), by omega, by omega⟩

theorem isCanonical_unpack : (ofUnpacked (UnpackedFloat.unpack Format.binary64 b)).IsCanonical := by
  rw [ofUnpacked_unpack]
  exact isCanonical_ofFields (unpackExponent b).isLt (unpackMantissa b).isLt

theorem pack_finite (sign : Sign) {mant : Nat} (exp : Int) (hpos : 0 < mant) :
    UnpackedFloat.pack Format.binary64 (.finite sign mant exp hpos) =
      if 2 ^ 11 ≤ (exp + 1023 + 52).toNat + 1 then packedInfinity Format.binary64 sign
      else if mant.log2 + 1 = 53 then
        packComponents Format.binary64 sign (BitVec.ofNat _ (exp + 1023 + 52).toNat) (BitVec.ofNat _ mant)
      else packComponents Format.binary64 sign 0#_ (BitVec.ofNat _ mant) :=
  rfl

theorem stored_finite (sign : Sign) {mant : Nat} {exp : Int} (hpos : 0 < mant)
    (h : (Binary.finite (sign == .negative) mant exp).IsCanonical) :
    stored (.finite sign mant exp hpos) = .finite (sign == .negative) mant exp := by
  obtain ⟨hmant, hlong, hlow, hhigh⟩ := h
  rw [stored_eq, pack_finite, if_neg (by omega)]
  by_cases hnormal : 2 ^ 52 ≤ mant
  · have hlog : mant.log2 + 1 = 53 := by
      rw [(Nat.log2_eq_iff (Nat.ne_of_gt hpos)).mpr ⟨hnormal, hmant⟩]
    have hexp : (exp + 1023 + 52).toNat % 2 ^ 11 = (exp + 1075).toNat := by omega
    rw [if_pos hlog, ofUnpacked_packComponents, BitVec.toNat_ofNat, BitVec.toNat_ofNat]
    show ofFields _ ((exp + 1023 + 52).toNat % 2 ^ 11) (mant % 2 ^ 52) = _
    rw [hexp, ofFields, if_neg (by omega), if_neg (by omega)]
    congr 1 <;> omega
  · have hlog : ¬mant.log2 + 1 = 53 := by
      have := (Nat.log2_lt (Nat.ne_of_gt hpos)).mpr (Nat.lt_of_not_le hnormal)
      omega
    rw [if_neg hlog, ofUnpacked_packComponents, BitVec.toNat_ofNat]
    show ofFields _ 0 (mant % 2 ^ 52) = _
    rw [Nat.mod_eq_of_lt (Nat.lt_of_not_le hnormal), hlong.resolve_left hnormal]
    rfl

theorem stored_of_isCanonical {u : UnpackedFloat} (h : (ofUnpacked u).IsCanonical) :
    stored u = ofUnpacked u := by
  cases u with
  | notANumber => rfl
  | infinity sign => exact stored_infinity sign
  | zero sign => exact stored_zero sign
  | finite sign mant exp hpos => exact stored_finite sign hpos h

theorem isCanonical_ofFloat (x : Float) : (ofFloat x).IsCanonical := by
  rw [ofFloat_eq]
  exact isCanonical_unpack _

theorem ofFloat_ofBits (w : UInt64) :
    ofFloat (Float.ofBits w) =
      ofFields (w.toNat / 2 ^ 63 == 1) (w.toNat / 2 ^ 52 % 2 ^ 11) (w.toNat % 2 ^ 52) := by
  rw [ofFloat_eq]
  show stored (UnpackedFloat.unpack Format.binary64 w.toBitVec) = _
  rw [stored_of_isCanonical (isCanonical_unpack _), ofUnpacked_unpack, toNat_unpackExponent,
    toNat_unpackMantissa, isNegative_unpackSign]
  rfl

end Binary

end IssueQuery.Number
