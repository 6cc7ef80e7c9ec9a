import DesignBridge.Number.Binary
import Mathlib

/-! # The parts of doubles

A finite double is its sign, its mantissa and its exponent. The mantissa has at most 53 bits; it has
exactly so many unless the exponent is the smallest one. A double with such parts can be stored, and
reading its bits gives the parts back.
-/

namespace DesignBridge

open Float.Model Float.Model.UnpackedFloat

/-- The mantissas and exponents that doubles have. -/
structure IsStored (m : Nat) (e : Int) : Prop where
  mantissa_lt : m < 2 ^ 53
  le_exponent : -1074 ≤ e
  exponent_le : e ≤ 971
  leads : 2 ^ 52 ≤ m ∨ e = -1074

namespace Binary

def isNegative : Sign → Bool
  | .negative => true
  | .positive => false

/-- The parts of an unpacked double; `none` for an infinity and for what is not a number. -/
def ofUnpacked? : UnpackedFloat → Option Binary
  | .notANumber | .infinity _ => none
  | .zero s => some ⟨isNegative s, 0, minExponent⟩
  | .finite s m e _ => some ⟨isNegative s, m, e⟩

/-! ## Reading bits -/

section

variable (b : BitVec Format.binary64.numBits)

theorem toNat_unpackExponent : (unpackExponent b).toNat = (b.toNat >>> 52) % 2048 := by
  simp only [unpackExponent, BitVec.toNat_cast]
  rfl

theorem toNat_unpackMantissa : (unpackMantissa b).toNat = b.toNat % hiddenBit := by
  simp only [unpackMantissa, BitVec.toNat_cast]
  rfl

theorem isNegative_unpackSign : isNegative (.ofBitVec (unpackSign b)) = b.toNat.testBit 63 := by
  have hbit : (unpackSign b).toNat = (b.toNat.testBit 63).toNat := by
    simp only [unpackSign, BitVec.toNat_cast, BitVec.extractLsb_toNat, Nat.toNat_testBit,
      Nat.shiftRight_eq_div_pow]
  unfold Sign.ofBitVec
  cases hsign : b.toNat.testBit 63 with
  | false =>
      rw [hsign] at hbit
      rw [if_pos (BitVec.eq_of_toNat_eq hbit)]
      rfl
  | true =>
      rw [hsign] at hbit
      rw [if_neg fun hzero => by rw [hzero] at hbit; cases hbit]
      rfl

theorem toNat_one_append {w : Nat} (v : BitVec w) : (1#1 ++ v).toNat = 2 ^ w + v.toNat := by
  rw [BitVec.toNat_append, ← Nat.shiftLeft_add_eq_or_of_lt v.isLt, Nat.shiftLeft_eq]
  simp

end

theorem field_eq_max (field : BitVec 11) : field = -1#11 ↔ field.toNat = 2047 := by
  rw [← BitVec.toNat_inj]
  rfl

theorem field_eq_zero {w : Nat} (field : BitVec w) : field = 0#w ↔ field.toNat = 0 := by
  rw [← BitVec.toNat_inj, BitVec.toNat_ofNat, Nat.zero_mod]

theorem ofFloat?_eq (x : Float) : ofFloat? x = ofUnpacked? x.toModel.unpack := by
  have hexponent := toNat_unpackExponent x.toModel.toBits.toBitVec
  have hmantissa := toNat_unpackMantissa x.toModel.toBits.toBitVec
  have hsign := isNegative_unpackSign x.toModel.toBits.toBitVec
  have hbits : x.toBits.toNat = x.toModel.toBits.toBitVec.toNat := rfl
  have hbias : (Format.binary64.exponentBias : Int) = 1023 := rfl
  unfold ofFloat? Float.Model.unpack UnpackedFloat.unpack
  simp only [hbits, ← hexponent, ← hmantissa, ← hsign, field_eq_max, field_eq_zero]
  split
  next => split <;> rfl
  next =>
    split
    next hsmallest =>
      split
      next hzero => simp [ofUnpacked?, hzero]
      next =>
        simp only [ofUnpacked?, hsmallest, hbias]
        rfl
    next =>
      simp only [ofUnpacked?, hbias, Option.some.injEq, Binary.mk.injEq, true_and]
      refine ⟨?_, by unfold minExponent; omega⟩
      rw [toNat_one_append]
      rfl

theorem isStored_of_ofFloat? {x : Float} {b : Binary} (h : ofFloat? x = some b) :
    IsStored b.mantissa b.exponent := by
  unfold ofFloat? at h
  have hfraction : x.toBits.toNat % hiddenBit < 2 ^ 52 := Nat.mod_lt _ (by decide)
  have hbit : hiddenBit = 2 ^ 52 := rfl
  have hfield : (x.toBits.toNat >>> 52) % 2048 < 2048 := Nat.mod_lt _ (by decide)
  have hexponent : minExponent = -1074 := rfl
  dsimp only at h
  generalize (x.toBits.toNat >>> 52) % 2048 = field at h hfield
  generalize x.toBits.toNat % hiddenBit = fraction at h hfraction
  split at h
  next => cases h
  next =>
    split at h
    next =>
      obtain rfl := Option.some.inj h
      constructor <;> dsimp only <;> omega
    next =>
      obtain rfl := Option.some.inj h
      constructor <;> dsimp only <;> omega

/-! ## Storing parts -/

theorem ofUnpacked?_pack_zero (s : Sign) :
    ofUnpacked? (Float.Model.pack (.zero s)).unpack = some ⟨isNegative s, 0, minExponent⟩ := by
  cases s <;> rfl

theorem unpack_pack_infinity (s : Sign) :
    (Float.Model.pack (.infinity s)).unpack = .infinity s := by
  cases s <;> rfl

theorem log2_eq_of_leads {m : Nat} (h : m < 2 ^ 53) (hleads : 2 ^ 52 ≤ m) : m.log2 = 52 := by
  have hne : m ≠ 0 := by omega
  have hle := (Nat.le_log2 hne).mpr hleads
  have hlt := (Nat.log2_lt hne).mpr h
  omega

/-- Parts that can be stored are stored as they are. -/
theorem unpack_pack {s : Sign} {m : Nat} {e : Int} (hm : 0 < m) (h : IsStored m e) :
    (Float.Model.pack (.finite s m e hm)).unpack = .finite s m e hm := by
  have hbias : (Format.binary64.exponentBias : Int) = 1023 := rfl
  have hwidth : Format.binary64.mantissaBits = 53 := rfl
  obtain ⟨hlt, hle, hmax, hfirst⟩ := h
  have hrange : ¬ 2 ^ 11 ≤ (e + 1023 + (52 : Nat)).toNat + 1 := by omega
  unfold Float.Model.unpack Float.Model.pack UnpackedFloat.pack
  simp only [hbias, hwidth]
  by_cases hleads : 2 ^ 52 ≤ m
  · rw [if_neg hrange, if_pos (by rw [log2_eq_of_leads hlt hleads]), UnpackedFloat.unpack]
    simp only [unpackSign_packComponents, Sign.ofBitVec_toBitVec, unpackExponent_packComponents,
      unpackMantissa_packComponents, field_eq_max, field_eq_zero, BitVec.toNat_ofNat,
      toNat_one_append, hbias]
    rw [if_neg (by omega), if_neg (by omega)]
    simp only [finite.injEq, true_and]
    omega
  · have hsmall : m.log2 < 52 := (Nat.log2_lt (by omega)).mpr (by omega)
    have he : e = -1074 := hfirst.resolve_left hleads
    rw [if_neg hrange, if_neg (by omega), UnpackedFloat.unpack]
    simp only [unpackSign_packComponents, Sign.ofBitVec_toBitVec, unpackExponent_packComponents,
      unpackMantissa_packComponents, field_eq_max, field_eq_zero, BitVec.toNat_ofNat, hbias]
    rw [if_neg (by decide), if_pos (by decide), dif_neg (by omega)]
    simp only [finite.injEq, true_and]
    omega

/-- Parts with an exponent beyond all that can be stored become an infinity. -/
theorem unpack_pack_of_lt {s : Sign} {m : Nat} {e : Int} (hm : 0 < m) (h : 971 < e) :
    (Float.Model.pack (.finite s m e hm)).unpack = .infinity s := by
  have hbias : (Format.binary64.exponentBias : Int) = 1023 := rfl
  unfold Float.Model.unpack Float.Model.pack UnpackedFloat.pack
  simp only [hbias]
  rw [if_pos (by omega)]
  exact unpack_pack_infinity s

end Binary

end DesignBridge
