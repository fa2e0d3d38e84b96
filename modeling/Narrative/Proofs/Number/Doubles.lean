import Narrative.Number.Binary

/-!
# Doubles by their bits

A double is infinite, finite or not-a-number, and of the last there is only one.
-/

namespace Narrative.Number

set_option autoImplicit false

open Float.Model Float.Model.UnpackedFloat

theorem exponent_bits (bits : BitVec 64) :
    (@unpackExponent Format.binary64 bits).toNat = bits.toNat % signBit / hiddenBit := by
  simp [unpackExponent, BitVec.extractLsb_toNat, signBit, hiddenBit, Nat.shiftRight_eq_div_pow]
  omega

theorem mantissa_bits (bits : BitVec 64) :
    (@unpackMantissa Format.binary64 bits).toNat = bits.toNat % signBit % hiddenBit := by
  simp [unpackMantissa, BitVec.extractLsb_toNat, signBit, hiddenBit]

theorem of_bits_nan {bits : Nat} (nan : Binary.ofBits bits = .nan) :
    bits % signBit / hiddenBit = 2047 ∧ bits % signBit % hiddenBit ≠ 0 := by
  simp only [Binary.ofBits] at nan
  split at nan
  · rename_i field
    split at nan
    · simp at nan
    · rename_i fraction
      exact ⟨field, fraction⟩
  · split at nan <;> simp at nan

theorem quiet_nan_of_nan {number : Float} (nan : Binary.ofFloat number = .nan) :
    number = quietNan := by
  obtain ⟨field, fraction⟩ := of_bits_nan nan
  obtain ⟨model⟩ := number
  have exponent : @unpackExponent Format.binary64 model.toBits.toBitVec = -1 := by
    apply BitVec.eq_of_toNat_eq
    rw [exponent_bits]
    exact field
  have mantissa : @unpackMantissa Format.binary64 model.toBits.toBitVec ≠ 0 := by
    intro zero
    apply fraction
    have value := mantissa_bits model.toBits.toBitVec
    rw [zero] at value
    exact value.symm
  have canonical := model.valid.eq_packedNaN exponent mantissa
  have quiet : quietNan.toModel.toBits.toBitVec = packedNaN Format.binary64 := by decide
  have bits : model.toBits = quietNan.toModel.toBits := by
    apply UInt64.toBitVec_inj.mp
    rw [canonical, quiet]
  obtain ⟨word, valid⟩ := model
  simp only at bits
  subst bits
  rfl

end Narrative.Number
