import Mathlib
import Narrative.Json.Figure
import Narrative.Proofs.Number.Rounding

/-!
# Operations that give a number

Not-a-number comes out of a product or a quotient only if it goes in, or if a zero meets an infinity or its
like. Rounding and a change of the sign never give it. So no figure of a document stands for it.
-/

namespace Narrative

set_option autoImplicit false

namespace Number

open Float.Model (UnpackedFloat Format)
open Float.Model.UnpackedFloat hiding isNaN

section Packing

/-- The greatest exponent belongs to not-a-number unless the fraction is zero. -/
theorem definite_of_fraction {bits : BitVec Format.binary64.numBits}
    (whole : unpackExponent bits = -1#_ → unpackMantissa bits = 0#_) :
    (unpack Format.binary64 bits).isNaN = false := by
  unfold unpack
  dsimp only
  split
  · rename_i full
    rw [if_pos (whole full)]
    rfl
  · split
    · split <;> rfl
    · rfl

theorem infinity_definite (sign : Sign) :
    (unpack Format.binary64 (packedInfinity Format.binary64 sign)).isNaN = false := by
  apply definite_of_fraction
  intro _
  rw [packedInfinity, unpackMantissa_packComponents]
  rfl

/-- Packed and unpacked again, only not-a-number is none. -/
theorem definite_of_packed {parts : UnpackedFloat} (definite : parts.isNaN = false) :
    (unpack Format.binary64 (pack Format.binary64 parts)).isNaN = false := by
  cases parts with
  | notANumber => cases definite
  | infinity sign => exact infinity_definite sign
  | zero sign => simp [pack, UnpackedFloat.isNaN]
  | finite sign mantissa exponent positive =>
      rw [pack]
      dsimp only
      split
      · exact infinity_definite sign
      · rename_i low
        apply definite_of_fraction
        intro full
        exfalso
        split at full
        · rw [unpackExponent_packComponents] at full
          generalize Int.toNat _ = biased at low full
          have value : biased % 2 ^ 11 = 2 ^ 11 - 1 := congrArg BitVec.toNat full
          have below : ¬2 ^ 11 ≤ biased + 1 := low
          omega
        · rw [unpackExponent_packComponents] at full
          exact absurd full (by decide)

/-- Below the greatest exponent, a double is unpacked from its bits as they are. -/
theorem unpack_of_bits {bits : UInt64} (finite : @unpackExponent Format.binary64 bits.toBitVec ≠ -1#11) :
    (Float.ofBits bits).toModel.unpack = unpack Format.binary64 bits.toBitVec := by
  have number : ¬@isNaNBits Format.binary64 bits.toBitVec = true := by
    rw [isNaNBits, decide_eq_true_eq]
    exact fun nan => finite nan.1
  change unpack Format.binary64 (pack Format.binary64 (unpack Format.binary64 bits.toBitVec)) = _
  rw [pack_unpack, if_neg number]

end Packing

section Operations

theorem exists_bits (negative : Bool) (magnitude : Nat) :
    ∃ bits : UInt64, withSign negative magnitude = Float.ofBits bits ∧
      bits.toBitVec.toNat % signBit = min magnitude infinityBits := by
  refine ⟨_, rfl, ?_⟩
  have least : (if magnitude < infinityBits then magnitude else infinityBits) = min magnitude infinityBits := by
    split <;> omega
  rw [UInt64.toNat_toBitVec, UInt64.toNat_ofNat', least]
  simp only [signBit, infinityBits]
  split <;> omega

/-- The patterns up to those of infinity stand for numbers. -/
theorem with_sign_definite (negative : Bool) (magnitude : Nat) :
    (withSign negative magnitude).isNaN = false := by
  obtain ⟨bits, same, word⟩ := exists_bits negative magnitude
  rw [same]
  apply definite_of_packed
  apply definite_of_fraction
  intro full
  have exponent := exponent_bits bits.toBitVec
  apply BitVec.eq_of_toNat_eq
  rw [mantissa_bits, word]
  rw [full, word] at exponent
  have greatest : min magnitude infinityBits / hiddenBit = 2047 := exponent.symm
  change min magnitude infinityBits % hiddenBit = 0
  simp only [infinityBits, hiddenBit] at greatest ⊢
  omega

theorem neg_definite {number : Float} (definite : number.isNaN = false) : (-number).isNaN = false := by
  apply definite_of_packed
  change number.toModel.unpack.isNaN = false at definite
  generalize number.toModel.unpack = parts at definite ⊢
  cases parts <;> first | rfl | cases definite

/-- A double that is neither zero nor infinite. -/
def isScale (number : Float) : Bool :=
  match number.toModel.unpack with
  | .finite _ _ _ _ => true
  | _ => false

theorem round_definite (sign : Sign) (mantissa : Nat) (exponent : Int) (accuracy : Accuracy) :
    (roundWithAccuracy Format.binary64 sign mantissa exponent accuracy).isNaN = false := by
  rw [roundWithAccuracy]
  dsimp only
  split <;> rfl

/-- An operation that gives a number wherever the second is a scale and the first a number. -/
theorem definite_of_scale {operation : UnpackedFloat → UnpackedFloat → UnpackedFloat}
    (gives : ∀ parts sign mantissa exponent positive, parts.isNaN = false →
      (operation parts (.finite sign mantissa exponent positive)).isNaN = false)
    {number power : Float} (definite : number.isNaN = false) (scale : isScale power = true) :
    (unpack Format.binary64
      (pack Format.binary64 (operation number.toModel.unpack power.toModel.unpack))).isNaN = false := by
  apply definite_of_packed
  change number.toModel.unpack.isNaN = false at definite
  rw [isScale] at scale
  generalize power.toModel.unpack = factor at scale ⊢
  cases factor with
  | finite sign mantissa exponent positive => exact gives _ sign mantissa exponent positive definite
  | _ => cases scale

theorem div_definite {number power : Float} (definite : number.isNaN = false)
    (scale : isScale power = true) : (number / power).isNaN = false := by
  apply definite_of_scale _ definite scale
  intro parts sign mantissa exponent positive definite
  cases parts with
  | notANumber => cases definite
  | finite => exact round_definite _ _ _ _
  | _ => rfl

theorem mul_definite {number power : Float} (definite : number.isNaN = false)
    (scale : isScale power = true) : (number * power).isNaN = false := by
  apply definite_of_scale _ definite scale
  intro parts sign mantissa exponent positive definite
  cases parts with
  | notANumber => cases definite
  | finite => exact round_definite _ _ _ _
  | _ => rfl

theorem round_quotient_definite (negative : Bool) (numerator denominator : Nat) :
    (roundQuotient negative numerator denominator).isNaN = false :=
  with_sign_definite negative _

theorem of_whole_definite (whole : Int) : (ofWhole whole).isNaN = false :=
  round_quotient_definite _ _ _

/-- The patterns between those of zero and infinity stand for doubles that are neither. -/
theorem scale_of_with_sign (negative : Bool) {magnitude : Nat} (positive : 0 < magnitude)
    (below : magnitude < infinityBits) : isScale (withSign negative magnitude) = true := by
  obtain ⟨bits, same, word⟩ := exists_bits negative magnitude
  rw [min_eq_left below.le] at word
  have exponent := exponent_bits bits.toBitVec
  have mantissa := mantissa_bits bits.toBitVec
  rw [word] at exponent mantissa
  have finite : @unpackExponent Format.binary64 bits.toBitVec ≠ -1#11 := by
    intro full
    rw [full] at exponent
    have greatest : 2047 = magnitude / hiddenBit := exponent
    simp only [infinityBits, hiddenBit] at below greatest
    omega
  rw [same, isScale, unpack_of_bits finite, unpack]
  dsimp only
  rw [if_neg finite]
  by_cases least : @unpackExponent Format.binary64 bits.toBitVec = 0#11
  · have fraction : @unpackMantissa Format.binary64 bits.toBitVec ≠ 0#52 := by
      intro none
      rw [least] at exponent
      rw [none] at mantissa
      have quotient : 0 = magnitude / hiddenBit := exponent
      have rest : 0 = magnitude % hiddenBit := mantissa
      simp only [hiddenBit] at quotient rest
      omega
    rw [if_pos least, dif_neg fraction]
  · rw [if_neg least]

theorem nearest_even_bounds (numerator denominator : Nat) :
    numerator / denominator ≤ nearestEven numerator denominator ∧
      nearestEven numerator denominator ≤ numerator / denominator + 1 := by
  simp only [nearestEven]
  split
  · omega
  · split <;> omega

theorem log_bounds {units low high : Nat} (reached : powerOfTwo low ≤ units) (below : units < powerOfTwo high) :
    low ≤ Nat.log2 units ∧ Nat.log2 units < high := by
  have some_units : units ≠ 0 := ((power_of_two_pos low).trans_le reached).ne'
  exact ⟨(Nat.le_log2 some_units).mpr reached, (Nat.log2_lt some_units).mpr below⟩

/-- A whole number of less than `2 ^ 1023` is rounded to a finite double. -/
theorem scale_of_whole {whole : Nat} (positive : 0 < whole) (small : whole < powerOfTwo 1023) :
    isScale (roundQuotient false whole 1) = true := by
  have low : powerOfTwo 1074 ≤ whole * powerOfTwo 1074 := Nat.le_mul_of_pos_left _ positive
  have high : whole * powerOfTwo 1074 < powerOfTwo (1023 + 1074) := by
    rw [power_of_two_add]
    exact Nat.mul_lt_mul_of_pos_right small (power_of_two_pos 1074)
  simp only [roundQuotient, Nat.div_one, Nat.one_mul]
  generalize whole * powerOfTwo 1074 = units at low high
  have some_units : units ≠ 0 := ((power_of_two_pos 1074).trans_le low).ne'
  obtain ⟨above, below⟩ := log_bounds low high
  have next : units < powerOfTwo (Nat.log2 units + 1) := Nat.lt_log2_self
  have reached : powerOfTwo (Nat.log2 units) ≤ units := Nat.log2_self_le some_units
  obtain ⟨exponent, log⟩ : ∃ exponent, Nat.log2 units = 52 + exponent := ⟨Nat.log2 units - 52, by omega⟩
  rw [log] at above below next reached
  rw [log, Nat.add_sub_cancel_left]
  have unit := power_of_two_pos exponent
  have least : 0 < units / powerOfTwo exponent :=
    Nat.div_pos ((power_of_two_mono (Nat.le_add_left exponent 52)).trans reached) unit
  have most : units / powerOfTwo exponent < powerOfTwo 53 := by
    have size : 53 + exponent = 52 + exponent + 1 := by omega
    rwa [Nat.div_lt_iff_lt_mul unit, ← power_of_two_add, size]
  obtain ⟨least_even, most_even⟩ := nearest_even_bounds units (powerOfTwo exponent)
  have bound : powerOfTwo 53 = 2 * hiddenBit := rfl
  have top : infinityBits = 2047 * hiddenBit := rfl
  have some_bit : 0 < hiddenBit := by decide
  have carried : exponent * hiddenBit ≤ 2044 * hiddenBit := Nat.mul_le_mul_right _ (by omega)
  apply scale_of_with_sign <;> omega

theorem power_scales {power : Nat} (range : power ≤ 308) :
    isScale (ofDecimal false 1 (Int.ofNat power)) = true := by
  rcases Nat.eq_or_lt_of_le range with rfl | lower
  · decide +kernel
  · have low : ¬(400 : Int) < Int.ofNat power := by
      rw [Int.ofNat_eq_natCast]
      omega
    have whole : (0 : Int) ≤ Int.ofNat power := Int.natCast_nonneg power
    have small : powerOfTen power < powerOfTwo 1023 :=
      (Nat.pow_le_pow_right (by decide) (Nat.le_of_lt_succ lower)).trans_lt (by decide +kernel)
    rw [ofDecimal, if_neg (by decide), if_neg low, if_pos whole, Nat.one_mul]
    exact scale_of_whole (power_of_ten_pos power) small

end Operations

theorem same_of_definite {left right : Float} (definite : left.isNaN = false) :
    same left right = (left == right) := by
  rw [same, definite]
  rfl

/-- Not-a-number is not the same as any number. -/
theorem not_same_quiet_nan {number : Float} (definite : number.isNaN = false) :
    same number quietNan = false := by
  have nan : quietNan = Float.nan := by decide
  rw [same_of_definite definite, ← Bool.not_eq_true, Float.beq_iff_ne_nan_and_eq]
  exact fun equal => equal.2.1 nan

end Number

namespace Json.Figure

open Number

variable {negative : Bool} {significand : Nat} {place : Int} {result : Float}

theorem scale_definite {tries : Nat} {number : Float} (definite : number.isNaN = false)
    (scaled : scale? tries number place = some result) : result.isNaN = false := by
  induction tries generalizing number place with
  | zero => rwa [← Option.some.inj scaled]
  | succ tries induction =>
      rw [scale?] at scaled
      split at scaled
      · rename_i range
        have scale := power_scales range
        dsimp only at scaled
        split at scaled
        · rw [← Option.some.inj scaled]
          exact div_definite definite scale
        · split at scaled
          · cases scaled
          · rw [← Option.some.inj scaled]
            exact mul_definite definite scale
      · split at scaled
        · rwa [← Option.some.inj scaled]
        · split at scaled
          · cases scaled
          · exact induction (div_definite definite (power_scales (le_refl 308))) scaled

theorem real_definite (read : real? negative significand place = some result) : result.isNaN = false := by
  obtain ⟨number, scaled, rfl⟩ := Option.map_eq_some_iff.mp read
  have definite := scale_definite (of_whole_definite _) scaled
  split
  · exact neg_definite definite
  · exact definite

theorem real_value_definite
    (read : (real? negative significand place).map Sum.inr = some (Sum.inr result : Int ⊕ Float)) :
    result.isNaN = false := by
  obtain ⟨number, found, same⟩ := Option.map_eq_some_iff.mp read
  obtain rfl := Sum.inr.inj same
  exact real_definite found

theorem plain_definite {taken : Collected} (read : plain? negative taken = some (.inr result)) :
    result.isNaN = false := by
  rw [plain?] at read
  split at read
  · exact real_value_definite read
  · split at read
    · cases read
    · split at read
      · exact real_value_definite read
      · cases read

/-- No figure of a document stands for not-a-number. -/
theorem Spelling.value_definite {spelling : Spelling} (read : spelling.value? = some (.inr result)) :
    result.isNaN = false := by
  unfold value? at read
  dsimp only at read
  split at read
  · exact plain_definite read
  · split at read
    · exact real_value_definite read
    · split at read
      · split at read
        · obtain rfl := Sum.inr.inj (Option.some.inj read)
          exact with_sign_definite _ _
        · cases read
      · exact real_value_definite read

end Json.Figure

end Narrative
