import Mathlib
import Narrative.Number.Shortest
import Narrative.Proofs.Number.Doubles

/-!
# Rounding to the nearest double

A fraction that lies in the neighbourhood of a double is rounded to it, a fraction halfway to the next double
to the one with the even significand. The same holds of decimals, and a double is told by its sign,
significand and exponent.
-/

namespace Narrative.Number

set_option autoImplicit false

section Bits

/-- Significands and exponents that finite doubles have: only the least exponent goes without the hidden
bit. -/
structure Fits (significand exponent : Nat) : Prop where
  below : significand < significandBound
  hidden : 0 < exponent → hiddenBit ≤ significand
  range : exponent ≤ 2045

theorem fits_of_bits {bits significand exponent : Nat} {negative : Bool}
    (finite : Binary.ofBits bits = .finite negative significand exponent) : Fits significand exponent := by
  have fraction := Nat.mod_lt (bits % signBit) (show 0 < hiddenBit by decide)
  have field : bits % signBit / hiddenBit < 2048 :=
    Nat.div_lt_of_lt_mul (Nat.mod_lt bits (by decide))
  simp only [Binary.ofBits] at finite
  split at finite
  · split at finite <;> cases finite
  · split at finite
    · cases finite
      exact ⟨Nat.lt_trans fraction (by decide), fun high => absurd high (Nat.lt_irrefl 0), Nat.zero_le _⟩
    · cases finite
      exact ⟨Nat.add_lt_add_left fraction hiddenBit, fun _ => Nat.le_add_right _ _, by omega⟩

theorem fits_of_float {number : Float} {negative : Bool} {significand exponent : Nat}
    (finite : Binary.ofFloat number = .finite negative significand exponent) :
    Fits significand exponent :=
  fits_of_bits finite

/-- The sign bit and the bits below it, up to those of infinity, are the double's bits. -/
theorem with_sign_of_bits {bits : Nat} (short : bits < 2 * signBit)
    (ordered : bits % signBit ≤ infinityBits) :
    withSign (decide (signBit ≤ bits)) (bits % signBit) = Float.ofBits (UInt64.ofNat bits) := by
  have clamped : (if bits % signBit < infinityBits then bits % signBit else infinityBits) =
      bits % signBit := by
    split
    · rfl
    · exact Nat.le_antisymm (Nat.le_of_not_lt ‹_›) ordered
  simp only [withSign, clamped]
  by_cases negative : signBit ≤ bits
  · have below : bits - signBit < signBit := by omega
    have magnitude : bits % signBit = bits - signBit := by
      rw [Nat.mod_eq_sub_mod negative, Nat.mod_eq_of_lt below]
    rw [if_pos (decide_eq_true negative), magnitude, Nat.add_sub_cancel' negative]
  · rw [if_neg (by simpa using negative), Nat.mod_eq_of_lt (Nat.lt_of_not_le negative)]

/-- What stands for a number is told by its sign bit and the bits below it. -/
theorem to_float_with_sign {bits : Nat} (number : Binary.ofBits bits ≠ .nan) :
    (Binary.ofBits bits).toFloat = withSign (decide (signBit ≤ bits)) (bits % signBit) ∧
      bits % signBit ≤ infinityBits := by
  have parts := Nat.div_add_mod (bits % signBit) hiddenBit
  have fraction := Nat.mod_lt (bits % signBit) (show 0 < hiddenBit by decide)
  have field : bits % signBit / hiddenBit < 2048 :=
    Nat.div_lt_of_lt_mul (Nat.mod_lt bits (by decide))
  have top : infinityBits = hiddenBit * 2047 := rfl
  simp only [Binary.ofBits] at number ⊢
  generalize bits % signBit / hiddenBit = exponent at *
  generalize bits % signBit % hiddenBit = rest at *
  by_cases infinite : exponent = 2047
  · rw [if_pos infinite] at number ⊢
    by_cases exact_power : rest = 0
    · rw [if_pos exact_power, Binary.toFloat, ← parts, infinite, exact_power, top]
      exact ⟨rfl, le_refl _⟩
    · rw [if_neg exact_power] at number
      exact absurd rfl number
  · rw [if_neg infinite]
    by_cases least : exponent = 0
    · subst least
      rw [if_pos rfl, Binary.toFloat, ← parts, top, Nat.mul_zero, Nat.zero_mul]
      exact ⟨rfl, by omega⟩
    · obtain ⟨power, rfl⟩ : ∃ power, exponent = power + 1 := ⟨exponent - 1, by omega⟩
      have bound : hiddenBit * (power + 1) ≤ hiddenBit * 2046 := Nat.mul_le_mul_left _ (by omega)
      have carried : power * hiddenBit + (hiddenBit + rest) = hiddenBit * (power + 1) + rest := by ring
      rw [if_neg least, Binary.toFloat, ← parts, Nat.add_sub_cancel, carried, top]
      exact ⟨rfl, by omega⟩

/-- A double is the one that its sign, significand and exponent stand for. -/
theorem to_float_of_float (number : Float) : (Binary.ofFloat number).toFloat = number := by
  by_cases nan : Binary.ofFloat number = .nan
  · rw [nan, quiet_nan_of_nan nan]
    rfl
  · have short : number.toBits.toNat < 2 * signBit := number.toBits.toNat_lt
    obtain ⟨whole, ordered⟩ := to_float_with_sign nan
    rw [Binary.ofFloat, whole, with_sign_of_bits short ordered, UInt64.ofNat_toNat, Float.ofBits_toBits]

end Bits

section Nearest

/-- A fraction at most half away from a whole number, and less than half from an odd one, is rounded to it. -/
theorem nearest_even_of_near {numerator denominator whole : Nat}
    (low : 2 * whole * denominator ≤ 2 * numerator + denominator)
    (high : 2 * numerator ≤ 2 * whole * denominator + denominator)
    (odd : whole % 2 = 1 →
      2 * whole * denominator < 2 * numerator + denominator ∧
        2 * numerator < 2 * whole * denominator + denominator)
    (positive : 0 < denominator) : nearestEven numerator denominator = whole := by
  have parts := Nat.div_add_mod numerator denominator
  have rest := Nat.mod_lt numerator positive
  simp only [nearestEven]
  generalize numerator / denominator = quotient at *
  generalize numerator % denominator = remainder at *
  subst parts
  have below : quotient ≤ whole := by
    by_contra above
    have step : 2 * (whole + 1) * denominator ≤ 2 * quotient * denominator :=
      Nat.mul_le_mul_right _ (by omega)
    nlinarith
  have above : whole ≤ quotient + 1 := by
    by_contra below
    have step : 2 * (quotient + 2) * denominator ≤ 2 * whole * denominator :=
      Nat.mul_le_mul_right _ (by omega)
    nlinarith
  rcases (show whole = quotient ∨ whole = quotient + 1 by omega) with rfl | rfl
  · have product : 2 * whole * denominator = 2 * (denominator * whole) := by ring
    rw [product] at high odd
    split
    · rfl
    · split <;> omega
  · have product : 2 * (quotient + 1) * denominator =
        2 * (denominator * quotient) + 2 * denominator := by ring
    rw [product] at low odd
    split
    · omega
    · split <;> omega

theorem power_of_two_pos (count : Nat) : 0 < powerOfTwo count :=
  Nat.two_pow_pos count

theorem power_of_two_mono {first second : Nat} (le : first ≤ second) :
    powerOfTwo first ≤ powerOfTwo second :=
  Nat.pow_le_pow_right (by decide) le

theorem power_of_two_add (first second : Nat) :
    powerOfTwo (first + second) = powerOfTwo first * powerOfTwo second :=
  Nat.pow_add 2 first second

/-- The fraction `numerator / denominator` lies in the neighbourhood of the double. -/
def IsNear (significand exponent numerator denominator : Nat) : Prop :=
  (neighbourhood significand exponent).holds denominator (numerator * powerOfTwo 1076) = true

variable {significand exponent numerator denominator : Nat}

/-- Half the gap below is a quarter of the unit where the gap is half as wide, and there the significand is
even. -/
theorem near_bounds (near : IsNear significand exponent numerator denominator) :
    (4 * significand - 2) * (powerOfTwo exponent * denominator) ≤ 4 * (numerator * powerOfTwo 1074) ∧
    (significand = hiddenBit → 0 < exponent →
      (4 * significand - 1) * (powerOfTwo exponent * denominator) ≤ 4 * (numerator * powerOfTwo 1074)) ∧
    4 * (numerator * powerOfTwo 1074) ≤ (4 * significand + 2) * (powerOfTwo exponent * denominator) ∧
    (significand % 2 = 1 →
      (4 * significand - 2) * (powerOfTwo exponent * denominator) < 4 * (numerator * powerOfTwo 1074) ∧
      4 * (numerator * powerOfTwo 1074) < (4 * significand + 2) * (powerOfTwo exponent * denominator)) := by
  have point : numerator * powerOfTwo 1076 = 4 * (numerator * powerOfTwo 1074) := by
    have power : powerOfTwo 1076 = powerOfTwo 1074 * powerOfTwo 2 := power_of_two_add 1074 2
    have four : powerOfTwo 2 = 4 := rfl
    rw [power, four]
    ring
  simp only [IsNear, Neighbourhood.holds, neighbourhood, point, Nat.mul_assoc] at near
  generalize numerator * powerOfTwo 1074 = units at *
  generalize powerOfTwo exponent * denominator = unit at *
  have wide : (4 * significand - 2) * unit ≤
      (4 * significand - if significand = hiddenBit ∧ 0 < exponent then 1 else 2) * unit := by
    apply Nat.mul_le_mul_right
    split <;> omega
  have narrow : significand = hiddenBit → 0 < exponent →
      (4 * significand - if significand = hiddenBit ∧ 0 < exponent then 1 else 2) * unit =
        (4 * significand - 1) * unit := by
    intro least high
    rw [if_pos ⟨least, high⟩]
  by_cases even : significand % 2 = 0
  · simp only [even, decide_true, if_true, Bool.and_eq_true, decide_eq_true_eq] at near
    refine ⟨wide.trans near.1, ?_, near.2, fun odd => by omega⟩
    intro least high
    rw [← narrow least high]
    exact near.1
  · simp only [even, decide_false, Bool.false_eq_true, if_false, Bool.and_eq_true,
      decide_eq_true_eq] at near
    refine ⟨wide.trans near.1.le, ?_, near.2.le, fun _ => ⟨wide.trans_lt near.1, near.2⟩⟩
    intro least high
    rw [← narrow least high]
    exact near.1.le

theorem log_of_quotient {units denominator power : Nat} (low : powerOfTwo power * denominator ≤ units)
    (high : units < powerOfTwo (power + 1) * denominator) (positive : 0 < denominator) :
    Nat.log2 (units / denominator) = power := by
  have above : powerOfTwo power ≤ units / denominator := (Nat.le_div_iff_mul_le positive).mpr low
  have below : units / denominator < powerOfTwo (power + 1) := (Nat.div_lt_iff_lt_mul positive).mpr high
  have some_power : 0 < powerOfTwo power := power_of_two_pos power
  exact (Nat.log2_eq_iff (by omega)).mpr ⟨above, below⟩

theorem power_of_two_succ (count : Nat) : powerOfTwo (count + 1) = powerOfTwo count * 2 :=
  Nat.pow_succ 2 count

theorem double_unit (exponent denominator : Nat) :
    powerOfTwo (exponent + 1) * denominator = 2 * (powerOfTwo exponent * denominator) := by
  rw [power_of_two_succ]
  ring

theorem hidden_unit (exponent denominator : Nat) :
    powerOfTwo (52 + exponent) * denominator = hiddenBit * (powerOfTwo exponent * denominator) := by
  rw [power_of_two_add, Nat.mul_assoc]
  rfl

/-- The unit of a double is taken where the fraction reaches the hidden bit, and where there is no smaller
one. -/
theorem nearest_even_at_unit (near : IsNear significand exponent numerator denominator)
    (positive : 0 < denominator) :
    nearestEven (numerator * powerOfTwo 1074) (denominator * powerOfTwo exponent) = significand := by
  obtain ⟨low, -, high, odd⟩ := near_bounds near
  have spaced : 0 < powerOfTwo exponent * denominator := Nat.mul_pos (power_of_two_pos exponent) positive
  rw [Nat.mul_comm denominator]
  generalize numerator * powerOfTwo 1074 = units at *
  generalize powerOfTwo exponent * denominator = unit at *
  have product : 2 * significand * unit = 2 * (significand * unit) := Nat.mul_assoc _ _ _
  have lower : 4 * (significand * unit) ≤ (4 * significand - 2) * unit + 2 * unit := by
    rw [← Nat.add_mul, ← Nat.mul_assoc]
    exact Nat.mul_le_mul_right unit (by omega)
  have upper : (4 * significand + 2) * unit = 4 * (significand * unit) + 2 * unit := by ring
  apply nearest_even_of_near _ _ _ ‹_›
  · omega
  · omega
  · intro single
    obtain ⟨lowOdd, highOdd⟩ := odd single
    constructor <;> omega

/-- Right below a power of two the unit is half as large, and the significand is twice as large. -/
theorem nearest_even_below_power (near : IsNear hiddenBit (exponent + 1) numerator denominator)
    (small : numerator * powerOfTwo 1074 < hiddenBit * (powerOfTwo (exponent + 1) * denominator))
    (positive : 0 < denominator) :
    hiddenBit * (powerOfTwo exponent * denominator) ≤ numerator * powerOfTwo 1074 ∧
      nearestEven (numerator * powerOfTwo 1074) (denominator * powerOfTwo exponent) = 2 * hiddenBit := by
  obtain ⟨-, least, -, -⟩ := near_bounds near
  have low := least rfl (Nat.succ_pos exponent)
  have spaced : 0 < powerOfTwo exponent * denominator := Nat.mul_pos (power_of_two_pos exponent) positive
  rw [double_unit] at low small
  rw [Nat.mul_comm denominator]
  generalize numerator * powerOfTwo 1074 = units at *
  generalize powerOfTwo exponent * denominator = unit at *
  have lower : 8 * (hiddenBit * unit) = (4 * hiddenBit - 1) * (2 * unit) + 2 * unit := by
    have carried : 4 * hiddenBit - 1 + 1 = 4 * hiddenBit := rfl
    calc
      8 * (hiddenBit * unit) = (4 * hiddenBit) * (2 * unit) := by ring
      _ = (4 * hiddenBit - 1) * (2 * unit) + 2 * unit := by rw [← Nat.succ_mul, Nat.succ_eq_add_one, carried]
  have upper : hiddenBit * (2 * unit) = 2 * (hiddenBit * unit) := by ring
  have product : 2 * (2 * hiddenBit) * unit = 4 * (hiddenBit * unit) := by ring
  have some_unit : unit ≤ hiddenBit * unit := Nat.le_mul_of_pos_left unit (by decide)
  refine ⟨by omega, ?_⟩
  apply nearest_even_of_near _ _ _ ‹_›
  · omega
  · omega
  · intro single
    rw [Nat.mul_mod_right] at single
    cases single

/-- What lies below the hidden bit's place is near no other significand with the hidden bit. -/
theorem significand_of_small (near : IsNear significand exponent numerator denominator)
    (small : numerator * powerOfTwo 1074 < hiddenBit * (powerOfTwo exponent * denominator))
    (hidden : hiddenBit ≤ significand) : significand = hiddenBit := by
  obtain ⟨low, -, -, -⟩ := near_bounds near
  by_contra other
  have wide : 4 * (hiddenBit * (powerOfTwo exponent * denominator)) ≤
      (4 * significand - 2) * (powerOfTwo exponent * denominator) := by
    rw [← Nat.mul_assoc]
    exact Nat.mul_le_mul_right _ (by omega)
  omega

theorem near_below_bound (near : IsNear significand exponent numerator denominator)
    (fits : Fits significand exponent) (positive : 0 < denominator) :
    numerator * powerOfTwo 1074 < 2 * (hiddenBit * (powerOfTwo exponent * denominator)) := by
  obtain ⟨-, -, high, -⟩ := near_bounds near
  have spaced : 0 < powerOfTwo exponent * denominator := Nat.mul_pos (power_of_two_pos exponent) positive
  have below : significand < 2 * hiddenBit := fits.below
  generalize numerator * powerOfTwo 1074 = units at *
  generalize powerOfTwo exponent * denominator = unit at *
  have wide : (4 * significand + 2) * unit + 2 * unit ≤ 8 * (hiddenBit * unit) := by
    rw [← Nat.add_mul, ← Nat.mul_assoc]
    exact Nat.mul_le_mul_right unit (by omega)
  omega

/-- A fraction in the neighbourhood of a double is rounded to the double. -/
theorem round_quotient_of_near (near : IsNear significand exponent numerator denominator)
    (fits : Fits significand exponent) (positive : 0 < denominator) (negative : Bool) :
    roundQuotient negative numerator denominator =
      withSign negative (exponent * hiddenBit + significand) := by
  have bound := near_below_bound near fits positive
  have unit := nearest_even_at_unit near positive
  simp only [roundQuotient]
  by_cases small : numerator * powerOfTwo 1074 < hiddenBit * (powerOfTwo exponent * denominator)
  · cases exponent with
    | zero =>
        have least : Nat.log2 (numerator * powerOfTwo 1074 / denominator) - 52 = 0 := by
          rw [← hidden_unit] at small
          have quotient := (Nat.div_lt_iff_lt_mul positive).mpr small
          by_cases nothing : numerator * powerOfTwo 1074 / denominator = 0
          · rw [nothing]
            rfl
          · exact Nat.sub_eq_zero_of_le (Nat.lt_succ_iff.mp
              ((Nat.log2_lt nothing).mpr (quotient.trans (by decide))))
        rw [least, unit]
    | succ exponent =>
        obtain rfl := significand_of_small near small (fits.hidden (Nat.succ_pos exponent))
        obtain ⟨reached, rounded⟩ := nearest_even_below_power near small positive
        have log : Nat.log2 (numerator * powerOfTwo 1074 / denominator) = 52 + exponent := by
          rw [← hidden_unit] at reached small
          exact log_of_quotient reached small positive
        have carried : exponent * hiddenBit + 2 * hiddenBit = (exponent + 1) * hiddenBit + hiddenBit := by
          ring
        rw [log, Nat.add_sub_cancel_left, rounded, carried]
  · have log : Nat.log2 (numerator * powerOfTwo 1074 / denominator) = 52 + exponent := by
      rw [← hidden_unit] at small bound
      have next := hidden_unit (exponent + 1) denominator
      rw [double_unit, Nat.mul_left_comm, ← hidden_unit] at next
      exact log_of_quotient (Nat.le_of_not_lt small) (by rw [Nat.add_assoc, next]; exact bound) positive
    rw [log, Nat.add_sub_cancel_left, unit]

end Nearest

section Decimals

variable {significand exponent digits : Nat} {place : Int}

/-- A decimal in the neighbourhood of a double. -/
def IsNearDecimal (significand exponent digits : Nat) (place : Int) : Prop :=
  IsNear significand exponent (digits * powerOfTen place.toNat) (powerOfTen (-place).toNat)

theorem power_of_ten_pos (count : Nat) : 0 < powerOfTen count :=
  Nat.pow_pos (by decide)

theorem power_of_ten_of_nonpos {place : Int} (below : place ≤ 0) : powerOfTen place.toNat = 1 := by
  rw [Int.toNat_of_nonpos below]
  rfl

theorem near_scaled {numerator denominator factor : Nat} (positive : 0 < factor) :
    IsNear significand exponent (numerator * factor) (denominator * factor) ↔
      IsNear significand exponent numerator denominator := by
  have point : numerator * factor * powerOfTwo 1076 = numerator * powerOfTwo 1076 * factor := by ring
  have le_iff : ∀ first second : Nat, first * factor ≤ second * factor ↔ first ≤ second :=
    fun first second => Nat.mul_le_mul_right_iff positive
  have lt_iff : ∀ first second : Nat, first * factor < second * factor ↔ first < second :=
    fun first second => Nat.mul_lt_mul_right positive
  simp only [IsNear, Neighbourhood.holds, point, ← Nat.mul_assoc, le_iff, lt_iff]

theorem near_congr {numerator denominator other divisor : Nat} (positive : 0 < denominator)
    (some_divisor : 0 < divisor) (same : numerator * divisor = other * denominator) :
    IsNear significand exponent numerator denominator ↔ IsNear significand exponent other divisor := by
  rw [← near_scaled some_divisor, same, Nat.mul_comm denominator, near_scaled positive]

theorem power_of_ten_add (first second : Nat) :
    powerOfTen (first + second) = powerOfTen first * powerOfTen second :=
  Nat.pow_add 10 first second

/-- Zeros behind the digits of a decimal move only its place. -/
theorem near_with_zeros (zeros : Nat) :
    IsNearDecimal significand exponent (digits * powerOfTen zeros) (place - zeros) ↔
      IsNearDecimal significand exponent digits place := by
  apply near_congr (power_of_ten_pos _) (power_of_ten_pos _)
  have places : zeros + (place - zeros).toNat + (-place).toNat =
      place.toNat + (-(place - zeros)).toNat := by
    omega
  simp only [Nat.mul_assoc, ← power_of_ten_add, places]

theorem two_le_ten (count : Nat) : powerOfTwo (3 * count) ≤ powerOfTen count := by
  change 2 ^ (3 * count) ≤ 10 ^ count
  rw [Nat.pow_mul]
  exact Nat.pow_le_pow_left (by decide) count

theorem digits_of_near (near : IsNearDecimal significand exponent digits place)
    (positive : 0 < significand) : 0 < digits := by
  obtain ⟨low, -, -, -⟩ := near_bounds near
  have spaced : 0 < powerOfTwo exponent * powerOfTen (-place).toNat :=
    Nat.mul_pos (power_of_two_pos exponent) (power_of_ten_pos _)
  have some_low : 0 < (4 * significand - 2) * (powerOfTwo exponent * powerOfTen (-place).toNat) :=
    Nat.mul_pos (by omega) spaced
  by_contra nothing
  obtain rfl : digits = 0 := by omega
  simp only [Nat.zero_mul, Nat.mul_zero] at low
  omega

/-- No double reaches the four hundredth power of ten. -/
theorem place_of_near (near : IsNearDecimal significand exponent digits place)
    (fits : Fits significand exponent) (some_digit : 0 < digits) : place ≤ 400 := by
  by_contra large
  obtain ⟨-, -, high, -⟩ := near_bounds near
  have one : powerOfTen (-place).toNat = 1 := power_of_ten_of_nonpos (by omega)
  have least : powerOfTwo (2100 + 1) ≤ digits * powerOfTen place.toNat * powerOfTwo 1074 :=
    calc
      powerOfTwo (2100 + 1) ≤ powerOfTwo (3 * place.toNat + 1074) := power_of_two_mono (by omega)
      _ = powerOfTwo (3 * place.toNat) * powerOfTwo 1074 := power_of_two_add _ _
      _ ≤ digits * powerOfTen place.toNat * powerOfTwo 1074 := by
        apply Nat.mul_le_mul_right
        exact (two_le_ten place.toNat).trans (Nat.le_mul_of_pos_left _ some_digit)
  have greatest : (4 * significand + 2) * powerOfTwo exponent ≤ powerOfTwo 2100 :=
    calc
      (4 * significand + 2) * powerOfTwo exponent ≤ powerOfTwo 55 * powerOfTwo 2045 := by
        have below : significand < powerOfTwo 53 := fits.below
        have four : powerOfTwo 55 = 4 * powerOfTwo 53 := rfl
        exact Nat.mul_le_mul (by omega) (power_of_two_mono fits.range)
      _ = powerOfTwo 2100 := (power_of_two_add 55 2045).symm
  have some_power : 0 < powerOfTwo 2100 := power_of_two_pos 2100
  have double : powerOfTwo (2100 + 1) = powerOfTwo 2100 * 2 := power_of_two_succ 2100
  rw [one, Nat.mul_one] at high
  generalize powerOfTwo 2100 = top at *
  omega

/-- Half the least double is above what few digits far behind the point come to. -/
theorem size_of_near (near : IsNearDecimal significand exponent digits place)
    (positive : 0 < significand) (below : place < 0) : -1200 ≤ place + Int.ofNat (Nat.log2 digits) := by
  by_contra small
  rw [Int.ofNat_eq_natCast] at small
  obtain ⟨low, -, -, -⟩ := near_bounds near
  have one : powerOfTen place.toNat = 1 := power_of_ten_of_nonpos below.le
  have short : digits < powerOfTwo (Nat.log2 digits + 1) := Nat.lt_log2_self
  have least : 2 * powerOfTen (-place).toNat ≤
      (4 * significand - 2) * (powerOfTwo exponent * powerOfTen (-place).toNat) :=
    Nat.mul_le_mul (by omega) (Nat.le_mul_of_pos_left _ (power_of_two_pos exponent))
  have fine : powerOfTwo (Nat.log2 digits + 1 + 1074 + 1) ≤ powerOfTen (-place).toNat :=
    calc
      powerOfTwo (Nat.log2 digits + 1 + 1074 + 1) ≤ powerOfTwo (3 * (-place).toNat) :=
        power_of_two_mono (by omega)
      _ ≤ powerOfTen (-place).toNat := two_le_ten _
  have units : digits * powerOfTwo 1074 < powerOfTwo (Nat.log2 digits + 1) * powerOfTwo 1074 :=
    Nat.mul_lt_mul_of_pos_right short (power_of_two_pos 1074)
  have double : powerOfTwo (Nat.log2 digits + 1 + 1074 + 1) =
      powerOfTwo (Nat.log2 digits + 1 + 1074) * 2 := power_of_two_succ _
  rw [← power_of_two_add] at units
  rw [one, Nat.mul_one] at low
  generalize powerOfTwo (Nat.log2 digits + 1 + 1074) = top at *
  omega

/-- A decimal in the neighbourhood of a double reads as the double. -/
theorem of_decimal_of_near (near : IsNearDecimal significand exponent digits place)
    (fits : Fits significand exponent) (positive : 0 < significand) (negative : Bool) :
    ofDecimal negative digits place = (Binary.finite negative significand exponent).toFloat := by
  have some_digit := digits_of_near near positive
  have within := place_of_near near fits some_digit
  rw [ofDecimal, if_neg (by omega), if_neg (by omega), Binary.toFloat]
  split
  · rename_i whole
    have one : powerOfTen (-place).toNat = 1 := power_of_ten_of_nonpos (by omega)
    rw [IsNearDecimal, one] at near
    exact round_quotient_of_near near fits Nat.one_pos negative
  · rename_i below
    have beyond := size_of_near near positive (by omega)
    have one : powerOfTen place.toNat = 1 := power_of_ten_of_nonpos (by omega)
    rw [if_neg (by omega)]
    rw [IsNearDecimal, one, Nat.mul_one] at near
    exact round_quotient_of_near near fits (power_of_ten_pos _) negative

end Decimals

end Narrative.Number
