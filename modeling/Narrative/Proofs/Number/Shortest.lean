import Narrative.Proofs.Number.Rounding

/-!
# Shortest decimals lie near their doubles

The search for a decimal tries ever finer grids and takes a point only from the neighbourhood of the double.
It never runs out of tries: after four hundred of them the grid is finer than the neighbourhood.
-/

namespace Narrative.Number

set_option autoImplicit false

variable {significand exponent : Nat}

theorem near_decimal_iff (digits : Nat) (place : Int) :
    IsNearDecimal significand exponent digits place ↔
      (neighbourhood significand exponent).holds (powerOfTen (-place).toNat)
        (digits * (powerOfTwo 1076 * powerOfTen place.toNat)) = true := by
  rw [IsNearDecimal, IsNear, Nat.mul_assoc, Nat.mul_comm (powerOfTen place.toNat)]

/-- A point of a grid is taken only from the neighbourhood. -/
theorem near_of_at_place {tie : Tie} {place : Int} {digits : Nat}
    (found : (neighbourhood significand exponent).atPlace? tie place = some digits) :
    IsNearDecimal significand exponent digits place := by
  rw [near_decimal_iff]
  simp only [Neighbourhood.atPlace?] at found
  generalize (neighbourhood significand exponent).middle * powerOfTen (-place).toNat /
    (powerOfTwo 1076 * powerOfTen place.toNat) = lower at found
  split at found
  · cases found
  · rename_i here _
    cases found
    exact here
  · rename_i _ here
    cases found
    exact here
  · rename_i here next
    -- Both points beside the middle are inside, and the nearer one is taken.
    have either : digits = lower ∨ digits = lower + 1 := by
      split at found
      · exact Or.inl (Option.some.inj found).symm
      · split at found
        · exact Or.inr (Option.some.inj found).symm
        · split at found
          · exact Or.inr (Option.some.inj found).symm
          · have chosen := (Option.some.inj found).symm
            split at chosen
            · exact Or.inl chosen
            · exact Or.inr chosen
    rcases either with rfl | rfl
    · exact here
    · exact next

theorem near_of_search {tie : Tie} {tries : Nat} {place : Int}
    (reached : ∃ count < tries,
      ((neighbourhood significand exponent).atPlace? tie (place - (count : Int))).isSome = true) :
    IsNearDecimal significand exponent
      ((neighbourhood significand exponent).search tie tries place).digits
      ((neighbourhood significand exponent).search tie tries place).place := by
  induction tries generalizing place with
  | zero =>
      obtain ⟨count, bound, -⟩ := reached
      exact absurd bound (Nat.not_lt_zero count)
  | succ tries induction =>
      rw [Neighbourhood.search]
      split
      · rename_i digits found
        exact near_of_at_place found
      · rename_i missing
        apply induction
        obtain ⟨count, bound, found⟩ := reached
        cases count with
        | zero =>
            rw [Int.natCast_zero, Int.sub_zero, missing] at found
            cases found
        | succ count =>
            refine ⟨count, by omega, ?_⟩
            rwa [show place - ((count + 1 : Nat) : Int) = place - 1 - (count : Int) by omega] at found

theorem Neighbourhood.holds_of_between {around : Neighbourhood} {scale point : Nat}
    (low : around.low * scale < point) (high : point < around.high * scale) :
    around.holds scale point = true := by
  simp only [Neighbourhood.holds, low, high, low.le, high.le, decide_true, Bool.and_self, ite_self]

/-- A quarter of the unit lies between the lower end and the middle. -/
theorem low_to_middle (positive : 0 < significand) (exponent scale : Nat) :
    (neighbourhood significand exponent).low * scale + powerOfTwo exponent * scale ≤
      (neighbourhood significand exponent).middle * scale := by
  rw [← Nat.add_mul]
  apply Nat.mul_le_mul_right
  simp only [neighbourhood]
  rw [← Nat.succ_mul]
  apply Nat.mul_le_mul_right
  split <;> omega

theorem middle_to_high (significand exponent scale : Nat) :
    (neighbourhood significand exponent).middle * scale + powerOfTwo exponent * scale ≤
      (neighbourhood significand exponent).high * scale := by
  rw [← Nat.add_mul]
  apply Nat.mul_le_mul_right
  simp only [neighbourhood]
  rw [← Nat.succ_mul]
  exact Nat.mul_le_mul_right _ (by omega)

/-- Where the grid is no coarser than a quarter of the unit, the point below the middle is inside. -/
theorem at_place_of_fine (tie : Tie) {place : Int}
    (fine : powerOfTwo 1076 * powerOfTen place.toNat ≤ powerOfTwo exponent * powerOfTen (-place).toNat)
    (positive : 0 < significand) :
    ((neighbourhood significand exponent).atPlace? tie place).isSome = true := by
  have step : 0 < powerOfTwo 1076 * powerOfTen place.toNat :=
    Nat.mul_pos (power_of_two_pos 1076) (power_of_ten_pos _)
  have unit : 0 < powerOfTwo exponent * powerOfTen (-place).toNat :=
    Nat.mul_pos (power_of_two_pos exponent) (power_of_ten_pos _)
  have inside : (neighbourhood significand exponent).holds (powerOfTen (-place).toNat)
      ((neighbourhood significand exponent).middle * powerOfTen (-place).toNat /
        (powerOfTwo 1076 * powerOfTen place.toNat) *
          (powerOfTwo 1076 * powerOfTen place.toNat)) = true := by
    have lower := Nat.div_mul_le_self
      ((neighbourhood significand exponent).middle * powerOfTen (-place).toNat)
      (powerOfTwo 1076 * powerOfTen place.toNat)
    have upper := Nat.lt_div_mul_add
      (a := (neighbourhood significand exponent).middle * powerOfTen (-place).toNat) step
    have below := low_to_middle positive exponent (powerOfTen (-place).toNat)
    have above := middle_to_high significand exponent (powerOfTen (-place).toNat)
    apply Neighbourhood.holds_of_between <;> omega
  simp only [Neighbourhood.atPlace?, inside]
  split
  · rename_i outside _
    cases outside
  · rfl
  · rename_i outside _
    cases outside
  · split
    · rfl
    · split
      · rfl
      · cases tie <;> rfl

/-- The four hundredth grid that is tried is fine enough. -/
theorem fine_of_last (fits : Fits significand exponent) {coarsest : Int}
    (start : coarsest =
      (Int.ofNat (Nat.log2 (neighbourhood significand exponent).high) - 1076) * 30103 / 100000 + 2) :
    powerOfTwo 1076 * powerOfTen (coarsest - 399).toNat ≤
      powerOfTwo exponent * powerOfTen (-(coarsest - 399)).toNat := by
  have log : Nat.log2 (neighbourhood significand exponent).high < 55 + exponent := by
    have some_high : (neighbourhood significand exponent).high ≠ 0 :=
      Nat.mul_ne_zero (by omega) (power_of_two_pos exponent).ne'
    have below : significand < powerOfTwo 53 := fits.below
    have four : powerOfTwo 55 = 4 * powerOfTwo 53 := rfl
    apply (Nat.log2_lt some_high).mpr
    change (4 * significand + 2) * powerOfTwo exponent < powerOfTwo (55 + exponent)
    rw [power_of_two_add]
    exact Nat.mul_lt_mul_of_pos_right (by omega) (power_of_two_pos exponent)
  have range := fits.range
  rw [Int.ofNat_eq_natCast] at start
  have one : powerOfTen (coarsest - 399).toNat = 1 := power_of_ten_of_nonpos (by omega)
  rw [one, Nat.mul_one]
  calc
    powerOfTwo 1076 ≤ powerOfTwo (exponent + 3 * (-(coarsest - 399)).toNat) := power_of_two_mono (by omega)
    _ = powerOfTwo exponent * powerOfTwo (3 * (-(coarsest - 399)).toNat) := power_of_two_add _ _
    _ ≤ powerOfTwo exponent * powerOfTen (-(coarsest - 399)).toNat :=
      Nat.mul_le_mul_left _ (two_le_ten _)

/-- The shortest decimal of a double lies in its neighbourhood. -/
theorem shortest_near (tie : Tie) (fits : Fits significand exponent) (positive : 0 < significand) :
    IsNearDecimal significand exponent (shortest tie significand exponent).digits
      (shortest tie significand exponent).place := by
  rw [shortest, if_neg (by omega)]
  apply near_of_search
  exact ⟨399, by decide, at_place_of_fine tie (fine_of_last fits rfl) positive⟩

end Narrative.Number
