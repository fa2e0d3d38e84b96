import Narrative.Proofs.Number.Definite
import Narrative.Proofs.Number.Reading
import Narrative.Proofs.Number.Shortest
import Narrative.Proofs.Sameness

/-!
# Numbers in texts

The text that a number is shown as is read as the number, with one exception: a number other than zero that is
nearer to zero than the precision of the number one is shown as zero. For greater numbers the same tolerance is
without effect, as what they have behind the point is a multiple of that precision.
-/

namespace Narrative

set_option autoImplicit false

namespace Number

/-- Whether the double is not zero, but below `2 ^ (-52)` in magnitude. -/
def isSpeck (number : Float) : Bool :=
  match Binary.ofFloat number with
  | .finite _ significand exponent =>
    decide (0 < significand ∧ significand * powerOfTwo exponent < powerOfTwo 1022)
  | _ => false

section Units

variable {significand exponent : Nat}

theorem power_of_two_dvd {first second : Nat} (le : first ≤ second) :
    powerOfTwo first ∣ powerOfTwo second :=
  Nat.pow_dvd_pow 2 le

/-- From the number one on, doubles are multiples of `2 ^ (-52)`. -/
theorem multiple_of_large (fits : Fits significand exponent)
    (large : powerOfTwo 1074 ≤ significand * powerOfTwo exponent) :
    powerOfTwo 1022 ∣ significand * powerOfTwo exponent := by
  have high : 1022 ≤ exponent := by
    by_contra low
    have bound : significandBound = powerOfTwo 53 := rfl
    have power : powerOfTwo 53 * powerOfTwo 1021 = powerOfTwo 1074 := (power_of_two_add 53 1021).symm
    have below : significand * powerOfTwo exponent < powerOfTwo 53 * powerOfTwo 1021 :=
      Nat.mul_lt_mul_of_lt_of_le (bound ▸ fits.below) (power_of_two_mono (by omega)) (power_of_two_pos 1021)
    rw [power] at below
    exact Nat.not_lt.mpr large below
  exact Dvd.dvd.mul_left (power_of_two_dvd high) significand

/-- What is left behind the point is below the tolerance only if nothing is or if nothing stands before it. -/
theorem whole_or_small (fits : Fits significand exponent)
    (near : (parts significand exponent).remainder < powerOfTwo 1022) :
    (parts significand exponent).remainder = 0 ∨ significand * powerOfTwo exponent < powerOfTwo 1022 := by
  rcases Nat.lt_or_ge (significand * powerOfTwo exponent) (powerOfTwo 1074) with small | large
  · rw [parts] at near
    exact Or.inr (Nat.mod_eq_of_lt small ▸ near)
  · have scale : powerOfTwo 1022 ∣ powerOfTwo 1074 := power_of_two_dvd (by decide)
    have multiple := (Nat.dvd_mod_iff scale).mpr (multiple_of_large fits large)
    exact Or.inl (Nat.eq_zero_of_dvd_of_lt multiple near)

end Units

section Texts

variable {number : Float} {negative : Bool} {significand exponent : Nat}

/-- Words are read as they are shown. -/
theorem read_of_infinite (meaning : Binary.ofFloat number = .infinite negative) :
    ofText (display number) = number := by
  rw [← to_float_of_float number, display, meaning]
  cases negative <;> decide +kernel

theorem read_of_nan (meaning : Binary.ofFloat number = .nan) : ofText (display number) = number := by
  rw [← to_float_of_float number, display, meaning]
  decide +kernel

theorem display_of_finite (meaning : Binary.ofFloat number = .finite negative significand exponent) :
    display number =
      if (parts significand exponent).remainder < powerOfTwo 1022 ∧
          (parts significand exponent).whole < significandBound then
        signed (negative && (parts significand exponent).whole != 0)
          (digitsOf (parts significand exponent).whole)
      else signed negative (positional (shortest .up significand exponent)) := by
  rw [display, meaning]

/-- A whole number is shown by its digits alone. -/
theorem display_of_whole {whole : Int} (found : whole? number = some whole) :
    display number = wholeText whole := by
  obtain ⟨negative, significand, exponent, size, meaning, units, small, rfl⟩ := whole_iff.mp found
  rw [display_of_finite meaning, parts_iff.mpr units, if_pos ⟨power_of_two_pos 1022, small⟩]
  cases negative with
  | true =>
      rcases Nat.eq_zero_or_pos size with rfl | some_digit
      · rfl
      · have shown : (size != 0) = true := bne_iff_ne.mpr some_digit.ne'
        simp [wholeText, some_digit, shown]
  | false =>
      have natural : ¬(size : Int) < 0 := by omega
      simp [wholeText, natural]

theorem speck_of_finite (meaning : Binary.ofFloat number = .finite negative significand exponent) :
    isSpeck number = true ↔
      0 < significand ∧ significand * powerOfTwo exponent < powerOfTwo 1022 := by
  rw [isSpeck, meaning, decide_eq_true_eq]

/-- A speck is shown as a zero without sign. -/
theorem display_of_speck (speck : isSpeck number = true) : display number = ['0'] := by
  cases meaning : Binary.ofFloat number with
  | finite negative significand exponent =>
      obtain ⟨-, small⟩ := (speck_of_finite meaning).mp speck
      have below := small.trans_le (power_of_two_mono (show 1022 ≤ 1074 by decide))
      have split : parts significand exponent = ⟨0, significand * powerOfTwo exponent⟩ := by
        rw [parts, Nat.div_eq_of_lt below, Nat.mod_eq_of_lt below]
      have text : signed (negative && (0 : Nat) != 0) (digitsOf 0) = ['0'] := by cases negative <;> rfl
      rw [display_of_finite meaning, split, if_pos ⟨small, show 0 < significandBound by decide⟩, text]
  | nan => rw [isSpeck, meaning] at speck; cases speck
  | infinite negative => rw [isSpeck, meaning] at speck; cases speck

theorem not_zero_of_speck (speck : isSpeck number = true) : (ofWhole 0 == number) = false := by
  rw [← Bool.not_eq_true, Float.beq_iff_ne_nan_and_eq]
  rintro ⟨-, -, rfl | ⟨-, rfl⟩ | ⟨-, rfl⟩⟩ <;> revert speck <;> decide +kernel

/-- What is neither a speck nor a whole number below `2 ^ 53` is shown by its shortest decimal. -/
theorem read_of_decimal (meaning : Binary.ofFloat number = .finite negative significand exponent)
    (whole : whole? number = none) (speck : isSpeck number = false) : ofText (display number) = number := by
  have fits := fits_of_float meaning
  have apart : ¬(0 < significand ∧ significand * powerOfTwo exponent < powerOfTwo 1022) := by
    rw [← speck_of_finite meaning, speck]
    exact Bool.false_ne_true
  have long : ¬((parts significand exponent).remainder = 0 ∧
      (parts significand exponent).whole < significandBound) := by
    rintro ⟨none, small⟩
    rw [whole?, meaning] at whole
    cases whole.symm.trans (if_pos ⟨none, small⟩)
  have positive : 0 < significand := by
    rcases Nat.eq_zero_or_pos significand with rfl | positive
    · rw [parts, Nat.zero_mul] at long
      exact absurd ⟨Nat.zero_mod _, (Nat.zero_div _).trans_lt (by decide)⟩ long
    · exact positive
  have pointed : ¬((parts significand exponent).remainder < powerOfTwo 1022 ∧
      (parts significand exponent).whole < significandBound) := by
    rintro ⟨near, small⟩
    rcases whole_or_small fits near with none | tiny
    · exact long ⟨none, small⟩
    · exact apart ⟨positive, tiny⟩
  rw [display_of_finite meaning, if_neg pointed, of_text_positional (shortest_near .up fits positive) fits positive,
    ← meaning, to_float_of_float]

/-- A number comes back from its text, a speck as zero. -/
theorem read_of_display (number : Float) :
    same (ofText (display number)) (if isSpeck number then ofWhole 0 else number) = true := by
  cases meaning : Binary.ofFloat number with
  | nan =>
      rw [read_of_nan meaning, isSpeck, meaning]
      exact Value.number_same_self number
  | infinite negative =>
      rw [read_of_infinite meaning, isSpeck, meaning]
      exact Value.number_same_self number
  | finite negative significand exponent =>
      cases speck : isSpeck number with
      | true =>
          have zero : same (ofText ['0']) (ofWhole 0) = true := by decide +kernel
          rw [display_of_speck speck]
          exact zero
      | false =>
          cases found : whole? number with
          | some whole =>
              rw [display_of_whole found]
              exact Bool.or_eq_true_iff.mpr (Or.inr (of_text_whole found))
          | none =>
              rw [read_of_decimal meaning found speck]
              exact Value.number_same_self number

theorem display_reads_back (number : Float) :
    same (ofText (display number)) number = !isSpeck number := by
  have read := read_of_display number
  cases speck : isSpeck number with
  | true =>
      rw [speck] at read
      rw [Bool.not_true, ← Bool.not_eq_true]
      intro alike
      have zero := same_trans ((same_comm _ _).trans read) alike
      rw [if_pos rfl, same_of_definite (of_whole_definite 0), not_zero_of_speck speck] at zero
      cases zero
  | false =>
      rw [speck] at read
      exact read

end Texts

end Number

namespace Stored

/-- A number that is written into a text, and from there into a number. -/
def throughText (amount : Float) (letters : String) (number : Float) : Stored :=
  (Stored.number amount).coerce ((Stored.text letters).coerce (.number number)).toValue

theorem through_text (amount : Float) (letters : String) (number : Float) :
    throughText amount letters number = .number (Number.ofText (Number.display number)) := by
  change Stored.number (Number.ofText (String.ofList (Number.display number)).toList) = _
  rw [String.toList_ofList]

/-- The text of a number is read as the same number exactly if it is no speck, and of a speck as zero. So a number
that is written into a text and from there into a number is changed exactly if it is a speck. -/
theorem numbers_pass_through_texts (number : Float) :
    (Number.same (Number.ofText (Number.display number)) number = !Number.isSpeck number) ∧
    (Number.same (Number.ofText (Number.display number))
      (if Number.isSpeck number then Number.ofWhole 0 else number) = true) ∧
    ∀ amount letters,
      Value.same (throughText amount letters number).toValue (.number number) = !Number.isSpeck number := by
  refine ⟨Number.display_reads_back number, Number.read_of_display number, ?_⟩
  intro amount letters
  rw [through_text]
  exact Number.display_reads_back number

/-- A number with twenty places behind the point. -/
def crumb : Float :=
  Number.ofText ['1', 'e', '-', '2', '0']

/-- Alone it is shown as zero and comes back as zero; in a list it is shown as it is. -/
theorem crumb_read_as_zero :
    Number.display crumb = ['0'] ∧ crumb ≠ 0 ∧
      Number.same (Number.ofText (Number.display crumb)) crumb = false ∧
      Value.same (throughText 0 "" crumb).toValue (.number crumb) = false ∧
      Value.display (.list [.number crumb]) = "[1e-20]" := by
  decide +kernel

end Stored

end Narrative
