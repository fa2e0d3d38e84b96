import Narrative.Proofs.Json.Figures
import Narrative.Proofs.Number.Literals
import Narrative.Proofs.Number.Shortest

/-!
# Number texts read back

A number text spells a decimal: its digits, at the place where the point or the exponent puts them. So what is
written for a finite number reads back as the number.
-/

namespace Narrative.Number

set_option autoImplicit false

open Json.Figure (Stops stops_nil stops_cons take_digits is_digit_of_digits digits_ne_nil
  digits_value_digits natural_of_digits digits_of_zeros digits_of_zero)

section Digits

theorem digits_value_append (start : Nat) (first second : List Char) :
    digitsValue start (first ++ second) = digitsValue (digitsValue start first) second :=
  List.foldl_append

theorem digits_value_zeros (start count : Nat) :
    digitsValue start (zeros count) = start * powerOfTen count := by
  induction count generalizing start with
  | zero => exact (Nat.mul_one start).symm
  | succ count induction =>
      have ten : digitValue '0' = 0 := rfl
      rw [zeros, List.replicate_succ, digitsValue, List.foldl_cons, ten, ← digitsValue, ← zeros, induction,
        power_of_ten_add]
      change (10 * start + 0) * powerOfTen count = start * (powerOfTen count * 10)
      ring

end Digits

section Decimals

variable {before after tail : List Char} {power : Int}

theorem decimal_of_plain (digits : ∀ letter ∈ before, letter.isDigit = true) (present : before ≠ [])
    (stops : Stops tail) (unpointed : tail.head? ≠ some '.') (exponent : exponentOf? tail = some power)
    (negative : Bool) :
    decimalOf? negative (before ++ tail) = some (ofDecimal negative (digitsValue 0 before) power) := by
  have taken := (take_digits digits stops).1
  have left := (take_digits digits stops).2
  have some_digit : before.isEmpty = false := List.isEmpty_eq_false_iff.mpr present
  simp only [decimalOf?, taken, left]
  split
  · simp at unpointed
  · simp [some_digit, exponent, digitsValue]

theorem decimal_of_pointed (digits : ∀ letter ∈ before, letter.isDigit = true)
    (more : ∀ letter ∈ after, letter.isDigit = true) (present : before ≠ []) (stops : Stops tail)
    (exponent : exponentOf? tail = some power) (negative : Bool) :
    decimalOf? negative (before ++ '.' :: (after ++ tail)) =
      some (ofDecimal negative (digitsValue 0 (before ++ after)) (power - (after.length : Int))) := by
  have point : Stops ('.' :: (after ++ tail)) := stops_cons rfl
  have some_digit : before.isEmpty = false := List.isEmpty_eq_false_iff.mpr present
  simp [decimalOf?, take_digits digits point, take_digits more stops, some_digit, exponent,
    digits_value_append]

theorem exponent_of_signed (power : Int) :
    exponentOf? ('e' :: (if power < 0 then '-' else '+') :: digitsOf power.natAbs) = some power := by
  by_cases negative : power < 0
  · simp [exponentOf?, integerOf?, takeSign, negative, natural_of_digits, abs_of_neg negative]
  · have positive : |power| = power := abs_of_nonneg (Int.not_lt.mp negative)
    simp [exponentOf?, integerOf?, takeSign, negative, natural_of_digits, positive]

/-- Letters that begin with a digit and that spell a decimal, with either sign in front. -/
structure SpellsDecimal (letters : List Char) (digits : Nat) (place : Int) : Prop where
  lead : ∃ first later, letters = first :: later ∧ first.isDigit = true
  reads : ∀ negative, decimalOf? negative letters = some (ofDecimal negative digits place)

theorem lead_of_digits {rest : List Char} (digits : ∀ letter ∈ before, letter.isDigit = true)
    (present : before ≠ []) :
    ∃ first later, before ++ rest = first :: later ∧ first.isDigit = true := by
  cases before with
  | nil => exact absurd rfl present
  | cons first later => exact ⟨first, later ++ rest, rfl, digits first (by simp)⟩

theorem spells_digits (digits : ∀ letter ∈ before, letter.isDigit = true) (present : before ≠ []) :
    SpellsDecimal before (digitsValue 0 before) 0 := by
  have lead : ∃ first later, before ++ [] = first :: later ∧ first.isDigit = true :=
    lead_of_digits digits present
  have reads : ∀ negative, decimalOf? negative (before ++ []) = _ :=
    decimal_of_plain digits present stops_nil (by simp) rfl
  rw [List.append_nil] at lead reads
  exact ⟨lead, reads⟩

theorem spells_pointed (digits : ∀ letter ∈ before, letter.isDigit = true)
    (more : ∀ letter ∈ after, letter.isDigit = true) (present : before ≠ []) :
    SpellsDecimal (before ++ '.' :: after) (digitsValue 0 (before ++ after)) (-(after.length : Int)) := by
  have reads : ∀ negative, decimalOf? negative (before ++ '.' :: (after ++ [])) = _ :=
    decimal_of_pointed digits more present stops_nil rfl
  rw [List.append_nil, Int.zero_sub] at reads
  exact ⟨lead_of_digits digits present, reads⟩

theorem spells_scientific (decimal : Decimal) :
    SpellsDecimal (scientific decimal) decimal.digits decimal.place := by
  have digits := is_digit_of_digits decimal.digits
  have value := digits_value_digits decimal.digits
  have length : 0 < (digitsOf decimal.digits).length :=
    List.length_pos_iff.mpr (digits_ne_nil decimal.digits)
  simp only [scientific]
  generalize power_eq : decimal.place + Int.ofNat (digitsOf decimal.digits).length - 1 = power
  have exponent := exponent_of_signed power
  have stops : Stops ('e' :: (if power < 0 then '-' else '+') :: digitsOf power.natAbs) := stops_cons rfl
  generalize digitsOf decimal.digits = letters at digits value length power_eq
  cases letters with
  | nil => simp at length
  | cons first later =>
      cases later with
      | nil =>
          have place : power = decimal.place := by
            rw [Int.ofNat_eq_natCast, List.length_singleton] at power_eq
            omega
          have reads := decimal_of_plain digits (by simp) stops (by simp) exponent
          rw [value, place] at reads
          rw [place]
          exact ⟨lead_of_digits digits (by simp), reads⟩
      | cons second others =>
          have place : power - ((second :: others).length : Int) = decimal.place := by
            rw [Int.ofNat_eq_natCast, List.length_cons] at power_eq
            omega
          have split := List.forall_mem_cons.mp digits
          have single : ∀ letter ∈ [first], letter.isDigit = true := List.forall_mem_singleton.mpr split.1
          have reads := decimal_of_pointed single split.2 (by simp) stops exponent
          simp only [List.singleton_append, value, place] at reads
          exact ⟨⟨first, _, rfl, split.1⟩, reads⟩

variable {decimal : Decimal}

theorem digits_of_whole (decimal : Decimal) :
    ∀ letter ∈ digitsOf decimal.digits ++ zeros decimal.place.toNat, letter.isDigit = true :=
  List.forall_mem_append.mpr ⟨is_digit_of_digits decimal.digits, digits_of_zeros⟩

theorem spells_whole (whole : 0 ≤ decimal.place) :
    SpellsDecimal (positional decimal) (decimal.digits * powerOfTen decimal.place.toNat) 0 := by
  have spelled := spells_digits (digits_of_whole decimal) (by simp [digits_ne_nil])
  rw [digits_value_append, digits_value_digits, digits_value_zeros] at spelled
  rwa [positional, if_pos whole]

theorem spells_whole_pointed (whole : 0 ≤ decimal.place) :
    SpellsDecimal (positional decimal ++ ['.', '0'])
      (decimal.digits * powerOfTen (decimal.place.toNat + 1)) (-1) := by
  have spelled := spells_pointed (digits_of_whole decimal) digits_of_zero (by simp [digits_ne_nil])
  have zero : ['0'] = zeros 1 := rfl
  rw [digits_value_append, digits_value_append, digits_value_digits, digits_value_zeros, zero,
    digits_value_zeros, Nat.mul_assoc, ← power_of_ten_add] at spelled
  rwa [positional, if_pos whole]

theorem spells_fraction (fraction : decimal.place < 0) :
    SpellsDecimal (positional decimal) decimal.digits decimal.place := by
  have digits := is_digit_of_digits decimal.digits
  have value := digits_value_digits decimal.digits
  simp only [positional, if_neg (Int.not_le.mpr fraction)]
  generalize digitsOf decimal.digits = letters at digits value
  obtain ⟨count, place⟩ : ∃ count : Nat, decimal.place = -(count : Int) := ⟨(-decimal.place).toNat, by omega⟩
  rw [place, Int.neg_neg, Int.toNat_natCast]
  split
  · -- The point stands among the digits.
    rename_i shorter
    have ahead : letters.take (letters.length - count) ≠ [] := by
      apply List.ne_nil_of_length_pos
      rw [List.length_take]
      omega
    have front : ∀ letter ∈ letters.take (letters.length - count), letter.isDigit = true :=
      fun letter member => digits letter (List.mem_of_mem_take member)
    have behind : ∀ letter ∈ letters.drop (letters.length - count), letter.isDigit = true :=
      fun letter member => digits letter (List.mem_of_mem_drop member)
    have spelled := spells_pointed front behind ahead
    have length : (letters.drop (letters.length - count)).length = count := by
      rw [List.length_drop]
      omega
    rwa [List.take_append_drop, value, length] at spelled
  · -- Zeros stand between the point and the digits.
    rename_i longer
    have after : ∀ letter ∈ zeros (count - letters.length) ++ letters, letter.isDigit = true :=
      List.forall_mem_append.mpr ⟨digits_of_zeros, digits⟩
    have spelled := spells_pointed digits_of_zero after (by simp)
    have length : (zeros (count - letters.length) ++ letters).length = count := by
      rw [List.length_append, zeros, List.length_replicate]
      omega
    have zero : digitsValue 0 ['0'] = 0 := rfl
    rwa [digits_value_append, digits_value_append, zero, digits_value_zeros, Nat.zero_mul, value, length]
      at spelled

end Decimals

section Texts

variable {letters : List Char} {digits significand exponent : Nat} {place : Int}

/-- A sign in front of a digit is taken off, and a digit begins no word. -/
theorem of_text_spelled (spelled : SpellsDecimal letters digits place) (negative : Bool) :
    ofText (signed negative letters) = ofDecimal negative digits place := by
  have reads := spelled.reads negative
  have visible : ∀ letter ∈ signed negative letters, Text.isBlank letter = false := by
    intro letter member
    apply visible_of_numeral
    cases negative with
    | true =>
        rcases List.mem_cons.mp member with rfl | later
        · rfl
        · exact numeral_of_decimal reads letter later
    | false => exact numeral_of_decimal reads letter member
  obtain ⟨first, later, rfl, digit⟩ := spelled.lead
  have apart := Json.ne_of_digit digit
  have sign : takeSign (signed negative (first :: later)) = (negative, first :: later) := by
    cases negative with
    | true => rfl
    | false => simp [signed, takeSign, apart '-' rfl, apart '+' rfl]
  have wordless : ∀ letter word, letter.isDigit = false →
      (String.ofList (Text.lowerAscii (first :: later)) == String.ofList (letter :: word)) = false := by
    intro letter word foreign
    rw [beq_eq_false_iff_ne, Ne, String.ofList_inj, Text.lowerAscii, List.map_cons, lower_of_digit digit]
    exact fun same => apart letter foreign (List.cons.inj same).1
  have short : (String.ofList (Text.lowerAscii (first :: later)) == "inf") = false := wordless _ _ rfl
  have long : (String.ofList (Text.lowerAscii (first :: later)) == "infinity") = false := wordless _ _ rfl
  have nan : (String.ofList (Text.lowerAscii (first :: later)) == "nan") = false := wordless _ _ rfl
  rw [ofText, Text.trim_of_all_visible visible]
  simp only [float?, sign, short, long, nan, reads]
  rfl

theorem of_text_near (spelled : SpellsDecimal letters digits place)
    (near : IsNearDecimal significand exponent digits place) (fits : Fits significand exponent)
    (positive : 0 < significand) (negative : Bool) :
    ofText (signed negative letters) = (Binary.finite negative significand exponent).toFloat := by
  rw [of_text_spelled spelled]
  exact of_decimal_of_near near fits positive negative

/-- Of the neighbourhood of a double, a decimal written with its point in place is read as the double. -/
theorem of_text_positional {decimal : Decimal}
    (near : IsNearDecimal significand exponent decimal.digits decimal.place)
    (fits : Fits significand exponent) (positive : 0 < significand) (negative : Bool) :
    ofText (signed negative (positional decimal)) =
      (Binary.finite negative significand exponent).toFloat := by
  by_cases whole : 0 ≤ decimal.place
  · have shifted : decimal.place - (decimal.place.toNat : Int) = 0 := by omega
    rw [← near_with_zeros decimal.place.toNat, shifted] at near
    exact of_text_near (spells_whole whole) near fits positive negative
  · exact of_text_near (spells_fraction (Int.not_le.mp whole)) near fits positive negative

theorem Fits.exponent_of_zero (fits : Fits 0 exponent) : exponent = 0 := by
  by_contra high
  exact absurd (fits.hidden (Nat.pos_of_ne_zero high)) (by decide)

theorem of_text_document (fits : Fits significand exponent) (negative : Bool) :
    ofText (documentText negative significand exponent) =
      (Binary.finite negative significand exponent).toFloat := by
  rcases Nat.eq_zero_or_pos significand with rfl | positive
  · have spelled : SpellsDecimal ['0', '.', '0'] 0 (-1) :=
      spells_pointed digits_of_zero digits_of_zero (by simp)
    rw [fits.exponent_of_zero]
    exact of_text_spelled spelled negative
  · have near := shortest_near .even fits positive
    have some_digit := digits_of_near near positive
    simp only [documentText, if_neg some_digit.ne']
    -- The layout depends on the size; a point and a zero behind a whole number move the place by one.
    split
    · exact of_text_near (spells_scientific _) near fits positive negative
    · split
      · rename_i whole
        have shifted : (shortest .even significand exponent).place -
            (((shortest .even significand exponent).place.toNat + 1 : Nat) : Int) = -1 := by omega
        rw [← near_with_zeros ((shortest .even significand exponent).place.toNat + 1), shifted] at near
        exact of_text_near (spells_whole_pointed whole) near fits positive negative
      · exact of_text_positional near fits positive negative

/-- A whole number is in the middle of its neighbourhood. -/
theorem near_of_whole {whole : Nat} (units : significand * powerOfTwo exponent = whole * powerOfTwo 1074)
    (positive : 0 < significand) : IsNearDecimal significand exponent whole 0 := by
  have one : powerOfTen (0 : Int).toNat = 1 := rfl
  have middle : whole * powerOfTwo 1076 = (neighbourhood significand exponent).middle * 1 := by
    have four : powerOfTwo 2 = 4 := rfl
    have power : powerOfTwo 1076 = powerOfTwo 1074 * 4 := by rw [← four, ← power_of_two_add]
    simp only [neighbourhood]
    rw [power, Nat.mul_one, Nat.mul_assoc, units]
    ring
  have below := low_to_middle positive exponent 1
  have above := middle_to_high significand exponent 1
  have unit : 0 < powerOfTwo exponent * 1 := Nat.mul_pos (power_of_two_pos exponent) Nat.one_pos
  rw [near_decimal_iff, Int.neg_zero, one, Nat.mul_one, middle]
  apply Neighbourhood.holds_of_between <;> omega

/-- The double stands for the whole number, and this is below `2 ^ 53`. -/
def IsShort (number : Float) (whole : Int) : Prop :=
  ∃ negative significand exponent size,
    Binary.ofFloat number = .finite negative significand exponent ∧
    significand * powerOfTwo exponent = size * powerOfTwo 1074 ∧ size < significandBound ∧
    whole = if negative then -(size : Int) else size

/-- Nothing is left behind the point of a whole number. -/
theorem parts_iff {size : Nat} :
    parts significand exponent = ⟨size, 0⟩ ↔
      significand * powerOfTwo exponent = size * powerOfTwo 1074 := by
  rw [parts, Parts.mk.injEq]
  constructor
  · rintro ⟨rfl, none⟩
    exact (Nat.div_mul_cancel (Nat.dvd_of_mod_eq_zero none)).symm
  · intro units
    rw [units]
    exact ⟨Nat.mul_div_cancel size (power_of_two_pos 1074), Nat.mul_mod_left size _⟩

theorem whole_iff {number : Float} {whole : Int} : whole? number = some whole ↔ IsShort number whole := by
  unfold whole? IsShort
  cases meaning : Binary.ofFloat number with
  | finite negative significand exponent =>
      dsimp only
      rw [Option.ite_none_right_eq_some]
      constructor
      · rintro ⟨⟨none, small⟩, same⟩
        have split : parts significand exponent = ⟨(parts significand exponent).whole, 0⟩ := by
          rw [← none]
        exact ⟨negative, significand, exponent, _, rfl, parts_iff.mp split, small, (Option.some.inj same).symm⟩
      · rintro ⟨sign, digits, power, size, same, units, small, rfl⟩
        obtain ⟨rfl, rfl, rfl⟩ := Binary.finite.inj same
        rw [parts_iff.mpr units]
        exact ⟨⟨rfl, small⟩, rfl⟩
  | nan => exact iff_of_false nofun nofun
  | infinite negative => exact iff_of_false nofun nofun

theorem not_whole_of_not_finite {number : Float} (beyond : isFinite number = false) : whole? number = none := by
  rw [Option.eq_none_iff_forall_ne_some]
  intro whole found
  obtain ⟨_, _, _, _, meaning, -⟩ := whole_iff.mp found
  rw [isFinite, meaning] at beyond
  cases beyond

theorem finite_of_whole {number : Float} {whole : Int} (found : whole? number = some whole) :
    isFinite number = true := by
  cases finite : isFinite number with
  | true => rfl
  | false =>
      rw [not_whole_of_not_finite finite] at found
      cases found

theorem beq_self_of_finite {number : Float} (finite : isFinite number = true) :
    (number == number) = true := by
  rw [Float.beq_self_iff]
  rintro rfl
  revert finite
  decide +kernel

/-- The sign of a zero is not written, and the two zeros are equal. -/
theorem of_text_whole {number : Float} {whole : Int} (found : whole? number = some whole) :
    (ofText (wholeText whole) == number) = true := by
  obtain ⟨negative, significand, exponent, size, meaning, units, -, rfl⟩ := whole_iff.mp found
  have spelled := spells_digits (is_digit_of_digits size) (digits_ne_nil size)
  have fits := fits_of_float meaning
  rw [digits_value_digits] at spelled
  have same := to_float_of_float number
  rcases Nat.eq_zero_or_pos significand with rfl | positive
  · rw [Nat.zero_mul] at units
    obtain rfl : size = 0 := (Nat.mul_eq_zero.mp units.symm).resolve_right (power_of_two_pos 1074).ne'
    -- Either zero is written as a zero without sign.
    have read : ofText (wholeText 0) = withSign false 0 := of_text_spelled spelled false
    have text : (if negative then -((0 : Nat) : Int) else ((0 : Nat) : Int)) = 0 := ite_self 0
    have zero : number = withSign negative 0 := by
      rw [← same, meaning, fits.exponent_of_zero]
      rfl
    rw [text, read, zero]
    cases negative <;> decide +kernel
  · have near := near_of_whole units positive
    have some_digit := digits_of_near near positive
    have text : wholeText (if negative then -(size : Int) else size) = signed negative (digitsOf size) := by
      cases negative with
      | true => simp [wholeText, some_digit]
      | false =>
          have natural : ¬(size : Int) < 0 := by omega
          simp [wholeText, natural]
    rw [text, of_text_near spelled near fits positive, ← meaning, same]
    exact beq_self_of_finite (by rw [isFinite, meaning])

theorem of_decimal_whole (negative : Bool) (digits : Nat) :
    ofDecimal negative digits 0 = roundQuotient negative digits 1 := by
  by_cases zero : digits = 0
  · subst zero
    rw [ofDecimal, if_pos rfl, roundQuotient]
    simp only [Nat.zero_mul]
    rfl
  · have one : digits * powerOfTen (0 : Int).toNat = digits := Nat.mul_one digits
    rw [ofDecimal, if_neg zero, if_neg (by decide), if_pos (le_refl 0), one]

/-- The digits of a whole number are read as the double nearest to it. -/
theorem of_text_of_whole (whole : Int) : ofText (wholeText whole) = ofWhole whole := by
  have spelled := spells_digits (is_digit_of_digits whole.natAbs) (digits_ne_nil whole.natAbs)
  rw [digits_value_digits] at spelled
  rw [wholeText, of_text_spelled spelled, of_decimal_whole, ofWhole]

/-- A double that is a whole number below `2 ^ 53` is equal to the double nearest to this. -/
theorem of_whole_beq {number : Float} {whole : Int} (found : whole? number = some whole) :
    (ofWhole whole == number) = true :=
  of_text_of_whole whole ▸ of_text_whole found

end Texts

end Narrative.Number
