import Narrative.Elementary
import Narrative.Json.Figure
import Narrative.Json.Writer

/-!
# Numbers in written texts

What is written for a number has the form of a number again, whichever digits the number has: nothing but
digits on both sides of a point, no zero in front of other digits, and an exponent with a sign.
-/

namespace Narrative.Json.Figure

open Narrative.Number

set_option autoImplicit false

/-- What comes next is no digit. -/
def Stops (rest : List Char) : Prop :=
  ∀ letter later, rest = letter :: later → letter.isDigit = false

theorem stops_nil : Stops [] := by
  intro letter later same
  simp at same

theorem stops_cons {letter : Char} {later : List Char} (other : letter.isDigit = false) :
    Stops (letter :: later) := by
  intro first rest same
  obtain ⟨rfl, -⟩ := List.cons.inj same
  exact other

theorem take_digits {digits rest : List Char} (all : ∀ letter ∈ digits, letter.isDigit = true)
    (stops : Stops rest) :
    (digits ++ rest).takeWhile Char.isDigit = digits ∧
      (digits ++ rest).dropWhile Char.isDigit = rest :=
  take_while_append all stops

theorem is_digit_of_digits (number : Nat) : ∀ letter ∈ digitsOf number, letter.isDigit = true :=
  fun _ member => Nat.isDigit_of_mem_toDigits (by decide) (by decide) member

theorem digits_ne_nil (number : Nat) : digitsOf number ≠ [] :=
  Nat.toDigits_ne_nil

/-- The digits of a number that is not zero begin with another digit. -/
theorem digits_lead {number : Nat} (positive : 0 < number) :
    ∃ first later, digitsOf number = first :: later ∧ first ≠ '0' := by
  induction number using Nat.strongRecOn with
  | ind number induction =>
      by_cases small : number < 10
      · refine ⟨number.digitChar, [], Nat.toDigits_of_lt_base small, ?_⟩
        have all : ∀ digit < 10, 0 < digit → digit.digitChar ≠ '0' := by decide
        exact all number small positive
      · have large : 10 ≤ number := by omega
        obtain ⟨first, later, split, other⟩ := induction (number / 10) (by omega) (by omega)
        refine ⟨first, later ++ [(number % 10).digitChar], ?_, other⟩
        rw [digitsOf, Nat.toDigits_of_base_le (by decide) large]
        rw [digitsOf] at split
        rw [split]
        rfl

/-- Digits that do not begin with a zero are a whole part, whatever follows them. -/
theorem whole_part_of_lead {first : Char} (other : first ≠ '0') (later : List Char) :
    isWholePart (first :: later) = true := by
  unfold isWholePart
  split <;> simp_all

theorem whole_part_of_digits (number : Nat) : isWholePart (digitsOf number) = true := by
  rcases Nat.eq_zero_or_pos number with rfl | positive
  · rfl
  · obtain ⟨first, later, split, other⟩ := digits_lead positive
    rw [split]
    exact whole_part_of_lead other later

theorem digits_value_digits (number : Nat) : digitsValue 0 (digitsOf number) = number :=
  Nat.ofDigitChars_toDigits (by decide) (by decide)

/-- The digits of a number read as the number. -/
theorem natural_of_digits (number : Nat) : naturalOf? (digitsOf number) = some number := by
  have digits : (digitsOf number).any (fun letter => !letter.isDigit) = false := by
    rw [List.any_eq_false]
    intro letter member
    simp [is_digit_of_digits number letter member]
  simp [naturalOf?, digits, digits_ne_nil, digits_value_digits]

/-- The form of an exponent at the end of a number: none, or the mark, a sign and digits. -/
theorem exponent_of_power (sign : Char) (signed : sign = '-' ∨ sign = '+') (power : Nat) :
    (exponentPart? ('e' :: sign :: digitsOf power)).isSome = true := by
  rcases signed with rfl | rfl <;> simp [exponentPart?, takeSign, natural_of_digits]

theorem spelled_of_plain {whole tail : List Char} (digits : ∀ letter ∈ whole, letter.isDigit = true)
    (isWhole : isWholePart whole = true) (stops : Stops tail) (unpointed : tail.head? ≠ some '.')
    (exponent : (exponentPart? tail).isSome = true) (negative : Bool) :
    (unsignedSpelling? negative (whole ++ tail)).isSome = true := by
  obtain ⟨taken, left⟩ := take_digits digits stops
  unfold unsignedSpelling?
  simp only [taken, left, isWhole]
  split
  · simp_all
  · split
    · rename_i rest
      simp at unpointed
    · simpa using exponent

theorem spelled_of_pointed {whole decimals tail : List Char}
    (digits : ∀ letter ∈ whole, letter.isDigit = true) (isWhole : isWholePart whole = true)
    (more : ∀ letter ∈ decimals, letter.isDigit = true) (some_left : decimals ≠ [])
    (stops : Stops tail) (exponent : (exponentPart? tail).isSome = true) (negative : Bool) :
    (unsignedSpelling? negative (whole ++ '.' :: (decimals ++ tail))).isSome = true := by
  have point : Stops ('.' :: (decimals ++ tail)) := stops_cons rfl
  obtain ⟨taken, left⟩ := take_digits digits point
  obtain ⟨takenAfter, leftAfter⟩ := take_digits more stops
  unfold unsignedSpelling?
  simp [taken, left, isWhole, takenAfter, leftAfter, some_left, exponent]

theorem spelled_of_signed {letters : List Char}
    (unsigned : ∀ negative, (unsignedSpelling? negative letters).isSome = true) (negative : Bool) :
    (spelling? (signed negative letters)).isSome = true := by
  cases negative with
  | true => exact unsigned true
  | false =>
      change (spelling? letters).isSome = true
      unfold spelling?
      split
      · -- A sign alone has no whole part.
        rename_i rest
        have wordless : ('-' :: rest).takeWhile Char.isDigit = [] := rfl
        have spelled := unsigned false
        simp [unsignedSpelling?, wordless, isWholePart] at spelled
      · exact unsigned false

theorem spelled_of_scientific (decimal : Decimal) (negative : Bool) :
    (unsignedSpelling? negative (scientific decimal)).isSome = true := by
  have digits := is_digit_of_digits decimal.digits
  simp only [scientific]
  generalize decimal.place + Int.ofNat (digitsOf decimal.digits).length - 1 = power
  have signed : (if power < 0 then '-' else '+') = '-' ∨ (if power < 0 then '-' else '+') = '+' := by
    split
    · exact Or.inl rfl
    · exact Or.inr rfl
  have exponent := exponent_of_power _ signed power.natAbs
  have stops : Stops ('e' :: (if power < 0 then '-' else '+') :: digitsOf power.natAbs) :=
    stops_cons rfl
  have single : ∀ letter : Char, isWholePart [letter] = true := by
    intro letter
    unfold isWholePart
    split <;> simp_all
  match split : digitsOf decimal.digits with
  | [] => exact absurd split (digits_ne_nil decimal.digits)
  | [only] =>
      rw [split] at digits
      exact spelled_of_plain digits (single only) stops (by simp) exponent negative
  | first :: second :: others =>
      rw [split] at digits
      obtain ⟨digit, more⟩ := List.forall_mem_cons.mp digits
      exact spelled_of_pointed (List.forall_mem_singleton.mpr digit) (single first) more (by simp)
        stops exponent negative

theorem digits_of_zeros {count : Nat} : ∀ letter ∈ zeros count, letter.isDigit = true := by
  intro letter member
  obtain rfl := List.eq_of_mem_replicate member
  rfl

theorem digits_of_zero : ∀ letter ∈ ['0'], letter.isDigit = true := by
  intro letter member
  rw [List.mem_singleton.mp member]
  rfl

theorem spelled_of_whole_decimal {decimal : Decimal} (positive : 0 < decimal.digits)
    (whole : 0 ≤ decimal.place) (negative : Bool) :
    (unsignedSpelling? negative (positional decimal ++ ['.', '0'])).isSome = true := by
  obtain ⟨first, later, split, other⟩ := digits_lead positive
  have digits : ∀ letter ∈ digitsOf decimal.digits ++ zeros decimal.place.toNat,
      letter.isDigit = true :=
    List.forall_mem_append.mpr ⟨is_digit_of_digits decimal.digits, digits_of_zeros⟩
  have lead : isWholePart (digitsOf decimal.digits ++ zeros decimal.place.toNat) = true := by
    rw [split]
    exact whole_part_of_lead other _
  have pointed := spelled_of_pointed digits lead digits_of_zero (by simp) stops_nil rfl negative
  simpa [positional, whole] using pointed

theorem spelled_of_fraction {decimal : Decimal} (positive : 0 < decimal.digits)
    (fraction : decimal.place < 0) (negative : Bool) :
    (unsignedSpelling? negative (positional decimal)).isSome = true := by
  have digits := is_digit_of_digits decimal.digits
  obtain ⟨first, later, split, other⟩ := digits_lead positive
  simp only [positional, if_neg (Int.not_le.mpr fraction)]
  generalize digitsOf decimal.digits = letters at digits split
  generalize behind : (-decimal.place).toNat = count
  have some_behind : 0 < count := by omega
  split
  · -- The point stands among the digits.
    rename_i shorter
    have ahead : ∀ letter ∈ letters.take (letters.length - count), letter.isDigit = true :=
      fun letter member => digits letter (List.mem_of_mem_take member)
    have after : ∀ letter ∈ letters.drop (letters.length - count), letter.isDigit = true :=
      fun letter member => digits letter (List.mem_of_mem_drop member)
    have lead : isWholePart (letters.take (letters.length - count)) = true := by
      obtain ⟨fewer, some_ahead⟩ : ∃ fewer, letters.length - count = fewer + 1 :=
        ⟨letters.length - count - 1, by omega⟩
      rw [some_ahead, split]
      exact whole_part_of_lead other _
    have some_left : letters.drop (letters.length - count) ≠ [] := by
      rw [Ne, List.drop_eq_nil_iff]
      omega
    simpa using spelled_of_pointed ahead lead after some_left stops_nil rfl negative
  · -- Zeros stand between the point and the digits.
    have after : ∀ letter ∈ zeros (count - letters.length) ++ letters, letter.isDigit = true :=
      List.forall_mem_append.mpr ⟨digits_of_zeros, digits⟩
    have some_left : zeros (count - letters.length) ++ letters ≠ [] := by simp [split]
    simpa using spelled_of_pointed digits_of_zero rfl after some_left stops_nil rfl negative

/-- A finite number of a document is written as a number. -/
theorem spelled_of_document (negative : Bool) (significand exponent : Nat) :
    (spelling? (documentText negative significand exponent)).isSome = true := by
  simp only [documentText]
  generalize shortest .even significand exponent = decimal
  split
  · have zero : ∀ negative, (unsignedSpelling? negative ['0', '.', '0']).isSome = true := by decide
    exact spelled_of_signed zero negative
  · rename_i some_digit
    have positive : 0 < decimal.digits := Nat.pos_of_ne_zero some_digit
    split
    · exact spelled_of_signed (spelled_of_scientific decimal) negative
    · split
      · rename_i whole
        exact spelled_of_signed (spelled_of_whole_decimal positive whole) negative
      · rename_i fraction
        exact spelled_of_signed (spelled_of_fraction positive (Int.not_le.mp fraction)) negative

theorem spelled_of_whole (number : Int) : (spelling? (wholeText number)).isSome = true := by
  apply spelled_of_signed
  intro negative
  have plain := spelled_of_plain (is_digit_of_digits number.natAbs) (whole_part_of_digits number.natAbs)
    stops_nil (by simp) rfl negative
  rwa [List.append_nil] at plain

end Narrative.Json.Figure
