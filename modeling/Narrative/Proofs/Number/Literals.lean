import Mathlib
import Narrative.Number.Literal
import Narrative.Proofs.Json.Scanning

/-!
# Texts that spell numbers

A text spells a number by letters, digits, signs and a point alone, so a text with any other letter inside
spells none.
-/

namespace Narrative

set_option autoImplicit false

namespace Number

/-- Letters that number texts are made of. -/
def isNumeral (letter : Char) : Bool :=
  letter.isAlphanum || letter = '+' || letter = '-' || letter = '.'

theorem visible_of_numeral {letter : Char} (numeral : isNumeral letter = true) :
    Text.isBlank letter = false := by
  simp only [isNumeral, Bool.or_eq_true, decide_eq_true_eq, or_assoc] at numeral
  rcases numeral with alphanum | rfl | rfl | rfl
  · exact Text.visible_of_alphanum alphanum
  · rfl
  · rfl
  · rfl

theorem foreign_of_blank {letter : Char} (blank : Text.isBlank letter = true) :
    isNumeral letter = false := by
  rw [Bool.eq_false_iff]
  intro numeral
  rw [visible_of_numeral numeral] at blank
  cases blank

theorem numeral_of_digit {letter : Char} (digit : letter.isDigit = true) : isNumeral letter = true := by
  simp [isNumeral, Char.isAlphanum, digit]

theorem numeral_of_sign {letters : List Char}
    (unsigned : ∀ letter ∈ (takeSign letters).2, isNumeral letter = true) :
    ∀ letter ∈ letters, isNumeral letter = true := by
  intro letter member
  rcases Json.mem_take_sign member with rfl | rfl | later
  · rfl
  · rfl
  · exact unsigned letter later

theorem numeral_of_digits_before {letters : List Char}
    (later : ∀ letter ∈ letters.dropWhile Char.isDigit, isNumeral letter = true) :
    ∀ letter ∈ letters, isNumeral letter = true := by
  intro letter member
  rcases mem_drop_while member with digit | behind
  · exact numeral_of_digit digit
  · exact later letter behind

theorem lower_of_not_capital {letter : Char} (small : ¬letter.isUpper = true) :
    letter.toLower = letter := by
  simp only [Char.isUpper, ge_iff_le, decide_eq_true_eq] at small
  exact dif_neg small

/-- A letter that becomes a small one is a letter. -/
theorem alphanum_of_lower {letter : Char} (lower : letter.toLower.isAlphanum = true) :
    letter.isAlphanum = true := by
  by_cases capital : letter.isUpper = true
  · simp [Char.isAlphanum, Char.isAlpha, capital]
  · rwa [lower_of_not_capital capital] at lower

theorem lower_of_digit {letter : Char} (digit : letter.isDigit = true) : letter.toLower = letter := by
  apply lower_of_not_capital
  simp only [Char.isDigit, Char.isUpper, Bool.and_eq_true, decide_eq_true_eq, ge_iff_le,
    UInt32.le_iff_toNat_le] at digit ⊢
  have nine : letter.val.toNat ≤ 57 := digit.2
  intro capital
  have least : 65 ≤ letter.val.toNat := capital.1
  omega

theorem numeral_of_word {letters : List Char} {word : String}
    (spelled : String.ofList (Text.lowerAscii letters) = word)
    (plain : word.toList.all Char.isAlphanum = true) :
    ∀ letter ∈ letters, isNumeral letter = true := by
  intro letter member
  have lower : letter.toLower ∈ word.toList := by
    rw [← spelled, String.toList_ofList]
    exact List.mem_map_of_mem member
  simp [isNumeral, alphanum_of_lower (List.all_eq_true.mp plain _ lower)]

theorem numeral_of_exponent {letters : List Char} {exponent : Int}
    (read : exponentOf? letters = some exponent) : ∀ letter ∈ letters, isNumeral letter = true := by
  cases letters with
  | nil => simp
  | cons first rest =>
      rw [exponentOf?] at read
      split at read
      · rename_i mark
        obtain ⟨number, natural, -⟩ := Option.map_eq_some_iff.mp read
        have digits : ∀ letter ∈ rest, isNumeral letter = true := numeral_of_sign fun letter member =>
          numeral_of_digit (Json.digits_of_natural natural letter member)
        have first_numeral : isNumeral first = true := by
          rcases (by simpa using mark : first = 'e' ∨ first = 'E') with rfl | rfl <;> rfl
        exact List.forall_mem_cons.mpr ⟨first_numeral, digits⟩
      · cases read

theorem numeral_of_decimal {negative : Bool} {letters : List Char} {number : Float}
    (read : decimalOf? negative letters = some number) : ∀ letter ∈ letters, isNumeral letter = true := by
  apply numeral_of_digits_before
  unfold decimalOf? at read
  simp only at read
  split at read
  · rename_i more pointed
    split at read
    · cases read
    · obtain ⟨exponent, tail, -⟩ := Option.map_eq_some_iff.mp read
      rw [pointed]
      exact List.forall_mem_cons.mpr ⟨rfl, numeral_of_digits_before (numeral_of_exponent tail)⟩
  · split at read
    · cases read
    · obtain ⟨exponent, tail, -⟩ := Option.map_eq_some_iff.mp read
      exact numeral_of_exponent tail

/-- What spells a number is made of letters of number texts. -/
theorem numeral_of_float {letters : List Char} {number : Float} (read : float? letters = some number) :
    ∀ letter ∈ letters, isNumeral letter = true := by
  apply numeral_of_sign
  unfold float? at read
  simp only [Bool.or_eq_true, beq_iff_eq] at read
  split at read
  · rename_i infinite
    rcases infinite with short | long
    · exact numeral_of_word short (by decide)
    · exact numeral_of_word long (by decide)
  · split at read
    · rename_i nan
      exact numeral_of_word nan (by decide)
    · exact numeral_of_decimal read

/-- A text with another letter between its blanks is not a number. -/
theorem of_text_foreign {letters : List Char} {letter : Char} (member : letter ∈ Text.trim letters)
    (foreign : isNumeral letter = false) : ofText letters = quietNan := by
  unfold ofText
  cases read : float? (Text.trim letters) with
  | none => rfl
  | some number =>
      have numeral := numeral_of_float read letter member
      rw [foreign] at numeral
      cases numeral

end Number

end Narrative
