import Narrative.Proofs.Number.Literals
import Narrative.Proofs.Quotations

/-!
# Operands of several words

An operand with a blank outside quotes is no name, no number and no word for truth. It is read all the same,
as a literal of the kind of the variable on the other side: a number is compared with not-a-number, a truth
value with falsehood, and a text with the words as they stand.
-/

namespace Narrative

set_option autoImplicit false

namespace Condition

/-- A blank stands outside quotes. -/
def IsPhrase (letters : List Char) : Prop :=
  ∃ before blank after, letters = before ++ blank :: after ∧ Text.isBlank blank = true ∧
    openAfter none before = none

/-- When a comparison of a value with words holds: a truth value is compared with falsehood, a text with
the words less a pair of marks around them, and to nothing else do words compare. -/
def HoldsOfWords (comparison : Comparison) (words : List Char) : Stored → Prop
  | .boolean flag =>
    comparison ∈ if flag then [.unequal, .greater, .atLeast] else [.equal, .atLeast, .atMost]
  | .text letters =>
    (comparison = .equal ∧ letters = String.ofList (unquoted words)) ∨
      (comparison = .unequal ∧ letters ≠ String.ofList (unquoted words))
  | _ => False

theorem foreign_mark {mark : Char} (marks : Text.isMark mark = true) : Number.isNumeral mark = false :=
  Text.apart_of_mark (by decide) marks

theorem unquoted_cases (letters : List Char) :
    unquoted letters = letters ∨
      ∃ mark inner, Text.isMark mark = true ∧ letters = quotation mark inner ∧ unquoted letters = inner := by
  cases letters with
  | nil => exact Or.inl rfl
  | cons first rest =>
      rw [unquoted]
      split
      · rename_i marks
        split
        · rename_i last ending
          split
          · rename_i same
            subst same
            have whole : rest.dropLast ++ [last] = rest := List.dropLast_append_getLast? last ending
            exact Or.inr ⟨last, rest.dropLast, marks, by rw [quotation, whole], rfl⟩
          · exact Or.inl rfl
        · exact Or.inl rfl
      · exact Or.inl rfl

section Words

variable {words : List Char}

theorem of_text_phrase (phrase : IsPhrase words) (trimmed : Text.trim words = words) :
    Number.ofText words = Number.quietNan := by
  obtain ⟨before, blank, after, whole, blanks, -⟩ := phrase
  have member : blank ∈ Text.trim words := by
    rw [trimmed, whole]
    simp
  exact Number.of_text_foreign member (Number.foreign_of_blank blanks)

/-- A mark that closes before the last letter stands between the outer ones. -/
theorem mark_inside {mark : Char} {inner : List Char} (marks : Text.isMark mark = true)
    (phrase : IsPhrase (quotation mark inner)) : mark ∈ inner := by
  obtain ⟨before, blank, after, whole, blanks, closed⟩ := phrase
  by_contra absent
  cases before with
  | nil =>
      obtain ⟨rfl, -⟩ := List.cons.inj whole
      rw [Text.visible_mark marks] at blanks
      cases blanks
  | cons first before =>
      obtain ⟨rfl, rest⟩ := List.cons.inj whole
      have early : before <+: inner := by
        have within : before <+: inner ++ [mark] := ⟨blank :: after, rest.symm⟩
        rcases List.prefix_concat_iff.mp within with all | shorter
        · rw [all] at rest
          simp at rest
        · exact shorter
      have opened := (inside_quote fun member => absent (early.subset member)).1
      rw [openAfter, List.foldl_cons, quoteAfter, marks] at closed
      exact absurd (closed.symm.trans opened) (by simp)

theorem of_text_unquoted_phrase (phrase : IsPhrase words) (trimmed : Text.trim words = words) :
    Number.ofText (unquoted words) = Number.quietNan := by
  rcases unquoted_cases words with same | ⟨mark, inner, marks, rfl, stripped⟩
  · rw [same]
    exact of_text_phrase phrase trimmed
  · rw [stripped]
    have member := Text.mem_trim_of_visible (mark_inside marks phrase) (Text.visible_mark marks)
    exact Number.of_text_foreign member (foreign_mark marks)

end Words

theorem literal_of_phrase_number {words : List Char} (phrase : IsPhrase words)
    (trimmed : Text.trim words = words) (amount : Float) :
    (Stored.number amount).coerceLiteral words = .number Number.quietNan := by
  simp only [Stored.coerceLiteral, trimmed, of_text_phrase phrase trimmed]

theorem literal_of_phrase_boolean {words : List Char} (phrase : IsPhrase words)
    (trimmed : Text.trim words = words) (flag : Bool) :
    (Stored.boolean flag).coerceLiteral words = .boolean false := by
  have other : (String.ofList words == "true") = false := by
    rw [beq_eq_false_iff_ne]
    intro truth
    obtain ⟨before, blank, after, whole, blanks, -⟩ := phrase
    have letters : words = ['t', 'r', 'u', 'e'] := by
      have spelled := congrArg String.toList truth
      rwa [String.toList_ofList] at spelled
    have member : blank ∈ ['t', 'r', 'u', 'e'] := by
      rw [← letters, whole]
      simp
    simp only [List.mem_cons, List.not_mem_nil, or_false] at member
    rcases member with rfl | rfl | rfl | rfl <;> cases blanks
  simp only [Stored.coerceLiteral, trimmed, other]

end Condition

namespace Comparison

/-- A truth value is compared as one or zero. -/
theorem holds_falsehood_iff (comparison : Comparison) (flag : Bool) :
    comparison.holds (.boolean flag) (.boolean false) = true ↔
      comparison ∈ (if flag then [.unequal, .greater, .atLeast] else [.equal, .atLeast, .atMost] :
        List Comparison) := by
  cases flag <;> cases comparison <;> decide +kernel

/-- A text that is no number is in no order with any other. -/
theorem holds_unordered_iff (comparison : Comparison) {left right : String}
    (unordered : Number.ofText right.toList = Number.quietNan) :
    comparison.holds (.text left) (.text right) = true ↔
      (comparison = .equal ∧ left = right) ∨ (comparison = .unequal ∧ left ≠ right) := by
  have nan : Value.toNumber (.text right) = Number.quietNan := unordered
  have quiet : Number.quietNan.isNaN = true := by decide +kernel
  have never : ∀ compare, Condition.ordered compare (.text left) (.text right) = false := by
    intro compare
    rw [Condition.ordered, nan, quiet, Bool.or_true, if_pos rfl]
  cases comparison with
  | equal => simpa using text_equal_iff
  | unequal => simpa using text_unequal_iff
  | _ => simp [holds, Condition.isNan, never]

end Comparison

namespace Condition

/-- What a variable is compared with where words stand on the other side. -/
theorem holds_of_words_iff {words : List Char} (phrase : IsPhrase words) (trimmed : Text.trim words = words)
    {value : Stored} (single : ¬value.IsCollection) (comparison : Comparison) :
    comparison.holds value.toValue (value.coerceLiteral words).toValue = true ↔
      HoldsOfWords comparison words value := by
  cases value with
  | boolean flag =>
      rw [literal_of_phrase_boolean phrase trimmed]
      exact comparison.holds_falsehood_iff flag
  | number amount =>
      have nan : isNan (.number Number.quietNan) = true := by decide +kernel
      rw [literal_of_phrase_number phrase trimmed]
      simp only [Stored.toValue, Comparison.holds, nan, Bool.or_true, if_true, HoldsOfWords]
      simp
  | text letters =>
      have literal : (Stored.text letters).coerceLiteral words =
          .text (String.ofList (unquoted words)) := by
        simp only [Stored.coerceLiteral, trimmed]
      have unordered : Number.ofText (String.ofList (unquoted words)).toList = Number.quietNan := by
        rw [String.toList_ofList]
        exact of_text_unquoted_phrase phrase trimmed
      rw [literal]
      exact comparison.holds_unordered_iff unordered
  | list elementKind elements => exact absurd (Or.inl rfl) single
  | object members => exact absurd (Or.inr rfl) single

/-- A condition on a number and words that name no variable never holds. With a truth value or a text in
place of the number it holds exactly where the words, read as falsehood or as a text, compare. -/
theorem words_are_read_as_literals {store : Store} {condition name words : List Char}
    {comparison : Comparison} {known : Variable} (found : store.find? (String.ofList name) = some known)
    (single : ¬known.value.IsCollection) (undeclared : store.find? (String.ofList words) = none)
    (phrase : IsPhrase words) :
    (split? condition = some ⟨name, comparison, words⟩ →
      (known.value.kind = .number → holds store condition = false) ∧
      (holds store condition = true ↔ HoldsOfWords comparison words known.value)) ∧
    (split? condition = some ⟨words, comparison, name⟩ →
      (known.value.kind = .number → holds store condition = false) ∧
      (holds store condition = true ↔ HoldsOfWords comparison.turned words known.value)) := by
  have faced : facing store known words = known.value.coerceLiteral words := by
    rw [facing, undeclared, literalFor]
  have never : ∀ comparison, known.value.kind = .number → ¬HoldsOfWords comparison words known.value := by
    intro comparison number
    cases value : known.value with
    | number amount => exact id
    | _ => simp [value, Stored.kind] at number
  constructor
  · intro split
    have meets : holds store condition = true ↔ HoldsOfWords comparison words known.value := by
      rw [(compares_first found _ _ _).1 ((split_trim condition).trans split), faced]
      exact holds_of_words_iff phrase (names_of_split split).2.2.1 single comparison
    exact ⟨fun number => Bool.eq_false_iff.mpr (mt meets.mp (never _ number)), meets⟩
  · intro split
    have meets : holds store condition = true ↔ HoldsOfWords comparison.turned words known.value := by
      rw [(compares_first found _ _ _).2 ((split_trim condition).trans split), faced,
        ← comparison.turned_holds]
      exact holds_of_words_iff phrase (names_of_split split).1.2.1 single comparison.turned
    exact ⟨fun number => Bool.eq_false_iff.mpr (mt meets.mp (never _ number)), meets⟩

/-- A closed door and two people. -/
def household : Store :=
  [⟨"1", "door", .boolean false⟩, ⟨"2", "who", .text "Ava Bo"⟩, ⟨"3", "age", .number (Number.ofWhole 7)⟩]

theorem household_compared_with_words :
    household.find? (String.ofList "who".toList) = some ⟨"2", "who", .text "Ava Bo"⟩ ∧
      ¬(Stored.text "Ava Bo").IsCollection ∧
      household.find? (String.ofList "Ava Lo".toList) = none ∧ IsPhrase "Ava Lo".toList ∧
      split? "Ava Lo != who".toList = some ⟨"Ava Lo".toList, .unequal, "who".toList⟩ ∧
      holds household "Ava Lo != who".toList = true ∧
      household.find? (String.ofList "age".toList) = some ⟨"3", "age", .number (Number.ofWhole 7)⟩ ∧
      ¬(Stored.number (Number.ofWhole 7)).IsCollection ∧
      household.find? (String.ofList "7 up".toList) = none ∧ IsPhrase "7 up".toList ∧
      split? "age >= 7 up".toList = some ⟨"age".toList, .atLeast, "7 up".toList⟩ ∧
      holds household "age >= 7 up".toList = false := by
  have who : household.find? (String.ofList "who".toList) = some ⟨"2", "who", .text "Ava Bo"⟩ := rfl
  have text : ¬(Stored.text "Ava Bo").IsCollection := by simp [Stored.IsCollection, Stored.kind]
  have stranger : household.find? (String.ofList "Ava Lo".toList) = none := by decide
  have named : IsPhrase "Ava Lo".toList := ⟨['A', 'v', 'a'], ' ', ['L', 'o'], rfl, rfl, rfl⟩
  have first : split? "Ava Lo != who".toList = some ⟨"Ava Lo".toList, .unequal, "who".toList⟩ := by decide
  have age : household.find? (String.ofList "age".toList) =
      some ⟨"3", "age", .number (Number.ofWhole 7)⟩ := rfl
  have number : ¬(Stored.number (Number.ofWhole 7)).IsCollection := by
    simp [Stored.IsCollection, Stored.kind]
  have drink : household.find? (String.ofList "7 up".toList) = none := by decide
  have counted : IsPhrase "7 up".toList := ⟨['7'], ' ', ['u', 'p'], rfl, rfl, rfl⟩
  have second : split? "age >= 7 up".toList = some ⟨"age".toList, .atLeast, "7 up".toList⟩ := by decide
  have apart := ((words_are_read_as_literals who text stranger named).2 first).2.mpr
    (Or.inr ⟨rfl, by decide⟩)
  have never := ((words_are_read_as_literals age number drink counted).1 second).1 rfl
  exact ⟨who, text, stranger, named, first, apart, age, number, drink, counted, second, never⟩

/-- Words that name nothing make conditions hold: a closed door is what any words say, and a name of two
words is found. -/
theorem household_is_what_words_say :
    IsPhrase "wide open".toList ∧ household.find? (String.ofList "wide open".toList) = none ∧
      split? "door == wide open".toList = some ⟨"door".toList, .equal, "wide open".toList⟩ ∧
      holds household "door == wide open".toList = true ∧
      holds household "door >= wide open".toList = true ∧
      IsPhrase "Ava Bo".toList ∧ household.find? (String.ofList "Ava Bo".toList) = none ∧
      split? "who == Ava Bo".toList = some ⟨"who".toList, .equal, "Ava Bo".toList⟩ ∧
      holds household "who == Ava Bo".toList = true :=
  ⟨⟨['w', 'i', 'd', 'e'], ' ', ['o', 'p', 'e', 'n'], rfl, rfl, rfl⟩, by decide, by decide, by decide +kernel,
    by decide +kernel, ⟨['A', 'v', 'a'], ' ', ['B', 'o'], rfl, rfl, rfl⟩, by decide, by decide,
    by decide +kernel⟩

end Condition

end Narrative
