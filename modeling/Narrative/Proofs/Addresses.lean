import Narrative.Proofs.Json.Figures
import Narrative.Proofs.Placeholders

/-!
# Addresses in placeholders

A placeholder names an element, an entry or a whole variable. Which of the three it is depends on the
first opening bracket, and where there is none on the first dot. Main fact: reading gives each of them
exactly for the texts that have its form, and an address reads as itself however many blanks stand around
its parts.
-/

namespace Narrative

set_option autoImplicit false

/-- A count in decimal digits, a plus sign before them or not. -/
def Number.Counts (letters : List Char) (number : Nat) : Prop :=
  ∃ sign digits, letters = sign ++ digits ∧ (sign = [] ∨ sign = ['+']) ∧ digits ≠ [] ∧
    (∀ letter ∈ digits, letter.isDigit = true) ∧ Nat.ofDigitChars 10 digits 0 = number

theorem Number.natural_iff {letters : List Char} {number : Nat} :
    naturalOf? letters = some number ↔ letters ≠ [] ∧ (∀ letter ∈ letters, letter.isDigit = true) ∧
      Nat.ofDigitChars 10 letters 0 = number := by
  unfold naturalOf?
  split
  · rename_i refused
    refine iff_of_false (by simp) ?_
    rintro ⟨some, decimal, -⟩
    obtain empty | ⟨letter, member, other⟩ : letters = [] ∨ ∃ letter ∈ letters, ¬letter.isDigit = true := by
      simpa using refused
    · exact some empty
    · exact other (decimal letter member)
  · rename_i allowed
    have digits : letters ≠ [] ∧ ∀ letter ∈ letters, letter.isDigit = true := by
      simpa using allowed
    simp only [Option.some.injEq, ← and_assoc]
    exact (and_iff_right digits).symm

theorem Number.bounded_iff {digits : List Char} {number : Nat} :
    ((naturalOf? digits).bind fun found => if found < powerOfTwo 64 then some found else none) =
      some number ↔ naturalOf? digits = some number ∧ number < powerOfTwo 64 := by
  rw [Option.bind_eq_some_iff]
  constructor
  · rintro ⟨found, natural, small⟩
    split at small
    · rename_i bounded
      obtain rfl := Option.some.inj small
      exact ⟨natural, bounded⟩
    · cases small
  · rintro ⟨natural, bounded⟩
    exact ⟨number, natural, if_pos bounded⟩

theorem Number.count_iff {letters : List Char} {number : Nat} :
    count? letters = some number ↔ Counts letters number ∧ number < powerOfTwo 64 := by
  unfold count?
  rw [bounded_iff, natural_iff]
  refine and_congr_left fun _ => ?_
  split
  · rename_i rest
    constructor
    · rintro ⟨some, decimal, value⟩
      exact ⟨['+'], rest, rfl, .inr rfl, some, decimal, value⟩
    · rintro ⟨sign, digits, whole, rfl | rfl, some, decimal, value⟩
      · -- The plus sign would be a digit.
        have digit := decimal '+' (by simp [show digits = '+' :: rest from whole.symm])
        cases digit
      · obtain rfl : rest = digits := (List.cons.inj whole).2
        exact ⟨some, decimal, value⟩
  · rename_i unsigned
    constructor
    · rintro ⟨some, decimal, value⟩
      exact ⟨[], letters, rfl, .inl rfl, some, decimal, value⟩
    · rintro ⟨sign, digits, rfl, rfl | rfl, some, decimal, value⟩
      · exact ⟨some, decimal, value⟩
      · exact absurd rfl (unsigned digits)

namespace Placeholder

open Text (Padded)

/-! ## The three forms -/

/-- A trimmed text in the form of an element: a name up to the first opening bracket, and a count in
brackets that close at the end of the text. -/
def IsElement (text name : List Char) (index : Nat) : Prop :=
  ∃ before within, text = before ++ '[' :: (within ++ [']']) ∧ '[' ∉ before ∧
    Text.trim before = name ∧ name ≠ [] ∧ Number.Counts (Text.trim within) index ∧
    index < Number.powerOfTwo 64

/-- A trimmed text in the form of an entry: a name up to the first dot and a key behind it, and nowhere an
opening bracket. -/
def IsEntry (text name key : List Char) : Prop :=
  '[' ∉ text ∧ ∃ before after, text = before ++ '.' :: after ∧ '.' ∉ before ∧
    Text.trim before = name ∧ name ≠ [] ∧ Text.trim after = key ∧ key ≠ []

/-- A trimmed text that is a name as a whole. -/
def IsWhole (text : List Char) : Prop :=
  text ≠ [] ∧ '[' ∉ text ∧ '.' ∉ text

variable {inner name key : List Char} {index : Nat}

theorem form_element_iff : Form inner (.element name index) ↔ IsElement (Text.trim inner) name index := by
  constructor
  · intro form
    cases form with
    | element indexed first named counted =>
        obtain ⟨counts, bounded⟩ := Number.count_iff.mp counted
        exact ⟨_, _, indexed, first, rfl, named, counts, bounded⟩
  · rintro ⟨before, within, indexed, first, rfl, named, counts, bounded⟩
    exact .element indexed first named (Number.count_iff.mpr ⟨counts, bounded⟩)

theorem form_entry_iff : Form inner (.entry name key) ↔ IsEntry (Text.trim inner) name key := by
  constructor
  · intro form
    cases form with
    | entry keyed first unindexed named key =>
        exact ⟨unindexed, _, _, keyed, first, rfl, named, rfl, key⟩
  · rintro ⟨unindexed, before, after, keyed, first, rfl, named, rfl, key⟩
    exact .entry keyed first unindexed named key

theorem form_whole_iff :
    Form inner (.whole name) ↔ name = Text.trim inner ∧ IsWhole (Text.trim inner) := by
  constructor
  · intro form
    cases form with
    | whole named unindexed unkeyed => exact ⟨rfl, named, unindexed, unkeyed⟩
  · rintro ⟨rfl, named, unindexed, unkeyed⟩
    exact .whole named unindexed unkeyed

theorem parse_invalid_iff : parse inner = .invalid ↔ ∀ place, ¬Form inner place := by
  constructor
  · intro invalid place form
    have valid : place ≠ .invalid := by
      rintro rfl
      cases form
    rw [(parse_iff_form valid).mpr form] at invalid
    exact valid invalid
  · intro none
    by_contra valid
    exact none _ ((parse_iff_form valid).mp rfl)

/-! ## Addresses as they are written -/

/-- A part of an address, trimmed and free of the letters at which it would be cut. -/
structure Part (cuts part : List Char) : Prop where
  some : part ≠ []
  trimmed : Text.trim part = part
  free : ∀ letter ∈ cuts, letter ∉ part

/-- Ways to write an address, the digits of an index without zeros in front. -/
inductive Written : Placeholder → List Char → Prop where
  | element {name named counted after : List Char} {index : Nat} (part : Part ['['] name)
      (bounded : index < Number.powerOfTwo 64) (here : Padded name named)
      (count : Padded (Nat.toDigits 10 index) counted)
      (blank : ∀ letter ∈ after, Text.isBlank letter = true) :
      Written (.element name index) (named ++ '[' :: (counted ++ ']' :: after))
  | entry {name key named keyed : List Char} (part : Part ['[', '.'] name) (last : Part ['['] key)
      (here : Padded name named) (there : Padded key keyed) :
      Written (.entry name key) (named ++ '.' :: keyed)
  | whole {name named : List Char} (part : Part ['[', '.'] name) (here : Padded name named) :
      Written (.whole name) named

/-- Only the blanks in front of the first part and at the end of the text are cut off. -/
theorem trim_padded_append {cuts part text : List Char} (padded : Padded part text)
    (here : Part cuts part) (more : List Char) :
    ∃ before, Padded part before ∧ Text.trim (text ++ more) = Text.trimEnd (before ++ more) := by
  obtain ⟨blanks, after, rfl, front, back⟩ := padded
  refine ⟨part ++ after, ⟨[], after, rfl, by simp, back⟩, ?_⟩
  obtain ⟨first, rest, rfl⟩ := List.exists_cons_of_ne_nil here.some
  rw [List.append_assoc, Text.trim_blanks_append _ front]
  exact Text.trim_of_visible _ (Text.visible_first here.trimmed)

theorem counts_of_digits {index : Nat} {text : List Char} (padded : Padded (Nat.toDigits 10 index) text) :
    Number.Counts (Text.trim text) index := by
  have decimal := Json.Figure.is_digit_of_digits index
  have visible : ∀ letter ∈ Nat.toDigits 10 index, Text.isBlank letter = false :=
    fun letter member => Text.visible_of_alphanum (by simp [Char.isAlphanum, decimal letter member])
  rw [padded.trim, Text.trim_of_all_visible visible]
  exact ⟨[], _, rfl, .inl rfl, Json.Figure.digits_ne_nil index, decimal, Json.Figure.digits_value_digits index⟩

/-- What is written for an address has its form. -/
theorem Written.form {place : Placeholder} (written : Written place inner) : Form inner place := by
  cases written with
  | element part bounded here count blank =>
      rename_i name named counted after index
      obtain ⟨before, padded, start⟩ := trim_padded_append here part ('[' :: (counted ++ ']' :: after))
      have ended : Text.trimEnd after = [] := Text.trim_end_append_blanks [] blank
      have visible : Text.isBlank ']' = false := by decide
      have closed := Text.trim_end_append (before ++ '[' :: counted) after visible
      rw [ended, List.append_assoc, List.append_assoc] at closed
      have same : Text.trim before = name := padded.trim.trans part.trimmed
      have counts := Number.count_iff.mpr ⟨counts_of_digits count, bounded⟩
      have form := Form.element (start.trans closed) (padded.absent (part.free '[' (by simp)) (by decide))
        (same ▸ part.some) counts
      rwa [same] at form
  | entry part last here there =>
      rename_i name key named keyed
      obtain ⟨before, padded, start⟩ := trim_padded_append here part ('.' :: keyed)
      rw [Text.trim_end_append before keyed (by decide)] at start
      have same : Text.trim before = name := padded.trim.trans part.trimmed
      have behind : Text.trim (Text.trimEnd keyed) = key := by
        rw [Text.trim_trim_end, there.trim, last.trimmed]
      have unindexed : '[' ∉ named ++ '.' :: keyed := by
        have front := here.absent (part.free '[' (by simp)) (by decide)
        have back := there.absent (last.free '[' (by simp)) (by decide)
        simp [front, back]
      have form := Form.entry start (padded.absent (part.free '.' (by simp)) (by decide))
        (fun member => unindexed ((Text.trim_within _).subset member)) (same ▸ part.some) (behind ▸ last.some)
      rwa [same, behind] at form
  | whole part here =>
      rename_i name
      have same : Text.trim inner = name := here.trim.trans part.trimmed
      have form : Form inner (.whole (Text.trim inner)) := .whole (same ▸ part.some)
        (same ▸ part.free '[' (by simp)) (same ▸ part.free '.' (by simp))
      rwa [same] at form

/-- Reading tells the three forms apart, and nothing else names anything. What is written for an address
reads as that address. -/
theorem addresses_have_three_forms (inner : List Char) :
    (∀ name index, parse inner = .element name index ↔ IsElement (Text.trim inner) name index) ∧
    (∀ name key, parse inner = .entry name key ↔ IsEntry (Text.trim inner) name key) ∧
    (∀ name, parse inner = .whole name ↔ name = Text.trim inner ∧ IsWhole (Text.trim inner)) ∧
    (parse inner = .invalid ↔ (∀ name index, ¬IsElement (Text.trim inner) name index) ∧
      (∀ name key, ¬IsEntry (Text.trim inner) name key) ∧ ¬IsWhole (Text.trim inner)) ∧
    ∀ place, Written place inner → parse inner = place := by
  refine ⟨?_, ?_, ?_, ?_, ?_⟩
  · intro name index
    exact (parse_iff_form (by simp)).trans form_element_iff
  · intro name key
    exact (parse_iff_form (by simp)).trans form_entry_iff
  · intro name
    exact (parse_iff_form (by simp)).trans form_whole_iff
  · rw [parse_invalid_iff]
    constructor
    · intro none
      exact ⟨fun name index element => none _ (form_element_iff.mpr element),
        fun name key entry => none _ (form_entry_iff.mpr entry),
        fun whole => none _ (form_whole_iff.mpr ⟨rfl, whole⟩)⟩
    · rintro ⟨element, entry, whole⟩ place form
      cases place with
      | element name index => exact element name index (form_element_iff.mp form)
      | entry name key => exact entry name key (form_entry_iff.mp form)
      | whole name => exact whole (form_whole_iff.mp form).2
      | invalid => cases form
  · intro place written
    have form := written.form
    have valid : place ≠ .invalid := by
      rintro rfl
      cases written
    exact (parse_iff_form valid).mpr form

/-- A dot in front of a bracket belongs to the name, and a dot behind the first one to the key. -/
theorem shelf_and_hero_addressed :
    IsElement "shelf.top [\u3000+07\t]".toList "shelf.top".toList 7 ∧
    parse " shelf.top [\u3000+07\t]\n".toList = .element "shelf.top".toList 7 ∧
    Written (.entry "hero".toList "hp.max".toList) "hero\u2003. hp.max".toList ∧
    parse "hero\u2003. hp.max".toList = .entry "hero".toList "hp.max".toList := by
  have element : IsElement "shelf.top [\u3000+07\t]".toList "shelf.top".toList 7 :=
    ⟨"shelf.top ".toList, "\u3000+07\t".toList, by decide, by decide, by decide, by decide,
      ⟨['+'], ['0', '7'], rfl, .inr rfl, by simp, by simp, rfl⟩, by decide⟩
  have name : Part ['[', '.'] "hero".toList := ⟨by simp, by decide, by simp⟩
  have key : Part ['['] "hp.max".toList := ⟨by simp, by decide, by simp⟩
  have named : Padded "hero".toList "hero\u2003".toList :=
    ⟨[], "\u2003".toList, rfl, by simp, by simp [Text.isBlank]⟩
  have keyed : Padded "hp.max".toList " hp.max".toList :=
    ⟨[' '], [], rfl, by simp [Text.isBlank], by simp⟩
  have entry : Written (.entry "hero".toList "hp.max".toList) "hero\u2003. hp.max".toList := by
    have whole : "hero\u2003. hp.max".toList = "hero\u2003".toList ++ '.' :: " hp.max".toList := by decide
    exact whole ▸ .entry name key named keyed
  obtain ⟨elements, -⟩ := addresses_have_three_forms " shelf.top [\u3000+07\t]\n".toList
  obtain ⟨-, -, -, -, reads⟩ := addresses_have_three_forms "hero\u2003. hp.max".toList
  have trimmed : Text.trim " shelf.top [\u3000+07\t]\n".toList = "shelf.top [\u3000+07\t]".toList := by
    decide
  exact ⟨element, (elements _ _).mpr (trimmed.symm ▸ element), entry, reads _ entry⟩

end Placeholder

end Narrative
