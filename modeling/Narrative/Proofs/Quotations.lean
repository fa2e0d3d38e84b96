import Narrative.Proofs.Names
import Narrative.Proofs.Turning

/-!
# Quoted texts in conditions

A text between two quote marks that it does not hold is one operand whatever its letters are, and it is a
literal for exactly that text. Main statement: a condition on a text variable and a quoted text holds
exactly if the variable holds the text.
-/

namespace Narrative

set_option autoImplicit false

namespace Comparison

theorem text_equal_iff {left right : String} :
    Comparison.equal.holds (.text left) (.text right) = true ↔ left = right :=
  beq_iff_eq

theorem text_unequal_iff {left right : String} :
    Comparison.unequal.holds (.text left) (.text right) = true ↔ left ≠ right :=
  bne_iff_ne

end Comparison

namespace Condition

/-- A text between two quote marks. -/
def quotation (mark : Char) (text : List Char) : List Char :=
  mark :: (text ++ [mark])

/-- A name without blanks at its ends, without quote marks and without the letters of operators. -/
structure IsPlainName (name : List Char) : Prop where
  present : name ≠ []
  trimmed : Text.trim name = name
  unmarked : ∀ letter ∈ name, Text.isMark letter = false
  unsigned : ∀ letter ∈ name, isSign letter = false

/-- Two operands with an operator between them, and what stands around it. -/
def compared (left before spelling after right : List Char) : List Char :=
  left ++ before ++ (spelling ++ (after ++ right))

theorem unsigned_mark {mark : Char} (marks : Text.isMark mark = true) : isSign mark = false :=
  Text.apart_of_mark (by decide) marks

theorem quote_after_other {mark letter : Char} (other : letter ≠ mark) :
    quoteAfter (some mark) letter = some mark := by
  rw [quoteAfter, if_neg other]

theorem open_after_unmarked {letters : List Char} (unmarked : ∀ letter ∈ letters, Text.isMark letter = false) :
    openAfter none letters = none := by
  induction letters with
  | nil => rfl
  | cons letter rest induction =>
      obtain ⟨here, later⟩ := List.forall_mem_cons.mp unmarked
      rw [openAfter, List.foldl_cons, quoteAfter, here]
      exact induction later

theorem quiet_of_unsigned (open? : Option Char) {letters : List Char}
    (unsigned : ∀ letter ∈ letters, isSign letter = false) : isQuiet open? letters = true := by
  induction letters generalizing open? with
  | nil => rfl
  | cons letter rest induction =>
      obtain ⟨here, later⟩ := List.forall_mem_cons.mp unsigned
      rw [isQuiet, here, induction (quoteAfter open? letter) later]
      simp

theorem IsPlainName.side {name : List Char} (plain : IsPlainName name) : IsSide name :=
  ⟨plain.present, plain.trimmed, open_after_unmarked plain.unmarked, quiet_of_unsigned none plain.unsigned⟩

section Quoted

variable {mark : Char} {text : List Char}

/-- A quote stays open over letters that are not its mark, and no operator is seen in them. -/
theorem inside_quote (absent : mark ∉ text) :
    openAfter (some mark) text = some mark ∧ isQuiet (some mark) text = true := by
  induction text with
  | nil => exact ⟨rfl, rfl⟩
  | cons letter rest induction =>
      simp only [List.mem_cons, not_or] at absent
      have kept := quote_after_other (Ne.symm absent.1)
      obtain ⟨opened, quiet⟩ := induction absent.2
      refine ⟨?_, ?_⟩
      · rw [openAfter, List.foldl_cons, kept]
        exact opened
      · rw [isQuiet, kept, quiet]
        rfl

theorem trim_quotation (marks : Text.isMark mark = true) (text : List Char) :
    Text.trim (quotation mark text) = quotation mark text := by
  have visible := Text.visible_mark marks
  rw [quotation, Text.trim_of_visible _ visible, ← List.cons_append, Text.trim_end_append _ _ visible]
  rfl

theorem quotation_side (marks : Text.isMark mark = true) (absent : mark ∉ text) :
    IsSide (quotation mark text) := by
  have opens : quoteAfter none mark = some mark := by rw [quoteAfter, marks]; rfl
  have closes : quoteAfter (some mark) mark = none := by rw [quoteAfter, if_pos rfl]
  obtain ⟨opened, quiet⟩ := inside_quote absent
  refine ⟨List.cons_ne_nil _ _, trim_quotation marks text, ?_, ?_⟩
  · rw [quotation, openAfter, List.foldl_cons, opens, ← openAfter, open_after_append, opened]
    exact closes
  · rw [quotation, isQuiet, unsigned_mark marks, opens, quiet_append, quiet, opened]
    simp [isQuiet]

/-- Without the marks around it a quoted text is the text. -/
theorem unquoted_quotation (marks : Text.isMark mark = true) (text : List Char) :
    unquoted (quotation mark text) = text := by
  rw [quotation, unquoted, if_pos marks, List.getLast?_concat]
  simp only [if_true, List.dropLast_concat]

theorem literal_of_quotation (marks : Text.isMark mark = true) (text : List Char) (letters : String) :
    (Stored.text letters).coerceLiteral (quotation mark text) = .text (String.ofList text) := by
  simp only [Stored.coerceLiteral, trim_quotation marks, unquoted_quotation marks]

end Quoted

/-- A condition that compares two sides compares the variable that one of them names with what faces it. -/
theorem holds_compared {store : Store} {name other : List Char} {known : Variable}
    (found : store.find? (String.ofList name) = some known) (nameSide : IsSide name)
    (otherSide : IsSide other) {spelling : List Char} {comparison : Comparison}
    (spelled : (spelling, comparison) ∈ spellings) {before after : List Char}
    (blankBefore : ∀ letter ∈ before, Text.isBlank letter = true)
    (blankAfter : ∀ letter ∈ after, Text.isBlank letter = true) :
    holds store (compared name before spelling after other) =
        comparison.holds known.value.toValue (facing store known other).toValue ∧
      holds store (compared other before spelling after name) =
        comparison.holds (facing store known other).toValue known.value.toValue := by
  have first := split_of_single (single_of_sides nameSide otherSide spelled blankBefore blankAfter)
  have second := split_of_single (single_of_sides otherSide nameSide spelled blankBefore blankAfter)
  rw [Text.trim_append_blanks _ blankBefore, Text.trim_blanks_append _ blankAfter, nameSide.trimmed,
    otherSide.trimmed, ← split_trim] at first second
  exact ⟨(compares_first found _ _ _).1 first, (compares_first found _ _ _).2 second⟩

/-- A text variable is found equal to a quoted text exactly if it holds the text, and unequal exactly if it
does not, whatever the letters of the text are, in either spelling and on either side of the operator. -/
theorem quoted_text_is_tested_exactly {store : Store} {name : List Char} {known : Variable} {letters : String}
    (plain : IsPlainName name) (found : store.find? (String.ofList name) = some known)
    (textual : known.value = .text letters) {mark : Char} {text : List Char}
    (marks : Text.isMark mark = true) (absent : mark ∉ text)
    (undeclared : store.find? (String.ofList (quotation mark text)) = none)
    {before after : List Char} (blankBefore : ∀ letter ∈ before, Text.isBlank letter = true)
    (blankAfter : ∀ letter ∈ after, Text.isBlank letter = true) :
    (∀ spelling, (spelling, .equal) ∈ spellings →
      (holds store (compared name before spelling after (quotation mark text)) = true ↔
        letters = String.ofList text) ∧
      (holds store (compared (quotation mark text) before spelling after name) = true ↔
        letters = String.ofList text)) ∧
    ∀ spelling, (spelling, .unequal) ∈ spellings →
      (holds store (compared name before spelling after (quotation mark text)) = true ↔
        letters ≠ String.ofList text) ∧
      (holds store (compared (quotation mark text) before spelling after name) = true ↔
        letters ≠ String.ofList text) := by
  have faced : (facing store known (quotation mark text)).toValue = .text (String.ofList text) := by
    rw [facing, undeclared]
    simp only [literalFor, textual, literal_of_quotation marks]
    rfl
  have sides := fun spelling comparison (spelled : (spelling, comparison) ∈ spellings) =>
    holds_compared found plain.side (quotation_side marks absent) spelled blankBefore blankAfter
  simp only [faced, textual] at sides
  constructor
  · intro spelling spelled
    obtain ⟨left, right⟩ := sides spelling .equal spelled
    rw [left, right]
    exact ⟨Comparison.text_equal_iff, Comparison.text_equal_iff.trans eq_comm⟩
  · intro spelling spelled
    obtain ⟨left, right⟩ := sides spelling .unequal spelled
    rw [left, right]
    exact ⟨Comparison.text_unequal_iff, Comparison.text_unequal_iff.trans ne_comm⟩

/-- A note with an operator and quote marks in it. -/
def noted : Store :=
  [⟨"1", "note", .text " >= \"x\" "⟩]

theorem note_tested_exactly :
    IsPlainName "note".toList ∧
      (∃ known, noted.find? (String.ofList "note".toList) = some known ∧
        known.value = .text " >= \"x\" ") ∧
      Text.isMark '\x27' = true ∧ '\x27' ∉ " >= \"x\" ".toList ∧ '\x27' ∉ [] ∧
      noted.find? (String.ofList (quotation '\x27' " >= \"x\" ".toList)) = none ∧
      noted.find? (String.ofList (quotation '\x27' [])) = none ∧
      (∀ letter ∈ [' '], Text.isBlank letter = true) ∧
      holds noted "note === ' >= \"x\" '".toList = true ∧
      holds noted "'' != note".toList = true ∧ holds noted "'' == note".toList = false := by
  have plain : IsPlainName "note".toList := ⟨by decide, by decide, by simp [Text.isMark], by simp [isSign]⟩
  have found : noted.find? (String.ofList "note".toList) = some ⟨"1", "note", .text " >= \"x\" "⟩ := rfl
  have marks : Text.isMark '\x27' = true := rfl
  have absent : '\x27' ∉ " >= \"x\" ".toList := by decide
  have undeclared : noted.find? (String.ofList (quotation '\x27' " >= \"x\" ".toList)) = none := by
    decide
  have empty : noted.find? (String.ofList (quotation '\x27' [])) = none := by decide
  have blank : ∀ letter ∈ [' '], Text.isBlank letter = true := by simp [Text.isBlank]
  have whole := quoted_text_is_tested_exactly plain found rfl marks absent undeclared blank blank
  have nothing := quoted_text_is_tested_exactly plain found rfl marks List.not_mem_nil empty blank blank
  have equal := ((whole.1 ['=', '=', '='] (by decide)).1).mpr rfl
  have unequal := ((nothing.2 ['!', '='] (by decide)).2).mpr (by decide)
  have apart := mt ((nothing.1 ['=', '='] (by decide)).2).mp (by decide)
  exact ⟨plain, ⟨_, found, rfl⟩, marks, absent, List.not_mem_nil, undeclared, empty, blank, equal, unequal,
    Bool.eq_false_iff.mpr apart⟩

end Condition

end Narrative
