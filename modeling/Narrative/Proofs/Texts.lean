import Narrative.Proofs.Number.Reading
import Narrative.Proofs.Reports
import Narrative.Proofs.Values

/-!
# Values told by their texts

The first letter of a value's text tells its kind, and no text of a value goes on where another one ends. So
values are written alike exactly where they agree up to what the text of a number tells: a finite number, with
the zeros taken for one, and of any other number no more than that it is none.
-/

namespace Narrative

set_option autoImplicit false

namespace Json

theorem quote_append_inj {first second : String} {rest other : List Char}
    (same : quote first.toList ++ rest = quote second.toList ++ other) : first = second ∧ rest = other := by
  have quoted : ∀ (text : String) (after : List Char),
      Told.quotedPart? false (quote text.toList ++ after).tail =
        some ((quote text.toList).tail, after) := by
    intro text after
    have opened : (quote text.toList ++ after).tail =
        text.toList.flatMap escapedLetter ++ '\x22' :: after := by simp [quote]
    rw [opened, Told.quoted_part_of_quote]
    rfl
  have parts := quoted first rest
  rw [same, quoted second other, Option.some.injEq, Prod.mk.injEq] at parts
  have text : quote second.toList = quote first.toList := congrArg ('\x22' :: ·) parts.1
  have read := Told.text_of_quote first
  rw [← text, Told.text_of_quote, Option.some.injEq] at read
  exact ⟨read.symm, parts.2.symm⟩

theorem figures_append_inj {first second rest other : List Char}
    (figures : ∀ letter ∈ first, isFigureLetter letter = true)
    (others : ∀ letter ∈ second, isFigureLetter letter = true) (breaks : Breaks rest)
    (stops : Breaks other) (same : first ++ rest = second ++ other) : first = second ∧ rest = other := by
  have parts := take_while_append figures breaks
  rw [same] at parts
  have others' := take_while_append others stops
  exact ⟨parts.1.symm.trans others'.1, parts.2.symm.trans others'.2⟩

end Json

namespace Value

section Numbers

theorem number_text_of_not_finite {amount : Float} (beyond : Number.isFinite amount = false) :
    (numberJson amount).compact = ['n', 'u', 'l', 'l'] := by
  rw [numberJson, Number.not_whole_of_not_finite beyond, beyond]
  rfl

theorem number_text_cases {amount : Float} (finite : Number.isFinite amount = true) :
    (∃ whole, Number.whole? amount = some whole ∧
      (numberJson amount).compact = Number.wholeText whole) ∨
    ∃ negative significand exponent,
      Number.Binary.ofFloat amount = .finite negative significand exponent ∧
      (numberJson amount).compact = Number.documentText negative significand exponent := by
  rcases number_json_cases amount with ⟨whole, found, written⟩ | ⟨-, -, written⟩ | ⟨beyond, -⟩
  · refine Or.inl ⟨whole, found, ?_⟩
    rw [written]
    rfl
  · cases meaning : Number.Binary.ofFloat amount with
    | finite negative significand exponent =>
        refine Or.inr ⟨negative, significand, exponent, rfl, ?_⟩
        rw [written, Json.compact, Json.realText, meaning]
    | _ => simp [Number.isFinite, meaning] at finite
  · rw [finite] at beyond
    cases beyond

/-- A finite number is written as the text of a number. -/
theorem number_text_lead {amount : Float} (finite : Number.isFinite amount = true) :
    ∃ first later, (numberJson amount).compact = first :: later ∧
      (first.isDigit = true ∨ first = '-') ∧
      ∀ letter ∈ (numberJson amount).compact, Json.isFigureLetter letter = true := by
  have spelled : (Json.Figure.spelling? (numberJson amount).compact).isSome = true := by
    rcases number_text_cases finite with ⟨whole, -, text⟩ | ⟨negative, significand, exponent, -, text⟩
    · rw [text]
      exact Json.Figure.spelled_of_whole whole
    · rw [text]
      exact Json.Figure.spelled_of_document negative significand exponent
  obtain ⟨spelling, read⟩ := Option.isSome_iff_exists.mp spelled
  exact Json.figure_of_spelling read

theorem number_text_reads {amount : Float} (finite : Number.isFinite amount = true) :
    (Number.ofText (numberJson amount).compact == amount) = true := by
  rcases number_text_cases finite with ⟨whole, found, text⟩ | ⟨negative, significand, exponent, meaning, text⟩
  · rw [text]
    exact Number.of_text_whole found
  · rw [text, Number.of_text_document (Number.fits_of_float meaning), ← meaning, Number.to_float_of_float]
    exact Number.beq_self_of_finite finite

theorem null_not_before_figures {amount : Float} (finite : Number.isFinite amount = true)
    (rest other : List Char) : (numberJson amount).compact ++ rest ≠ ['n', 'u', 'l', 'l'] ++ other := by
  intro same
  obtain ⟨first, later, split, opening, -⟩ := number_text_lead finite
  rw [split] at same
  obtain ⟨rfl, -⟩ := List.cons.inj same
  rcases opening with digit | minus
  · cases digit
  · cases minus

/-- Two numbers have one text. -/
def writtenAlike (first second : Float) : Bool :=
  (numberJson first).compact == (numberJson second).compact

/-- The text of a finite number tells the number, and null tells only that there is none. -/
theorem written_alike_iff {first second : Float} :
    writtenAlike first second = true ↔
      (first == second) = true ∨ (Number.isFinite first = false ∧ Number.isFinite second = false) := by
  rw [writtenAlike, beq_iff_eq]
  constructor
  · intro same
    cases finite : Number.isFinite first with
    | true =>
        cases other : Number.isFinite second with
        | true =>
            have read := number_text_reads finite
            rw [same] at read
            exact Or.inl (BEq.trans (BEq.symm read) (number_text_reads other))
        | false =>
            have text := number_text_of_not_finite other
            exact absurd (congrArg (· ++ []) (same.trans text)) (null_not_before_figures finite [] [])
    | false =>
        cases other : Number.isFinite second with
        | true =>
            have text := number_text_of_not_finite finite
            exact absurd (congrArg (· ++ []) (same.symm.trans text)) (null_not_before_figures other [] [])
        | false => exact Or.inr ⟨rfl, rfl⟩
  · rintro (equal | ⟨beyond, beyond'⟩)
    · exact number_text_of_equal equal
    · rw [number_text_of_not_finite beyond, number_text_of_not_finite beyond']

/-- Two numbers are equal if the first of them is not finite. -/
def finiteOrEqual (first second : Float) : Bool :=
  Number.isFinite first || first == second

/-- What makes two numbers equal besides their texts. -/
theorem beq_eq_written_alike (first second : Float) :
    (first == second) = (writtenAlike first second && finiteOrEqual first second) := by
  rw [Bool.eq_iff_iff, Bool.and_eq_true, written_alike_iff, finiteOrEqual, Bool.or_eq_true]
  constructor
  · exact fun equal => ⟨Or.inl equal, Or.inr equal⟩
  · rintro ⟨equal | ⟨beyond, -⟩, finite | equal'⟩
    · exact equal
    · exact equal
    · rw [beyond] at finite
      cases finite
    · exact equal'

theorem number_append_inj {first second : Float} {rest other : List Char} (breaks : Json.Breaks rest)
    (stops : Json.Breaks other)
    (same : (numberJson first).compact ++ rest = (numberJson second).compact ++ other) :
    writtenAlike first second = true ∧ rest = other := by
  rw [writtenAlike, beq_iff_eq]
  cases finite : Number.isFinite first with
  | true =>
      cases finite' : Number.isFinite second with
      | true =>
          obtain ⟨-, -, -, -, figures⟩ := number_text_lead finite
          obtain ⟨-, -, -, -, figures'⟩ := number_text_lead finite'
          exact Json.figures_append_inj figures figures' breaks stops same
      | false =>
          rw [number_text_of_not_finite finite'] at same
          exact absurd same (null_not_before_figures finite rest other)
  | false =>
      rw [number_text_of_not_finite finite] at same ⊢
      cases finite' : Number.isFinite second with
      | true => exact absurd same.symm (null_not_before_figures finite' other rest)
      | false =>
          rw [number_text_of_not_finite finite'] at same ⊢
          exact ⟨rfl, List.append_cancel_left same⟩

end Numbers

section Leads

/-- The kind of the value whose text begins with a letter. -/
def kindAt? (first : Char) : Option String :=
  if first = '\x22' then some "string"
  else if first = '[' then some "array"
  else if first = '\x7b' then some "object"
  else if first = 't' || first = 'f' then some "boolean"
  else if first = 'n' || first = '-' || first.isDigit then some "number"
  else none

theorem kind_at_figure {first : Char} (opening : first.isDigit = true ∨ first = '-') :
    kindAt? first = some "number" := by
  rcases opening with digit | rfl
  · have apart := Json.ne_of_digit digit
    simp [kindAt?, apart '\x22' rfl, apart '[' rfl, apart '\x7b' rfl, apart 't' rfl, apart 'f' rfl, digit]
  · rfl

/-- The first letter of a text tells the kind of the value. -/
theorem compact_lead (value : Value) :
    ∃ first later, value.toJson.compact = first :: later ∧ kindAt? first = some value.kindName := by
  cases value with
  | boolean flag => cases flag <;> exact ⟨_, _, rfl, rfl⟩
  | number amount =>
      cases finite : Number.isFinite amount with
      | true =>
          obtain ⟨first, later, split, opening, -⟩ := number_text_lead finite
          exact ⟨first, later, split, kind_at_figure opening⟩
      | false => exact ⟨'n', ['u', 'l', 'l'], number_text_of_not_finite finite, rfl⟩
  | text letters => exact ⟨_, _, rfl, rfl⟩
  | list items => exact ⟨_, _, rfl, rfl⟩
  | object entries => exact ⟨_, _, rfl, rfl⟩

end Leads

section Endings

/-- Texts that go on as one text agree and end in one place. -/
def EndsAlike (first second : List Char) (agrees : Bool) : Prop :=
  ∀ rest other, first ++ rest = second ++ other → agrees = true ∧ rest = other

variable {first second : List Char} {agrees : Bool}

theorem EndsAlike.letter (alike : EndsAlike first second agrees) (letter : Char) :
    EndsAlike (letter :: first) (letter :: second) agrees :=
  fun rest other same => alike rest other (List.cons.inj same).2

theorem ends_alike_of_ne {letter next : Char} (apart : letter ≠ next) (first second : List Char)
    (agrees : Bool) : EndsAlike (letter :: first) (next :: second) agrees :=
  fun _ _ same => absurd (List.cons.inj same).1 apart

theorem ends_alike_mark (letter : Char) : EndsAlike [letter] [letter] true :=
  fun _ _ same => ⟨rfl, (List.cons.inj same).2⟩

theorem EndsAlike.named (alike : EndsAlike first second agrees) (name another : String) :
    EndsAlike (Json.quote name.toList ++ ':' :: first) (Json.quote another.toList ++ ':' :: second)
      (name == another && agrees) := by
  intro rest other same
  rw [List.append_assoc, List.append_assoc] at same
  obtain ⟨rfl, after⟩ := Json.quote_append_inj same
  rw [beq_self_eq_true, Bool.true_and]
  exact alike rest other (List.cons.inj after).2

/-- The texts of two values end where a mark follows them. -/
def ValuesEndAlike (left right : Value) : Prop :=
  ∀ rest other, Json.Breaks rest → Json.Breaks other →
    left.toJson.compact ++ rest = right.toJson.compact ++ other →
      agree writtenAlike left right = true ∧ rest = other

theorem ValuesEndAlike.before {left right : Value} (values : ValuesEndAlike left right)
    (alike : EndsAlike first second agrees) (breaks : ∀ rest, Json.Breaks (first ++ rest))
    (stops : ∀ rest, Json.Breaks (second ++ rest)) :
    EndsAlike (left.toJson.compact ++ first) (right.toJson.compact ++ second)
      (agree writtenAlike left right && agrees) := by
  intro rest other same
  rw [List.append_assoc, List.append_assoc] at same
  obtain ⟨here, after⟩ := values (first ++ rest) (second ++ other) (breaks rest) (stops other) same
  rw [here, Bool.true_and]
  exact alike rest other after

/-- No value begins with a closing bracket. -/
theorem bracket_apart (value : Value) (later : List Char) (agrees : Bool) :
    EndsAlike [']'] (value.toJson.compact ++ later) agrees ∧
      EndsAlike (value.toJson.compact ++ later) [']'] agrees := by
  obtain ⟨first, tail, split, kind⟩ := compact_lead value
  have apart : ']' ≠ first := by
    rintro rfl
    cases kind
  rw [split, List.cons_append]
  exact ⟨ends_alike_of_ne apart _ _ agrees, ends_alike_of_ne apart.symm _ _ agrees⟩

mutual

theorem values_end_alike (left right : Value) : ValuesEndAlike left right := by
  intro rest other breaks stops same
  -- One letter begins both texts, so cases of two kinds fall away before any text is read.
  have kinds : left.kindName = right.kindName := by
    obtain ⟨first, later, split, kind⟩ := compact_lead left
    obtain ⟨second, after, split', kind'⟩ := compact_lead right
    rw [split, split'] at same
    obtain ⟨rfl, -⟩ := List.cons.inj same
    exact Option.some.inj (kind.symm.trans kind')
  cases left with
  | boolean flag =>
      cases right with
      | boolean another =>
          cases flag <;> cases another
          · exact ⟨rfl, List.append_cancel_left same⟩
          · cases (List.cons.inj same).1
          · cases (List.cons.inj same).1
          · exact ⟨rfl, List.append_cancel_left same⟩
      | _ => exact absurd kinds (by simp [kindName])
  | number amount =>
      cases right with
      | number another => exact number_append_inj breaks stops same
      | _ => exact absurd kinds (by simp [kindName])
  | text letters =>
      cases right with
      | text others =>
          obtain ⟨rfl, after⟩ := Json.quote_append_inj same
          exact ⟨beq_self_eq_true letters, after⟩
      | _ => exact absurd kinds (by simp [kindName])
  | list items =>
      cases right with
      | list others => exact (items_end_alike items others).1 rest other (List.cons.inj same).2
      | _ => exact absurd kinds (by simp [kindName])
  | object entries =>
      cases right with
      | object others => exact (entries_end_alike entries others).1 rest other (List.cons.inj same).2
      | _ => exact absurd kinds (by simp [kindName])

theorem items_end_alike (lefts rights : List Value) :
    EndsAlike (Json.compactItems (itemsToJson lefts)) (Json.compactItems (itemsToJson rights))
        (agreeItems writtenAlike lefts rights) ∧
      EndsAlike (Json.compactLaterItems (itemsToJson lefts)) (Json.compactLaterItems (itemsToJson rights))
        (agreeItems writtenAlike lefts rights) := by
  cases lefts with
  | nil =>
      cases rights with
      | nil => exact ⟨ends_alike_mark ']', ends_alike_mark ']'⟩
      | cons right rights => exact ⟨(bracket_apart right _ _).1, ends_alike_of_ne (by decide) _ _ _⟩
  | cons left lefts =>
      cases rights with
      | nil => exact ⟨(bracket_apart left _ _).2, ends_alike_of_ne (by decide) _ _ _⟩
      | cons right rights =>
          -- What stands behind an item begins with a mark, which no number goes on with.
          have whole := (values_end_alike left right).before (items_end_alike lefts rights).2
            (Json.breaks_later_items _) (Json.breaks_later_items _)
          exact ⟨whole, whole.letter ','⟩

theorem entries_end_alike (lefts rights : List (String × Value)) :
    EndsAlike (Json.compactMembers (entriesToJson lefts)) (Json.compactMembers (entriesToJson rights))
        (agreeEntries writtenAlike lefts rights) ∧
      EndsAlike (Json.compactLaterMembers (entriesToJson lefts))
        (Json.compactLaterMembers (entriesToJson rights)) (agreeEntries writtenAlike lefts rights) := by
  cases lefts with
  | nil =>
      cases rights with
      | nil => exact ⟨ends_alike_mark '\x7d', ends_alike_mark '\x7d'⟩
      | cons right rights =>
          exact ⟨ends_alike_of_ne (by decide) _ _ _, ends_alike_of_ne (by decide) _ _ _⟩
  | cons left lefts =>
      cases rights with
      | nil => exact ⟨ends_alike_of_ne (by decide) _ _ _, ends_alike_of_ne (by decide) _ _ _⟩
      | cons right rights =>
          have whole := ((values_end_alike left.2 right.2).before (entries_end_alike lefts rights).2
            (Json.breaks_later_members _) (Json.breaks_later_members _)).named left.1 right.1
          rw [← Bool.and_assoc] at whole
          exact ⟨whole, whole.letter ','⟩

end

/-- Values are written alike exactly where they agree up to the texts of their numbers. -/
theorem text_eq_iff (left right : Value) :
    left.toJson.compact = right.toJson.compact ↔ agree writtenAlike left right = true := by
  constructor
  · intro same
    exact (values_end_alike left right [] [] Json.breaks_nil Json.breaks_nil (by rw [same])).1
  · exact text_of_agree (fun first second => eq_of_beq) left right

end Endings

end Value

end Narrative
