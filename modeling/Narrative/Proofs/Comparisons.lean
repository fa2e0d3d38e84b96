import Narrative.Proofs.Conditions

/-!
# Texts with a single comparison

A condition is cut where one of eight spellings stands outside quotes, in the longest spelling that
begins there. Main fact: a text is cut into two operands exactly if one operator stands in it, all quotes
on either side are closed and neither side is blank; there is at most one way to read it so.
-/

namespace Narrative.Condition

set_option autoImplicit false

/-- The spellings of the operators. -/
def spellings : List (List Char × Comparison) :=
  [(['=', '=', '='], .equal), (['!', '=', '='], .unequal), (['=', '='], .equal), (['!', '='], .unequal),
    (['>', '='], .atLeast), (['<', '='], .atMost), (['>'], .greater), (['<'], .less)]

def BeginsOperator (text : List Char) : Prop :=
  ∃ entry ∈ spellings, entry.1 <+: text

/-- An operator in the longest spelling that a text begins with. -/
structure Spells (text spelling : List Char) (comparison : Comparison) : Prop where
  known : (spelling, comparison) ∈ spellings
  here : spelling <+: text
  longest : ∀ entry ∈ spellings, entry.1 <+: text → entry.1.length ≤ spelling.length

/-- The quote that is open behind letters, given the one before them. -/
def openAfter (open? : Option Char) (letters : List Char) : Option Char :=
  letters.foldl quoteAfter open?

/-- Outside quotes no operator begins in `letters`, which `rest` follows. -/
def Plain (open? : Option Char) (letters rest : List Char) : Prop :=
  ∀ before after, letters = before ++ after → after ≠ [] → openAfter open? before = none →
    ¬BeginsOperator (after ++ rest)

/-- A text as two sides of the only operator in it. -/
structure Single (text left spelling : List Char) (comparison : Comparison) (right : List Char) : Prop where
  whole : text = left ++ (spelling ++ right)
  spelled : Spells (spelling ++ right) spelling comparison
  closedLeft : openAfter none left = none
  closedRight : openAfter none right = none
  plainLeft : Plain none left (spelling ++ right)
  plainRight : Plain none right []
  spokenLeft : Text.trim left ≠ []
  spokenRight : Text.trim right ≠ []

/-- Letters that operators are made of. -/
def isSign (letter : Char) : Bool :=
  letter = '=' || letter = '!' || letter = '<' || letter = '>'

/-- No letter outside quotes is one of an operator. -/
def isQuiet (open? : Option Char) : List Char → Bool
  | [] => true
  | letter :: rest =>
    (open?.isSome || !isSign letter) && isQuiet (quoteAfter open? letter) rest

/-- What stands on one side of an operator: no blanks at its ends, its quotes closed, and none of the
letters of operators outside quotes. -/
structure IsSide (letters : List Char) : Prop where
  present : letters ≠ []
  trimmed : Text.trim letters = letters
  closed : openAfter none letters = none
  quiet : isQuiet none letters = true

instance (letters : List Char) : Decidable (IsSide letters) :=
  decidable_of_iff (letters ≠ [] ∧ Text.trim letters = letters ∧ openAfter none letters = none ∧
      isQuiet none letters = true)
    ⟨fun ⟨present, trimmed, closed, quiet⟩ => ⟨present, trimmed, closed, quiet⟩,
      fun side => ⟨side.present, side.trimmed, side.closed, side.quiet⟩⟩

theorem equals_follows (rest : List Char) : ['='] <+: rest ↔ ∃ later, rest = '=' :: later := by
  cases rest with
  | nil => simp
  | cons next rest => simp [List.cons_prefix_cons, eq_comm]

theorem spells_of_operator_at {text after : List Char} {comparison : Comparison}
    (found : operatorAt? text = some (comparison, after)) :
    ∃ spelling, Spells text spelling comparison ∧ text = spelling ++ after := by
  unfold operatorAt? at found
  split at found <;>
    simp only [Option.some.injEq, Prod.mk.injEq, reduceCtorEq] at found <;>
    obtain ⟨rfl, rfl⟩ := found
  · exact ⟨['=', '=', '='], ⟨by simp [spellings], by simp, by simp [spellings]⟩, rfl⟩
  · exact ⟨['!', '=', '='], ⟨by simp [spellings], by simp, by simp [spellings]⟩, rfl⟩
  · exact ⟨['=', '='], ⟨by simp [spellings], by simp, by simp_all [spellings, equals_follows]⟩, rfl⟩
  · exact ⟨['!', '='], ⟨by simp [spellings], by simp, by simp_all [spellings, equals_follows]⟩, rfl⟩
  · exact ⟨['>', '='], ⟨by simp [spellings], by simp, by simp_all [spellings, equals_follows]⟩, rfl⟩
  · exact ⟨['<', '='], ⟨by simp [spellings], by simp, by simp_all [spellings, equals_follows]⟩, rfl⟩
  · exact ⟨['>'], ⟨by simp [spellings], by simp, by simp_all [spellings, equals_follows]⟩, rfl⟩
  · exact ⟨['<'], ⟨by simp [spellings], by simp, by simp_all [spellings, equals_follows]⟩, rfl⟩

theorem begins_operator_iff (text : List Char) :
    BeginsOperator text ↔ (operatorAt? text).isSome = true := by
  constructor
  · rintro ⟨entry, member, after, rfl⟩
    simp only [spellings, List.mem_cons, List.not_mem_nil, or_false] at member
    rcases member with rfl | rfl | rfl | rfl | rfl | rfl | rfl | rfl <;> simp [operator_at_iff]
  · intro found
    obtain ⟨⟨comparison, after⟩, here⟩ := Option.isSome_iff_exists.mp found
    obtain ⟨spelling, spelled, -⟩ := spells_of_operator_at here
    exact ⟨(spelling, comparison), spelled.known, spelled.here⟩

theorem Spells.unique {text spelling other : List Char} {comparison otherComparison : Comparison}
    (first : Spells text spelling comparison) (second : Spells text other otherComparison) :
    spelling = other ∧ comparison = otherComparison := by
  have same : spelling = other :=
    (List.prefix_of_prefix_length_le first.here second.here
      (second.longest _ first.known first.here)).eq_of_length_le (first.longest _ second.known second.here)
  subst same
  have functional : ∀ entry ∈ spellings, ∀ twin ∈ spellings, entry.1 = twin.1 → entry.2 = twin.2 := by
    decide
  exact ⟨rfl, functional _ first.known _ second.known rfl⟩

theorem operator_at_of_spells {spelling after : List Char} {comparison : Comparison}
    (spelled : Spells (spelling ++ after) spelling comparison) :
    operatorAt? (spelling ++ after) = some (comparison, after) := by
  have begun : BeginsOperator (spelling ++ after) := ⟨_, spelled.known, spelled.here⟩
  obtain ⟨⟨found, later⟩, here⟩ := Option.isSome_iff_exists.mp ((begins_operator_iff _).mp begun)
  obtain ⟨other, same, cut⟩ := spells_of_operator_at here
  obtain ⟨rfl, rfl⟩ := spelled.unique same
  rw [here, List.append_cancel_left cut]

theorem spells_of_known {spelling after : List Char} {comparison : Comparison}
    (known : (spelling, comparison) ∈ spellings) (apart : after.head? ≠ some '=') :
    Spells (spelling ++ after) spelling comparison := by
  refine ⟨known, List.prefix_append spelling after, ?_⟩
  -- Of two spellings that begin in one place, the longer one goes on with a sign of equality.
  have apart : ¬∃ later, after = '=' :: later := by
    rintro ⟨later, rfl⟩
    exact apart rfl
  simp only [spellings, List.mem_cons, List.not_mem_nil, or_false, Prod.mk.injEq] at known
  rcases known with ⟨rfl, -⟩ | ⟨rfl, -⟩ | ⟨rfl, -⟩ | ⟨rfl, -⟩ | ⟨rfl, -⟩ | ⟨rfl, -⟩ | ⟨rfl, -⟩ | ⟨rfl, -⟩ <;>
    simp [spellings, equals_follows] <;> simpa using apart

theorem plain_cons (open? : Option Char) (letter : Char) (letters rest : List Char) :
    Plain open? (letter :: letters) rest ↔
      (open? = none → ¬BeginsOperator (letter :: (letters ++ rest))) ∧
        Plain (quoteAfter open? letter) letters rest := by
  constructor
  · intro plain
    refine ⟨fun closed => plain [] (letter :: letters) rfl (by simp) closed, ?_⟩
    intro before after whole present closed
    exact plain (letter :: before) after (by rw [whole, List.cons_append]) present closed
  · rintro ⟨here, later⟩ before after whole present closed
    cases before with
    | nil =>
        obtain rfl : letter :: letters = after := whole
        exact here closed
    | cons first before =>
        obtain ⟨rfl, rfl⟩ := List.cons.inj whole
        exact later before after rfl present closed

theorem passed_of_not_begun {open? : Option Char} {text : List Char}
    (unbegun : open? = none → ¬BeginsOperator text) :
    (if open?.isNone then operatorAt? text else none) = none := by
  cases open? with
  | some mark => rfl
  | none =>
      have silent := unbegun rfl
      rw [begins_operator_iff] at silent
      exact Option.not_isSome_iff_eq_none.mp silent

/-- The first operator outside quotes is the one that only plain letters stand before. -/
theorem first_operator_of_plain {open? : Option Char} {left spelling right : List Char}
    {comparison : Comparison} (spelled : Spells (spelling ++ right) spelling comparison)
    (closed : openAfter open? left = none) (plain : Plain open? left (spelling ++ right)) :
    firstOperator? open? (left ++ (spelling ++ right)) = some ⟨left, comparison, right⟩ := by
  induction left generalizing open? with
  | nil =>
      obtain rfl : open? = none := closed
      exact first_operator_here (operator_at_of_spells spelled)
  | cons letter left induction =>
      rw [plain_cons] at plain
      have passed := passed_of_not_begun plain.1
      have later := induction closed plain.2
      simp only [List.cons_append, firstOperator?, passed, later, Option.map_some]

theorem plain_of_first_operator {open? : Option Char} {text left right : List Char}
    {comparison : Comparison} (found : firstOperator? open? text = some ⟨left, comparison, right⟩) :
    ∃ spelling, text = left ++ (spelling ++ right) ∧ Spells (spelling ++ right) spelling comparison ∧
      openAfter open? left = none ∧ Plain open? left (spelling ++ right) := by
  induction text generalizing open? left with
  | nil => simp [firstOperator?] at found
  | cons letter rest induction =>
      -- An operator that begins here is the one found, and nothing stands before it.
      by_cases begun : open? = none ∧ BeginsOperator (letter :: rest)
      · obtain ⟨rfl, begun⟩ := begun
        obtain ⟨⟨first, after⟩, here⟩ := Option.isSome_iff_exists.mp ((begins_operator_iff _).mp begun)
        rw [first_operator_here here, Option.some.injEq, Cut.mk.injEq] at found
        obtain ⟨rfl, rfl, rfl⟩ := found
        obtain ⟨spelling, spelled, whole⟩ := spells_of_operator_at here
        rw [whole] at spelled
        refine ⟨spelling, whole, spelled, rfl, ?_⟩
        intro before after empty present
        simp_all
      · have passed := passed_of_not_begun (not_and.mp begun)
        simp only [firstOperator?, passed, Option.map_eq_some_iff] at found
        obtain ⟨⟨between, second, after⟩, later, same⟩ := found
        rw [Cut.mk.injEq] at same
        obtain ⟨rfl, rfl, rfl⟩ := same
        obtain ⟨spelling, whole, spelled, closed, plain⟩ := induction later
        subst whole
        exact ⟨spelling, rfl, spelled, closed, (plain_cons _ _ _ _).mpr ⟨not_and.mp begun, plain⟩⟩

theorem is_operand_iff (open? : Option Char) (text : List Char) :
    isOperand open? text = true ↔ openAfter open? text = none ∧ Plain open? text [] := by
  induction text generalizing open? with
  | nil => simp [isOperand, openAfter, Plain]
  | cons letter rest induction =>
      have step : isOperand open? (letter :: rest) = true ↔
          (open? = none → ¬BeginsOperator (letter :: rest)) ∧
            isOperand (quoteAfter open? letter) rest = true := by
        rw [begins_operator_iff]
        cases open? <;> simp [isOperand]
      rw [step, induction, plain_cons, List.append_nil, openAfter, openAfter, List.foldl_cons]
      exact and_left_comm

theorem split_of_single {text left spelling right : List Char} {comparison : Comparison}
    (single : Single text left spelling comparison right) :
    split? text = some ⟨Text.trim left, comparison, Text.trim right⟩ := by
  have found := first_operator_of_plain single.spelled single.closedLeft single.plainLeft
  have operand := (is_operand_iff none right).mpr ⟨single.closedRight, single.plainRight⟩
  rw [single.whole, split?, found]
  simp [operand, single.spokenLeft, single.spokenRight]

theorem single_of_split {text : List Char} {cut : Cut} (split : split? text = some cut) :
    ∃ left spelling right, Single text left spelling cut.comparison right ∧
      cut.left = Text.trim left ∧ cut.right = Text.trim right := by
  unfold split? at split
  cases found : firstOperator? none text with
  | none => simp [found] at split
  | some first =>
      obtain ⟨left, comparison, right⟩ := first
      simp only [found] at split
      split at split
      · rename_i spoken
        obtain rfl := Option.some.inj split
        simp only [Bool.and_eq_true, Bool.not_eq_true', List.isEmpty_eq_false_iff] at spoken
        obtain ⟨⟨operand, spokenLeft⟩, spokenRight⟩ := spoken
        obtain ⟨closedRight, plainRight⟩ := (is_operand_iff none right).mp operand
        obtain ⟨spelling, whole, spelled, closedLeft, plainLeft⟩ := plain_of_first_operator found
        exact ⟨left, spelling, right,
          ⟨whole, spelled, closedLeft, closedRight, plainLeft, plainRight, spokenLeft, spokenRight⟩, rfl, rfl⟩
      · simp at split

theorem Single.unique {text left spelling right left' spelling' right' : List Char}
    {comparison comparison' : Comparison} (first : Single text left spelling comparison right)
    (second : Single text left' spelling' comparison' right') :
    left = left' ∧ spelling = spelling' ∧ comparison = comparison' ∧ right = right' := by
  have found := first_operator_of_plain first.spelled first.closedLeft first.plainLeft
  have again := first_operator_of_plain second.spelled second.closedLeft second.plainLeft
  rw [← first.whole] at found
  rw [← second.whole, found, Option.some.injEq, Cut.mk.injEq] at again
  obtain ⟨rfl, rfl, rfl⟩ := again
  have same := List.append_cancel_left (first.whole.symm.trans second.whole)
  exact ⟨rfl, List.append_cancel_right same, rfl, rfl⟩

theorem open_after_blanks {blanks : List Char} (blank : ∀ letter ∈ blanks, Text.isBlank letter = true) :
    openAfter none blanks = none := by
  induction blanks with
  | nil => rfl
  | cons letter rest induction =>
      rw [openAfter, List.foldl_cons, unquoted_blank (blank letter (by simp))]
      exact induction fun other member => blank other (by simp [member])

theorem open_after_append (open? : Option Char) (first second : List Char) :
    openAfter open? (first ++ second) = openAfter (openAfter open? first) second :=
  List.foldl_append

theorem quiet_append (open? : Option Char) (first second : List Char) :
    isQuiet open? (first ++ second) = (isQuiet open? first && isQuiet (openAfter open? first) second) := by
  induction first generalizing open? with
  | nil => rfl
  | cons letter rest induction =>
      rw [List.cons_append, isQuiet, isQuiet, induction, openAfter, openAfter, List.foldl_cons, Bool.and_assoc]

theorem quiet_blanks {blanks : List Char} (blank : ∀ letter ∈ blanks, Text.isBlank letter = true) :
    isQuiet none blanks = true := by
  induction blanks with
  | nil => rfl
  | cons letter rest induction =>
      have here := blank letter (by simp)
      have foreign : isSign letter = false := by
        rw [Bool.eq_false_iff]
        intro sign
        simp only [isSign, Bool.or_eq_true, decide_eq_true_eq, or_assoc] at sign
        rcases sign with rfl | rfl | rfl | rfl <;> simp [Text.isBlank] at here
      rw [isQuiet, unquoted_blank here, foreign, induction fun other member => blank other (by simp [member])]
      rfl

/-- Operators begin with letters that quiet texts do not have outside quotes. -/
theorem plain_of_quiet {open? : Option Char} {letters : List Char} (quiet : isQuiet open? letters = true)
    (rest : List Char) : Plain open? letters rest := by
  induction letters generalizing open? with
  | nil => simp [Plain]
  | cons letter letters induction =>
      rw [isQuiet, Bool.and_eq_true] at quiet
      refine (plain_cons _ _ _ _).mpr ⟨?_, induction quiet.2⟩
      rintro rfl begun
      have foreign := quiet.1
      rw [begins_operator_iff, operator_at_iff] at begun
      rcases begun with rfl | rfl | ⟨rfl | rfl, -⟩ <;> simp [isSign] at foreign

theorem single_of_sides {left spelling right : List Char} {comparison : Comparison}
    (leftSide : IsSide left) (rightSide : IsSide right) (known : (spelling, comparison) ∈ spellings)
    {before after : List Char} (blankBefore : ∀ letter ∈ before, Text.isBlank letter = true)
    (blankAfter : ∀ letter ∈ after, Text.isBlank letter = true) :
    Single (left ++ before ++ (spelling ++ (after ++ right))) (left ++ before) spelling comparison
      (after ++ right) := by
  have closedLeft : openAfter none (left ++ before) = none := by
    rw [open_after_append, leftSide.closed, open_after_blanks blankBefore]
  have closedRight : openAfter none (after ++ right) = none := by
    rw [open_after_append, open_after_blanks blankAfter, rightSide.closed]
  have quietLeft : isQuiet none (left ++ before) = true := by
    rw [quiet_append, leftSide.quiet, leftSide.closed, quiet_blanks blankBefore]
    rfl
  have quietRight : isQuiet none (after ++ right) = true := by
    rw [quiet_append, quiet_blanks blankAfter, open_after_blanks blankAfter, rightSide.quiet]
    rfl
  have apart : (after ++ right).head? ≠ some '=' := by
    intro follows
    obtain ⟨later, same⟩ := List.head?_eq_some_iff.mp follows
    rw [same, isQuiet, Bool.and_eq_true] at quietRight
    simp [isSign] at quietRight
  refine ⟨rfl, spells_of_known known apart, closedLeft, closedRight, plain_of_quiet quietLeft _,
    plain_of_quiet quietRight _, ?_, ?_⟩
  · rw [Text.trim_append_blanks left blankBefore, leftSide.trimmed]
    exact leftSide.present
  · rw [Text.trim_blanks_append right blankAfter, rightSide.trimmed]
    exact rightSide.present

/-- A text is cut exactly if it is a single comparison: into the sides of its only operator without the
blanks around them, and in no other way. What is written as two operands with an operator between them,
with or without blanks around it, comes back as it was. -/
theorem split_iff_single_comparison :
    (∀ text left comparison right, split? text = some ⟨left, comparison, right⟩ ↔
      ∃ before spelling after, Single text before spelling comparison after ∧
        left = Text.trim before ∧ right = Text.trim after) ∧
    (∀ text before spelling comparison after before' spelling' comparison' after',
      Single text before spelling comparison after → Single text before' spelling' comparison' after' →
      before = before' ∧ spelling = spelling' ∧ comparison = comparison' ∧ after = after') ∧
    ∀ left right, IsSide left → IsSide right → ∀ spelling comparison, (spelling, comparison) ∈ spellings →
      ∀ before after, (∀ letter ∈ before, Text.isBlank letter = true) →
        (∀ letter ∈ after, Text.isBlank letter = true) →
        split? (left ++ before ++ (spelling ++ (after ++ right))) = some ⟨left, comparison, right⟩ := by
  refine ⟨?exactly, ?once, ?back⟩
  case exactly =>
    intro text left comparison right
    constructor
    · intro split
      obtain ⟨before, spelling, after, single, rfl, rfl⟩ := single_of_split split
      exact ⟨before, spelling, after, single, rfl, rfl⟩
    · rintro ⟨before, spelling, after, single, rfl, rfl⟩
      exact split_of_single single
  case once =>
    intro text before spelling comparison after before' spelling' comparison' after' first second
    exact first.unique second
  case back =>
    intro left right leftSide rightSide spelling comparison known before after blankBefore blankAfter
    rw [split_of_single (single_of_sides leftSide rightSide known blankBefore blankAfter),
      Text.trim_append_blanks left blankBefore, Text.trim_blanks_append right blankAfter, leftSide.trimmed,
      rightSide.trimmed]

/-- Operators inside quotes are text, on either side. -/
theorem split_around_quoted_signs :
    IsSide "'a >= b'".toList ∧ IsSide "\"=\" x".toList ∧ (['!', '=', '='], .unequal) ∈ spellings ∧
      split? "'a >= b'!== \"=\" x".toList = some ⟨"'a >= b'".toList, .unequal, "\"=\" x".toList⟩ ∧
      ∃ before spelling after,
        Single "'a >= b'!== \"=\" x".toList before spelling .unequal after ∧
          "'a >= b'".toList = Text.trim before ∧ "\"=\" x".toList = Text.trim after := by
  have left : IsSide "'a >= b'".toList := ⟨by decide, by decide, by decide, by decide⟩
  have right : IsSide "\"=\" x".toList := ⟨by decide, by decide, by decide, by decide⟩
  have known : (['!', '=', '='], Comparison.unequal) ∈ spellings := by decide
  obtain ⟨exactly, -, back⟩ := split_iff_single_comparison
  have written : "'a >= b'!== \"=\" x".toList =
      "'a >= b'".toList ++ [] ++ (['!', '=', '='] ++ ([' '] ++ "\"=\" x".toList)) := by
    decide
  have split := back _ _ left right _ _ known [] [' '] (by simp) (by simp [Text.isBlank])
  rw [← written] at split
  exact ⟨left, right, known, split, (exactly _ _ _ _).mp split⟩

end Narrative.Condition
