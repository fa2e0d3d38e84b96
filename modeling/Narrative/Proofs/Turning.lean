import Narrative.Proofs.Comparisons

/-!
# Comparisons turned round

A condition may be written with its two operands in the other order and its operator turned round. Blanks
around a condition and around its operands do not count, the operands of any condition may stand on
either side of an operator, and each comparison holds of two values exactly if its counterpart holds of
them in the other order. Main statement: a condition turned round holds in the same stores.
-/

namespace Narrative

set_option autoImplicit false

namespace Comparison

/-- The comparison that says the same of two values in the other order. -/
def turned : Comparison → Comparison
  | .equal => .equal
  | .unequal => .unequal
  | .greater => .less
  | .less => .greater
  | .atLeast => .atMost
  | .atMost => .atLeast

theorem turned_holds (comparison : Comparison) (left right : Value) :
    comparison.turned.holds right left = comparison.holds left right := by
  cases comparison <;>
    simp only [holds, turned, Condition.ordered, Value.equal_comm right left,
      Bool.or_comm (Condition.isNan right), Bool.or_comm right.toNumber.isNaN]

end Comparison

namespace Condition

/-- The spelling with its angle turned round; a spelling without an angle stays. -/
def turnedSpelling (spelling : List Char) : List Char :=
  spelling.map fun letter => if letter = '>' then '<' else if letter = '<' then '>' else letter

/-- A condition turned round: the right operand, the operator turned round, and the left operand, with
blanks between them. -/
def turnedRound (left spelling right : List Char) : List Char :=
  right ++ ' ' :: (turnedSpelling spelling ++ ' ' :: left)

theorem turned_known {spelling : List Char} {comparison : Comparison}
    (known : (spelling, comparison) ∈ spellings) :
    (turnedSpelling spelling, comparison.turned) ∈ spellings := by
  have every : ∀ entry ∈ spellings, (turnedSpelling entry.1, entry.2.turned) ∈ spellings := by decide
  exact every _ known

section Blanks

theorem BeginsOperator.append {text : List Char} (begun : BeginsOperator text) (rest : List Char) :
    BeginsOperator (text ++ rest) := by
  obtain ⟨entry, known, here⟩ := begun
  exact ⟨entry, known, here.trans (List.prefix_append text rest)⟩

theorem trim_end_of_known {spelling : List Char} {comparison : Comparison}
    (known : (spelling, comparison) ∈ spellings) (after : List Char) :
    Text.trimEnd (spelling ++ after) = spelling ++ Text.trimEnd after := by
  have visible : ∀ entry ∈ spellings, entry.1 ≠ [] ∧ ∀ letter ∈ entry.1, Text.isBlank letter = false := by
    simp [spellings, Text.isBlank]
  obtain ⟨present, shown⟩ : spelling ≠ [] ∧ ∀ letter ∈ spelling, Text.isBlank letter = false :=
    visible _ known
  rw [← List.dropLast_append_getLast present, List.append_assoc, List.append_assoc]
  exact Text.trim_end_append _ after (shown _ (List.getLast_mem present))

theorem operator_at_trim_end (text : List Char) :
    operatorAt? (Text.trimEnd text) =
      (operatorAt? text).map fun found => (found.1, Text.trimEnd found.2) := by
  obtain ⟨blanks, whole, -⟩ := Text.exists_blanks_end text
  cases found : operatorAt? text with
  | none =>
      rw [Option.map_none, ← Option.not_isSome_iff_eq_none, ← begins_operator_iff]
      intro begun
      have further := begun.append blanks
      rw [← whole, begins_operator_iff, found] at further
      cases further
  | some operator =>
      obtain ⟨spelling, spelled, parts⟩ := spells_of_operator_at found
      have shorter : Text.trimEnd text = spelling ++ Text.trimEnd operator.2 := by
        rw [parts, trim_end_of_known spelled.known]
      rw [shorter, Option.map_some]
      refine operator_at_of_spells ⟨spelled.known, List.prefix_append spelling _, ?_⟩
      -- What begins the trimmed text begins the whole one, where no longer spelling stands.
      intro entry known here
      apply spelled.longest entry known
      rw [whole, shorter]
      exact here.trans (List.prefix_append _ blanks)

theorem first_operator_trim_end {open? : Option Char}
    (marked : ∀ mark ∈ open?, Text.isMark mark = true) (text : List Char) :
    firstOperator? open? (Text.trimEnd text) =
      (firstOperator? open? text).map fun cut => { cut with right := Text.trimEnd cut.right } := by
  induction text generalizing open? with
  | nil => rfl
  | cons letter rest ih =>
      have later := ih (quote_after_marked marked letter)
      rw [Text.trim_end_cons]
      split
      · rename_i gone
        rw [gone.2] at later
        have nothing : firstOperator? (quoteAfter open? letter) rest = none :=
          Option.map_eq_none_iff.mp later.symm
        simp [firstOperator?, operator_at_blank gone.1, nothing]
      · rename_i kept
        cases open? with
        | some mark => simp [firstOperator?, later, Function.comp_def]
        | none =>
            have here := operator_at_trim_end (letter :: rest)
            rw [Text.trim_end_cons, if_neg kept] at here
            cases found : operatorAt? (letter :: rest) with
            | none => simp [firstOperator?, here, found, later, Function.comp_def]
            | some operator => simp [firstOperator?, here, found]

theorem split_trim_end (text : List Char) : split? (Text.trimEnd text) = split? text := by
  rw [split?, split?, first_operator_trim_end (by simp)]
  cases firstOperator? none text with
  | none => rfl
  | some cut => simp [Text.trim_trim_end, operand_trim_end]

theorem split_blank_cons {letter : Char} (blank : Text.isBlank letter = true) (text : List Char) :
    split? (letter :: text) = split? text := by
  have skipped : firstOperator? none (letter :: text) =
      (firstOperator? none text).map fun cut => { cut with left := letter :: cut.left } := by
    simp [firstOperator?, operator_at_blank blank, unquoted_blank blank]
  rw [split?, split?, skipped]
  cases firstOperator? none text with
  | none => rfl
  | some cut => simp [Text.trim_blank_cons cut.left blank]

/-- Blanks around a condition do not count. -/
theorem split_trim (text : List Char) : split? (Text.trim text) = split? text := by
  rw [Text.trim, split_trim_end]
  exact Text.trim_start_congr (fun letter rest blank => split_blank_cons blank rest) text

theorem operand_blank_cons {letter : Char} (blank : Text.isBlank letter = true) (text : List Char) :
    isOperand none (letter :: text) = isOperand none text := by
  simp [isOperand, operator_at_blank blank, unquoted_blank blank]

theorem operand_trim (text : List Char) : isOperand none (Text.trim text) = isOperand none text := by
  rw [Text.trim, operand_trim_end (by simp)]
  exact Text.trim_start_congr (fun letter rest blank => operand_blank_cons blank rest) text

end Blanks

/-- No operator begins in plain letters whatever follows, so none begins in them alone. -/
theorem Plain.alone {open? : Option Char} {letters rest : List Char} (plain : Plain open? letters rest) :
    Plain open? letters [] := by
  intro before after whole present closed begun
  rw [List.append_nil] at begun
  exact plain before after whole present closed (begun.append rest)

/-- What stands on the sides of a condition can begin one. -/
theorem names_of_split {text left right : List Char} {comparison : Comparison}
    (split : split? text = some ⟨left, comparison, right⟩) : IsName left ∧ IsName right := by
  obtain ⟨before, spelling, after, single, rfl, rfl⟩ := single_of_split split
  have leftOperand : isOperand none before = true :=
    (is_operand_iff none before).mpr ⟨single.closedLeft, single.plainLeft.alone⟩
  have rightOperand : isOperand none after = true :=
    (is_operand_iff none after).mpr ⟨single.closedRight, single.plainRight⟩
  exact ⟨⟨single.spokenLeft, Text.trim_trim before, (operand_trim before).trans leftOperand⟩,
    ⟨single.spokenRight, Text.trim_trim after, (operand_trim after).trans rightOperand⟩⟩

theorem split_of_names {left spelling right : List Char} {comparison : Comparison}
    (leftName : IsName left) (rightName : IsName right) (known : (spelling, comparison) ∈ spellings) :
    split? (left ++ ' ' :: (spelling ++ ' ' :: right)) = some ⟨left, comparison, right⟩ := by
  obtain ⟨leftPresent, leftTrimmed, leftOperand⟩ := leftName
  obtain ⟨rightPresent, rightTrimmed, rightOperand⟩ := rightName
  have space : Text.isBlank ' ' = true := rfl
  have here : operatorAt? (spelling ++ ' ' :: right) = some (comparison, ' ' :: right) :=
    operator_at_of_spells (spells_of_known known (by simp))
  have cut : firstOperator? none (left ++ ' ' :: (spelling ++ ' ' :: right)) =
      some ⟨left ++ [' '], comparison, ' ' :: right⟩ := by
    rw [first_operator_past leftOperand, first_operator_here here]
    rfl
  have before : Text.trim (left ++ [' ']) = left := by
    rw [Text.trim_append_blanks left (by simp [space]), leftTrimmed]
  have after : Text.trim (' ' :: right) = right := by
    rw [Text.trim_blank_cons right space, rightTrimmed]
  simp [split?, cut, before, after, operand_blank_cons space, rightOperand, leftPresent, rightPresent]

theorem operands_swap (store : Store) (left right : List Char) :
    operands? store right left = (operands? store left right).map Prod.swap := by
  unfold operands?
  cases store.find? (String.ofList left) <;> cases store.find? (String.ofList right) <;> rfl

/-- A condition turned round is cut into the same operands in the other order and holds in the same
stores, whatever its operands are and in whatever spelling its operator is written. -/
theorem turned_round_holds_alike (store : Store) {text left right : List Char} {comparison : Comparison}
    (split : split? text = some ⟨left, comparison, right⟩) {spelling : List Char}
    (known : (spelling, comparison) ∈ spellings) :
    split? (turnedRound left spelling right) = some ⟨right, comparison.turned, left⟩ ∧
      holds store (turnedRound left spelling right) = holds store text := by
  obtain ⟨leftName, rightName⟩ := names_of_split split
  have turned : split? (turnedRound left spelling right) = some ⟨right, comparison.turned, left⟩ :=
    split_of_names rightName leftName (turned_known known)
  refine ⟨turned, ?_⟩
  rw [holds_of_split store ((split_trim _).trans turned), holds_of_split store ((split_trim _).trans split),
    operands_swap store left right]
  cases operands? store left right with
  | none => rfl
  | some values => exact comparison.turned_holds values.1.toValue values.2.toValue

/-- The badge and the rank of a guard. -/
def guarded : Store :=
  [⟨"1", "badge", .text "a<b"⟩, ⟨"2", "rank", .number (Number.ofWhole 3)⟩]

theorem guarded_turned_round :
    split? "'a<b'=== badge".toList = some ⟨"'a<b'".toList, .equal, "badge".toList⟩ ∧
      (['=', '=', '='], .equal) ∈ spellings ∧
      holds guarded "badge === 'a<b'".toList = holds guarded "'a<b'=== badge".toList ∧
      split? " 2<rank ".toList = some ⟨"2".toList, .less, "rank".toList⟩ ∧
      (['<'], .less) ∈ spellings ∧
      holds guarded "rank > 2".toList = holds guarded " 2<rank ".toList ∧
      holds guarded "badge === 'a<b'".toList = true ∧ holds guarded "rank > 2".toList = true := by
  have badge : split? "'a<b'=== badge".toList = some ⟨"'a<b'".toList, .equal, "badge".toList⟩ := by decide
  have rank : split? " 2<rank ".toList = some ⟨"2".toList, .less, "rank".toList⟩ := by decide
  have equal : (['=', '=', '='], Comparison.equal) ∈ spellings := by decide
  have less : (['<'], Comparison.less) ∈ spellings := by decide
  exact ⟨badge, equal, (turned_round_holds_alike guarded badge equal).2, rank, less,
    (turned_round_holds_alike guarded rank less).2, by decide +kernel, by decide +kernel⟩

end Condition

end Narrative
