import Narrative.Condition
import Narrative.Proofs.Saving
import Narrative.Proofs.Values

/-!
# Conditions on a variable

A condition whose first operand names a variable is cut right after the name, so the variable is compared
with what stands behind the sign. A list or an object is compared with the collection that a literal
spells; where the literal spells none, it is compared with itself.
-/

namespace Narrative

set_option autoImplicit false

namespace Comparison

/-- How a comparison is written. -/
def sign : Comparison → List Char
  | .equal => ['=', '=']
  | .unequal => ['!', '=']
  | .greater => ['>']
  | .less => ['<']
  | .atLeast => ['>', '=']
  | .atMost => ['<', '=']

end Comparison

namespace Condition

/-- A name that a condition can begin with: it has no blanks at its ends, closes its quotes and holds no
operator outside of them. -/
def IsName (name : List Char) : Prop :=
  name ≠ [] ∧ Text.trim name = name ∧ isOperand none name = true

instance (name : List Char) : Decidable (IsName name) :=
  inferInstanceAs (Decidable (name ≠ [] ∧ Text.trim name = name ∧ isOperand none name = true))

/-- A condition on the variable with a name. -/
def comparing (name : List Char) (comparison : Comparison) (letters : List Char) : List Char :=
  name ++ ' ' :: (comparison.sign ++ ' ' :: letters)

theorem operator_at_iff (letter : Char) (rest : List Char) :
    (operatorAt? (letter :: rest)).isSome = true ↔
      letter = '>' ∨ letter = '<' ∨ ((letter = '=' ∨ letter = '!') ∧ rest.head? = some '=') := by
  unfold operatorAt?
  split <;> simp_all
  rename_i notEqual notUnequal _ _
  rintro (rfl | rfl) follows
  · obtain ⟨after, rfl⟩ := List.head?_eq_some_iff.mp follows
    exact notEqual after rfl rfl
  · obtain ⟨after, rfl⟩ := List.head?_eq_some_iff.mp follows
    exact notUnequal after rfl rfl

theorem operator_at_congr (letter : Char) {first second : List Char}
    (heads : first.head? = some '=' ↔ second.head? = some '=') :
    (operatorAt? (letter :: first)).isSome = (operatorAt? (letter :: second)).isSome := by
  rw [Bool.eq_iff_iff, operator_at_iff, operator_at_iff, heads]

theorem operator_at_sign (comparison : Comparison) {after : List Char}
    (apart : after.head? ≠ some '=') :
    operatorAt? (comparison.sign ++ after) = some (comparison, after) := by
  cases after with
  | nil => cases comparison <;> rfl
  | cons letter after =>
      have other : letter ≠ '=' := by simpa using apart
      cases comparison <;> simp [Comparison.sign, operatorAt?, other]

theorem operator_at_blank {letter : Char} (blank : Text.isBlank letter = true) (rest : List Char) :
    operatorAt? (letter :: rest) = none := by
  rw [← Option.not_isSome_iff_eq_none, operator_at_iff]
  rintro (rfl | rfl | ⟨rfl | rfl, -⟩) <;> simp [Text.isBlank] at blank

theorem quote_after_blank {open? : Option Char} (marked : ∀ mark ∈ open?, Text.isMark mark = true)
    {letter : Char} (blank : Text.isBlank letter = true) : quoteAfter open? letter = open? := by
  have unquoted : Text.isMark letter = false := Text.unmarked_of (by decide) blank
  cases open? with
  | none => simp [quoteAfter, unquoted]
  | some mark =>
      have other : letter ≠ mark := by
        rintro rfl
        simp [unquoted] at marked
      simp [quoteAfter, other]

theorem unquoted_blank {letter : Char} (blank : Text.isBlank letter = true) :
    quoteAfter none letter = none :=
  quote_after_blank (by simp) blank

theorem quote_after_marked {open? : Option Char} (marked : ∀ mark ∈ open?, Text.isMark mark = true)
    (letter : Char) : ∀ mark ∈ quoteAfter open? letter, Text.isMark mark = true := by
  cases open? with
  | none =>
      simp only [quoteAfter]
      split <;> simp_all
  | some opened =>
      simp only [quoteAfter]
      split <;> simp_all

theorem first_operator_here {text after : List Char} {comparison : Comparison}
    (found : operatorAt? text = some (comparison, after)) :
    firstOperator? none text = some ⟨[], comparison, after⟩ := by
  cases text with
  | nil => simp [operatorAt?] at found
  | cons letter rest => simp [firstOperator?, found]

/-- The search for an operator passes over an operand and the blank after it. -/
theorem first_operator_past {open? : Option Char} {name : List Char}
    (operand : isOperand open? name = true) (rest : List Char) :
    firstOperator? open? (name ++ ' ' :: rest) =
      (firstOperator? none rest).map fun cut => { cut with left := name ++ ' ' :: cut.left } := by
  induction name generalizing open? with
  | nil =>
      obtain rfl : open? = none := by simpa [isOperand] using operand
      simp [firstOperator?, operator_at_blank (show Text.isBlank ' ' = true by rfl), quoteAfter,
        Text.isMark]
  | cons letter name induction =>
      simp only [isOperand] at operand
      split at operand
      · simp at operand
      · rename_i unspoken
        have passed : (if open?.isNone then operatorAt? (letter :: (name ++ ' ' :: rest)) else none) =
            none := by
          cases open? with
          | some mark => rfl
          | none =>
              have heads : (name ++ ' ' :: rest).head? = some '=' ↔ name.head? = some '=' := by
                cases name <;> simp
              rw [← Option.not_isSome_iff_eq_none]
              simpa [operator_at_congr letter heads] using unspoken
        simp only [List.cons_append, firstOperator?, passed, induction operand, Option.map_map]
        rfl

/-- Blanks at the end of a text are outside quotes, or inside the quote that stays open. -/
theorem operand_trim_end {open? : Option Char} (marked : ∀ mark ∈ open?, Text.isMark mark = true)
    (text : List Char) : isOperand open? (Text.trimEnd text) = isOperand open? text := by
  induction text generalizing open? with
  | nil => rfl
  | cons letter rest induction =>
      rw [Text.trim_end_cons]
      split
      · rename_i gone
        have kept := induction marked
        rw [gone.2] at kept
        simp [isOperand, operator_at_blank gone.1, quote_after_blank marked gone.1, ← kept]
      · have heads : (Text.trimEnd rest).head? = some '=' ↔ rest.head? = some '=' := by
          cases rest with
          | nil => rfl
          | cons next rest =>
              rw [Text.trim_end_cons]
              split
              · rename_i gone
                have other : next ≠ '=' := by
                  rintro rfl
                  simp [Text.isBlank] at gone
                simp [other]
              · rfl
        simp only [isOperand, operator_at_congr letter heads,
          induction (quote_after_marked marked letter)]

theorem trim_end_sign (before : List Char) (comparison : Comparison) (after : List Char) :
    Text.trimEnd (before ++ (comparison.sign ++ after)) =
      before ++ (comparison.sign ++ Text.trimEnd after) := by
  cases comparison <;>
    simp [Comparison.sign, Text.trim_end_append, Text.trim_end_cons, Text.isBlank]

theorem trim_comparing {name : List Char} (named : IsName name) (comparison : Comparison)
    (letters : List Char) :
    Text.trim (comparing name comparison letters) =
      name ++ ' ' :: (comparison.sign ++ Text.trimEnd (' ' :: letters)) := by
  obtain ⟨present, trimmed, -⟩ := named
  cases name with
  | nil => exact absurd rfl present
  | cons letter rest =>
      have visible := Text.visible_first trimmed
      rw [comparing, List.cons_append, Text.trim_of_visible _ visible, ← List.cons_append,
        List.append_cons, trim_end_sign, ← List.append_cons]

/-- A condition on a variable is cut right after the name. -/
theorem split_comparing {name : List Char} (named : IsName name) (comparison : Comparison)
    (letters : List Char) :
    split? (Text.trim (comparing name comparison letters)) =
      if isOperand none letters && !(Text.trim letters).isEmpty then
        some ⟨name, comparison, Text.trim letters⟩
      else none := by
  have ⟨present, trimmed, operand⟩ := named
  have spaced : Text.trim (name ++ [' ']) = name := by
    rw [← Text.trim_trim_end, Text.trim_end_append_blank name (by rfl), Text.trim_trim_end, trimmed]
  have literal : Text.trim (Text.trimEnd (' ' :: letters)) = Text.trim letters := by
    rw [Text.trim_trim_end, Text.trim_blank_cons letters (by rfl)]
  have closed : isOperand none (Text.trimEnd (' ' :: letters)) = isOperand none letters := by
    rw [operand_trim_end (by simp)]
    simp [isOperand, operator_at_blank (show Text.isBlank ' ' = true by rfl), quoteAfter, Text.isMark]
  have apart : (Text.trimEnd (' ' :: letters)).head? ≠ some '=' := by
    rw [Text.trim_end_cons]
    split <;> simp
  have cut : firstOperator? none (Text.trim (comparing name comparison letters)) =
      some ⟨name ++ [' '], comparison, Text.trimEnd (' ' :: letters)⟩ := by
    rw [trim_comparing named, first_operator_past operand, first_operator_here (operator_at_sign comparison apart)]
    rfl
  have known : name.isEmpty = false := by simpa using present
  simp [split?, cut, spaced, literal, closed, known]

/-- A text that is cut is no blank condition and not the word for truth, so its two operands decide. -/
theorem holds_of_split (store : Store) {condition : List Char} {cut : Cut}
    (sides : split? (Text.trim condition) = some cut) :
    holds store condition =
      match operands? store cut.left cut.right with
      | none => false
      | some (left, right) => cut.comparison.holds left.toValue right.toValue := by
  have spoken : (Text.trim condition).isEmpty = false := by
    rw [List.isEmpty_eq_false_iff]
    intro blank
    simp [blank, split?, firstOperator?] at sides
  have compared : (String.ofList (Text.trim condition) == "true") = false := by
    rw [beq_eq_false_iff_ne]
    intro truth
    have letters := congrArg String.toList truth
    rw [String.toList_ofList] at letters
    have none_here : split? "true".toList = none := by decide
    rw [letters, none_here] at sides
    simp at sides
  simp only [holds, spoken, compared, sides]
  rfl

/-- A condition on a variable holds where an operand stands behind the sign and the comparison holds of
the two values. -/
theorem holds_comparing (store : Store) {name : List Char} (named : IsName name)
    (comparison : Comparison) (letters : List Char) :
    holds store (comparing name comparison letters) =
      (isOperand none letters && !(Text.trim letters).isEmpty &&
        match operands? store name (Text.trim letters) with
        | none => false
        | some (left, right) => comparison.holds left.toValue right.toValue) := by
  have blank : ' ' ∈ Text.trim (comparing name comparison letters) := by
    simp [trim_comparing named]
  have spoken : (Text.trim (comparing name comparison letters)).isEmpty = false := by
    rw [List.isEmpty_eq_false_iff]
    exact List.ne_nil_of_mem blank
  have compared : (String.ofList (Text.trim (comparing name comparison letters)) == "true") = false := by
    rw [beq_eq_false_iff_ne]
    intro truth
    have letters := congrArg String.toList truth
    rw [String.toList_ofList] at letters
    rw [letters] at blank
    simp at blank
  simp only [holds, spoken, compared, split_comparing named]
  cases isOperand none letters && !(Text.trim letters).isEmpty <;> rfl

end Condition

namespace Scalar

theorem equal_self {scalar : Scalar} (definite : ∀ amount ∈ scalar.numbers, amount.isNaN = false) :
    Value.agree (· == ·) scalar.toValue scalar.toValue = true := by
  cases scalar with
  | boolean flag => exact beq_self_eq_true flag
  | number amount => exact Number.beq_self (definite amount (by simp [numbers]))
  | text letters => exact beq_self_eq_true letters

end Scalar

namespace Stored

/-- Lists and objects. -/
def IsCollection (stored : Stored) : Prop :=
  stored.kind = .list ∨ stored.kind = .object

/-- The list or object that a literal spells, read into a variable that holds one. -/
def spelled? (current : Stored) (letters : List Char) : Option Stored :=
  match current, Json.read? (Text.trim letters) with
  | .list _ _, some (.list items) => some (current.coerce (Value.ofJson (.list items)))
  | .object _, some (.object members) => some (current.coerce (Value.ofJson (.object members)))
  | _, _ => none

/-- A literal that spells no value of the variable's kind stands for what the variable holds. -/
theorem coerce_literal_of_collection {current : Stored} (collection : current.IsCollection)
    (letters : List Char) :
    current.coerceLiteral letters = (current.spelled? letters).getD current := by
  cases current with
  | list elementKind elements =>
      simp only [coerceLiteral, spelled?]
      cases Json.read? (Text.trim letters) with
      | none => rfl
      | some document => cases document <;> rfl
  | object members =>
      simp only [coerceLiteral, spelled?]
      cases Json.read? (Text.trim letters) with
      | none => rfl
      | some document => cases document <;> rfl
  | _ => simp [IsCollection, kind] at collection

theorem spelled_trim (current : Stored) (letters : List Char) :
    current.spelled? (Text.trim letters) = current.spelled? letters := by
  simp only [spelled?, Text.trim_trim]

theorem spelled_kind {current other : Stored} {letters : List Char}
    (spelled : current.spelled? letters = some other) : other.kind = current.kind := by
  unfold spelled? at spelled
  split at spelled
  · obtain rfl := Option.some.inj spelled
    rfl
  · obtain rfl := Option.some.inj spelled
    rfl
  · simp at spelled

theorem is_nan_of_collection {stored : Stored} (collection : stored.IsCollection) :
    Condition.isNan stored.toValue = false := by
  cases stored <;> first | rfl | simp [IsCollection, kind] at collection

theorem equal_self {stored : Stored} (collection : stored.IsCollection)
    (definite : ∀ amount ∈ stored.numbers, amount.isNaN = false) :
    Value.equal stored.toValue stored.toValue = true := by
  cases stored with
  | list elementKind elements =>
      apply Value.agree_items_self
      intro item member
      obtain ⟨element, among, rfl⟩ := List.mem_map.mp member
      apply Scalar.equal_self
      intro amount held
      exact definite amount (List.mem_flatMap.mpr ⟨element, among, held⟩)
  | object members =>
      apply Value.agree_entries_self
      intro entry member
      obtain ⟨named, among, rfl⟩ := List.mem_map.mp member
      apply Scalar.equal_self
      intro amount held
      exact definite amount (List.mem_flatMap.mpr ⟨named, among, held⟩)
  | _ => simp [IsCollection, kind] at collection

theorem display_of_equal {left right : Stored} (collection : left.IsCollection)
    (equal : Value.equal left.toValue right.toValue = true) : right.display = left.display := by
  have text := Value.text_of_equal left.toValue right.toValue equal
  cases left with
  | list elementKind elements =>
      cases right with
      | list otherKind others => exact (congrArg String.ofList text).symm
      | _ => simp [toValue, Value.equal, Value.agree] at equal
  | object members =>
      cases right with
      | object others => exact (congrArg String.ofList text).symm
      | _ => simp [toValue, Value.equal, Value.agree] at equal
  | _ => simp [IsCollection, kind] at collection

end Stored

namespace Condition

/-- A list or object variable equals a literal that spells a collection of its kind exactly where the two
are equal, and then both are written alike; it equals every operand that spells none. -/
theorem collection_equals_what_it_spells {store : Store} {name : List Char} {known : Variable}
    (named : IsName name) (found : store.find? (String.ofList name) = some known)
    (collection : known.value.IsCollection)
    (definite : ∀ amount ∈ known.value.numbers, amount.isNaN = false) {letters : List Char}
    (literal : store.find? (String.ofList (Text.trim letters)) = none) :
    (holds store (comparing name .equal letters) = true ↔
      isOperand none letters = true ∧ Text.trim letters ≠ [] ∧
        ∀ other, known.value.spelled? letters = some other →
          Value.equal known.value.toValue other.toValue = true) ∧
    ∀ other, known.value.spelled? letters = some other →
      holds store (comparing name .equal letters) = true → other.display = known.display := by
  have itself := Stored.equal_self collection definite
  have held : holds store (comparing name .equal letters) = true ↔
      isOperand none letters = true ∧ Text.trim letters ≠ [] ∧
        ∀ other, known.value.spelled? letters = some other →
          Value.equal known.value.toValue other.toValue = true := by
    have operands : operands? store name (Text.trim letters) =
        some (known.value, (known.value.spelled? letters).getD known.value) := by
      simp only [operands?, found, literal, literalFor]
      rw [Stored.coerce_literal_of_collection collection, Stored.spelled_trim]
    have definite : isNan ((known.value.spelled? letters).getD known.value).toValue = false := by
      apply Stored.is_nan_of_collection
      cases spelled : known.value.spelled? letters with
      | none => exact collection
      | some other => simpa [Stored.IsCollection, Stored.spelled_kind spelled] using collection
    rw [holds_comparing store named, operands]
    simp only [Comparison.holds, Stored.is_nan_of_collection collection, definite]
    cases spelled : known.value.spelled? letters with
    | none => simp [itself]
    | some other => simp [and_assoc]
  refine ⟨held, ?_⟩
  intro other spelled holding
  exact Stored.display_of_equal collection ((held.mp holding).2.2 other spelled)

/-- A bag with one thing in it. -/
def bag : Variable :=
  ⟨"1", "bag", .list .text [.text "rope"]⟩

theorem bag_equals_its_spelling :
    IsName "bag".toList ∧ Store.find? (String.ofList "bag".toList) [bag] = some bag ∧
      bag.value.IsCollection ∧ (∀ amount ∈ bag.value.numbers, amount.isNaN = false) ∧
      Store.find? (String.ofList (Text.trim "[\"rope\"]".toList)) [bag] = none ∧
      holds [bag] (comparing "bag".toList .equal "[\"rope\"]".toList) = true ∧
      ∀ other, bag.value.spelled? "[\"rope\"]".toList = some other → other.display = bag.display := by
  have named : IsName "bag".toList := by decide
  have found : Store.find? (String.ofList "bag".toList) [bag] = some bag := rfl
  have collection : bag.value.IsCollection := Or.inl rfl
  have definite : ∀ amount ∈ bag.value.numbers, amount.isNaN = false := by decide
  have literal : Store.find? (String.ofList (Text.trim "[\"rope\"]".toList)) [bag] = none := by decide
  have spelling := collection_equals_what_it_spells named found collection definite literal
  have held : holds [bag] (comparing "bag".toList .equal "[\"rope\"]".toList) = true := by
    decide +kernel
  exact ⟨named, found, collection, definite, literal, held,
    fun other spelled => spelling.2 other spelled held⟩

/-- The bag equals a word that is no document. -/
theorem bag_equals_a_bare_word :
    Condition.holds [bag] "bag == lamp".toList = true ∧
      Store.find? "lamp" [bag] = none ∧ bag.value.spelled? "lamp".toList = none := by
  decide +kernel

end Condition

end Narrative
