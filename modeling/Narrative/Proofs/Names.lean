import Narrative.Proofs.Conditions
import Narrative.Proofs.Number.Literals
import Narrative.Proofs.Placeholders
import Narrative.Proofs.Script.Rebinding

/-!
# What a name stands for

The variables of a story need not have different names. Of several with one name, conditions and
placeholders find the first and scripts the last, so all parts of a story see one value under a name
exactly where these two hold one value.
-/

namespace Narrative

set_option autoImplicit false

namespace Script.Token

/-- A name that a script may use for a variable. -/
def isIdentifier (letters : List Char) : Bool :=
  letters.all continuesName &&
    match ofWord? letters with
    | some (.name _) => true
    | _ => false

theorem continues_of_identifier {letters : List Char} (identifier : isIdentifier letters = true) :
    ∀ letter ∈ letters, continuesName letter = true := by
  simp only [isIdentifier, Bool.and_eq_true] at identifier
  exact List.all_eq_true.mp identifier.1

theorem identifier_present {letters : List Char} (identifier : isIdentifier letters = true) :
    letters ≠ [] := by
  rintro rfl
  revert identifier
  decide

theorem ne_of_continues {letter : Char} (continues : continuesName letter = true) (other : Char)
    (foreign : continuesName other = false) : letter ≠ other := by
  rintro rfl
  rw [continues] at foreign
  simp at foreign

theorem visible_of_continues {letter : Char} (continues : continuesName letter = true) :
    Text.isBlank letter = false := by
  simp only [continuesName, Bool.or_eq_true, decide_eq_true_eq] at continues
  rcases continues with alphanum | rfl
  · exact Text.visible_of_alphanum alphanum
  · rfl

end Script.Token

namespace Condition

/-- What stands on the other side of a variable: another variable's value, or a literal for it. -/
def facing (store : Store) (known : Variable) (letters : List Char) : Stored :=
  match store.find? (String.ofList letters) with
  | some other => other.value
  | none => literalFor known letters

/-- Conditions compare the value of a variable where a name stands on one of their sides. -/
def Compares (store : Store) (letters : List Char) (known : Variable) : Prop :=
  ∀ condition comparison other,
    (split? (Text.trim condition) = some ⟨letters, comparison, other⟩ →
      holds store condition =
        comparison.holds known.value.toValue (facing store known other).toValue) ∧
    (split? (Text.trim condition) = some ⟨other, comparison, letters⟩ →
      holds store condition =
        comparison.holds (facing store known other).toValue known.value.toValue)

theorem compares_first {store : Store} {letters : List Char} {first : Variable}
    (found : store.find? (String.ofList letters) = some first) : Compares store letters first := by
  intro condition comparison other
  constructor
  · intro sides
    rw [holds_of_split store sides, operands?, facing, found]
    cases store.find? (String.ofList other) <;> rfl
  · intro sides
    rw [holds_of_split store sides, operands?, facing, found]
    cases store.find? (String.ofList other) <;> rfl

/-- In two stores that have the same variable for a name and the same for what it faces, a condition comes
out the same. -/
theorem Compares.holds_eq {before after : Store} {letters : List Char} {known : Variable}
    (earlier : Compares before letters known) (later : Compares after letters known)
    {condition : List Char} {comparison : Comparison} {other : List Char}
    (same : after.find? (String.ofList other) = before.find? (String.ofList other))
    (sides : split? (Text.trim condition) = some ⟨letters, comparison, other⟩ ∨
      split? (Text.trim condition) = some ⟨other, comparison, letters⟩) :
    holds after condition = holds before condition := by
  have faced : facing after known other = facing before known other := by
    rw [facing, facing, same]
  rcases sides with left | right
  · rw [(later condition comparison other).1 left, (earlier condition comparison other).1 left, faced]
  · rw [(later condition comparison other).2 right, (earlier condition comparison other).2 right, faced]

end Condition

namespace Placeholder

theorem parse_identifier {letters : List Char}
    (identifier : Script.Token.isIdentifier letters = true) : parse letters = .whole letters := by
  have continues := Script.Token.continues_of_identifier identifier
  have trimmed : Text.trim letters = letters := Text.trim_of_all_visible fun letter member =>
    Script.Token.visible_of_continues (continues letter member)
  have present : letters.isEmpty = false := by
    simpa using Script.Token.identifier_present identifier
  have absent : ∀ other, Script.Token.continuesName other = false → other ∉ letters := by
    intro other foreign member
    exact Script.Token.ne_of_continues (continues other member) other foreign rfl
  simp [parse, trimmed, present, Text.cut_of_absent (absent '[' rfl), Text.cut_of_absent (absent '.' rfl)]

end Placeholder

namespace Interpolation

/-- The placeholder of a name shows the first variable with the name. -/
theorem shown_of_first {store : Store} {letters : List Char} {first : Variable}
    (identifier : Script.Token.isIdentifier letters = true)
    (found : store.find? (String.ofList letters) = some first) :
    shown store (Piece.slot letters).source = first.display.toList := by
  have continues := Script.Token.continues_of_identifier identifier
  have free : Braceless letters := by
    constructor
    · exact fun member => Script.Token.ne_of_continues (continues _ member) '\x7b' rfl rfl
    · exact fun member => Script.Token.ne_of_continues (continues _ member) '\x7d' rfl rfl
  have single := pieces_slot free []
  rw [List.append_nil] at single
  rw [shown, single, List.flatMap_cons, Piece.shown, Placeholder.parse_identifier identifier,
    Placeholder.resolve?, found]
  exact List.append_nil _

end Interpolation

namespace Script

/-- What a script finds under a name before anything is declared or written. -/
def firstReading (limits : Limits) (functions : List Function) (store : Store) (name : String) :
    Outcome Datum :=
  evaluate (depthFor limits) ⟨limits, functions, 0, (scopeOf store).length⟩ (.variable name)
    ⟨scopeOf store, 0⟩

theorem depth_positive (limits : Limits) : ∃ depth, depthFor limits = depth + 1 := by
  apply Nat.exists_eq_succ_of_ne_zero
  unfold depthFor
  split
  · decide
  · omega

/-- A name that is no function of the script stands for the last variable with the name. -/
theorem first_reading {store : Store} {name : String} {last : Variable} (limits : Limits)
    {functions : List Function} (latest : store.last? name = some last)
    (unshadowed : ∀ function ∈ functions, function.name ≠ name) :
    firstReading limits functions store name =
      .done (Datum.ofValue last.value.toValue) ⟨scopeOf store, 1⟩ := by
  obtain ⟨depth, deep⟩ := depth_positive limits
  have counted : Action.tick limits ⟨scopeOf store, 0⟩ = .done () ⟨scopeOf store, 1⟩ := by
    simp [Action.tick]
  have foreign : (functions.any fun function => function.name == name) = false := by
    simpa using unshadowed
  have meant : World.meaning? ⟨limits, functions, 0, (scopeOf store).length⟩ name (scopeOf store) =
      some (.stored (bindingOf last)) := by
    simp [World.meaning?, Scope.find?, foreign, scope_of_find, latest]
  have looked : lookup ⟨limits, functions, 0, (scopeOf store).length⟩ name ⟨scopeOf store, 1⟩ =
      .done (.stored (bindingOf last)) ⟨scopeOf store, 1⟩ := by
    change Action.ofOption (World.meaning? _ name (scopeOf store)) _ = _
    rw [meant]
    rfl
  rw [firstReading, deep, evaluate]
  exact (Action.bind_of_done counted).trans (Action.bind_of_done looked)

/-- Scripts see the last variable with a name, conditions and placeholders the first. If the two hold the
same value, then whatever a script does without writing the name, conditions and placeholders show what
they showed before. -/
theorem parts_agree_on_name {store : Store} {letters : List Char} {first last : Variable}
    (identifier : Token.isIdentifier letters = true)
    (found : store.find? (String.ofList letters) = some first)
    (latest : store.last? (String.ofList letters) = some last) :
    (∀ limits functions, (∀ function ∈ functions, function.name ≠ String.ofList letters) →
      firstReading limits functions store (String.ofList letters) =
          .done (Datum.ofValue last.value.toValue) ⟨scopeOf store, 1⟩ ∧
        (firstReading limits functions store (String.ofList letters) =
            .done (Datum.ofValue first.value.toValue) ⟨scopeOf store, 1⟩ ↔
          last.value.toValue = first.value.toValue)) ∧
    Condition.Compares store letters first ∧
    Interpolation.shown store (Interpolation.Piece.slot letters).source = first.display.toList ∧
    (Value.same last.value.toValue first.value.toValue = true →
      ∀ limits code, (∀ program, compile? limits store code = some program →
        program.writes (String.ofList letters) = false) →
      (run limits code store).find? (String.ofList letters) = some first ∧
      Interpolation.shown (run limits code store) (Interpolation.Piece.slot letters).source =
        Interpolation.shown store (Interpolation.Piece.slot letters).source ∧
      ∀ condition comparison other,
        (run limits code store).find? (String.ofList other) = store.find? (String.ofList other) →
        (Condition.split? (Text.trim condition) = some ⟨letters, comparison, other⟩ ∨
          Condition.split? (Text.trim condition) = some ⟨other, comparison, letters⟩) →
        Condition.holds (run limits code store) condition = Condition.holds store condition) := by
  have compares := Condition.compares_first found
  refine ⟨?reading, compares, Interpolation.shown_of_first identifier found, ?kept⟩
  case reading =>
    intro limits functions unshadowed
    have reading := first_reading limits latest unshadowed
    refine ⟨reading, ?_⟩
    rw [reading, Outcome.done.injEq, Datum.of_value_inj]
    exact and_iff_left rfl
  case kept =>
    intro alike limits code silent
    have kept := run_keeps_first found latest alike silent
    refine ⟨kept, ?_, ?_⟩
    · rw [Interpolation.shown_of_first identifier kept, Interpolation.shown_of_first identifier found]
    · intro condition comparison other same sides
      exact compares.holds_eq (Condition.compares_first kept) same sides

/-- Two variables named x, and a third one. -/
def twins (elder younger : Int) : Store :=
  [⟨"a", "x", .number (Number.ofWhole elder)⟩, ⟨"b", "x", .number (Number.ofWhole younger)⟩,
    ⟨"c", "y", .number (Number.ofWhole 0)⟩]

/-- Twins that hold the same stay the same under a script for the third variable. -/
theorem twins_alike :
    Token.isIdentifier "x".toList = true ∧
      Store.find? "x" (twins 1 1) = some ⟨"a", "x", .number (Number.ofWhole 1)⟩ ∧
      Store.last? "x" (twins 1 1) = some ⟨"b", "x", .number (Number.ofWhole 1)⟩ ∧
      firstReading Limits.standard [] (twins 1 1) "x" =
        .done (.real (Number.ofWhole 1)) ⟨scopeOf (twins 1 1), 1⟩ ∧
      Interpolation.shown (run Limits.standard "y = 5".toList (twins 1 1))
          (Interpolation.Piece.slot "x".toList).source =
        Interpolation.shown (twins 1 1) (Interpolation.Piece.slot "x".toList).source ∧
      Condition.holds (run Limits.standard "y = 5".toList (twins 1 1)) "x == 1".toList =
        Condition.holds (twins 1 1) "x == 1".toList := by
  have identifier : Token.isIdentifier "x".toList = true := by decide
  have found : Store.find? "x" (twins 1 1) = some ⟨"a", "x", .number (Number.ofWhole 1)⟩ := rfl
  have latest : Store.last? "x" (twins 1 1) = some ⟨"b", "x", .number (Number.ofWhole 1)⟩ := rfl
  obtain ⟨reading, -, -, kept⟩ := parts_agree_on_name identifier found latest
  have silent : ∀ program, compile? Limits.standard (twins 1 1) "y = 5".toList = some program →
      program.writes "x" = false := by
    have only : (compile? Limits.standard (twins 1 1) "y = 5".toList).map (Program.writes "x") =
        some false := by
      decide +kernel
    intro program compiled
    rw [compiled] at only
    exact Option.some.inj only
  have alike := Value.same_self (Value.number (Number.ofWhole 1))
  obtain ⟨-, shown, holding⟩ := kept alike Limits.standard "y = 5".toList silent
  have sides : Condition.split? (Text.trim "x == 1".toList) = some ⟨"x".toList, .equal, "1".toList⟩ := by
    decide
  have unknown : Store.find? (String.ofList "1".toList) (twins 1 1) = none := by decide
  have faced := (run_finds_none Limits.standard "y = 5".toList unknown).trans unknown.symm
  exact ⟨identifier, found, latest, (reading Limits.standard [] (by simp)).1, shown,
    holding "x == 1".toList .equal "1".toList faced (Or.inl sides)⟩

/-- Twins that differ: a script reads two where conditions and placeholders have one, and a script for the
third variable gives the first twin what the second one holds. -/
theorem twins_apart :
    firstReading Limits.standard [] (twins 1 2) "x" =
        .done (.real (Number.ofWhole 2)) ⟨scopeOf (twins 1 2), 1⟩ ∧
      Condition.holds (twins 1 2) "x == 1".toList = true ∧
      Interpolation.shown (twins 1 2) (Interpolation.Piece.slot "x".toList).source = "1".toList ∧
      (compile? Limits.standard (twins 1 2) "y = 5".toList).map (Program.writes "x") = some false ∧
      Condition.holds (run Limits.standard "y = 5".toList (twins 1 2)) "x == 1".toList = false ∧
      Interpolation.shown (run Limits.standard "y = 5".toList (twins 1 2))
        (Interpolation.Piece.slot "x".toList).source = "2".toList := by
  have latest : Store.last? "x" (twins 1 2) = some ⟨"b", "x", .number (Number.ofWhole 2)⟩ := rfl
  exact ⟨first_reading Limits.standard latest (by simp), by decide +kernel⟩

end Script

end Narrative
