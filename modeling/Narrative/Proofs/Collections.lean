import Narrative.Proofs.Quotations
import Narrative.Proofs.Texts

/-!
# Lists and objects in conditions

Two collections compare equal where they are written alike and every number of the first that is not finite
equals the one in its place. Among finite numbers that is what their texts say; but not-a-number and the two
infinities are all written as null.
-/

namespace Narrative

set_option autoImplicit false

namespace Value

/-- Values are equal where they are written alike and agree on the numbers that are not finite. -/
theorem equal_iff_text (left right : Value) :
    equal left right = true ↔
      left.toJson.compact = right.toJson.compact ∧ agree finiteOrEqual left right = true := by
  have both : (fun first second : Float => first == second) =
      fun first second => writtenAlike first second && finiteOrEqual first second := by
    funext first second
    exact beq_eq_written_alike first second
  rw [text_eq_iff, equal, both, agree_and, Bool.and_eq_true]

/-- Where all numbers of a value are finite, its text alone decides. -/
theorem equal_of_text {left right : Value} (finite : ∀ amount ∈ left.numbers, Number.isFinite amount = true)
    (same : left.toJson.compact = right.toJson.compact) : equal left right = true := by
  apply agree_of_numbers left right _ ((text_eq_iff left right).mp same)
  intro amount member other alike
  rw [beq_eq_written_alike, alike, finiteOrEqual, finite amount member]
  rfl

end Value

theorem Scalar.numbers_of_value (scalar : Scalar) : scalar.toValue.numbers = scalar.numbers := by
  cases scalar <;> rfl

namespace Stored

theorem numbers_of_value (stored : Stored) : stored.toValue.numbers = stored.numbers := by
  cases stored with
  | list elementKind elements =>
      change Value.itemNumbers (elements.map Scalar.toValue) = elements.flatMap Scalar.numbers
      induction elements with
      | nil => rfl
      | cons element rest induction =>
          rw [List.map_cons, Value.itemNumbers, induction, element.numbers_of_value, List.flatMap_cons]
  | object members =>
      change Value.entryNumbers (members.entries.map fun entry => (entry.1, entry.2.value.toValue)) =
        members.entries.flatMap fun entry => entry.2.numbers
      induction members.entries with
      | nil => rfl
      | cons entry rest induction =>
          rw [List.map_cons, Value.entryNumbers, induction, entry.2.value.numbers_of_value,
            List.flatMap_cons]
          rfl
  | _ => rfl

theorem display_eq_iff {left right : Stored} (collection : left.IsCollection) (other : right.IsCollection) :
    left.display = right.display ↔ left.toValue.toJson.compact = right.toValue.toJson.compact := by
  have written : ∀ stored : Stored, stored.IsCollection →
      stored.display = String.ofList stored.toValue.toJson.compact := by
    intro stored collected
    cases stored with
    | list elementKind elements => rfl
    | object members => rfl
    | _ => simp [IsCollection, kind] at collected
  rw [written left collection, written right other, String.ofList_inj]

/-- The player reads both alike, and every number of the first that is not finite equals the one in its place. -/
def Matches (left right : Stored) : Prop :=
  left.display = right.display ∧ Value.agree Value.finiteOrEqual left.toValue right.toValue = true

instance (left right : Stored) : Decidable (left.Matches right) :=
  inferInstanceAs (Decidable (_ ∧ _))

theorem matches_iff_of_finite {left right : Stored} (collection : left.IsCollection)
    (other : right.IsCollection) (finite : ∀ amount ∈ left.numbers, Number.isFinite amount = true) :
    left.Matches right ↔ left.display = right.display := by
  rw [← numbers_of_value] at finite
  refine and_iff_left_of_imp fun same => ?_
  have text := (display_eq_iff collection other).mp same
  exact ((Value.equal_iff_text _ _).mp (Value.equal_of_text finite text)).2

end Stored

namespace Condition

theorem equal_collections_iff {left right : Stored} (collection : left.IsCollection)
    (other : right.IsCollection) :
    Comparison.equal.holds left.toValue right.toValue = true ↔ left.Matches right := by
  rw [Stored.Matches, Stored.display_eq_iff collection other, ← Value.equal_iff_text]
  simp only [Comparison.holds, Stored.is_nan_of_collection collection, Stored.is_nan_of_collection other]
  rfl

theorem unequal_collections_iff {left right : Stored} (collection : left.IsCollection)
    (other : right.IsCollection) :
    Comparison.unequal.holds left.toValue right.toValue = true ↔ ¬left.Matches right := by
  rw [← equal_collections_iff collection other]
  simp [Comparison.holds, Stored.is_nan_of_collection collection, Stored.is_nan_of_collection other]

/-- Two collections compare equal exactly if they match, and unequal exactly if they do not. Where the first
holds finite numbers only, what the player reads decides that. -/
theorem collections_compare_as_they_match {store : Store} {name other : List Char}
    {first second : Variable} (found : store.find? (String.ofList name) = some first)
    (found' : store.find? (String.ofList other) = some second) (side : IsSide name) (side' : IsSide other)
    (collection : first.value.IsCollection) (collection' : second.value.IsCollection)
    {before after : List Char} (blankBefore : ∀ letter ∈ before, Text.isBlank letter = true)
    (blankAfter : ∀ letter ∈ after, Text.isBlank letter = true) :
    (∀ spelling, (spelling, .equal) ∈ spellings →
      (holds store (compared name before spelling after other) = true ↔
        first.value.Matches second.value)) ∧
    (∀ spelling, (spelling, .unequal) ∈ spellings →
      (holds store (compared name before spelling after other) = true ↔
        ¬first.value.Matches second.value)) ∧
    ((∀ amount ∈ first.value.numbers, Number.isFinite amount = true) →
      (first.value.Matches second.value ↔ first.display = second.display)) := by
  have faced : facing store first other = second.value := by
    rw [facing, found']
  have sides := fun spelling comparison (spelled : (spelling, comparison) ∈ spellings) =>
    (holds_compared found side side' spelled blankBefore blankAfter).1
  rw [faced] at sides
  refine ⟨?_, ?_, Stored.matches_iff_of_finite collection collection'⟩
  · intro spelling spelled
    rw [sides spelling .equal spelled]
    exact equal_collections_iff collection collection'
  · intro spelling spelled
    rw [sides spelling .unequal spelled]
    exact unequal_collections_iff collection collection'

/-- Three sums of which the last is infinite. -/
def endless (negative : Bool) : Stored :=
  .list .number [.number (Number.ofWhole 3), .number (Number.withSign negative Number.infinityBits)]

/-- Votes for red and none for blue, and the sign of the zero. -/
def votes (negative : Bool) : Stored :=
  .object (Dictionary.ofPairs
    [("red", ⟨.number, .number (Number.ofWhole 7)⟩), ("blue", ⟨.number, .number (Number.withSign negative 0)⟩)])

def ledger : Store :=
  [⟨"1", "debts", endless false⟩, ⟨"2", "fines", endless false⟩, ⟨"3", "gains", endless true⟩,
    ⟨"4", "poll", votes false⟩, ⟨"5", "count", votes true⟩]

theorem ledger_compared :
    ledger.find? (String.ofList "debts".toList) = some ⟨"1", "debts", endless false⟩ ∧
      ledger.find? (String.ofList "fines".toList) = some ⟨"2", "fines", endless false⟩ ∧
      ledger.find? (String.ofList "gains".toList) = some ⟨"3", "gains", endless true⟩ ∧
      ledger.find? (String.ofList "poll".toList) = some ⟨"4", "poll", votes false⟩ ∧
      ledger.find? (String.ofList "count".toList) = some ⟨"5", "count", votes true⟩ ∧
      (∀ name ∈ ["debts".toList, "fines".toList, "gains".toList, "poll".toList, "count".toList],
        IsSide name) ∧
      (∀ negative, (endless negative).IsCollection ∧ (votes negative).IsCollection) ∧
      (∀ letter ∈ [' '], Text.isBlank letter = true) ∧
      (∀ amount ∈ (votes false).numbers, Number.isFinite amount = true) ∧
      holds ledger "debts == fines".toList = true ∧ holds ledger "debts != gains".toList = true ∧
      holds ledger "poll === count".toList = true := by
  have debts : ledger.find? (String.ofList "debts".toList) = some ⟨"1", "debts", endless false⟩ := rfl
  have fines : ledger.find? (String.ofList "fines".toList) = some ⟨"2", "fines", endless false⟩ := rfl
  have gains : ledger.find? (String.ofList "gains".toList) = some ⟨"3", "gains", endless true⟩ := rfl
  have poll : ledger.find? (String.ofList "poll".toList) = some ⟨"4", "poll", votes false⟩ := rfl
  have count : ledger.find? (String.ofList "count".toList) = some ⟨"5", "count", votes true⟩ := rfl
  have side : ∀ name ∈ ["debts".toList, "fines".toList, "gains".toList, "poll".toList, "count".toList],
      IsSide name := by
    decide
  have collected : ∀ negative, (endless negative).IsCollection ∧ (votes negative).IsCollection :=
    fun _ => ⟨Or.inl rfl, Or.inr rfl⟩
  have blank : ∀ letter ∈ [' '], Text.isBlank letter = true := by simp [Text.isBlank]
  have finite : ∀ amount ∈ (votes false).numbers, Number.isFinite amount = true := by decide +kernel
  have owed := collections_compare_as_they_match debts fines (side _ (by simp)) (side _ (by simp))
    (collected false).1 (collected false).1 blank blank
  have gained := collections_compare_as_they_match debts gains (side _ (by simp)) (side _ (by simp))
    (collected false).1 (collected true).1 blank blank
  have counted := collections_compare_as_they_match poll count (side _ (by simp)) (side _ (by simp))
    (collected false).2 (collected true).2 blank blank
  have equal := (owed.1 ['=', '='] (by decide)).mpr (by decide +kernel)
  have unequal := (gained.2.1 ['!', '='] (by decide)).mpr (by decide +kernel)
  have alike := (counted.1 ['=', '=', '='] (by decide)).mpr ((counted.2.2 finite).mpr (by decide +kernel))
  exact ⟨debts, fines, gains, poll, count, side, collected, blank, finite, equal, unequal, alike⟩

/-- Two lists of one element that is not-a-number. -/
def blots : Store :=
  [⟨"1", "a", .list .number [.number Number.quietNan]⟩, ⟨"2", "b", .list .number [.number Number.quietNan]⟩]

/-- The player reads the two lists alike, as a null in brackets, and they compare unequal. -/
theorem blots_compare_unequal :
    (blots.find? "a").map Variable.display = some "[null]" ∧
      (blots.find? "b").map Variable.display = some "[null]" ∧
      holds blots "a == b".toList = false ∧ holds blots "a != b".toList = true := by
  decide +kernel

end Condition

end Narrative
