import Narrative.Proofs.Number.Reading
import Narrative.Proofs.Sameness
import Narrative.Proofs.Saving

/-!
# Values written as documents

A value read from the document that it was written as is the same value, except that infinite numbers have
become not-a-number. Whole numbers are written as such where every whole number of their size is a double, other
finite numbers as doubles, and what is not finite as null.
-/

namespace Narrative

set_option autoImplicit false

namespace Value

mutual

/-- A value as it comes back from a document: with not-a-number for its infinite numbers. -/
def saved : Value → Value
  | .number amount => .number (Number.saved amount)
  | .list items => .list (savedItems items)
  | .object entries => .object (savedEntries entries)
  | value => value

def savedItems : List Value → List Value
  | [] => []
  | item :: rest => saved item :: savedItems rest

def savedEntries : List (String × Value) → List (String × Value)
  | [] => []
  | (name, value) :: rest => (name, saved value) :: savedEntries rest

end

section Numbers

variable {amount : Float}

/-- A number is written as a whole number exactly if it is one below `2 ^ 53`. -/
theorem number_json_whole_iff {whole : Int} : numberJson amount = .whole whole ↔ Number.IsShort amount whole := by
  rw [← Number.whole_iff]
  rcases number_json_cases amount with ⟨size, found, written⟩ | ⟨found, -, written⟩ | ⟨finite, written⟩
  · rw [written, found, Json.whole.injEq, Option.some.injEq]
  · rw [written, found]
    exact iff_of_false nofun nofun
  · rw [written, Number.not_whole_of_not_finite finite]
    exact iff_of_false nofun nofun

theorem number_json_null_iff : numberJson amount = .null ↔ Number.isFinite amount = false := by
  rcases number_json_cases amount with ⟨size, found, written⟩ | ⟨-, finite, written⟩ | ⟨finite, written⟩
  · rw [written, Number.finite_of_whole found]
    exact iff_of_false nofun nofun
  · rw [written, finite]
    exact iff_of_false nofun nofun
  · exact iff_of_true written finite

/-- All other finite numbers are written as they are. -/
theorem number_json_real_iff {other : Float} :
    numberJson amount = .real other ↔
      amount = other ∧ Number.isFinite amount = true ∧ ∀ whole, ¬Number.IsShort amount whole := by
  rcases number_json_cases amount with ⟨size, found, written⟩ | ⟨found, finite, written⟩ | ⟨finite, written⟩
  · rw [written]
    exact iff_of_false nofun fun parts => parts.2.2 size (Number.whole_iff.mp found)
  · have long : ∀ whole, ¬Number.IsShort amount whole := by
      intro whole short
      rw [Number.whole_iff.mpr short] at found
      cases found
    rw [written, Json.real.injEq]
    exact (and_iff_left ⟨finite, long⟩).symm
  · rw [written, finite]
    exact iff_of_false nofun nofun

theorem number_comes_back (amount : Float) :
    same (ofJson (numberJson amount)) (.number (Number.saved amount)) = true := by
  rcases number_json_cases amount with ⟨size, found, written⟩ | ⟨-, finite, written⟩ | ⟨finite, written⟩
  · rw [written, Number.saved, Number.finite_of_whole found]
    exact Bool.or_eq_true_iff.mpr (Or.inr (Number.of_whole_beq found))
  · rw [written, Number.saved, finite]
    exact same_self _
  · rw [written, Number.saved, finite]
    exact same_self _

end Numbers

mutual

theorem comes_back (value : Value) : same (ofJson value.toJson) value.saved = true := by
  cases value with
  | boolean flag => exact same_self (.boolean flag)
  | number amount => exact number_comes_back amount
  | text letters => exact same_self (.text letters)
  | list items => exact items_come_back items
  | object entries => exact entries_come_back entries
termination_by structural value

theorem items_come_back (items : List Value) :
    agreeItems Number.same (itemsOfJson (itemsToJson items)) (savedItems items) = true := by
  cases items with
  | nil => rfl
  | cons item rest => exact Bool.and_eq_true_iff.mpr ⟨comes_back item, items_come_back rest⟩
termination_by structural items

theorem entries_come_back (entries : List (String × Value)) :
    agreeEntries Number.same (entriesOfJson (entriesToJson entries)) (savedEntries entries) = true := by
  cases entries with
  | nil => rfl
  | cons entry rest =>
      have named : (entry.1 == entry.1 && same (ofJson entry.2.toJson) entry.2.saved) = true :=
        Bool.and_eq_true_iff.mpr ⟨beq_self_eq_true entry.1, comes_back entry.2⟩
      exact Bool.and_eq_true_iff.mpr ⟨named, entries_come_back rest⟩
termination_by structural entries

end

/-- What is read from the document that a value was written as is the value with not-a-number for its infinite
numbers. A number is written as a whole number exactly if it is one below `2 ^ 53`, as null exactly if it is not
finite, and else as it is. -/
theorem documents_keep_values :
    (∀ value : Value, same (ofJson value.toJson) value.saved = true) ∧
    (∀ amount, Number.saved amount = if Number.IsInfinite amount then Number.quietNan else amount) ∧
    (∀ amount whole, numberJson amount = .whole whole ↔ Number.IsShort amount whole) ∧
    (∀ amount other, numberJson amount = .real other ↔
      amount = other ∧ Number.isFinite amount = true ∧ ∀ whole, ¬Number.IsShort amount whole) ∧
    ∀ amount, numberJson amount = .null ↔ Number.isFinite amount = false := by
  refine ⟨comes_back, ?_, fun _ _ => number_json_whole_iff, fun _ _ => number_json_real_iff,
    fun _ => number_json_null_iff⟩
  intro amount
  split
  · rename_i infinite
    obtain ⟨negative, meaning⟩ := infinite
    rw [Number.saved, Number.isFinite, meaning]
    rfl
  · rename_i finite
    exact Number.saved_eq_iff.mpr finite

end Value

end Narrative
