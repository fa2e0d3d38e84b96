import Mathlib
import Narrative.Value

/-!
# Equal values

A value equals itself where it holds no not-a-number, and equal values are written alike.
-/

namespace Narrative

set_option autoImplicit false

namespace Number

theorem beq_self {amount : Float} (definite : amount.isNaN = false) : (amount == amount) = true := by
  rw [Float.beq_self_iff]
  rintro rfl
  simp at definite

end Number

namespace Value

theorem agree_items_self {items : List Value}
    (each : ∀ item ∈ items, agree (· == ·) item item = true) :
    agreeItems (· == ·) items items = true := by
  induction items with
  | nil => rfl
  | cons item rest induction =>
      have first := each item (by simp)
      have later := induction fun other member => each other (by simp [member])
      simp [agreeItems, first, later]

theorem agree_entries_self {entries : List (String × Value)}
    (each : ∀ entry ∈ entries, agree (· == ·) entry.2 entry.2 = true) :
    agreeEntries (· == ·) entries entries = true := by
  induction entries with
  | nil => rfl
  | cons entry rest induction =>
      have first := each entry (by simp)
      have later := induction fun other member => each other (by simp [member])
      simp [agreeEntries, first, later]

theorem number_same_self (amount : Float) : Number.same amount amount = true := by
  by_cases nan : amount = Float.nan
  · simp [Number.same, nan]
  · simp [Number.same, Float.beq_self_iff.mpr nan]

mutual

/-- Sameness needs no exception for not-a-number. -/
theorem same_self (value : Value) : agree Number.same value value = true := by
  cases value with
  | boolean flag => exact beq_self_eq_true flag
  | number amount => exact number_same_self amount
  | text letters => exact beq_self_eq_true letters
  | list items => exact items_same_self items
  | object entries => exact entries_same_self entries

theorem items_same_self (items : List Value) : agreeItems Number.same items items = true := by
  cases items with
  | nil => rfl
  | cons item rest => simp [agreeItems, same_self item, items_same_self rest]

theorem entries_same_self (entries : List (String × Value)) :
    agreeEntries Number.same entries entries = true := by
  cases entries with
  | nil => rfl
  | cons entry rest => simp [agreeEntries, same_self entry.2, entries_same_self rest]

end

mutual

/-- Values agree in either order if numbers do. -/
theorem agree_comm {numbers : Float → Float → Bool}
    (either : ∀ first second, numbers first second = numbers second first) (left right : Value) :
    agree numbers left right = agree numbers right left := by
  cases left with
  | boolean flag =>
      cases right with
      | boolean other => exact BEq.comm
      | _ => rfl
  | number amount =>
      cases right with
      | number other => exact either amount other
      | _ => rfl
  | text letters =>
      cases right with
      | text other => exact BEq.comm
      | _ => rfl
  | list items =>
      cases right with
      | list others => exact items_agree_comm either items others
      | _ => rfl
  | object entries =>
      cases right with
      | object others => exact entries_agree_comm either entries others
      | _ => rfl

theorem items_agree_comm {numbers : Float → Float → Bool}
    (either : ∀ first second, numbers first second = numbers second first)
    (lefts rights : List Value) :
    agreeItems numbers lefts rights = agreeItems numbers rights lefts := by
  cases lefts with
  | nil => cases rights <;> rfl
  | cons left lefts =>
      cases rights with
      | nil => rfl
      | cons right rights =>
          rw [agreeItems, agreeItems, agree_comm either left right, items_agree_comm either lefts rights]

theorem entries_agree_comm {numbers : Float → Float → Bool}
    (either : ∀ first second, numbers first second = numbers second first)
    (lefts rights : List (String × Value)) :
    agreeEntries numbers lefts rights = agreeEntries numbers rights lefts := by
  cases lefts with
  | nil => cases rights <;> rfl
  | cons left lefts =>
      cases rights with
      | nil => rfl
      | cons right rights =>
          rw [agreeEntries, agreeEntries, agree_comm either left.2 right.2,
            entries_agree_comm either lefts rights, BEq.comm (a := left.1)]

end

theorem equal_comm (left right : Value) : equal left right = equal right left :=
  agree_comm (fun _ _ => BEq.comm) left right

mutual

/-- Values agree on two counts if they agree on both at once. -/
theorem agree_and (numbers others : Float → Float → Bool) (left right : Value) :
    agree (fun first second => numbers first second && others first second) left right =
      (agree numbers left right && agree others left right) := by
  cases left with
  | boolean flag =>
      cases right with
      | boolean other => exact (Bool.and_self _).symm
      | _ => rfl
  | number amount =>
      cases right with
      | number other => rfl
      | _ => rfl
  | text letters =>
      cases right with
      | text other => exact (Bool.and_self _).symm
      | _ => rfl
  | list items =>
      cases right with
      | list those => exact items_agree_and numbers others items those
      | _ => rfl
  | object entries =>
      cases right with
      | object those => exact entries_agree_and numbers others entries those
      | _ => rfl

theorem items_agree_and (numbers others : Float → Float → Bool) (lefts rights : List Value) :
    agreeItems (fun first second => numbers first second && others first second) lefts rights =
      (agreeItems numbers lefts rights && agreeItems others lefts rights) := by
  cases lefts with
  | nil => cases rights <;> rfl
  | cons left lefts =>
      cases rights with
      | nil => rfl
      | cons right rights =>
          rw [agreeItems, agreeItems, agreeItems, agree_and numbers others left right,
            items_agree_and numbers others lefts rights]
          ac_rfl

theorem entries_agree_and (numbers others : Float → Float → Bool) (lefts rights : List (String × Value)) :
    agreeEntries (fun first second => numbers first second && others first second) lefts rights =
      (agreeEntries numbers lefts rights && agreeEntries others lefts rights) := by
  cases lefts with
  | nil => cases rights <;> rfl
  | cons left lefts =>
      cases rights with
      | nil => rfl
      | cons right rights =>
          rw [agreeEntries, agreeEntries, agreeEntries, agree_and numbers others left.2 right.2,
            entries_agree_and numbers others lefts rights]
          cases left.1 == right.1 with
          | false => rfl
          | true =>
              simp only [Bool.true_and]
              ac_rfl

end

mutual

/-- The numbers in a value, from the first to the last. -/
def numbers : Value → List Float
  | .boolean _ => []
  | .number amount => [amount]
  | .text _ => []
  | .list items => itemNumbers items
  | .object entries => entryNumbers entries

def itemNumbers : List Value → List Float
  | [] => []
  | item :: rest => numbers item ++ itemNumbers rest

def entryNumbers : List (String × Value) → List Float
  | [] => []
  | (_, value) :: rest => numbers value ++ entryNumbers rest

end

section Imp

variable {weak strong : Float → Float → Bool}

mutual

/-- Values agree on more if their numbers do. -/
theorem agree_of_numbers (left right : Value)
    (each : ∀ amount ∈ left.numbers, ∀ other, weak amount other = true → strong amount other = true)
    (agrees : agree weak left right = true) : agree strong left right = true := by
  cases left with
  | boolean flag =>
      cases right with
      | boolean other => exact agrees
      | _ => simp [agree] at agrees
  | number amount =>
      cases right with
      | number other => exact each amount (by simp [numbers]) other agrees
      | _ => simp [agree] at agrees
  | text letters =>
      cases right with
      | text other => exact agrees
      | _ => simp [agree] at agrees
  | list items =>
      cases right with
      | list others => exact items_agree_of_numbers items others each agrees
      | _ => simp [agree] at agrees
  | object entries =>
      cases right with
      | object others => exact entries_agree_of_numbers entries others each agrees
      | _ => simp [agree] at agrees

theorem items_agree_of_numbers (lefts rights : List Value)
    (each : ∀ amount ∈ itemNumbers lefts, ∀ other, weak amount other = true → strong amount other = true)
    (agrees : agreeItems weak lefts rights = true) : agreeItems strong lefts rights = true := by
  cases lefts with
  | nil =>
      cases rights with
      | nil => rfl
      | cons right rights => simp [agreeItems] at agrees
  | cons left lefts =>
      cases rights with
      | nil => simp [agreeItems] at agrees
      | cons right rights =>
          rw [itemNumbers, List.forall_mem_append] at each
          rw [agreeItems, Bool.and_eq_true] at agrees ⊢
          exact ⟨agree_of_numbers left right each.1 agrees.1,
            items_agree_of_numbers lefts rights each.2 agrees.2⟩

theorem entries_agree_of_numbers (lefts rights : List (String × Value))
    (each : ∀ amount ∈ entryNumbers lefts, ∀ other, weak amount other = true → strong amount other = true)
    (agrees : agreeEntries weak lefts rights = true) : agreeEntries strong lefts rights = true := by
  cases lefts with
  | nil =>
      cases rights with
      | nil => rfl
      | cons right rights => simp [agreeEntries] at agrees
  | cons left lefts =>
      cases rights with
      | nil => simp [agreeEntries] at agrees
      | cons right rights =>
          rw [entryNumbers, List.forall_mem_append] at each
          rw [agreeEntries, Bool.and_eq_true, Bool.and_eq_true] at agrees ⊢
          exact ⟨⟨agrees.1.1, agree_of_numbers left.2 right.2 each.1 agrees.1.2⟩,
            entries_agree_of_numbers lefts rights each.2 agrees.2⟩

end

end Imp

/-- The three ways in which a number is written. -/
theorem number_json_cases (amount : Float) :
    (∃ whole, Number.whole? amount = some whole ∧ numberJson amount = .whole whole) ∨
      (Number.whole? amount = none ∧ Number.isFinite amount = true ∧ numberJson amount = .real amount) ∨
      (Number.isFinite amount = false ∧ numberJson amount = .null) := by
  cases found : Number.whole? amount with
  | some whole => exact Or.inl ⟨whole, rfl, by rw [numberJson, found]⟩
  | none =>
      cases finite : Number.isFinite amount with
      | true => exact Or.inr (Or.inl ⟨rfl, rfl, by rw [numberJson, found, finite]; rfl⟩)
      | false => exact Or.inr (Or.inr ⟨rfl, by rw [numberJson, found, finite]; rfl⟩)

theorem zeros_are_whole : Number.whole? 0 = some 0 ∧ Number.whole? (-0) = some 0 := by
  decide +kernel

theorem number_text_of_equal {left right : Float} (equal : (left == right) = true) :
    (numberJson left).compact = (numberJson right).compact := by
  obtain ⟨-, -, same | ⟨rfl, rfl⟩ | ⟨rfl, rfl⟩⟩ := Float.beq_iff_ne_nan_and_eq.mp equal
  · rw [same]
  · rw [numberJson, numberJson, zeros_are_whole.1, zeros_are_whole.2]
  · rw [numberJson, numberJson, zeros_are_whole.1, zeros_are_whole.2]

/-- Numbers that agree are written alike. -/
def WritesAlike (numbers : Float → Float → Bool) : Prop :=
  ∀ first second, numbers first second = true →
    (numberJson first).compact = (numberJson second).compact

mutual

/-- Values that agree are written alike if numbers that do are. -/
theorem text_of_agree {numbers : Float → Float → Bool} (alike : WritesAlike numbers)
    (left right : Value) (agrees : agree numbers left right = true) :
    left.toJson.compact = right.toJson.compact := by
  cases left with
  | boolean flag =>
      cases right with
      | boolean other => rw [eq_of_beq agrees]
      | _ => simp [agree] at agrees
  | number amount =>
      cases right with
      | number other => exact alike amount other agrees
      | _ => simp [agree] at agrees
  | text letters =>
      cases right with
      | text other => rw [eq_of_beq agrees]
      | _ => simp [agree] at agrees
  | list items =>
      cases right with
      | list others => exact congrArg ('[' :: ·) (items_text_of_agree alike items others agrees).1
      | _ => simp [agree] at agrees
  | object entries =>
      cases right with
      | object others => exact congrArg ('\x7b' :: ·) (entries_text_of_agree alike entries others agrees).1
      | _ => simp [agree] at agrees

theorem items_text_of_agree {numbers : Float → Float → Bool} (alike : WritesAlike numbers)
    (lefts rights : List Value) (agrees : agreeItems numbers lefts rights = true) :
    Json.compactItems (itemsToJson lefts) = Json.compactItems (itemsToJson rights) ∧
      Json.compactLaterItems (itemsToJson lefts) = Json.compactLaterItems (itemsToJson rights) := by
  cases lefts with
  | nil =>
      cases rights with
      | nil => exact ⟨rfl, rfl⟩
      | cons right rights => simp [agreeItems] at agrees
  | cons left lefts =>
      cases rights with
      | nil => simp [agreeItems] at agrees
      | cons right rights =>
          simp only [agreeItems, Bool.and_eq_true] at agrees
          have first := text_of_agree alike left right agrees.1
          have later := (items_text_of_agree alike lefts rights agrees.2).2
          simp [itemsToJson, Json.compactItems, Json.compactLaterItems, first, later]

theorem entries_text_of_agree {numbers : Float → Float → Bool} (alike : WritesAlike numbers)
    (lefts rights : List (String × Value)) (agrees : agreeEntries numbers lefts rights = true) :
    Json.compactMembers (entriesToJson lefts) = Json.compactMembers (entriesToJson rights) ∧
      Json.compactLaterMembers (entriesToJson lefts) =
        Json.compactLaterMembers (entriesToJson rights) := by
  cases lefts with
  | nil =>
      cases rights with
      | nil => exact ⟨rfl, rfl⟩
      | cons right rights => simp [agreeEntries] at agrees
  | cons left lefts =>
      cases rights with
      | nil => simp [agreeEntries] at agrees
      | cons right rights =>
          simp only [agreeEntries, Bool.and_eq_true] at agrees
          have name := eq_of_beq agrees.1.1
          have first := text_of_agree alike left.2 right.2 agrees.1.2
          have later := (entries_text_of_agree alike lefts rights agrees.2).2
          simp [entriesToJson, Json.compactMembers, Json.compactLaterMembers, name, first, later]

end

/-- Equal values are written alike. -/
theorem text_of_equal (left right : Value) (same : equal left right = true) :
    left.toJson.compact = right.toJson.compact :=
  text_of_agree (fun _ _ => number_text_of_equal) left right same

end Value

end Narrative
