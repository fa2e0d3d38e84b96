import Narrative.Proofs.Coercions
import Narrative.Proofs.Pairing
import Narrative.Proofs.Values

/-!
# Same values

Sameness is an equivalence of values. Two numbers that are the same differ at most in the sign of a zero, which
no text shows and no conversion looks at; so a variable shows the same text and stands for the same value
whichever of two same values is written into it. Main statement: a variable to which nothing is written, because
a script left under its name the value that it had, is as if the value had been written.
-/

namespace Narrative

set_option autoImplicit false

namespace Number

/-- Apart from the two zeros, numbers are the same only if they are one double. -/
theorem same_iff {left right : Float} :
    same left right = true ↔ left = right ∨ (left = 0 ∧ right = -0) ∨ (left = -0 ∧ right = 0) := by
  have zero : (0 : Float) ≠ Float.nan ∧ (-0 : Float) ≠ Float.nan := by decide
  rw [same, Bool.or_eq_true, Bool.and_eq_true, Float.beq_iff_ne_nan_and_eq]
  simp only [Float.isNaN_eq_decide_eq_nan, decide_eq_true_eq]
  constructor
  · rintro (⟨rfl, rfl⟩ | ⟨-, -, cases⟩)
    · exact Or.inl rfl
    · exact cases
  · rintro (rfl | ⟨rfl, rfl⟩ | ⟨rfl, rfl⟩)
    · by_cases nan : left = Float.nan
      · exact Or.inl ⟨nan, nan⟩
      · exact Or.inr ⟨nan, nan, Or.inl rfl⟩
    · exact Or.inr ⟨zero.1, zero.2, Or.inr (Or.inl ⟨rfl, rfl⟩)⟩
    · exact Or.inr ⟨zero.2, zero.1, Or.inr (Or.inr ⟨rfl, rfl⟩)⟩

theorem same_comm (left right : Float) : same left right = same right left := by
  rw [same, same, Bool.and_comm, BEq.comm (a := left)]

theorem same_trans {left middle right : Float} (first : same left middle = true)
    (second : same middle right = true) : same left right = true := by
  have apart : (0 : Float) ≠ -0 := by decide
  rw [same_iff] at first second ⊢
  rcases first with rfl | ⟨rfl, rfl⟩ | ⟨rfl, rfl⟩
  · exact second
  · rcases second with rfl | ⟨same, -⟩ | ⟨-, rfl⟩
    · exact Or.inr (Or.inl ⟨rfl, rfl⟩)
    · exact absurd same.symm apart
    · exact Or.inl rfl
  · rcases second with rfl | ⟨-, rfl⟩ | ⟨same, -⟩
    · exact Or.inr (Or.inr ⟨rfl, rfl⟩)
    · exact Or.inl rfl
    · exact absurd same apart

end Number

namespace Value

section Transitivity

/-- What holds of a number and a second, and of this and a third, holds of the first and the third. -/
def PassesOn (numbers : Float → Float → Bool) : Prop :=
  ∀ first second third, numbers first second = true → numbers second third = true →
    numbers first third = true

variable {numbers : Float → Float → Bool}

mutual

/-- Agreement passes on from value to value if it does from number to number. -/
theorem agree_trans (onward : PassesOn numbers) (left : Value) {middle right : Value}
    (first : agree numbers left middle = true) (second : agree numbers middle right = true) :
    agree numbers left right = true := by
  cases left with
  | boolean flag =>
      cases middle with
      | boolean other => rwa [eq_of_beq first]
      | _ => cases first
  | number amount =>
      cases middle with
      | number other =>
          cases right with
          | number another => exact onward amount other another first second
          | _ => cases second
      | _ => cases first
  | text letters =>
      cases middle with
      | text other => rwa [eq_of_beq first]
      | _ => cases first
  | list items =>
      cases middle with
      | list others =>
          cases right with
          | list more => exact items_agree_trans onward items first second
          | _ => cases second
      | _ => cases first
  | object entries =>
      cases middle with
      | object others =>
          cases right with
          | object more => exact entries_agree_trans onward entries first second
          | _ => cases second
      | _ => cases first
termination_by structural left

theorem items_agree_trans (onward : PassesOn numbers) (lefts : List Value) {middles rights : List Value}
    (first : agreeItems numbers lefts middles = true)
    (second : agreeItems numbers middles rights = true) : agreeItems numbers lefts rights = true := by
  cases lefts with
  | nil =>
      cases middles with
      | nil => exact second
      | cons middle middles => cases first
  | cons left lefts =>
      cases middles with
      | nil => cases first
      | cons middle middles =>
          cases rights with
          | nil => cases second
          | cons right rights =>
              rw [agreeItems, Bool.and_eq_true] at first second ⊢
              exact ⟨agree_trans onward left first.1 second.1, items_agree_trans onward lefts first.2 second.2⟩
termination_by structural lefts

theorem entries_agree_trans (onward : PassesOn numbers) (lefts : List (String × Value))
    {middles rights : List (String × Value)}
    (first : agreeEntries numbers lefts middles = true)
    (second : agreeEntries numbers middles rights = true) : agreeEntries numbers lefts rights = true := by
  cases lefts with
  | nil =>
      cases middles with
      | nil => exact second
      | cons middle middles => cases first
  | cons left lefts =>
      cases middles with
      | nil => cases first
      | cons middle middles =>
          cases rights with
          | nil => cases second
          | cons right rights =>
              rw [agreeEntries, Bool.and_eq_true, Bool.and_eq_true] at first second ⊢
              rw [eq_of_beq first.1.1]
              exact ⟨⟨second.1.1, agree_trans onward left.2 first.1.2 second.1.2⟩,
                entries_agree_trans onward lefts first.2 second.2⟩
termination_by structural lefts

end

end Transitivity

theorem same_comm (left right : Value) : same left right = same right left :=
  agree_comm Number.same_comm left right

theorem same_numbers_pass_on : PassesOn Number.same :=
  fun _ _ _ => Number.same_trans

theorem same_trans {left middle right : Value} (first : same left middle = true)
    (second : same middle right = true) : same left right = true :=
  agree_trans same_numbers_pass_on left first second

theorem same_equivalence : Equivalence fun left right => same left right = true where
  refl value := same_self value
  symm alike := (same_comm _ _).symm.trans alike
  trans first second := same_trans first second

section Entries

theorem items_agree_iff {numbers : Float → Float → Bool} {items others : List Value} :
    agreeItems numbers items others = true ↔
      List.Forall₂ (fun item other => agree numbers item other = true) items others := by
  induction items generalizing others with
  | nil => cases others <;> simp [agreeItems]
  | cons item rest induction => cases others <;> simp [agreeItems, induction]

theorem entries_agree_iff {numbers : Float → Float → Bool} {entries others : List (String × Value)} :
    agreeEntries numbers entries others = true ↔
      Keyed.InStep (fun value other => agree numbers value other = true) entries others := by
  induction entries generalizing others with
  | nil => cases others <;> simp [agreeEntries, Keyed.InStep]
  | cons entry rest induction =>
      cases others with
      | nil => simp [agreeEntries, Keyed.InStep]
      | cons other later =>
          rw [agreeEntries, Bool.and_eq_true, Bool.and_eq_true, beq_iff_eq, induction, Keyed.InStep,
            Keyed.InStep, List.forall₂_cons]

/-- Objects are the same if they have the same number of entries and each finds one of its name that is the
same. -/
theorem same_objects {entries others : Keyed Value} (ordered : entries.Ordered) (inOrder : others.Ordered) :
    same (.object entries) (.object others) = Keyed.paired same entries others := by
  rw [Bool.eq_iff_iff, Keyed.paired_iff_in_step ordered inOrder]
  exact entries_agree_iff

end Entries

section Readings

variable {left right : Value}

/-- What same values can be. -/
theorem same_cases (alike : same left right = true) :
    left = right ∨
      (∃ amount other, left = .number amount ∧ right = .number other ∧ Number.same amount other = true) ∨
      (∃ items others, left = .list items ∧ right = .list others ∧
        agreeItems Number.same items others = true) ∨
      ∃ entries others, left = .object entries ∧ right = .object others ∧
        agreeEntries Number.same entries others = true := by
  cases left with
  | boolean flag =>
      cases right with
      | boolean other => exact Or.inl (congrArg boolean (eq_of_beq alike))
      | _ => cases alike
  | number amount =>
      cases right with
      | number other => exact Or.inr (Or.inl ⟨amount, other, rfl, rfl, alike⟩)
      | _ => cases alike
  | text letters =>
      cases right with
      | text other => exact Or.inl (congrArg text (eq_of_beq alike))
      | _ => cases alike
  | list items =>
      cases right with
      | list others => exact Or.inr (Or.inr (Or.inl ⟨items, others, rfl, rfl, alike⟩))
      | _ => cases alike
  | object entries =>
      cases right with
      | object others => exact Or.inr (Or.inr (Or.inr ⟨entries, others, rfl, rfl, alike⟩))
      | _ => cases alike

/-- The sign of a zero is not written. -/
theorem number_text_of_same {first second : Float} (alike : Number.same first second = true) :
    numberText first = numberText second ∧
      (numberJson first).compact = (numberJson second).compact := by
  have shown : Number.display 0 = ['0'] ∧ Number.display (-0) = ['0'] := by decide +kernel
  have equal : ((0 : Float) == -0) = true := by decide +kernel
  have texts : numberText 0 = numberText (-0) ∧ (numberJson 0).compact = (numberJson (-0)).compact := by
    rw [numberText, numberText, shown.1, shown.2]
    exact ⟨rfl, number_text_of_equal equal⟩
  rcases Number.same_iff.mp alike with rfl | ⟨rfl, rfl⟩ | ⟨rfl, rfl⟩
  · exact ⟨rfl, rfl⟩
  · exact texts
  · exact ⟨texts.1.symm, texts.2.symm⟩

theorem compact_of_same (alike : same left right = true) :
    left.toJson.compact = right.toJson.compact :=
  text_of_agree (fun _ _ numbers => (number_text_of_same numbers).2) left right alike

theorem display_of_same (alike : same left right = true) : left.display = right.display := by
  have compact := compact_of_same alike
  rcases same_cases alike with rfl | ⟨amount, other, rfl, rfl, numbers⟩ | ⟨items, others, rfl, rfl, -⟩ |
    ⟨entries, others, rfl, rfl, -⟩
  · rfl
  · exact (number_text_of_same numbers).1
  · exact congrArg String.ofList compact
  · exact congrArg String.ofList compact

theorem truth_of_same (alike : same left right = true) : left.truth = right.truth := by
  have zeros : truth (.number 0) = truth (.number (-0)) := by decide +kernel
  rcases same_cases alike with rfl | ⟨amount, other, rfl, rfl, numbers⟩ | ⟨items, others, rfl, rfl, -⟩ |
    ⟨entries, others, rfl, rfl, -⟩
  · rfl
  · rcases Number.same_iff.mp numbers with rfl | ⟨rfl, rfl⟩ | ⟨rfl, rfl⟩
    · rfl
    · exact zeros
    · exact zeros.symm
  · rfl
  · rfl

theorem to_number_of_same (alike : same left right = true) :
    Number.same left.toNumber right.toNumber = true := by
  rcases same_cases alike with rfl | ⟨amount, other, rfl, rfl, numbers⟩ | ⟨items, others, rfl, rfl, -⟩ |
    ⟨entries, others, rfl, rfl, -⟩
  · exact number_same_self _
  · exact numbers
  · exact number_same_self _
  · exact number_same_self _

end Readings

end Value

section Coercions

variable {left right : Value}

theorem Scalar.coerce_of_same (kind : ScalarKind) (alike : Value.same left right = true) :
    Value.same (coerce kind left).toValue (coerce kind right).toValue = true := by
  cases kind with
  | boolean =>
      rw [coerce, coerce, Value.truth_of_same alike]
      exact Value.same_self _
  | number => exact Value.to_number_of_same alike
  | text =>
      rw [coerce, coerce, Value.display_of_same alike]
      exact Value.same_self _

theorem Scalar.of_value_of_same (alike : Value.same left right = true) :
    Value.same (ofValue left).toValue (ofValue right).toValue = true := by
  have shown := Value.display_of_same alike
  rcases Value.same_cases alike with rfl | ⟨amount, other, rfl, rfl, numbers⟩ |
    ⟨items, others, rfl, rfl, -⟩ | ⟨entries, others, rfl, rfl, -⟩
  · exact Value.same_self _
  · exact numbers
  · rw [ofValue, ofValue, shown]
    exact Value.same_self _
  · rw [ofValue, ofValue, shown]
    exact Value.same_self _

namespace Stored

theorem list_of_same (kind : ScalarKind) {items others : List Value}
    (alike : Value.agreeItems Number.same items others = true) (elements : List Scalar) :
    Value.same ((list kind elements).coerce (.list items)).toValue
      ((list kind elements).coerce (.list others)).toValue = true := by
  apply Value.items_agree_iff.mpr
  rw [List.map_map, List.map_map, List.forall₂_map_left_iff, List.forall₂_map_right_iff]
  exact (Value.items_agree_iff.mp alike).imp fun item other same => Scalar.coerce_of_same kind same

/-- The entries of two same objects go in step, and so do those that are made of them. -/
theorem object_of_same {entries others : List (String × Value)}
    (alike : Value.agreeEntries Number.same entries others = true) (members : Dictionary Entry) :
    Value.same ((object members).coerce (.object entries)).toValue
      ((object members).coerce (.object others)).toValue = true := by
  let make (value : Value) : Entry := Entry.ofScalar (Scalar.ofValue value)
  let read (entry : Entry) : Value := entry.value.toValue
  have made : Keyed.InStep (fun entry other => Value.same (read entry) (read other) = true)
      (entries.map fun entry => (entry.1, make entry.2)) (others.map fun entry => (entry.1, make entry.2)) :=
    (Value.entries_agree_iff.mp alike).map make make fun _ _ same => Scalar.of_value_of_same same
  exact Value.entries_agree_iff.mpr (made.of_pairs.map read read fun _ _ same => same)

/-- Same values leave the same value in a variable. -/
theorem coerce_of_same (current : Stored) (alike : Value.same left right = true) :
    Value.same (current.coerce left).toValue (current.coerce right).toValue = true := by
  cases current with
  | boolean flag =>
      rw [coerce, coerce, Value.truth_of_same alike]
      exact Value.same_self _
  | number amount => exact Value.to_number_of_same alike
  | text letters =>
      rw [coerce, coerce, Value.display_of_same alike]
      exact Value.same_self _
  | list kind elements =>
      rcases Value.same_cases alike with rfl | ⟨amount, other, rfl, rfl, -⟩ |
        ⟨items, others, rfl, rfl, within⟩ | ⟨entries, others, rfl, rfl, -⟩
      · exact Value.same_self _
      · exact Value.same_self _
      · exact list_of_same kind within elements
      · exact Value.same_self _
  | object members =>
      rcases Value.same_cases alike with rfl | ⟨amount, other, rfl, rfl, -⟩ |
        ⟨items, others, rfl, rfl, -⟩ | ⟨entries, others, rfl, rfl, within⟩
      · exact Value.same_self _
      · exact Value.same_self _
      · exact Value.same_self _
      · exact object_of_same within members

end Stored

end Coercions

namespace Script

/-- What a variable takes where it is written whether its value has changed or not. -/
def takenAnew? (scope : Scope) (known : Variable) : Option Stored :=
  (scope.find? known.name).bind fun binding => binding.value.value?.map known.value.coerce

/-- A variable that keeps what it has stands for the value that it would have taken. -/
theorem applied_same {known : Variable} (conforms : known.value.Conforms) (scope : Scope) :
    Value.same (applied known (taken? scope known)).value.toValue
      (applied known (takenAnew? scope known)).value.toValue = true := by
  rw [taken?, takenAnew?]
  cases scope.find? known.name with
  | none => exact Value.same_self _
  | some binding =>
      dsimp only [Option.bind_some]
      cases binding.value.value? with
      | none => exact Value.same_self _
      | some after =>
          dsimp only [Option.map_some]
          split
          · rename_i skipped
            have alike := known.value.coerce_of_same ((Value.same_comm _ _).trans skipped)
            rwa [conforms.coerce_own] at alike
          · exact Value.same_self _

/-- Sameness is an equivalence of values, on objects by the names of their entries; whichever of two same values
is written into a variable, it shows the same text and stands for the same value. So a variable that conforms to
its kinds loses nothing where a script leaves under its name the value that it had and it is not written. -/
theorem unchanged_variables_may_be_skipped :
    (Equivalence fun left right => Value.same left right = true) ∧
    (∀ entries others : Keyed Value, entries.Ordered → others.Ordered →
      Value.same (.object entries) (.object others) = Keyed.paired Value.same entries others) ∧
    (∀ (current : Stored) (left right : Value), Value.same left right = true →
      (current.coerce left).display = (current.coerce right).display ∧
        Value.same (current.coerce left).toValue (current.coerce right).toValue = true) ∧
    ∀ (scope : Scope) (known : Variable), known.value.Conforms →
      (applied known (taken? scope known)).display = (applied known (takenAnew? scope known)).display ∧
        Value.same (applied known (taken? scope known)).value.toValue
          (applied known (takenAnew? scope known)).value.toValue = true := by
  refine ⟨Value.same_equivalence, fun _ _ => Value.same_objects, ?_, ?_⟩
  · intro current left right alike
    have kept := current.coerce_of_same alike
    exact ⟨Value.display_of_same kept, kept⟩
  · intro scope known conforms
    have kept := applied_same conforms scope
    exact ⟨Value.display_of_same kept, kept⟩

/-- A list of weights, the first of them unknown. -/
def weights (second : Float) : Variable :=
  ⟨"w", "weights", .list .number [.number Number.quietNan, .number second]⟩

/-- A script that leaves the other zero in the list. -/
def weighed : Scope :=
  [⟨"weights", Datum.ofValue (weights (-0)).value.toValue, false⟩]

theorem weights_are_skipped :
    taken? weighed (weights 0) = none ∧
      takenAnew? weighed (weights 0) = some (weights (-0)).value ∧
      (weights 0).display = (weights (-0)).display ∧
      Value.same (weights 0).value.toValue (weights (-0)).value.toValue = true := by
  have conforms : (weights 0).value.Conforms := by decide
  have skipped : taken? weighed (weights 0) = none := by
    rfl
  have written : takenAnew? weighed (weights 0) = some (weights (-0)).value := by
    rfl
  obtain ⟨-, -, -, skip⟩ := unchanged_variables_may_be_skipped
  have kept := skip weighed (weights 0) conforms
  rw [skipped, written] at kept
  exact ⟨skipped, written, kept⟩

end Script

end Narrative
