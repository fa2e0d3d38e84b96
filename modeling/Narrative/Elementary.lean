/-!
# Lists and results

Facts on lists, and on results that may be errors, that hold whatever the lists and results are made of.
-/

namespace Narrative

set_option autoImplicit false

/-! ## Lists -/

section Lists

variable {α : Type}

/-- A list stays the same where each of its values does. -/
theorem map_eq_self_iff {change : α → α} {values : List α} :
    values.map change = values ↔ ∀ value ∈ values, change value = value := by
  have each := List.map_eq_map_iff (f := change) (g := id) (l := values)
  rwa [List.map_id] at each

/-- A value is dropped only if it is of the sort that is dropped. -/
theorem mem_drop_while {sort : α → Bool} {values : List α} {value : α} (member : value ∈ values) :
    sort value = true ∨ value ∈ values.dropWhile sort := by
  rw [← List.takeWhile_append_dropWhile (p := sort) (l := values)] at member
  rcases List.mem_append.mp member with taken | later
  · exact .inl (List.all_eq_true.mp List.all_takeWhile value taken)
  · exact .inr later

/-- Values of one sort are dropped up to the first one of another. -/
theorem drop_while_iff {sort : α → Bool} {values rest : List α} {value : α} (other : sort value = false) :
    values.dropWhile sort = value :: rest ↔
      ∃ before, (∀ found ∈ before, sort found = true) ∧ values = before ++ value :: rest := by
  constructor
  · intro dropped
    refine ⟨values.takeWhile sort, ?_, ?_⟩
    · exact fun found member => List.all_eq_true.mp List.all_takeWhile found member
    · rw [← dropped, List.takeWhile_append_dropWhile]
  · rintro ⟨before, all, rfl⟩
    rw [List.dropWhile_append_of_pos all, List.dropWhile_cons_of_neg (by simp [other])]

/-- Values of one sort are taken up to where they stop. -/
theorem take_while_append {sort : α → Bool} {values rest : List α} (all : ∀ value ∈ values, sort value = true)
    (stops : ∀ value later, rest = value :: later → sort value = false) :
    (values ++ rest).takeWhile sort = values ∧ (values ++ rest).dropWhile sort = rest := by
  have halts : rest.takeWhile sort = [] ∧ rest.dropWhile sort = rest := by
    cases rest with
    | nil => exact ⟨rfl, rfl⟩
    | cons value later => simp [stops value later rfl]
  rw [List.takeWhile_append_of_pos all, List.dropWhile_append_of_pos all]
  simp [halts]

/-- What stands in a list does not go across a value that it does not have. -/
theorem infix_beside {part before after : List α} {value : α} (some : part ≠ []) (absent : value ∉ part)
    (stands : part <:+: before ++ value :: after) : part <:+: before ∨ part <:+: after := by
  have unbegun {piece : List α} (present : piece ≠ []) (contained : piece <:+: part) :
      ¬piece <+: value :: after := by
    intro begun
    cases piece with
    | nil => exact present rfl
    | cons first piece =>
        obtain ⟨rfl, -⟩ := List.cons_prefix_cons.mp begun
        exact absent (contained.mem List.mem_cons_self)
  rcases List.infix_append_iff_ne_nil.mp stands with earlier | later | ⟨front, back, present, some', rfl, -, begun⟩
  · exact .inl earlier
  · rcases List.infix_cons_iff.mp later with begun | later
    · exact absurd begun (unbegun some List.infix_rfl)
    · exact .inr later
  · exact absurd begun (unbegun some' (List.suffix_append front back).isInfix)

theorem last_alone {value last : α} {earlier later : List α} (same : [last] = earlier ++ value :: later) :
    later = [] := by
  have lengths := congrArg List.length same
  simp only [List.length_append, List.length_cons, List.length_nil] at lengths
  exact List.length_eq_zero_iff.mp (by omega)

theorem intercalate_cons (separator first : List α) (others : List (List α)) :
    List.intercalate separator (first :: others) = first ++ others.flatMap fun part => separator ++ part := by
  induction others generalizing first with
  | nil => simp
  | cons second others induction => rw [List.intercalate_cons_cons, induction]; simp

end Lists

/-! ## Results -/

section Results

variable {ε ε' α β : Type}

theorem bind_ok_iff {first : Except ε α} {next : α → Except ε β} {result : β} :
    first >>= next = .ok result ↔ ∃ value, first = .ok value ∧ next value = .ok result := by
  cases first with
  | error fault => simp [bind, Except.bind]
  | ok value => simp [bind, Except.bind]

theorem map_error_ok_iff {result : Except ε α} {change : ε → ε'} {value : α} :
    result.mapError change = .ok value ↔ result = .ok value := by
  cases result with
  | error fault => exact ⟨nofun, nofun⟩
  | ok found =>
      change Except.ok found = Except.ok value ↔ _
      rw [Except.ok.injEq, Except.ok.injEq]

theorem to_option_bind (first : Except ε α) (next : α → Except ε β) :
    (first >>= next).toOption = first.toOption.bind fun value => (next value).toOption := by
  cases first <;> rfl

theorem to_option_map_error (result : Except ε α) (change : ε → ε') :
    (result.mapError change).toOption = result.toOption := by
  cases result <;> rfl

end Results

end Narrative
