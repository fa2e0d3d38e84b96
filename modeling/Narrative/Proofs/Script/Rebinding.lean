import Narrative.Proofs.Script.Frames
import Narrative.Script.Run

/-!
# What variables take from a script

A script gets the values of a store and hands its own back. A story's value survives the way in and
out. Of several variables with one name a script sees the last, and each of them is compared with what
the script leaves under the name; so after a script that writes the name nowhere, a variable is as
before if it held what the last one holds.
-/

namespace Narrative

set_option autoImplicit false

namespace Store

/-- The last variable with a name. -/
def last? (name : String) (store : Store) : Option Variable :=
  find? name store.reverse

theorem name_of_find {name : String} {store : Store} {known : Variable}
    (found : store.find? name = some known) : known.name = name := by
  induction store with
  | nil => simp [find?] at found
  | cons first rest induction =>
      rw [find?] at found
      split at found
      · rename_i named
        rwa [← Option.some.inj found]
      · exact induction found

theorem find_map {name : String} {change : Variable → Variable}
    (named : ∀ known, (change known).name = known.name) (store : Store) :
    find? name (store.map change) = (find? name store).map change := by
  induction store with
  | nil => rfl
  | cons first rest induction =>
      rw [List.map_cons, find?, find?, named]
      split
      · rfl
      · exact induction

end Store

namespace Script

mutual

/-- A story's value comes out of a script as it went in. -/
theorem Datum.value_of_value (value : Value) : (Datum.ofValue value).value? = some value := by
  cases value with
  | boolean flag => rfl
  | number amount => rfl
  | text letters => rfl
  | list items =>
      rw [ofValue, value?, values_of_items items]
      rfl
  | object entries =>
      rw [ofValue, value?, values_of_entries entries]
      rfl

theorem Datum.values_of_items (items : List Value) : values? (ofItems items) = some items := by
  cases items with
  | nil => rfl
  | cons item rest => rw [ofItems, values?, value_of_value item, values_of_items rest]

theorem Datum.values_of_entries (entries : List (String × Value)) :
    entryValues? (ofEntries entries) = some entries := by
  cases entries with
  | nil => rfl
  | cons entry rest =>
      obtain ⟨name, value⟩ := entry
      rw [ofEntries, entryValues?, value_of_value value, values_of_entries rest]

end

theorem Datum.of_value_inj {left right : Value} : ofValue left = ofValue right ↔ left = right := by
  constructor
  · intro same
    have out := congrArg value? same
    rw [value_of_value, value_of_value] at out
    exact Option.some.inj out
  · exact congrArg ofValue

/-- A variable as a script gets it. -/
def bindingOf (known : Variable) : Binding :=
  ⟨known.name, Datum.ofValue known.value.toValue, false⟩

/-- A script sees the last variable with a name. -/
theorem scope_of_find (name : String) (store : Store) :
    (scopeOf store).find? name = (store.last? name).map bindingOf := by
  have reversed : scopeOf store = store.reverse.map bindingOf := List.map_reverse.symm
  rw [reversed, Store.last?]
  induction store.reverse with
  | nil => rfl
  | cons known rest induction =>
      rw [List.map_cons, Scope.find?, Store.find?, bindingOf]
      split
      · rfl
      · exact induction

/-- A script that writes a name nowhere spares it to its end. -/
theorem execution_spares {limits : Limits} {program : Program} {name : String} {before after : Scope}
    (silent : program.writes name = false)
    (ran : execution? limits program before = some after) : Scope.Spared name before after := by
  have spared := (Silent.at_depth name (depthFor limits)).executeAll
    ⟨limits, program.functions, 0, before.length⟩ program.body silent ⟨before, 0⟩
  unfold execution? at ran
  dsimp only at ran
  split at ran
  · rename_i ended
    rw [ended] at spared
    rwa [← Option.some.inj ran]
  · rename_i ended
    rw [ended] at spared
    rwa [← Option.some.inj ran]
  · rename_i ended
    rw [ended] at spared
    rwa [← Option.some.inj ran]
  · simp at ran

/-- A script changes nothing, or it ran to its end and each variable takes what it left. -/
theorem changes_end (limits : Limits) (code : List Char) (store : Store) :
    changes limits code store = store.map (fun _ => none) ∨
      ∃ program scope, compile? limits store code = some program ∧
        execution? limits program (scopeOf store) = some scope ∧
        changes limits code store = store.map (taken? scope) := by
  unfold changes
  dsimp only
  split
  · exact Or.inl rfl
  · split
    · exact Or.inl rfl
    · rename_i program compiled
      split
      · exact Or.inl rfl
      · rename_i scope ended
        exact Or.inr ⟨program, scope, compiled, ended, rfl⟩

theorem run_of_changes {limits : Limits} {code : List Char} {store : Store}
    {taken : Variable → Option Stored} (changed : changes limits code store = store.map taken) :
    run limits code store = store.map fun known => applied known (taken known) := by
  rw [run, changed, List.zipWith_map_right, List.zipWith_self]

theorem run_ends (limits : Limits) (code : List Char) (store : Store) :
    run limits code store = store ∨
      ∃ program scope, compile? limits store code = some program ∧
        execution? limits program (scopeOf store) = some scope ∧
        run limits code store = store.map fun known => applied known (taken? scope known) := by
  rcases changes_end limits code store with unchanged | ⟨program, scope, compiled, ended, changed⟩
  · exact Or.inl ((run_of_changes unchanged).trans (List.map_id store))
  · exact Or.inr ⟨program, scope, compiled, ended, run_of_changes changed⟩

theorem applied_name (known : Variable) (change : Option Stored) :
    (applied known change).name = known.name := by
  cases change <;> rfl

theorem run_finds_none (limits : Limits) (code : List Char) {store : Store} {name : String}
    (unknown : store.find? name = none) : (run limits code store).find? name = none := by
  rcases run_ends limits code store with same | ⟨program, scope, -, -, after⟩
  · rw [same, unknown]
  · rw [after, Store.find_map (fun known => applied_name known _), unknown, Option.map_none]

/-- A variable takes nothing while its name stands for what it holds. -/
theorem taken_of_same {scope : Scope} {known other : Variable}
    (seen : scope.find? known.name = some (bindingOf other))
    (alike : Value.same other.value.toValue known.value.toValue = true) :
    taken? scope known = none := by
  simp only [taken?, seen, bindingOf, Datum.value_of_value, alike, if_true]

/-- After a script that writes a name nowhere, the first variable with the name is as before if it held
what the last one holds. -/
theorem run_keeps_first {limits : Limits} {code : List Char} {store : Store} {name : String}
    {first last : Variable} (found : store.find? name = some first)
    (latest : store.last? name = some last)
    (alike : Value.same last.value.toValue first.value.toValue = true)
    (silent : ∀ program, compile? limits store code = some program → program.writes name = false) :
    (run limits code store).find? name = some first := by
  rcases run_ends limits code store with same | ⟨program, scope, compiled, ended, after⟩
  · rw [same, found]
  · have spared := execution_spares (silent program compiled) ended
    have seen : scope.find? first.name = some (bindingOf last) := by
      rw [Store.name_of_find found, spared.find_eq, scope_of_find, latest]
      rfl
    rw [after, Store.find_map (fun known => applied_name known _), found, Option.map_some,
      taken_of_same seen alike]
    rfl

end Script

end Narrative
