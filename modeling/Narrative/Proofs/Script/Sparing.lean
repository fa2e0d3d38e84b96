import Narrative.Script.Evaluation

/-!
# Steps that spare a name

A step of a script spares a name if it leaves all variables of the name as they are: it may declare
others on top of them and write into others. Main facts: steps one after another spare what each of
them spares (`Action.Spares.bind`), and so does a step whose declarations are forgotten at its end
(`Action.Spares.enclosed`).
-/

namespace Narrative.Script

set_option autoImplicit false

variable {α β : Type} {name : String}

namespace Scope

/-- A scope as one name sees it: the variables of the name, and a gap for each of the others. -/
def under (name : String) (scope : Scope) : List (Option Binding) :=
  scope.map fun binding => if binding.name = name then some binding else none

theorem find_under (name : String) (scope : Scope) :
    scope.find? name = (scope.under name).findSome? id := by
  induction scope with
  | nil => rfl
  | cons binding rest induction =>
      by_cases named : binding.name = name
      · simp [find?, under, named]
      · simpa [find?, under, named] using induction

theorem under_set {other : String} (apart : other ≠ name) (value : Datum) (scope : Scope) :
    (scope.set other value).under name = scope.under name := by
  induction scope with
  | nil => rfl
  | cons binding rest induction =>
      by_cases found : binding.name = other
      · simp [set, under, found, apart]
      · simpa [set, under, found] using induction

/-- Only variables of other names were declared or written. -/
def Spared (name : String) (before after : Scope) : Prop :=
  ∃ count, after.under name = List.replicate count none ++ before.under name

namespace Spared

theorem refl (scope : Scope) : Spared name scope scope :=
  ⟨0, rfl⟩

theorem trans {first second third : Scope} (earlier : Spared name first second)
    (later : Spared name second third) : Spared name first third := by
  obtain ⟨few, early⟩ := earlier
  obtain ⟨more, late⟩ := later
  refine ⟨more + few, ?_⟩
  rw [late, early, ← List.append_assoc, List.replicate_append_replicate]

theorem find_eq {before after : Scope} (spared : Spared name before after) :
    after.find? name = before.find? name := by
  obtain ⟨count, seen⟩ := spared
  rw [find_under, find_under, seen, List.findSome?_append]
  have gaps : (List.replicate count (none : Option Binding)).findSome? id = none := by simp
  rw [gaps, Option.none_or]

theorem set {other : String} (apart : other ≠ name) (value : Datum) (scope : Scope) :
    Spared name scope (scope.set other value) :=
  ⟨0, under_set apart value scope⟩

theorem declare (binding : Binding) (apart : binding.name ≠ name) (scope : Scope) :
    Spared name scope (binding :: scope) := by
  refine ⟨1, ?_⟩
  simp [under, apart]

/-- What lies on top of the variables that were there is of other names. -/
theorem rewind {before after : Scope} (spared : Spared name before after) :
    Spared name before (after.rewind before.length) := by
  obtain ⟨count, seen⟩ := spared
  have grown : after.length = count + before.length := by
    simpa [under] using congrArg List.length seen
  refine ⟨0, ?_⟩
  have gone : after.length - before.length = count := by omega
  rw [Scope.rewind, gone, under, List.map_drop, ← under, seen]
  simp

end Spared

end Scope

def Outcome.machine : Outcome α → Machine
  | .done _ machine => machine
  | .stopped _ machine => machine

namespace Action

/-- A step leaves the variables of a name as they are, however it ends. -/
def Spares (name : String) (action : Action α) : Prop :=
  ∀ machine, Scope.Spared name machine.scope (action machine).machine.scope

/-- A step may end with a value. -/
def Yields (action : Action α) (value : α) : Prop :=
  ∃ before after, action before = .done value after

theorem yields_pure {value found : α} (yields : Yields (pure value) found) : found = value := by
  obtain ⟨before, after, done⟩ := yields
  exact (Outcome.done.inj done).1.symm

theorem yields_bind {first : Action α} {next : α → Action β} {found : β}
    (yields : Yields (first >>= next) found) : ∃ value, first.Yields value ∧ (next value).Yields found := by
  obtain ⟨before, after, done⟩ := yields
  change Action.bind first next before = _ at done
  unfold Action.bind at done
  cases middle : first before with
  | stopped signal between => simp [middle] at done
  | done value between =>
      rw [middle] at done
      exact ⟨value, ⟨before, between, middle⟩, between, after, done⟩

namespace Spares

/-- The second step is asked for only after values that the first one gives. -/
theorem bind_of {first : Action α} {next : α → Action β} (start : first.Spares name)
    (rest : ∀ value, first.Yields value → (next value).Spares name) : (first >>= next).Spares name := by
  intro machine
  change Scope.Spared name machine.scope (Action.bind first next machine).machine.scope
  have begun := start machine
  unfold Action.bind
  cases middle : first machine with
  | stopped signal between =>
      rw [middle] at begun
      exact begun
  | done value between =>
      rw [middle] at begun
      exact begun.trans (rest value ⟨machine, between, middle⟩ between)

theorem bind {first : Action α} {next : α → Action β} (start : first.Spares name)
    (rest : ∀ value, (next value).Spares name) : (first >>= next).Spares name :=
  start.bind_of fun value _ => rest value

theorem pure (value : α) : Spares name (Pure.pure value : Action α) :=
  fun machine => .refl machine.scope

theorem stop (signal : Signal) : Spares name (Action.stop signal : Action α) :=
  fun machine => .refl machine.scope

theorem fail : Spares name (Action.fail : Action α) :=
  stop .failure

theorem ofOption (result : Option α) : Spares name (Action.ofOption result) := by
  cases result with
  | none => exact fail
  | some value => exact pure value

theorem ofExcept (result : Except Signal α) : Spares name (Action.ofExcept result) := by
  cases result with
  | error signal => exact stop signal
  | ok value => exact pure value

theorem tick (limits : Limits) : Spares name (Action.tick limits) := by
  intro machine
  unfold Action.tick
  dsimp only
  split <;> exact .refl machine.scope

theorem allow (limits : Limits) (value : Datum) : Spares name (Action.allow limits value) := by
  unfold Action.allow
  split
  · exact pure value
  · exact stop .exhausted

theorem scope : Spares name Action.scope :=
  fun machine => .refl machine.scope

theorem store {other : String} (apart : other ≠ name) (value : Datum) :
    Spares name (Action.store other value) :=
  fun machine => .set apart value machine.scope

theorem declare {other : String} (apart : other ≠ name) (value : Datum) (constant : Bool) :
    Spares name (Action.declare other value constant) :=
  fun machine => .declare ⟨other, value, constant⟩ apart machine.scope

theorem attempted {action : Action α} (spares : action.Spares name) :
    (Action.attempted action).Spares name := by
  intro machine
  have kept := spares machine
  unfold Action.attempted
  cases ended : action machine with
  | done value after => rwa [ended] at kept
  | stopped signal after => rwa [ended] at kept

theorem enclosed {action : Action α} (spares : action.Spares name) :
    (Action.enclosed action).Spares name := by
  intro machine
  have kept := (spares machine).rewind
  unfold Action.enclosed
  cases ended : action machine with
  | done value after => rwa [ended] at kept
  | stopped signal after => rwa [ended] at kept

/-- What runs apart has no variables of the place that it is called from. -/
theorem apart (inner : Scope) (action : Action α) : (Action.apart inner action).Spares name := by
  intro machine
  unfold Action.apart
  cases ended : action { machine with scope := inner } with
  | done value after => exact .refl machine.scope
  | stopped signal after => exact .refl machine.scope

theorem round {action : Action Datum} (spares : action.Spares name) :
    (Action.round action).Spares name := by
  intro machine
  have kept := spares machine
  unfold Action.round
  cases ended : action machine with
  | done value after => rwa [ended] at kept
  | stopped signal after =>
      rw [ended] at kept
      cases signal <;> exact kept

theorem catching {action : Action Datum} {handler : Datum → Action Datum}
    (tried : action.Spares name) (handled : ∀ thrown, (handler thrown).Spares name) :
    (Action.catching action handler).Spares name := by
  intro machine
  have kept := tried machine
  unfold Action.catching
  cases ended : action machine with
  | done value after => rwa [ended] at kept
  | stopped signal after =>
      rw [ended] at kept
      cases signal with
      | thrown value direct =>
          have later := kept.trans (handled value after)
          simp only
          cases again : handler value after with
          | done found last => rwa [again] at later
          | stopped other last =>
              rw [again] at later
              split <;> first | exact later | simp_all [Outcome.machine]
      | _ => exact kept

end Spares

end Action

theorem lookup_spares (world : World) (other : String) : (lookup world other).Spares name :=
  Action.Spares.scope.bind fun scope => .ofOption (world.meaning? other scope)

theorem written_spares {update : Datum → Action Datum} (spares : ∀ value, (update value).Spares name)
    (value : Datum) : (written update value).Spares name := by
  apply Action.Spares.bind (spares value).attempted
  intro found
  cases found with
  | ok changed => exact .pure _
  | error signal => exact .pure _

/-- One move of a change, given that the moves after it spare the name. -/
theorem change_part_spares {limits : Limits} {update : Datum → Action Datum} {rest : List Move}
    (spares : ∀ value, (update value).Spares name) (value position : Datum)
    (others : ∀ part, (change limits update rest part).Spares name) :
    Action.Spares name
      (match entry? value position, rest with
      | some (entries, entry), [] => writtenEntry update entries entry
      | _, _ =>
        match value.at? position with
        | none => pure (.failed value)
        | some part => do
          let passage ← change limits update rest part
          pure (passage.written value position)) := by
  split
  · exact (written_spares spares _).bind fun passage => .pure _
  · cases value.at? position with
    | none => exact .pure _
    | some part => exact (others part).bind fun passage => .pure _

theorem change_spares {update : Datum → Action Datum} (limits : Limits)
    (spares : ∀ value, (update value).Spares name) (moves : List Move) (value : Datum) :
    (change limits update moves value).Spares name := by
  induction moves generalizing value with
  | nil => exact written_spares spares value
  | cons move rest induction =>
      cases move with
      | method called arguments => exact .pure _
      | index position =>
          apply (Action.Spares.tick limits).bind
          intro _
          exact change_part_spares spares value position induction
      | property entry =>
          apply (Action.Spares.tick limits).bind
          intro _
          dsimp only
          cases propertyIndex? value entry with
          | none => exact .pure _
          | some position => exact change_part_spares spares value position induction

theorem call_empty_spares (called : String) : (callEmpty called).Spares name := by
  unfold callEmpty
  split
  · exact .pure _
  · split
    · exact .stop _
    · exact .fail

theorem truth_spares (value : Datum) : (truth value).Spares name := by
  cases value with
  | boolean flag => exact .pure flag
  | _ => exact .fail

end Narrative.Script
