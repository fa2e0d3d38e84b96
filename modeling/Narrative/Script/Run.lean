import Narrative.Script.Evaluation
import Narrative.Script.Names
import Narrative.Script.Normal
import Narrative.Script.Parser
import Narrative.Script.Reduction
import Narrative.Variable

/-!
# Scripts on stores

A script sees every variable of a store under its name. If it runs to its end, each variable whose
value has changed takes the new value, converted to its kind; if it fails in any way, nothing
changes.
-/

namespace Narrative.Script

set_option autoImplicit false

/-- The variables of a store as a script sees them; of several with one name it sees the last. -/
def scopeOf (store : Store) : Scope :=
  (store.map fun known => Binding.mk known.name (Datum.ofValue known.value.toValue) false).reverse

/-- The script that a text says, in reduced form, if all is well before it runs. -/
def compile? (limits : Limits) (store : Store) (code : List Char) : Option Program := do
  let tokens ← tokens? limits.bytes (normalize code)
  let program ← program? tokens
  if program.isKnown (store.map Variable.name) then some program.reduced else none

/-- A bound on calls and rounds that is above the bound of operations. -/
def depthFor (limits : Limits) : Nat :=
  if limits.operations = 0 then 4611686018427387904 else 16 * limits.operations + 65536

/-- The variables after a script ran to its end. -/
def execution? (limits : Limits) (program : Program) (scope : Scope) : Option Scope :=
  let world : World := ⟨limits, program.functions, 0, scope.length⟩
  match executeAll (depthFor limits) world program.body ⟨scope, 0⟩ with
  | .done _ machine => some machine.scope
  | .stopped (.giving _) machine => some machine.scope
  | .stopped .finishing machine => some machine.scope
  | .stopped _ _ => none

/-- What a variable takes after a run: nothing if its name stands for the same value as before, or
for one that no story has. -/
def taken? (scope : Scope) (known : Variable) : Option Stored :=
  match scope.find? known.name with
  | none => none
  | some binding =>
    match binding.value.value? with
    | none => none
    | some after =>
      if Value.same after known.value.toValue then none else some (known.value.coerce after)

/-- What each variable of a store takes from a script. A blank script takes no part in anything. -/
def changes (limits : Limits) (code : List Char) (store : Store) : List (Option Stored) :=
  let unchanged := store.map fun _ => none
  if (Text.trim code).isEmpty then unchanged
  else match compile? limits store code with
    | none => unchanged
    | some program =>
      match execution? limits program (scopeOf store) with
      | none => unchanged
      | some scope => store.map (taken? scope)

/-- A variable with what it takes. -/
def applied (known : Variable) (change : Option Stored) : Variable :=
  match change with
  | none => known
  | some value => { known with value := value }

/-- The store after a script. -/
def run (limits : Limits) (code : List Char) (store : Store) : Store :=
  List.zipWith applied store (changes limits code store)

end Narrative.Script
