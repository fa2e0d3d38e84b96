import Narrative.Script.Method

/-!
# Machines

What a running script changes: its variables, and the count of its operations. A step of a script
gives a value, or it stops with a signal that an enclosing statement may take. Main fact: whatever
happens inside `enclosed`, no variable declared there is left behind.
-/

namespace Narrative.Script

set_option autoImplicit false

/-- Bounds of a run. A bound of zero on operations or sizes allows any number. -/
structure Limits where
  operations : Nat
  depth : Nat
  bytes : Nat
  items : Nat
  entries : Nat
  deriving DecidableEq, Repr

/-- The bounds of a story's scripts. -/
def Limits.standard : Limits :=
  { operations := 100000
    depth := 32
    bytes := 65536
    items := 10000
    entries := 10000 }

/-- A variable of a running script. -/
structure Binding where
  name : String
  value : Datum
  constant : Bool

/-- The variables of a script, the last one declared first. -/
abbrev Scope := List Binding

namespace Scope

/-- The last variable declared under a name. -/
def find? (name : String) : Scope → Option Binding
  | [] => none
  | binding :: rest => if binding.name = name then some binding else find? name rest

/-- Gives the last variable declared under a name a value. -/
def set (name : String) (value : Datum) : Scope → Scope
  | [] => []
  | binding :: rest =>
    if binding.name = name then { binding with value := value } :: rest
    else binding :: set name value rest

/-- The variables that were there when there were `count` of them. -/
def rewind (count : Nat) (scope : Scope) : Scope :=
  scope.drop (scope.length - count)

end Scope

/-- The state of a running script. -/
structure Machine where
  scope : Scope
  operations : Nat

/-- Why a step stops. -/
inductive Signal where
  /-- A failure that a script may catch, with what was thrown; it is direct as long as no function has
  passed it on. -/
  | thrown (value : Datum) (direct : Bool)
  /-- A bound was exceeded, which no script may catch. -/
  | exhausted
  | leaving (value : Datum)
  | continuing
  | giving (value : Datum)
  /-- The script is over, wherever it is. -/
  | finishing

/-- The failure of an operation that cannot be done. What a script catches then is an object without
entries. -/
def Signal.failure : Signal :=
  .thrown (.object []) true

/-- How a step ends. -/
inductive Outcome (α : Type) where
  | done (value : α) (machine : Machine)
  | stopped (signal : Signal) (machine : Machine)

/-- A step of a script. -/
def Action (α : Type) := Machine → Outcome α

namespace Action

protected def pure {α : Type} (value : α) : Action α :=
  fun machine => .done value machine

protected def bind {α β : Type} (first : Action α) (next : α → Action β) : Action β :=
  fun machine =>
    match first machine with
    | .done value after => next value after
    | .stopped signal after => .stopped signal after

instance : Monad Action where
  pure := Action.pure
  bind := Action.bind

theorem bind_of_done {α β : Type} {first : Action α} {next : α → Action β} {before after : Machine}
    {value : α} (done : first before = .done value after) : (first >>= next) before = next value after := by
  change Action.bind first next before = next value after
  simp only [Action.bind, done]

/-- Stops with a signal. -/
def stop {α : Type} (signal : Signal) : Action α :=
  fun machine => .stopped signal machine

/-- Stops because an operation cannot be done. -/
def fail {α : Type} : Action α :=
  stop .failure

/-- The result of an operation that may not be possible. -/
def ofOption {α : Type} (result : Option α) : Action α :=
  match result with
  | some value => pure value
  | none => fail

/-- What was found, or the signal that was met instead. -/
def ofExcept {α : Type} (result : Except Signal α) : Action α :=
  match result with
  | .ok value => pure value
  | .error signal => stop signal

/-- Does something, and gives the signal that stops it instead of stopping. -/
def attempted {α : Type} (action : Action α) : Action (Except Signal α) :=
  fun machine =>
    match action machine with
    | .done value after => .done (.ok value) after
    | .stopped signal after => .done (.error signal) after

/-- Counts one operation. -/
def tick (limits : Limits) : Action Unit :=
  fun machine =>
    let count := machine.operations + 1
    if limits.operations != 0 && limits.operations < count then
      .stopped .exhausted { machine with operations := count }
    else .done () { machine with operations := count }

/-- Whether a value is within the bounds of sizes. -/
def fits (limits : Limits) (value : Datum) : Bool :=
  let size := value.size
  (limits.bytes == 0 || size.bytes ≤ limits.bytes) && (limits.items == 0 || size.items ≤ limits.items) &&
    (limits.entries == 0 || size.entries ≤ limits.entries)

/-- Passes a value on if it is not too large. -/
def allow (limits : Limits) (value : Datum) : Action Datum :=
  if fits limits value then pure value else stop .exhausted

/-- The variables that there are. -/
def scope : Action Scope :=
  fun machine => .done machine.scope machine

/-- Gives a variable a value. -/
def store (name : String) (value : Datum) : Action Unit :=
  fun machine => .done () { machine with scope := machine.scope.set name value }

/-- Declares a variable. -/
def declare (name : String) (value : Datum) (constant : Bool) : Action Unit :=
  fun machine => .done () { machine with scope := ⟨name, value, constant⟩ :: machine.scope }

/-- Does something and forgets the variables declared in it. -/
def enclosed {α : Type} (action : Action α) : Action α :=
  fun machine =>
    let count := machine.scope.length
    match action machine with
    | .done value after => .done value { after with scope := after.scope.rewind count }
    | .stopped signal after => .stopped signal { after with scope := after.scope.rewind count }

/-- Does something with other variables only, and returns to the own ones. -/
def apart {α : Type} (scope : Scope) (action : Action α) : Action α :=
  fun machine =>
    match action { machine with scope := scope } with
    | .done value after => .done value { after with scope := machine.scope }
    | .stopped signal after => .stopped signal { after with scope := machine.scope }

/-- Takes the value that a function gives early, and passes its failures on. -/
def called (action : Action Datum) : Action Datum :=
  fun machine =>
    match action machine with
    | .stopped (.giving value) after => .done value after
    | .stopped (.thrown value _) after => .stopped (.thrown value false) after
    | other => other

/-- How a round of a loop ends. -/
inductive Round where
  | again
  /-- The rest of the round was left out. -/
  | skipped
  | over (value : Datum)

/-- One round of a loop. -/
def round (action : Action Datum) : Action Round :=
  fun machine =>
    match action machine with
    | .done _ after => .done .again after
    | .stopped .continuing after => .done .skipped after
    | .stopped (.leaving value) after => .done (.over value) after
    | .stopped signal after => .stopped signal after

/-- Does something, and something else with what was thrown in it, which has no value. When the unit is
thrown there in turn, the first failure goes on. -/
def catching (action : Action Datum) (handler : Datum → Action Datum) : Action Datum :=
  fun machine =>
    match action machine with
    | .stopped (.thrown value direct) after =>
      match handler value after with
      | .done _ later => .done .unit later
      | .stopped (.thrown .unit true) later => .stopped (.thrown value direct) later
      | other => other
    | other => other

end Action

end Narrative.Script
