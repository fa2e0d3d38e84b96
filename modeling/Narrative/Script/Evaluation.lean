import Narrative.Script.Machine
import Narrative.Script.Selection

/-!
# Running scripts

What expressions give and what statements do. The first argument of each function bounds the depth of
calls and the rounds of loops; every call and round counts as an operation, so a bound above the
bound of operations is never met. A first argument or operand that is a variable is read after the
others are evaluated. What was written into a part of a value stays written when a later step of the
same chain fails.
-/

namespace Narrative.Script

set_option autoImplicit false

/-- What does not change while a script runs. -/
structure World where
  limits : Limits
  functions : List Function
  /-- How many calls of functions are open. -/
  level : Nat
  /-- How many of the variables, at the end of the scope, are those of the story. -/
  stories : Nat

/-- What a name stands for. -/
inductive Meaning where
  | stored (binding : Binding)
  | function (name : String)

def Meaning.value : Meaning → Datum
  | .stored binding => binding.value
  | .function name => .function name

namespace World

def function? (world : World) (name : String) (count : Nat) : Option Function :=
  world.functions.find? fun function => function.name == name && function.parameters.length == count

/-- What a name stands for: a variable that the script declared, else a function, else a variable of
the story. -/
def meaning? (world : World) (name : String) (scope : Scope) : Option Meaning :=
  match Scope.find? name (scope.take (scope.length - world.stories)) with
  | some binding => some (.stored binding)
  | none =>
    if world.functions.any fun function => function.name == name then some (.function name)
    else (scope.find? name).map .stored

end World

/-- What a name stands for. -/
def lookup (world : World) (name : String) : Action Meaning := do
  let scope ← Action.scope
  Action.ofOption (world.meaning? name scope)

/-- A step of a chain with the values of its expressions. -/
inductive Move where
  | index (position : Datum)
  | property (name : String)
  | method (name : String) (arguments : List Datum)

/-- Whether moves may change the value they start from. -/
def Move.mayChange (moves : List Move) : Bool :=
  moves.any fun move =>
    match move with
    | .method name _ => Datum.changing.contains name
    | _ => false

namespace Datum

/-- A value with a changed part, if that part is kept in its place. -/
def replaced (container index part : Datum) : Datum :=
  if container.hasPlace index then (container.with? index part).getD container else container

end Datum

/-- What became of a value on the way through its parts, and what was found or met in the end. -/
structure Passage (α : Type) where
  value : Datum
  found : Except Signal α

namespace Passage

def failed {α : Type} (value : Datum) : Passage α :=
  ⟨value, .error .failure⟩

/-- The passage of a container through a part of it. -/
def through {α : Type} (container index : Datum) (passage : Passage α) : Passage α :=
  ⟨container.replaced index passage.value, passage.found⟩

/-- A container with a part that was written. -/
def written (container index : Datum) (passage : Passage Unit) : Passage Unit :=
  match passage.found with
  | .error signal => ⟨container.replaced index passage.value, .error signal⟩
  | .ok _ =>
    match container.with? index passage.value with
    | some changed => ⟨changed, .ok ()⟩
    | none => failed container

end Passage

/-- The entry that an index names in an object. -/
def entry? (container index : Datum) : Option (List (String × Datum) × String) :=
  match container, index with
  | .object entries, .text name => some (entries, name)
  | _, _ => none

/-- Writes a value in the place of another. -/
def written (update : Datum → Action Datum) (value : Datum) : Action (Passage Unit) := do
  match ← Action.attempted (update value) with
  | .ok changed => pure ⟨changed, .ok ()⟩
  | .error signal => pure ⟨value, .error signal⟩

/-- Writes an entry of an object. An entry that is not there is made before it is written. -/
def writtenEntry (update : Datum → Action Datum) (entries : List (String × Datum)) (name : String) :
    Action (Passage Unit) := do
  let passage ← written update ((Keyed.find? name entries).getD .unit)
  pure ⟨.object (Keyed.insert name passage.value entries), passage.found⟩

/-- The index that a property stands for: only objects have properties that can be written. -/
def propertyIndex? (value : Datum) (name : String) : Option Datum :=
  match value with
  | .object _ => some (.text name)
  | _ => none

/-- Writes into the part of a value that moves lead to. -/
def change (limits : Limits) (update : Datum → Action Datum) : List Move → Datum →
    Action (Passage Unit)
  | [], value => written update value
  | .method _ _ :: _, value => pure (.failed value)
  | move :: rest, value => do
    Action.tick limits
    let index := match move with
      | .index position => some position
      | .property name => propertyIndex? value name
      | .method _ _ => none
    match index with
    | none => pure (.failed value)
    | some position =>
      match entry? value position, rest with
      | some (entries, name), [] => writtenEntry update entries name
      | _, _ =>
        match value.at? position with
        | none => pure (.failed value)
        | some part => do
          let passage ← change limits update rest part
          pure (passage.written value position)

/-- What a loop goes over. -/
inductive Items where
  | list (items : List Datum)
  /-- Whole numbers from the first one on; `count` are left. -/
  | numbers (first : Int) (count : Nat)

namespace Items

def ofDatum? : Datum → Option Items
  | .list items => some (.list items)
  | .text letters => some (.list (letters.toList.map Datum.character))
  | .range low high closed =>
    some (.numbers low ((high - low + (if closed then 1 else 0)).toNat))
  | _ => none

/-- The next item and what is left. -/
def next? : Items → Option (Datum × Items)
  | .list [] => none
  | .list (first :: rest) => some (first, .list rest)
  | .numbers _ 0 => none
  | .numbers first (count + 1) => some (.integer first, .numbers (first + 1) count)

end Items

/-- The truth of a condition. -/
def truth (value : Datum) : Action Bool :=
  match value with
  | .boolean flag => pure flag
  | _ => Action.fail

/-- The text of inserted values. -/
def joinParts (parts : List Datum) : Datum :=
  .text (String.ofList (parts.flatMap Datum.inserted))

/-- The entries of an object literal. -/
def entriesOf (members : List (String × Expr)) (values : List Datum) : List (String × Datum) :=
  Keyed.ofPairs ((members.map fun member => member.1).zip values)

/-- The function that a method stands for on a value: one that the value holds under the name, or one
of the script. -/
def methodOf? (world : World) (name : String) (target : Datum) (count : Nat) :
    Option (Option Function) :=
  match entry? target (.text name) with
  | some (entries, _) =>
    match Keyed.find? name entries with
    | some (.function held) => some (world.function? held count)
    | _ => (world.function? name count).map some
  | none => (world.function? name count).map some

/-- A call without arguments: the printing functions print an empty line, and a script can end. -/
def callEmpty (name : String) : Action Datum :=
  if Token.callable.contains name then pure .unit
  else if name = "exit" then Action.stop .finishing
  else Action.fail

/-- Gives the variable that stands as the first argument its changed value, unless it is constant. -/
def keep (world : World) (arguments : List Expr) (changed : Datum) : Action Unit :=
  match arguments with
  | .variable name :: _ => do
    match ← lookup world name with
    | .stored binding => if binding.constant then pure () else Action.store name changed
    | .function _ => pure ()
  | _ => pure ()

mutual

/-- The value of an expression. -/
def evaluate (depth : Nat) (world : World) (expression : Expr) : Action Datum :=
  match depth with
  | 0 => Action.stop .exhausted
  | depth + 1 => do
    Action.tick world.limits
    match expression with
    | .constant value => Action.allow world.limits value
    | .variable name => do
      let meaning ← lookup world name
      pure meaning.value
    | .list items => do
      let values ← evaluateAll depth world items
      Action.allow world.limits (.list values)
    | .object members => do
      let values ← evaluateAll depth world (members.map fun member => member.2)
      Action.allow world.limits (.object (entriesOf members values))
    | .template parts => do
      let values ← evaluateAll depth world parts
      Action.allow world.limits (joinParts values)
    | .unary sign operand => do
      let value ← evaluate depth world operand
      Action.tick world.limits
      Action.ofOption (Datum.sign? sign value)
    | .binary operator left right => do
      let values ← evaluateArguments depth world [left, right]
      Action.tick world.limits
      match values with
      | [first, second] => do
        let result ← Action.ofOption (Datum.combine? operator first second)
        Action.allow world.limits result
      | _ => Action.fail
    | .both left right => do
      let first ← evaluate depth world left
      if ← truth first then do
        let second ← evaluate depth world right
        let flag ← truth second
        pure (.boolean flag)
      else pure (.boolean false)
    | .either left right => do
      let first ← evaluate depth world left
      if ← truth first then pure (.boolean true)
      else do
        let second ← evaluate depth world right
        let flag ← truth second
        pure (.boolean flag)
    | .fallback left right => do
      let first ← evaluate depth world left
      match first with
      | .unit => evaluate depth world right
      | _ => pure first
    | .call name arguments => callNamed depth world name arguments
    | .chain root steps => do
      let moves ← evaluateSteps depth world steps
      match root with
      | .variable name => do
        match ← lookup world name with
        | .function held => do
          let passage ← follow depth world moves (.function held)
          Action.ofExcept passage.found
        | .stored binding =>
          if binding.constant && Move.mayChange moves then Action.fail
          else do
            let passage ← follow depth world moves binding.value
            if Move.mayChange moves then Action.store name passage.value else pure ()
            Action.ofExcept passage.found
      | _ => do
        let value ← evaluate depth world root
        let passage ← follow depth world moves value
        Action.ofExcept passage.found
    | .statement body => execute depth world body

/-- The values of expressions, one after another. -/
def evaluateAll (depth : Nat) (world : World) (expressions : List Expr) : Action (List Datum) :=
  match depth with
  | 0 => Action.stop .exhausted
  | depth + 1 =>
    match expressions with
    | [] => pure []
    | first :: rest => do
      let value ← evaluate depth world first
      let others ← evaluateAll depth world rest
      pure (value :: others)

/-- The values of operands or arguments. A variable that stands first is read last. -/
def evaluateArguments (depth : Nat) (world : World) (arguments : List Expr) : Action (List Datum) :=
  match depth with
  | 0 => Action.stop .exhausted
  | depth + 1 =>
    match arguments with
    | .variable name :: rest => do
      let others ← evaluateAll depth world rest
      let meaning ← lookup world name
      pure (meaning.value :: others)
    | _ => evaluateAll depth world arguments

/-- The steps of a chain with the values of their expressions. -/
def evaluateSteps (depth : Nat) (world : World) (steps : List Step) : Action (List Move) :=
  match depth with
  | 0 => Action.stop .exhausted
  | depth + 1 =>
    match steps with
    | [] => pure []
    | .index position :: rest => do
      let value ← evaluate depth world position
      let others ← evaluateSteps depth world rest
      pure (.index value :: others)
    | .property name :: rest => do
      let others ← evaluateSteps depth world rest
      pure (.property name :: others)
    | .method name arguments :: rest => do
      let values ← evaluateAll depth world arguments
      let others ← evaluateSteps depth world rest
      pure (.method name values :: others)

/-- Follows moves from a value. A part that has a place is written back, because a method further on
may have changed it. -/
def follow (depth : Nat) (world : World) (moves : List Move) (value : Datum) : Action (Passage Datum) :=
  match depth with
  | 0 => Action.stop .exhausted
  | depth + 1 =>
    match moves with
    | [] => pure ⟨value, .ok value⟩
    | .index position :: rest => do
      Action.tick world.limits
      match value.at? position with
      | none => pure (.failed value)
      | some part => do
        let passage ← follow depth world rest part
        pure (passage.through value position)
    | .property name :: rest => do
      Action.tick world.limits
      match value.property? name with
      | none => pure (.failed value)
      | some part => do
        let passage ← follow depth world rest part
        pure (passage.through value (.text name))
    | .method name arguments :: rest => do
      Action.tick world.limits
      let passage ← apply depth world name arguments value
      match passage.found with
      | .error _ => pure passage
      | .ok part => do
        let later ← follow depth world rest part
        pure ⟨passage.value, later.found⟩

/-- Calls a method of a value. -/
def apply (depth : Nat) (world : World) (name : String) (arguments : List Datum) (value : Datum) :
    Action (Passage Datum) :=
  match depth with
  | 0 => Action.stop .exhausted
  | depth + 1 =>
    match methodOf? world name value arguments.length with
    | some none => pure (.failed value)
    | some (some function) => do
      let found ← Action.attempted (call depth world function arguments)
      pure ⟨value, found⟩
    | none =>
      match Datum.call? name value arguments with
      | none => pure (.failed value)
      | some effect => do
        let target ← Action.allow world.limits effect.target
        let result ← Action.allow world.limits effect.result
        pure ⟨target, .ok result⟩

/-- Calls a function of the script, or one that every script has. A variable that stands as the first
argument of the latter is changed in its place. -/
def callNamed (depth : Nat) (world : World) (name : String) (arguments : List Expr) : Action Datum :=
  match depth with
  | 0 => Action.stop .exhausted
  | depth + 1 => do
    let values ← evaluateArguments depth world arguments
    match world.function? name arguments.length with
    | some function => call depth world function values
    | none => do
      Action.tick world.limits
      match values with
      | [] => callEmpty name
      | target :: others =>
        if name = "exit" && others.isEmpty then Action.stop .finishing
        else do
          let effect ← Action.ofOption (Datum.call? name target others)
          let changed ← Action.allow world.limits effect.target
          if Datum.changing.contains name then keep world arguments changed else pure ()
          Action.allow world.limits effect.result

/-- Runs a function with its parameters as the only variables. -/
def call (depth : Nat) (world : World) (function : Function) (values : List Datum) : Action Datum :=
  match depth with
  | 0 => Action.stop .exhausted
  | depth + 1 => do
    Action.tick world.limits
    if world.limits.depth < world.level + 1 then Action.stop .exhausted
    else
      let scope := (function.parameters.zip values).reverse.map fun parameter =>
        Binding.mk parameter.1 parameter.2 false
      Action.apart scope (Action.called
        (executeAll depth { world with level := world.level + 1, stories := 0 } function.body))

/-- Does what a statement says; its value is that of the last expression in it. -/
def execute (depth : Nat) (world : World) (statement : Stmt) : Action Datum :=
  match depth with
  | 0 => Action.stop .exhausted
  | depth + 1 => do
    Action.tick world.limits
    match statement with
    | .nothing => pure .unit
    | .expression value => evaluate depth world value
    | .declare name constant value => do
      let found ← evaluate depth world value
      Action.declare name found constant
      pure .unit
    | .assign name steps operator value => do
      let written ← evaluate depth world value
      let moves ← evaluateSteps depth world steps
      Action.tick world.limits
      match ← lookup world name with
      | .function _ => Action.fail
      | .stored binding =>
        if binding.constant then Action.fail
        else do
          let update := fun (current : Datum) =>
            match operator with
            | none => pure written
            | some operator => do
              Action.tick world.limits
              let result ← Action.ofOption (Datum.assign? operator current written)
              Action.allow world.limits result
          let passage ← change world.limits update moves binding.value
          Action.store name passage.value
          Action.ofExcept passage.found
          pure .unit
    | .branch condition positive negative => do
      let value ← evaluate depth world condition
      if ← truth value then Action.enclosed (executeAll depth world positive)
      else Action.enclosed (executeAll depth world negative)
    | .select subject cases otherwise => do
      let value ← evaluate depth world subject
      select depth world (candidates value cases) (otherwise.getD [])
    | .whileLoop condition body => repeatWhile depth world condition body
    | .doLoop body continuing condition => repeatDo depth world body continuing condition
    | .forLoop name counter source body => do
      let value ← evaluate depth world source
      let items ← Action.ofOption (Items.ofDatum? value)
      repeatOver depth world name counter 0 items body
    | .block body => Action.enclosed (executeAll depth world body)
    | .attempt body binder handler =>
      Action.catching (Action.enclosed (executeAll depth world body)) fun thrown =>
        Action.enclosed (do
          match binder with
          | some name => Action.declare name thrown false
          | none => pure ()
          executeAll depth world handler)
    | .leave value => do
      let found ← evaluateOptional depth world value
      Action.stop (.leaving found)
    | .next => Action.stop .continuing
    | .give value => do
      let found ← evaluateOptional depth world value
      Action.stop (.giving found)
    | .raise value => do
      let found ← evaluateOptional depth world value
      Action.stop (.thrown found true)

/-- The value of an expression that may be left out. -/
def evaluateOptional (depth : Nat) (world : World) (expression : Option Expr) : Action Datum :=
  match depth with
  | 0 => Action.stop .exhausted
  | depth + 1 =>
    match expression with
    | some value => evaluate depth world value
    | none => pure .unit

/-- Statements one after another; the value is that of the last one. -/
def executeAll (depth : Nat) (world : World) (statements : List Stmt) : Action Datum :=
  match depth with
  | 0 => Action.stop .exhausted
  | depth + 1 =>
    match statements with
    | [] => pure .unit
    | [last] => execute depth world last
    | first :: rest => do
      let _ ← execute depth world first
      executeAll depth world rest

/-- The first case whose guard holds, or the last case for all other values. -/
def select (depth : Nat) (world : World) (cases : List Case) (otherwise : List Stmt) : Action Datum :=
  match depth with
  | 0 => Action.stop .exhausted
  | depth + 1 =>
    match cases with
    | [] => Action.enclosed (executeAll depth world otherwise)
    | .mk _ none action :: _ => Action.enclosed (executeAll depth world action)
    | .mk _ (some guard) action :: rest => do
      let value ← evaluate depth world guard
      if ← truth value then Action.enclosed (executeAll depth world action)
      else select depth world rest otherwise

/-- Rounds as long as a condition holds. -/
def repeatWhile (depth : Nat) (world : World) (condition : Option Expr) (body : List Stmt) :
    Action Datum :=
  match depth with
  | 0 => Action.stop .exhausted
  | depth + 1 => do
    Action.tick world.limits
    let holds ←
      match condition with
      | some expression => do
        let value ← evaluate depth world expression
        truth value
      | none => pure true
    if holds then do
      match ← Action.round (Action.enclosed (executeAll depth world body)) with
      | .over value => pure value
      | _ => repeatWhile depth world condition body
    else pure .unit

/-- Rounds until a condition after one of them ends them. A round whose rest was left out is followed by
another one whatever the condition. -/
def repeatDo (depth : Nat) (world : World) (body : List Stmt) (continuing : Bool) (condition : Expr) :
    Action Datum :=
  match depth with
  | 0 => Action.stop .exhausted
  | depth + 1 => do
    Action.tick world.limits
    match ← Action.round (Action.enclosed (executeAll depth world body)) with
    | .over value => pure value
    | .skipped => repeatDo depth world body continuing condition
    | .again => do
      let value ← evaluate depth world condition
      let holds ← truth value
      if holds == continuing then repeatDo depth world body continuing condition
      else pure .unit

/-- One round for each item, with the number of rounds before it as the counter. -/
def repeatOver (depth : Nat) (world : World) (name : String) (counter : Option String) (passed : Nat)
    (items : Items) (body : List Stmt) : Action Datum :=
  match depth with
  | 0 => Action.stop .exhausted
  | depth + 1 =>
    match items.next? with
    | none => pure .unit
    | some (item, rest) => do
      Action.tick world.limits
      let found ← Action.round (Action.enclosed (do
        match counter with
        | some other => Action.declare other (.integer (Int.ofNat passed)) false
        | none => pure ()
        Action.declare name item false
        executeAll depth world body))
      match found with
      | .over value => pure value
      | _ => repeatOver depth world name counter (passed + 1) rest body

end

end Narrative.Script
