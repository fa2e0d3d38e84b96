import Narrative.Script.Arithmetic
import Narrative.Script.Selection

/-!
# Scripts in reduced form

What is plain from the text of a script is worked out before the script runs: operators between
literals, constants that a literal is declared for, conditions that are settled, and texts and lists
of literals. Statements that can only give a value nobody takes are left out, so a fault in them is
never met. A logical operator that one operand settles stands for the other operand, whatever its
value. `Program.reduced` is the script that runs.
-/

namespace Narrative.Script

set_option autoImplicit false

/-- The declarations that are known at a place of a script, the last one first; only a constant that
is declared for a literal has a value here. -/
abbrev Constants := List (String × Option Datum)

/-- The value of a constant. -/
def Constants.value? (name : String) (known : Constants) : Option Datum :=
  (known.find? fun entry => entry.1 == name).bind fun entry => entry.2

/-- The value of a literal. -/
def Expr.literal? : Expr → Option Datum
  | .constant value => some value
  | _ => none

/-- The values of expressions that are all literals. -/
def literals? : List Expr → Option (List Datum)
  | [] => some []
  | .constant value :: rest => (literals? rest).map (value :: ·)
  | _ :: _ => none

mutual

/-- An expression that changes nothing, calls nothing and ends. -/
def Expr.isPure : Expr → Bool
  | .constant _ => true
  | .variable _ => true
  | .list items => itemsArePure items
  | .object members => membersArePure members
  | .template parts => itemsArePure parts
  | .both left right => left.isPure && right.isPure
  | .either left right => left.isPure && right.isPure
  | .fallback left right => left.isPure && right.isPure
  | .statement body => body.isPure
  | _ => false

def itemsArePure : List Expr → Bool
  | [] => true
  | item :: rest => item.isPure && itemsArePure rest

def membersArePure : List (String × Expr) → Bool
  | [] => true
  | (_, value) :: rest => value.isPure && membersArePure rest

/-- A statement that changes nothing, declares nothing, calls nothing and ends. -/
def Stmt.isPure : Stmt → Bool
  | .nothing => true
  | .expression value => value.isPure
  | .branch condition positive negative =>
    condition.isPure && bodyIsPure positive && bodyIsPure negative
  | .select subject cases (some otherwise) =>
    subject.isPure && casesArePure cases && bodyIsPure otherwise
  | .doLoop body continuing (.constant (.boolean flag)) => flag != continuing && bodyIsPure body
  | .forLoop _ _ source body => source.isPure && bodyIsPure body
  | .block body => bodyIsPure body
  | .attempt body _ handler => bodyIsPure body && bodyIsPure handler
  | _ => false

def bodyIsPure : List Stmt → Bool
  | [] => true
  | statement :: rest => statement.isPure && bodyIsPure rest

def casesArePure : List Case → Bool
  | [] => true
  | .mk _ none action :: rest => bodyIsPure action && casesArePure rest
  | .mk _ (some guard) action :: rest => guard.isPure && bodyIsPure action && casesArePure rest

end

namespace Stmt

/-- Whether the value of a statement is that of a body that it ends. -/
def hasValue : Stmt → Bool
  | .expression _ => true
  | .branch _ _ _ => true
  | .select _ _ _ => true
  | .block _ => true
  | _ => false

def isDeclaration : Stmt → Bool
  | .declare _ _ _ => true
  | _ => false

def isPureDeclaration : Stmt → Bool
  | .declare _ _ value => value.isPure
  | _ => false

/-- A statement that has no use for variables. -/
def isSettled : Stmt → Bool
  | .nothing => true
  | .expression (.constant _) => true
  | _ => false

end Stmt

/-- A body without the statements that are of no use. With `kept` the value of the body is taken, so
its last statement stays if it has one. An inner body needs no declaration that nothing follows. -/
def pruned (kept inner : Bool) : List Stmt → List Stmt
  | [] => []
  | statement :: rest =>
    let others := pruned kept inner rest
    let isLast := kept && rest.isEmpty
    if statement.isPure && !(isLast && statement.hasValue) then others
    else if inner && statement.isPureDeclaration && others.all Stmt.isSettled then others
    else if kept && statement.hasValue && others.isEmpty && !rest.isEmpty then [statement, .nothing]
    else statement :: others

/-- A body as one statement. -/
def blockOf : List Stmt → Stmt
  | [] => .nothing
  | [only] => if only.isDeclaration then .block [only] else only
  | body => .block body

/-- A body as an expression. -/
def valueOf : List Stmt → Expr
  | [] => .constant .unit
  | [.expression value] => value
  | body => .statement (blockOf body)

/-- An expression as a statement. -/
def statementOf : Expr → Stmt
  | .statement body => body
  | value => .expression value

/-- A list, which is a literal if its items are. -/
def listOf (items : List Expr) : Expr :=
  match literals? items with
  | some values => .constant (.list values)
  | none => .list items

/-- An object, which is a literal if its members are. -/
def objectOf (members : List (String × Expr)) : Expr :=
  match literals? (members.map fun member => member.2) with
  | some values =>
    .constant (.object (Keyed.ofPairs ((members.map fun member => member.1).zip values)))
  | none => .object members

/-- A text put together, which is a literal if its parts are. -/
def templateOf (parts : List Expr) : Expr :=
  match literals? parts with
  | some values => .constant (.text (String.ofList (values.flatMap Datum.written)))
  | none => .template parts

def negationOf : Expr → Expr
  | .constant (.boolean flag) => .constant (.boolean (!flag))
  | operand => .unary .negation operand

/-- Two operands with an operator, worked out if the result is plain. -/
def binaryOf (operator : Operator) (left right : Expr) : Expr :=
  match left, right with
  | .constant first, .constant second =>
    match Datum.plain? operator first second with
    | some result => .constant result
    | none => .binary operator left right
  | _, _ => .binary operator left right

/-- Both operands, unless one of them settles which it is. -/
def bothOf (left right : Expr) : Expr :=
  match left, right with
  | .constant (.boolean true), _ => right
  | .constant (.boolean false), _ => .constant (.boolean false)
  | _, .constant (.boolean true) => left
  | _, _ => .both left right

/-- Either operand, unless one of them settles which it is. -/
def eitherOf (left right : Expr) : Expr :=
  match left, right with
  | .constant (.boolean true), _ => .constant (.boolean true)
  | .constant (.boolean false), _ => right
  | _, .constant (.boolean false) => left
  | _, _ => .either left right

/-- The first operand if it is a literal that has a value, the second if it is the unit. -/
def fallbackOf (left right : Expr) : Expr :=
  match left with
  | .constant .unit => right
  | .constant value => .constant value
  | _ => .fallback left right

/-- An assignment. An operation whose first operand is the variable that takes its result is the
compound assignment. -/
def assignmentOf (name : String) (steps : List Step) (operator : Option Operator) (value : Expr) :
    Stmt :=
  match steps, operator, value with
  | [], none, .binary between (.variable first) second =>
    if first = name && between.compounds then .assign name [] (some between) second
    else .assign name steps operator value
  | _, _, _ => .assign name steps operator value

/-- A branch, unless its condition is settled or it has nothing to do. -/
def branchOf (kept : Bool) (condition : Expr) (positive negative : List Stmt) : Stmt :=
  if positive.isEmpty && negative.isEmpty then
    if condition.isPure then .nothing
    else if kept then .block [statementOf condition, .nothing]
    else statementOf condition
  else match condition with
    | .constant (.boolean true) => blockOf positive
    | .constant (.boolean false) => blockOf negative
    | _ => .branch condition positive negative

def whileOf (condition : Expr) (body : List Stmt) : Stmt :=
  match condition with
  | .constant (.boolean true) => .whileLoop none body
  | .constant (.boolean false) => .nothing
  | _ => .whileLoop (some condition) body

/-- A selection, unless it is settled which of its cases is taken. -/
def selectionOf (subject : Expr) (cases : List Case) (otherwise : Option (List Stmt)) : Stmt :=
  match subject with
  | .constant value =>
    match candidates value cases with
    | [] => blockOf (otherwise.getD [])
    | .mk _ none action :: _ => blockOf action
    | _ => .select subject cases otherwise
  | _ => .select subject cases otherwise

/-- A case, unless its condition never holds. -/
def casesOf (labels : List Label) (guard : Option Expr) (action : List Stmt) : List Case :=
  match guard with
  | some (.constant (.boolean true)) => [.mk labels none action]
  | some (.constant (.boolean false)) => []
  | _ => [.mk labels guard action]

/-- The single item that an index leads to in a list of pure items. -/
def itemAt? (items : List Expr) (index : Int) : Option Expr :=
  let place := if index < 0 then Int.ofNat items.length + index else index
  if place < 0 || !itemsArePure items then none else items[place.toNat]?

/-- The member that a name leads to in an object of pure members. -/
def memberAt? (members : List (String × Expr)) (name : String) : Option Expr :=
  if membersArePure members then
    some (((members.find? fun member => member.1 == name).map fun member => member.2).getD
      (.constant .unit))
  else none

/-- The character that an index leads to in a text. -/
def characterAt? (letters : String) (index : Int) : Option Expr :=
  let found := letters.toList
  let place := if index < 0 then Int.ofNat found.length + index else index
  if place < 0 then none else found[place.toNat]?.map fun letter => .constant (.character letter)

/-- A value with steps after it, worked out if a single step leads to what the script says there. -/
def chainOf (root : Expr) (steps : List Step) : Expr :=
  let found := match root, steps with
    | .list items, [.index (.constant (.integer index))] => itemAt? items index
    | .object members, [.index (.constant (.text name))] => memberAt? members name
    | .object members, [.property name] => memberAt? members name
    | .constant (.text letters), [.index (.constant (.integer index))] => characterAt? letters index
    | _, _ => none
  found.getD (.chain root steps)

mutual

/-- An expression in reduced form. A variable from which steps lead on stays itself. -/
def Expr.reduced (known : Constants) : Expr → Expr
  | .constant value => .constant value
  | .variable name =>
    match known.value? name with
    | some value => .constant value
    | none => .variable name
  | .list items => listOf (reducedItems known items)
  | .object members => objectOf (reducedMembers known members)
  | .template parts => templateOf (reducedItems known parts)
  | .unary .negation operand => negationOf (operand.reduced known)
  | .unary sign operand => .unary sign (operand.reduced known)
  | .binary operator left right => binaryOf operator (left.reduced known) (right.reduced known)
  | .both left right => bothOf (left.reduced known) (right.reduced known)
  | .either left right => eitherOf (left.reduced known) (right.reduced known)
  | .fallback left right => fallbackOf (left.reduced known) (right.reduced known)
  | .call name arguments => .call name (reducedItems known arguments)
  | .chain (.variable name) steps => .chain (.variable name) (reducedSteps known steps)
  | .chain (.list items) steps => chainOf (.list (reducedItems known items)) (reducedSteps known steps)
  | .chain (.object members) steps =>
    chainOf (.object (reducedMembers known members)) (reducedSteps known steps)
  | .chain root steps => chainOf (root.reduced known) (reducedSteps known steps)
  | .statement body => valueOf (pruned true true (body.reduced known true))

def reducedItems (known : Constants) : List Expr → List Expr
  | [] => []
  | item :: rest => item.reduced known :: reducedItems known rest

def reducedMembers (known : Constants) : List (String × Expr) → List (String × Expr)
  | [] => []
  | (name, value) :: rest => (name, value.reduced known) :: reducedMembers known rest

def reducedSteps (known : Constants) : List Step → List Step
  | [] => []
  | .index position :: rest => .index (position.reduced known) :: reducedSteps known rest
  | .property name :: rest => .property name :: reducedSteps known rest
  | .method name arguments :: rest =>
    .method name (reducedItems known arguments) :: reducedSteps known rest

def reducedOptional (known : Constants) : Option Expr → Option Expr
  | none => none
  | some value => some (value.reduced known)

/-- A statement in reduced form, as the statements that take its place; `kept` tells whether the value
of the body that it is in is taken. A block without declarations is not told apart from the body
around it. -/
def Stmt.reduced (known : Constants) (kept : Bool) : Stmt → List Stmt
  | .nothing => [.nothing]
  | .expression value => [statementOf (value.reduced known)]
  | .declare name constant value => [.declare name constant (value.reduced known)]
  | .assign name steps operator value =>
    [assignmentOf name (reducedSteps known steps) operator (value.reduced known)]
  | .branch condition positive negative =>
    [branchOf kept (condition.reduced known) (pruned kept true (reducedBody known kept positive))
      (pruned kept true (reducedBody known kept negative))]
  | .select subject cases otherwise =>
    [selectionOf (subject.reduced known) (reducedCases known cases) (reducedOtherwise known otherwise)]
  | .whileLoop none body => [.whileLoop none (pruned false true (reducedBody known false body))]
  | .whileLoop (some condition) body =>
    [whileOf (condition.reduced known) (pruned false true (reducedBody known false body))]
  | .doLoop body continuing condition =>
    [.doLoop (pruned false true (reducedBody known false body)) continuing (condition.reduced known)]
  | .forLoop name counter source body =>
    [.forLoop name counter (source.reduced known) (pruned false true (reducedBody known false body))]
  | .block body =>
    let found := reducedBody known kept body
    if body.any Stmt.isDeclaration then [blockOf (pruned kept true found)] else found
  | .attempt body binder handler =>
    let tried := pruned false true (reducedBody known false body)
    if tried.isEmpty then [.nothing]
    else [.attempt tried binder (pruned false true (reducedBody known false handler))]
  | .leave value => [.leave (reducedOptional known value)]
  | .next => [.next]
  | .give value => [.give (reducedOptional known value)]
  | .raise value => [.raise (reducedOptional known value)]

/-- Statements one after another in reduced form; what is declared is known after it. -/
def reducedBody (known : Constants) (kept : Bool) : List Stmt → List Stmt
  | [] => []
  | .declare name constant value :: rest =>
    let found := value.reduced known
    .declare name constant found ::
      reducedBody ((name, if constant then found.literal? else none) :: known) kept rest
  | statement :: rest => statement.reduced known kept ++ reducedBody known kept rest

def reducedOtherwise (known : Constants) : Option (List Stmt) → Option (List Stmt)
  | none => none
  | some body => some (pruned true true (reducedBody known true body))

def reducedCases (known : Constants) : List Case → List Case
  | [] => []
  | .mk labels guard action :: rest =>
    casesOf labels (reducedOptional known guard) (pruned true true (reducedBody known true action)) ++
      reducedCases known rest

end

/-- A function in reduced form. -/
def Function.reduced (function : Function) : Function :=
  { function with body := pruned true false (reducedBody [] true function.body) }

/-- A script in reduced form, its functions first. -/
def Program.reduced (program : Program) : Program :=
  ⟨program.functions.map (fun function => .function function.reduced) ++
    (pruned true false (reducedBody [] true program.body)).map .statement⟩

end Narrative.Script
