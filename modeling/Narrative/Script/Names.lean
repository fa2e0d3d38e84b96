import Narrative.Script.Tree

/-!
# Names in scripts

A script is refused before any of it runs when it uses a name that stands for nothing, writes into a
constant, or leaves a loop where there is none. A name is known from its declaration to the end of
the block that declares it, and the name of a function from the function on; functions see their
parameters and the story's variables.
-/

namespace Narrative.Script

set_option autoImplicit false

/-- What is known at a place of a script. -/
structure Known where
  /-- The variables of the story, and the functions so far. -/
  story : List String
  /-- The names declared so far, the last one first, each with whether it is a constant. -/
  declared : List (String × Bool)
  insideLoop : Bool

namespace Known

def declare (known : Known) (name : String) (constant : Bool) : Known :=
  { known with declared := (name, constant) :: known.declared }

def declareAll (known : Known) (names : List String) : Known :=
  names.foldl (fun known name => known.declare name false) known

def enterLoop (known : Known) : Known :=
  { known with insideLoop := true }

/-- Whether a name stands for something. -/
def knows (known : Known) (name : String) : Bool :=
  known.declared.any (fun entry => entry.1 == name) || known.story.contains name

/-- Whether a name stands for a constant. -/
def isConstant (known : Known) (name : String) : Bool :=
  match known.declared.find? fun entry => entry.1 == name with
  | some entry => entry.2
  | none => false

end Known

mutual

/-- Whether all names in an expression are known. -/
def Expr.isKnown (known : Known) : Expr → Bool
  | .constant _ => true
  | .variable name => known.knows name
  | .list found => itemsKnown known found
  | .object found => membersKnown known found
  | .template parts => itemsKnown known parts
  | .unary _ operand => operand.isKnown known
  | .binary _ left right => left.isKnown known && right.isKnown known
  | .both left right => left.isKnown known && right.isKnown known
  | .either left right => left.isKnown known && right.isKnown known
  | .fallback left right => left.isKnown known && right.isKnown known
  | .call _ arguments => itemsKnown known arguments
  | .chain root found => root.isKnown known && stepsKnown known found
  | .statement body => body.isKnown known

def itemsKnown (known : Known) : List Expr → Bool
  | [] => true
  | item :: rest => item.isKnown known && itemsKnown known rest

def membersKnown (known : Known) : List (String × Expr) → Bool
  | [] => true
  | (_, value) :: rest => value.isKnown known && membersKnown known rest

def Step.isKnown (known : Known) : Step → Bool
  | .index position => position.isKnown known
  | .property _ => true
  | .method _ arguments => itemsKnown known arguments

def stepsKnown (known : Known) : List Step → Bool
  | [] => true
  | step :: rest => step.isKnown known && stepsKnown known rest

/-- Whether all names in a statement are known and used as what they are. -/
def Stmt.isKnown (known : Known) : Stmt → Bool
  | .nothing => true
  | .expression value => value.isKnown known
  | .declare _ _ value => value.isKnown known
  | .assign name found _ value =>
    value.isKnown known && known.knows name && stepsKnown known found &&
      (!found.isEmpty || !known.isConstant name)
  | .branch condition positive negative =>
    condition.isKnown known && bodyKnown known positive && bodyKnown known negative
  | .select subject found otherwise =>
    subject.isKnown known && casesKnown known found && optionalBodyKnown known otherwise
  | .whileLoop condition body =>
    optionalKnown known condition && bodyKnown known.enterLoop body
  | .doLoop body _ condition => bodyKnown known.enterLoop body && condition.isKnown known
  | .forLoop name counter source body =>
    source.isKnown known &&
      bodyKnown ((known.declareAll counter.toList).declare name false).enterLoop body
  | .block body => bodyKnown known body
  | .attempt body binder handler =>
    bodyKnown known body && bodyKnown (known.declareAll binder.toList) handler
  | .leave value => known.insideLoop && optionalKnown known value
  | .next => known.insideLoop
  | .give value => optionalKnown known value
  | .raise value => optionalKnown known value

/-- Whether all names in statements one after another are known; a declaration counts from the
statement after it. -/
def bodyKnown (known : Known) : List Stmt → Bool
  | [] => true
  | .declare name constant value :: rest =>
    value.isKnown known && bodyKnown (known.declare name constant) rest
  | statement :: rest => statement.isKnown known && bodyKnown known rest

def optionalBodyKnown (known : Known) : Option (List Stmt) → Bool
  | none => true
  | some body => bodyKnown known body

def optionalKnown (known : Known) : Option Expr → Bool
  | none => true
  | some value => value.isKnown known

def Case.isKnown (known : Known) : Case → Bool
  | .mk _ guard action => optionalKnown known guard && bodyKnown known action

def casesKnown (known : Known) : List Case → Bool
  | [] => true
  | found :: rest => found.isKnown known && casesKnown known rest

end

/-- Whether all names are known in what is left of a script, given the names that were declared
outside functions so far. -/
def itemsAreKnown (known : Known) : List Item → Bool
  | [] => true
  | .function function :: rest =>
    bodyKnown ((Known.mk known.story [] false).declareAll function.parameters) function.body &&
      itemsAreKnown { known with story := function.name :: known.story } rest
  | .statement (.declare name constant value) :: rest =>
    value.isKnown known && itemsAreKnown (known.declare name constant) rest
  | .statement statement :: rest => statement.isKnown known && itemsAreKnown known rest

/-- Whether all names in a script are known, given the story's variables. -/
def Program.isKnown (story : List String) (program : Program) : Bool :=
  itemsAreKnown ⟨story, [], false⟩ program.items

end Narrative.Script
