import Narrative.Script.Datum

/-!
# Scripts as trees

What the tokens of a script are put together to: expressions, statements and functions.
-/

namespace Narrative.Script

set_option autoImplicit false

/-- Operators between two operands. -/
inductive Operator where
  | add
  | subtract
  | multiply
  | divide
  | remainder
  | power
  | shiftLeft
  | shiftRight
  | bitAnd
  | bitOr
  | bitXor
  | equal
  | unequal
  | less
  | atMost
  | greater
  | atLeast
  /-- A range without its end. -/
  | upTo
  /-- A range with its end. -/
  | through
  deriving DecidableEq, Repr

/-- Operators that have a compound assignment. -/
def Operator.compounds : Operator → Bool
  | .add => true
  | .subtract => true
  | .multiply => true
  | .divide => true
  | .remainder => true
  | .power => true
  | .shiftLeft => true
  | .shiftRight => true
  | .bitAnd => true
  | .bitOr => true
  | .bitXor => true
  | _ => false

/-- Operators before one operand. -/
inductive Sign where
  | plus
  | minus
  | negation
  deriving DecidableEq, Repr

/-- What a case of a selection is taken for. -/
inductive Label where
  | value (value : Datum)
  | range (low high : Int) (closed : Bool)

mutual

inductive Expr where
  | constant (value : Datum)
  | variable (name : String)
  | list (items : List Expr)
  | object (members : List (String × Expr))
  /-- A text put together from the texts of values. -/
  | template (parts : List Expr)
  | unary (sign : Sign) (operand : Expr)
  | binary (operator : Operator) (left right : Expr)
  /-- Both are true; the second is looked at only if the first is. -/
  | both (left right : Expr)
  /-- One is true; the second is looked at only if the first is not. -/
  | either (left right : Expr)
  /-- The second stands in where the first has no value. -/
  | fallback (left right : Expr)
  | call (name : String) (arguments : List Expr)
  /-- A value followed by indexes, properties and methods. -/
  | chain (root : Expr) (steps : List Step)
  | statement (body : Stmt)

inductive Step where
  | index (position : Expr)
  | property (name : String)
  | method (name : String) (arguments : List Expr)

inductive Stmt where
  | nothing
  | expression (value : Expr)
  | declare (name : String) (constant : Bool) (value : Expr)
  /-- Writes into a variable, or into the part of it that the steps lead to. -/
  | assign (name : String) (steps : List Step) (operator : Option Operator) (value : Expr)
  | branch (condition : Expr) (positive negative : List Stmt)
  | select (subject : Expr) (cases : List Case) (otherwise : Option (List Stmt))
  /-- Without a condition the loop goes on until it is left. -/
  | whileLoop (condition : Option Expr) (body : List Stmt)
  /-- Goes on as long as the condition has the value `continuing`. -/
  | doLoop (body : List Stmt) (continuing : Bool) (condition : Expr)
  | forLoop (name : String) (counter : Option String) (source : Expr) (body : List Stmt)
  | block (body : List Stmt)
  | attempt (body : List Stmt) (binder : Option String) (handler : List Stmt)
  | leave (value : Option Expr)
  | next
  | give (value : Option Expr)
  | raise (value : Option Expr)

inductive Case where
  | mk (labels : List Label) (guard : Option Expr) (action : List Stmt)

end

/-- A function of a script. -/
structure Function where
  name : String
  parameters : List String
  body : List Stmt

/-- What a script is made of, at its outermost level. -/
inductive Item where
  | function (function : Function)
  | statement (statement : Stmt)

/-- A whole script: functions and statements in the order in which they stand. -/
structure Program where
  items : List Item

namespace Program

def functions (program : Program) : List Function :=
  program.items.filterMap fun item =>
    match item with
    | .function function => some function
    | .statement _ => none

/-- The statements that run. -/
def body (program : Program) : List Stmt :=
  program.items.filterMap fun item =>
    match item with
    | .function _ => none
    | .statement statement => some statement

end Program

end Narrative.Script
