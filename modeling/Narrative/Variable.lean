import Narrative.Text.Mark
import Narrative.Value
import Narrative.Json.Reader

/-!
# Variables

A story's variables: a declared kind and a value of that kind, and how any value is written into a
variable. A value of another kind is converted; a list or an object keeps what it has when the value
is none.
-/

namespace Narrative

set_option autoImplicit false

/-- Kinds of the elements of lists and of the entries of objects. -/
inductive ScalarKind where
  | boolean
  | number
  | text
  deriving DecidableEq, Repr

/-- An element of a list or an entry of an object. -/
inductive Scalar where
  | boolean (flag : Bool)
  | number (amount : Float)
  | text (letters : String)

/-- An entry of an object variable: a declared kind, which a loaded value need not have, and the
value. -/
structure Entry where
  kind : ScalarKind
  value : Scalar

/-- Kinds of variables. -/
inductive Kind where
  | boolean
  | number
  | text
  | list
  | object
  deriving DecidableEq, Repr

/-- What a variable holds. -/
inductive Stored where
  | boolean (flag : Bool)
  | number (amount : Float)
  | text (letters : String)
  | list (elementKind : ScalarKind) (elements : List Scalar)
  | object (members : Dictionary Entry)

/-- A variable of a story. -/
structure Variable where
  id : String
  name : String
  value : Stored

/-- The variables of a story in declared order, at one point of a run. -/
abbrev Store := List Variable

namespace ScalarKind

def name : ScalarKind → String
  | .boolean => "boolean"
  | .number => "number"
  | .text => "string"

end ScalarKind

namespace Scalar

def kind : Scalar → ScalarKind
  | .boolean _ => .boolean
  | .number _ => .number
  | .text _ => .text

def toValue : Scalar → Value
  | .boolean flag => .boolean flag
  | .number amount => .number amount
  | .text letters => .text letters

def display (scalar : Scalar) : String :=
  scalar.toValue.display

/-- A value written where a scalar of a kind is declared. -/
def coerce (kind : ScalarKind) (source : Value) : Scalar :=
  match kind with
  | .boolean => .boolean source.truth
  | .number => .number source.toNumber
  | .text => .text source.display

/-- A value written where no kind is declared; lists and objects become their texts. -/
def ofValue (source : Value) : Scalar :=
  match source with
  | .boolean flag => .boolean flag
  | .number amount => .number amount
  | .text letters => .text letters
  | .list _ => .text source.display
  | .object _ => .text source.display

end Scalar

/-- An entry whose kind is that of its value. -/
def Entry.ofScalar (value : Scalar) : Entry :=
  ⟨value.kind, value⟩

/-- The text between a pair of equal quote marks, or the text as it stands. -/
def unquoted (letters : List Char) : List Char :=
  match letters with
  | first :: rest =>
    if Text.isMark first then
      match rest.getLast? with
      | some last => if last = first then rest.dropLast else letters
      | none => letters
    else letters
  | [] => []

namespace Stored

def kind : Stored → Kind
  | .boolean _ => .boolean
  | .number _ => .number
  | .text _ => .text
  | .list _ _ => .list
  | .object _ => .object

/-- The value that scripts, conditions and placeholders see. -/
def toValue : Stored → Value
  | .boolean flag => .boolean flag
  | .number amount => .number amount
  | .text letters => .text letters
  | .list _ elements => .list (elements.map Scalar.toValue)
  | .object members => .object (members.entries.map fun entry => (entry.1, entry.2.value.toValue))

def display (stored : Stored) : String :=
  stored.toValue.display

/-- What a variable holds after a value was written into it. -/
def coerce (current : Stored) (source : Value) : Stored :=
  match current with
  | .boolean _ => .boolean source.truth
  | .number _ => .number source.toNumber
  | .text _ => .text source.display
  | .list elementKind elements =>
    match source with
    | .list items => .list elementKind (items.map (Scalar.coerce elementKind))
    | _ => .list elementKind elements
  | .object members =>
    match source with
    | .object found =>
      .object (Dictionary.ofPairs
        (found.map fun entry => (entry.1, Entry.ofScalar (Scalar.ofValue entry.2))))
    | _ => .object members

/-- What a variable would hold after an author's literal was written into it: a quoted or bare text,
or a document for lists and objects. A text that is no document changes nothing. -/
def coerceLiteral (current : Stored) (letters : List Char) : Stored :=
  let literal := Text.trim letters
  match current with
  | .boolean _ => .boolean (String.ofList literal == "true")
  | .number _ => .number (Number.ofText literal)
  | .text _ => .text (String.ofList (unquoted literal))
  | .list _ _ =>
    match Json.read? literal with
    | some document => current.coerce (Value.ofJson document)
    | none => current
  | .object _ =>
    match Json.read? literal with
    | some document => current.coerce (Value.ofJson document)
    | none => current

end Stored

namespace Variable

def display (known : Variable) : String :=
  known.value.display

end Variable

namespace Store

/-- The first variable with a name. -/
def find? (name : String) : Store → Option Variable
  | [] => none
  | known :: rest => if known.name = name then some known else find? name rest

end Store

end Narrative
