import Narrative.Variable
import Narrative.Json.Fields

/-!
# Variables in documents

How variables are read from documents and written into them. Not-a-number is null on both ways. The
members of a variable other than its identifier and its name are set aside before they are looked
at, so all of them have to be readable.
-/

namespace Narrative

set_option autoImplicit false

/-- A number in a saved document: always with a point or an exponent, and null if not finite. -/
def savedNumber (amount : Float) : Json :=
  if Number.isFinite amount then .real amount else .null

namespace ScalarKind

def ofName? (name : String) : Option ScalarKind :=
  if name = "boolean" then some .boolean
  else if name = "number" then some .number
  else if name = "string" then some .text
  else none

def read? (value : Raw) : Option ScalarKind :=
  value.heldAlternative?.bind ofName?

end ScalarKind

namespace Kind

def name : Kind → String
  | .boolean => "boolean"
  | .number => "number"
  | .text => "string"
  | .list => "array"
  | .object => "object"

def ofName? (name : String) : Option Kind :=
  if name = "boolean" then some .boolean
  else if name = "number" then some .number
  else if name = "string" then some .text
  else if name = "array" then some .list
  else if name = "object" then some .object
  else none

end Kind

namespace Scalar

def read? (value : Raw) : Option Scalar :=
  match value with
  | .boolean flag => some (.boolean flag)
  | .text letters => letters.map .text
  | other => other.float?.map .number

def toJson : Scalar → Json
  | .boolean flag => .boolean flag
  | .number amount => savedNumber amount
  | .text letters => .text letters

end Scalar

namespace Entry

def read? (value : Raw) : Option Entry := do
  let fields ← Fields.of? ["type", "value"] value
  let kind ← fields.required? 0 ScalarKind.read?
  let scalar ← fields.required? 1 Scalar.read?
  pure ⟨kind, scalar⟩

def toJson (entry : Entry) : Json :=
  .object [("type", .text entry.kind.name), ("value", entry.value.toJson)]

end Entry

namespace Stored

/-- What a variable of a kind holds, from the document of its value. -/
def read? (kind : Kind) (value : Raw) : Option Stored :=
  match kind with
  | .boolean => value.boolean?.map .boolean
  | .number => value.float?.map .number
  | .text => value.text?.map .text
  | .list => do
    let fields ← Fields.of? ["elementType", "elements"] value
    let elementKind ← fields.required? 0 ScalarKind.read?
    let elements ← fields.defaulted? 1 [] (Raw.list? Scalar.read?)
    pure (.list elementKind elements)
  | .object => do
    let fields ← Fields.of? ["keys"] value
    let members ← fields.defaulted? 0 (.ofPairs []) (Raw.keyed? Entry.read?)
    pure (.object members)

def toJson : Stored → Json
  | .boolean flag => .boolean flag
  | .number amount => savedNumber amount
  | .text letters => .text letters
  | .list elementKind elements =>
    .object [("elementType", .text elementKind.name), ("elements", .list (elements.map Scalar.toJson))]
  | .object members =>
    .object [("keys", .object (members.entries.map fun entry => (entry.1, entry.2.toJson)))]

end Stored

namespace Variable

/-- Whether all members but the identifier and the name can be set aside, with `room` for that many
levels of lists and objects. -/
def heldMembers (room : Nat) (members : List (Option String × Raw)) : Bool :=
  members.all fun member =>
    member.1 == some "id" || member.1 == some "name" || member.2.isReadable room

/-- A variable, written as an object; `room` is how many levels its members may have. -/
def read? (room : Nat) (value : Raw) : Option Variable :=
  match value with
  | .object members => do
    let fields ← Fields.ofMembers? ["id", "name", "type", "value"] members
    let id ← fields.required? 0 Raw.text?
    let name ← fields.required? 1 Raw.text?
    if heldMembers room members then
      let kind ← fields.required? 2 fun kind => kind.heldAlternative?.bind Kind.ofName?
      let stored ← fields.required? 3 (Stored.read? kind)
      pure ⟨id, name, stored⟩
    else none
  | _ => none

def toJson (known : Variable) : Json :=
  .object [("id", .text known.id), ("name", .text known.name),
    ("type", .text known.value.kind.name), ("value", known.value.toJson)]

end Variable

namespace Store

/-- The variables of a list; `room` is how many levels the members of each may have. -/
def read? (room : Nat) (value : Raw) : Option Store :=
  value.list? (Variable.read? room)

def toJson (store : Store) : Json :=
  .list (store.map Variable.toJson)

end Store

end Narrative
