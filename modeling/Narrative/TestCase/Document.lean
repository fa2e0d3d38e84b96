import Narrative.Project.Document
import Narrative.TestCase

/-!
# Test cases in documents

How a test case is read from a document and written.
-/

namespace Narrative

set_option autoImplicit false

namespace Action

def kindName : Action → String
  | .choose _ => "choose"
  | .back => "back"
  | .restart => "restart"

/-- An action with a name; only a choice has a field, and the fields of the others are skipped. -/
def ofTagged? (name : String) (fields : Raw) : Option Action :=
  if name = "choose" then do
    let fields ← Fields.of? ["index"] fields
    let index ← fields.required? 0 Raw.count?
    pure (.choose index)
  else if name = "back" then (Fields.of? [] fields).map fun _ => .back
  else if name = "restart" then (Fields.of? [] fields).map fun _ => .restart
  else none

def read? (room : Nat) (value : Raw) : Option Action :=
  (value.tagged? "kind" room).bind fun tagged => ofTagged? tagged.1 tagged.2

def toJson (action : Action) : Json :=
  let kind := ("kind", Json.text action.kindName)
  match action with
  | .choose index => .object [kind, ("index", .whole index)]
  | .back => .object [kind]
  | .restart => .object [kind]

end Action

namespace Stop

def kindName : Stop → String
  | .beat _ _ _ => "beat"
  | .ending _ _ => "end"
  | .missing => "missing"
  | .cycle => "cycle"

/-- A stop with a name and its fields. -/
def ofTagged? (name : String) (fields : Raw) : Option Stop :=
  if name = "beat" then do
    let fields ← Fields.of? ["label", "content", "choices"] fields
    let label ← fields.required? 0 Raw.text?
    let content ← fields.required? 1 Raw.text?
    let choices ← fields.required? 2 (Raw.list? Raw.text?)
    pure (.beat label content choices)
  else if name = "end" then do
    let fields ← Fields.of? ["label", "content"] fields
    let label ← fields.required? 0 Raw.text?
    let content ← fields.required? 1 Raw.text?
    pure (.ending label content)
  else if name = "missing" then (Fields.of? [] fields).map fun _ => .missing
  else if name = "cycle" then (Fields.of? [] fields).map fun _ => .cycle
  else none

def read? (room : Nat) (value : Raw) : Option Stop :=
  (value.tagged? "kind" room).bind fun tagged => ofTagged? tagged.1 tagged.2

def toJson (stop : Stop) : Json :=
  let kind := ("kind", Json.text stop.kindName)
  match stop with
  | .beat label content choices =>
    .object [kind, ("label", .text label), ("content", .text content),
      ("choices", .list (choices.map .text))]
  | .ending label content => .object [kind, ("label", .text label), ("content", .text content)]
  | .missing => .object [kind]
  | .cycle => .object [kind]

end Stop

namespace TestCase

/-- Levels of lists and objects that are left inside a field of an action or a stop. -/
def fieldRoom : Nat := Raw.deepest - 3

/-- Levels of lists and objects that are left for the value of a variable. -/
def valueRoom : Nat := Raw.deepest - 2

def read? (value : Raw) : Option TestCase := do
  let fields ← Fields.of?
    ["schemaVersion", "entryNodeId", "actions", "expectedEvents", "expectedVariables"] value
  let schema ← fields.required? 0 Raw.text?
  let entry ← fields.optionalText? 1
  let actions ← fields.list? 2 (Action.read? fieldRoom)
  let stops ← fields.list? 3 (Stop.read? fieldRoom)
  let values ← fields.defaulted? 4 (.ofPairs []) (Raw.keyed? (Raw.json? valueRoom))
  pure ⟨schema, entry, actions, stops, values.entries⟩

/-- The test case that a text holds. -/
def ofText? (text : String) : Option TestCase :=
  (Json.raw? text.toList).bind read?

def toJson (test : TestCase) : Json :=
  .object [("schemaVersion", .text test.schema), ("entryNodeId", Json.nullableText test.entry),
    ("actions", .list (test.actions.map Action.toJson)),
    ("expectedEvents", .list (test.stops.map Stop.toJson)),
    ("expectedVariables", .object test.values)]

end TestCase

end Narrative
