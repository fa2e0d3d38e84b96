import Narrative.Variable.Document

/-!
# States of a run

Where a run is, what its variables hold, and which way it came. A state is written as a document and
read from one.
-/

namespace Narrative.Story

set_option autoImplicit false

inductive Status where
  /-- Waits at a node for a choice. -/
  | paused
  /-- There is nothing to choose, or no way on. -/
  | deadEnd
  /-- Went on and on without coming to a node with content. -/
  | cycle
  /-- There is no node here. -/
  | missing
  /-- Was closed. -/
  | closed
  deriving DecidableEq, Repr

/-- A node that a run left, with what the variables held then. -/
structure Moment where
  node : String
  store : Store

structure State where
  /-- Where the run began. -/
  entry : Option String
  current : Option String
  status : Status
  store : Store
  /-- The moments behind the current one, the latest first. -/
  history : List Moment
  /-- The node whose scripts are not run again when the run comes to it right now. -/
  lastVisited : Option String

namespace Status

def name : Status → String
  | .paused => "paused"
  | .deadEnd => "deadEnd"
  | .cycle => "cycleDetected"
  | .missing => "missing"
  | .closed => "terminal"

def ofName? (name : String) : Option Status :=
  if name = "paused" then some .paused
  else if name = "deadEnd" then some .deadEnd
  else if name = "cycleDetected" then some .cycle
  else if name = "missing" then some .missing
  else if name = "terminal" then some .closed
  else none

end Status

namespace State

/-- The state with the current node, if there is one, added to the history. -/
def remember (state : State) : State :=
  match state.current with
  | none => state
  | some node => { state with history := ⟨node, state.store⟩ :: state.history }

end State

namespace Moment

/-- A moment of a document; `room` is how many levels the members of a variable may have. -/
def read? (room : Nat) (value : Raw) : Option Moment := do
  let fields ← Fields.of? ["nodeId", "variables"] value
  let node ← fields.required? 0 Raw.text?
  let store ← fields.required? 1 (Store.read? room)
  pure ⟨node, store⟩

def toJson (moment : Moment) : Json :=
  .object [("nodeId", .text moment.node), ("variables", moment.store.toJson)]

end Moment

namespace State

/-- A state of a document; `room` is how many levels of lists and objects it may have. -/
def read? (room : Nat) (value : Raw) : Option State := do
  let fields ← Fields.of?
    ["entryNodeId", "currentNodeId", "status", "variables", "history", "lastVisitedNodeId"] value
  let entry ← fields.nullable? 0 Raw.text?
  let current ← fields.nullable? 1 Raw.text?
  let status ← fields.required? 2 fun status => status.alternative?.bind Status.ofName?
  let store ← fields.required? 3 (Store.read? (room - 3))
  let history ← fields.required? 4 (Raw.list? (Moment.read? (room - 5)))
  let lastVisited ← fields.nullable? 5 Raw.text?
  pure
    { entry := entry
      current := current
      status := status
      store := store
      history := history.reverse
      lastVisited := lastVisited }

/-- The document of a state, with the history from its beginning on. -/
def toJson (state : State) : Json :=
  .object [("entryNodeId", Json.nullableText state.entry), ("currentNodeId", Json.nullableText state.current),
    ("status", .text state.status.name), ("variables", state.store.toJson),
    ("history", .list (state.history.reverse.map Moment.toJson)),
    ("lastVisitedNodeId", Json.nullableText state.lastVisited)]

/-- The state that a text holds. -/
def ofText? (text : List Char) : Option State :=
  (Json.raw? text).bind (read? Raw.deepest)

/-- The text of a state. -/
def text (state : State) : String :=
  state.toJson.compactText

end State

end Narrative.Story
