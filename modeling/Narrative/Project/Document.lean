import Narrative.Project
import Narrative.Variable.Document

/-!
# Projects in documents

How a project is read from the document of an authoring tool, which may hold more than is needed, and
how it is written.
-/

namespace Narrative

set_option autoImplicit false

namespace NodeKind

/-- The kind with a name; all others are decorations. -/
def ofName (name : String) : NodeKind :=
  if name = "content" then .content
  else if name = "branch" then .branch
  else if name = "jump" then .jump
  else .decorative

def name : NodeKind → String
  | .content => "content"
  | .branch => "branch"
  | .jump => "jump"
  | .decorative => "decorative"

end NodeKind

/-- A field with a text that is empty when it is left out. -/
def Fields.text? (fields : Fields) (position : Nat) : Option String :=
  fields.defaulted? position "" Raw.text?

/-- A field with a text that may be null or left out. -/
def Fields.optionalText? (fields : Fields) (position : Nat) : Option (Option String) :=
  fields.defaulted? position none (Raw.nullable? Raw.text?)

/-- A field with a list that is empty when it is left out. -/
def Fields.list? {α : Type} (fields : Fields) (position : Nat) (read : Raw → Option α) :
    Option (List α) :=
  fields.defaulted? position [] (Raw.list? read)

def Branch.read? (value : Raw) : Option Branch := do
  let fields ← Fields.of? ["id", "label", "condition"] value
  let id ← fields.required? 0 Raw.text?
  let label ← fields.text? 1
  let condition ← fields.text? 2
  pure ⟨id, label, condition⟩

/-- What a node holds beside its identifier and its kind. -/
structure NodeData where
  label : Option String
  content : Option String
  assets : List String
  branches : List Branch
  jumpTarget : Option String

namespace NodeData

def empty : NodeData :=
  ⟨none, none, [], [], none⟩

def read? (value : Raw) : Option NodeData := do
  let fields ← Fields.of? ["label", "content", "assets", "branches", "jumpTargetId"] value
  let label ← fields.optionalText? 0
  let content ← fields.optionalText? 1
  let assets ← fields.list? 2 Raw.text?
  let branches ← fields.list? 3 Branch.read?
  let jumpTarget ← fields.optionalText? 4
  pure ⟨label, content, assets, branches, jumpTarget⟩

end NodeData

def Node.read? (value : Raw) : Option Node := do
  let fields ← Fields.of? ["id", "type", "data"] value
  let id ← fields.required? 0 Raw.text?
  let kind ← fields.required? 1 Raw.alternative?
  let data ← fields.defaulted? 2 NodeData.empty NodeData.read?
  pure
    { id := id
      kind := NodeKind.ofName kind
      label := data.label
      content := data.content
      assets := data.assets
      branches := data.branches
      jumpTarget := data.jumpTarget }

def Edge.read? (value : Raw) : Option Edge := do
  let fields ← Fields.of? ["id", "source", "sourceHandle", "target"] value
  let id ← fields.text? 0
  let source ← fields.required? 1 Raw.text?
  let handle ← fields.optionalText? 2
  let target ← fields.required? 3 Raw.text?
  pure ⟨id, source, handle, target⟩

def Board.read? (value : Raw) : Option Board := do
  let fields ← Fields.of? ["id", "name", "nodes", "edges"] value
  let id ← fields.required? 0 Raw.text?
  let name ← fields.text? 1
  let nodes ← fields.list? 2 Node.read?
  let edges ← fields.list? 3 Edge.read?
  pure ⟨id, name, nodes, edges⟩

/-- Levels of lists and objects that are left inside a variable of a project. -/
def Project.variableRoom : Nat := Raw.deepest - 3

def Project.read? (value : Raw) : Option Project := do
  let fields ← Fields.of? ["variables", "boards", "activeBoardId"] value
  let store ← fields.defaulted? 0 [] (Store.read? Project.variableRoom)
  let boards ← fields.list? 1 Board.read?
  let activeBoard ← fields.optionalText? 2
  pure ⟨store, boards, activeBoard⟩

/-- The project that a text holds. -/
def Project.ofText? (text : List Char) : Option Project :=
  (Json.raw? text).bind Project.read?

/-- A member that is left out when it has no text. -/
def optionalMember (name : String) (value : Option String) : List (String × Json) :=
  (value.map fun letters => (name, Json.text letters)).toList

/-- A member that is left out when it has no items. -/
def listMember (name : String) (items : List Json) : List (String × Json) :=
  if items.isEmpty then [] else [(name, .list items)]

def Branch.toJson (branch : Branch) : Json :=
  .object [("id", .text branch.id), ("label", .text branch.label), ("condition", .text branch.condition)]

def Node.toJson (node : Node) : Json :=
  .object [("id", .text node.id), ("type", .text node.kind.name),
    ("data", .object (optionalMember "label" node.label ++ optionalMember "content" node.content ++
      listMember "assets" (node.assets.map Json.text) ++
      listMember "branches" (node.branches.map Branch.toJson) ++
      optionalMember "jumpTargetId" node.jumpTarget))]

def Edge.toJson (edge : Edge) : Json :=
  .object [("id", .text edge.id), ("source", .text edge.source),
    ("sourceHandle", Json.nullableText edge.handle), ("target", .text edge.target)]

def Board.toJson (board : Board) : Json :=
  .object [("id", .text board.id), ("name", .text board.name),
    ("nodes", .list (board.nodes.map Node.toJson)), ("edges", .list (board.edges.map Edge.toJson))]

def Project.toJson (project : Project) : Json :=
  .object ([("variables", project.store.toJson), ("boards", .list (project.boards.map Board.toJson))]
    ++ optionalMember "activeBoardId" project.activeBoard)

end Narrative
