import Narrative.Project

/-!
# Story graphs

The nodes and edges of all boards of a project, put together so that they are found by identifier. Of
several nodes with one identifier the first counts; edges stay in the order in which they are written.
-/

namespace Narrative

set_option autoImplicit false

/-- The nodes that a board brings into a graph, by their identifiers in order. -/
structure BoardIndex where
  id : String
  order : List String
  deriving DecidableEq, Repr

structure Graph where
  nodes : List Node
  /-- For each source the edges that leave it. -/
  outgoing : List (String × List Edge)
  boards : List BoardIndex
  deriving DecidableEq, Repr

namespace Graph

def empty : Graph :=
  ⟨[], [], []⟩

/-- The first node of a list with an identifier. -/
def findNode? (id : String) : List Node → Option Node
  | [] => none
  | node :: rest => if node.id = id then some node else findNode? id rest

/-- The nodes whose identifiers are not taken by known nodes or by nodes before them. -/
def freshNodes (known : List Node) : List Node → List Node
  | [] => []
  | node :: rest =>
    if (findNode? node.id known).isSome then freshNodes known rest
    else node :: freshNodes (node :: known) rest

/-- Puts an edge behind the others with its source. -/
def addEdge (edge : Edge) : List (String × List Edge) → List (String × List Edge)
  | [] => [(edge.source, [edge])]
  | entry :: rest =>
    if entry.1 = edge.source then (entry.1, entry.2 ++ [edge]) :: rest else entry :: addEdge edge rest

def addBoard (graph : Graph) (board : Board) : Graph :=
  let fresh := freshNodes graph.nodes board.nodes
  { nodes := graph.nodes ++ fresh
    outgoing := board.edges.foldl (fun outgoing edge => addEdge edge outgoing) graph.outgoing
    boards := graph.boards ++ [⟨board.id, fresh.map Node.id⟩] }

def ofProject (project : Project) : Graph :=
  project.boards.foldl addBoard empty

def node? (graph : Graph) (id : String) : Option Node :=
  findNode? id graph.nodes

def hasNode (graph : Graph) (id : String) : Bool :=
  (graph.node? id).isSome

def isContent (graph : Graph) (id : String) : Bool :=
  match graph.node? id with
  | some node => node.isContent
  | none => false

/-- The edges that leave a node, in declared order. -/
def edgesFrom (graph : Graph) (id : String) : List Edge :=
  (Keyed.find? id graph.outgoing).getD []

/-- The first edge that leaves a node for one of its branches. -/
def edgeFor? (graph : Graph) (id handle : String) : Option Edge :=
  (graph.edgesFrom id).find? fun edge => edge.handle == some handle

theorem find_node_id {id : String} {nodes : List Node} {node : Node}
    (found : findNode? id nodes = some node) : node.id = id := by
  induction nodes with
  | nil => simp [findNode?] at found
  | cons first rest ih =>
      by_cases named : first.id = id
      · have same : first = node := by simpa [findNode?, named] using found
        rw [← same]
        exact named
      · exact ih (by simpa [findNode?, named] using found)

/-- A node is found under its own identifier only. -/
theorem node_id {graph : Graph} {id : String} {node : Node}
    (found : graph.node? id = some node) : node.id = id :=
  find_node_id found

theorem has_node_of_found {graph : Graph} {id : String} {node : Node}
    (found : graph.node? id = some node) : graph.hasNode id = true := by
  simp [hasNode, found]

theorem is_content_of_found {graph : Graph} {id : String} {node : Node}
    (found : graph.node? id = some node) : graph.isContent id = node.isContent := by
  simp [isContent, found]

theorem is_content_iff {graph : Graph} {id : String} :
    graph.isContent id = true ↔ ∃ node, graph.node? id = some node ∧ node.isContent = true := by
  cases found : graph.node? id with
  | none => simp [isContent, found]
  | some node => simp [isContent, found]

/-- The board with an identifier, or the first one. -/
def board? (graph : Graph) (board : Option String) : Option BoardIndex :=
  match board with
  | some id => graph.boards.find? fun index => index.id == id
  | none => graph.boards.head?

/-- Whether an identifier is that of a node where a board begins. -/
def isStart (graph : Graph) (id : String) : Bool :=
  match graph.node? id with
  | some node => node.isStart
  | none => false

/-- Where a board begins: at the first node labelled so, else at its first node. -/
def entry? (graph : Graph) (board : Option String) : Option String :=
  (graph.board? board).bind fun index =>
    match index.order.find? graph.isStart with
    | some id => some id
    | none => index.order.head?

end Graph

end Narrative
