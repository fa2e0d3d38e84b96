import Narrative.Graph

/-!
# Graphs of boards

What the graph of a project takes from its boards: every edge, in the order of the document, and of the
nodes those whose identifiers are new. Wherever a board begins, the graph has a node.
-/

namespace Narrative.Graph

set_option autoImplicit false

theorem fresh_nodes_sublist (known nodes : List Node) :
    (freshNodes known nodes).Sublist nodes := by
  induction nodes generalizing known with
  | nil => exact List.Sublist.refl []
  | cons node rest ih =>
      unfold freshNodes
      split
      · exact (ih known).cons node
      · exact (ih (node :: known)).cons_cons node

theorem nodes_of_boards (graph : Graph) (boards : List Board) :
    ∃ fresh, (boards.foldl addBoard graph).nodes = graph.nodes ++ fresh ∧
      fresh.Sublist (boards.flatMap Board.nodes) := by
  induction boards generalizing graph with
  | nil => exact ⟨[], by simp, List.Sublist.refl []⟩
  | cons board rest ih =>
      obtain ⟨fresh, nodes, sublist⟩ := ih (graph.addBoard board)
      refine ⟨freshNodes graph.nodes board.nodes ++ fresh, ?_, ?_⟩
      · rw [List.foldl_cons, nodes]
        simp [addBoard]
      · rw [List.flatMap_cons]
        exact (fresh_nodes_sublist graph.nodes board.nodes).append sublist

theorem nodes_of_project (project : Project) :
    (ofProject project).nodes.Sublist (project.boards.flatMap Board.nodes) := by
  obtain ⟨fresh, nodes, sublist⟩ := nodes_of_boards empty project.boards
  rw [ofProject, nodes]
  exact sublist

theorem find_node_mem {id : String} {nodes : List Node} {node : Node}
    (found : findNode? id nodes = some node) : node ∈ nodes := by
  induction nodes with
  | nil => simp [findNode?] at found
  | cons first rest ih =>
      unfold findNode? at found
      split at found
      · rw [Option.some.inj found]
        exact List.mem_cons_self
      · exact List.mem_cons_of_mem first (ih found)

theorem node_mem {graph : Graph} {id : String} {node : Node}
    (found : graph.node? id = some node) : node ∈ graph.nodes :=
  find_node_mem found

theorem find_add_edge (edge : Edge) (outgoing : List (String × List Edge)) (id : String) :
    (Keyed.find? id (addEdge edge outgoing)).getD [] =
      (Keyed.find? id outgoing).getD [] ++ if edge.source = id then [edge] else [] := by
  induction outgoing with
  | nil =>
      unfold addEdge Keyed.find?
      split <;> simp
  | cons entry rest ih =>
      by_cases own : entry.1 = edge.source
      · by_cases asked : edge.source = id
        · simp [addEdge, Keyed.find?, own, asked]
        · simp [addEdge, Keyed.find?, own, asked]
      · by_cases asked : entry.1 = id
        · have other : edge.source ≠ id := by
            intro same
            exact own (asked.trans same.symm)
          simp [addEdge, Keyed.find?, asked, other, Ne.symm other]
        · simp [addEdge, Keyed.find?, own, asked, ih]

theorem edges_from_add_board (graph : Graph) (board : Board) (id : String) :
    (graph.addBoard board).edgesFrom id =
      graph.edgesFrom id ++ board.edges.filter fun edge => edge.source = id := by
  have folded : ∀ (edges : List Edge) (outgoing : List (String × List Edge)),
      (Keyed.find? id (edges.foldl (fun outgoing edge => addEdge edge outgoing) outgoing)).getD [] =
        (Keyed.find? id outgoing).getD [] ++ edges.filter fun edge => edge.source = id := by
    intro edges
    induction edges with
    | nil => simp
    | cons edge rest ih =>
        intro outgoing
        rw [List.foldl_cons, ih, find_add_edge, List.filter_cons]
        by_cases own : edge.source = id <;> simp [own]
  exact folded board.edges graph.outgoing

/-- The edges that leave a node are those of all boards that name it as their source. -/
theorem edges_from_of_project (project : Project) (id : String) :
    (ofProject project).edgesFrom id =
      (project.boards.flatMap Board.edges).filter fun edge => edge.source = id := by
  have folded : ∀ (boards : List Board) (graph : Graph),
      (boards.foldl addBoard graph).edgesFrom id =
        graph.edgesFrom id ++ (boards.flatMap Board.edges).filter fun edge => edge.source = id := by
    intro boards
    induction boards with
    | nil => simp
    | cons board rest ih =>
        intro graph
        rw [List.foldl_cons, ih, edges_from_add_board, List.flatMap_cons, List.filter_append,
          List.append_assoc]
  exact folded project.boards empty

theorem mem_edges_from {project : Project} {edge : Edge} {id : String} :
    edge ∈ (ofProject project).edgesFrom id ↔
      edge ∈ project.boards.flatMap Board.edges ∧ edge.source = id := by
  rw [edges_from_of_project, List.mem_filter, decide_eq_true_iff]

theorem has_node_iff {graph : Graph} {id : String} :
    graph.hasNode id = true ↔ id ∈ graph.nodes.map Node.id := by
  unfold hasNode node?
  induction graph.nodes with
  | nil => simp [findNode?]
  | cons node rest ih =>
      by_cases named : node.id = id
      · simp [findNode?, named]
      · simp [findNode?, named, ih, Ne.symm named]

/-- Every identifier in the order of a board is that of a node. -/
def Housed (graph : Graph) : Prop :=
  ∀ index ∈ graph.boards, ∀ id ∈ index.order, graph.hasNode id = true

theorem Housed.add_board {graph : Graph} (housed : Housed graph) (board : Board) :
    Housed (graph.addBoard board) := by
  intro index member id ordered
  rw [has_node_iff]
  simp only [addBoard, List.map_append, List.mem_append]
  rcases List.mem_append.mp member with earlier | added
  · exact Or.inl (has_node_iff.mp (housed index earlier id ordered))
  · rw [List.mem_singleton.mp added] at ordered
    exact Or.inr ordered

theorem housed_of_project (project : Project) : Housed (ofProject project) := by
  have folded : ∀ (boards : List Board) (graph : Graph), Housed graph →
      Housed (boards.foldl addBoard graph) := by
    intro boards
    induction boards with
    | nil => exact fun _ housed => housed
    | cons board rest ih => exact fun graph housed => ih _ (housed.add_board board)
  apply folded project.boards empty
  intro index member
  simp [empty] at member

theorem board_mem {graph : Graph} {board : Option String} {index : BoardIndex}
    (found : graph.board? board = some index) : index ∈ graph.boards := by
  cases board with
  | none => exact List.mem_of_head? found
  | some id => exact List.mem_of_find?_eq_some found

theorem Housed.entry {graph : Graph} (housed : Housed graph) {board : Option String} {id : String}
    (begins : graph.entry? board = some id) : graph.hasNode id = true := by
  obtain ⟨index, found, first⟩ := Option.bind_eq_some_iff.mp begins
  apply housed index (board_mem found) id
  cases labelled : index.order.find? graph.isStart with
  | some start =>
      have same : start = id := by simpa [labelled] using first
      rw [← same]
      exact List.mem_of_find?_eq_some labelled
  | none => exact List.mem_of_head? (by simpa [labelled] using first)

theorem has_node_of_entry {project : Project} {board : Option String} {id : String}
    (begins : entry? (ofProject project) board = some id) :
    (ofProject project).hasNode id = true :=
  (housed_of_project project).entry begins

end Narrative.Graph
