import Narrative.Proofs.Boards

/-!
# Graphs and what is declared

A graph is put together board by board, and the first node of an identifier counts. Main fact: it answers
as a scan of the whole document does. A board begins at one of its nodes that are the first of their
identifier in the document.
-/

namespace Narrative

set_option autoImplicit false

/-! ## Scans of the document -/

namespace Project

/-- The nodes of all boards, in the order of the document. -/
def nodes (project : Project) : List Node :=
  project.boards.flatMap Board.nodes

/-- The edges of all boards, in the order of the document. -/
def edges (project : Project) : List Edge :=
  project.boards.flatMap Board.edges

/-- The board that is asked for with the boards in front of it: the first one with the identifier, and if
none is asked for the first one of all. -/
def askedBoard? (project : Project) : Option String → Option (List Board × Board)
  | none => project.boards.head?.map fun board => ([], board)
  | some id => (project.boards.find? fun board => board.id == id).map fun board =>
      (project.boards.takeWhile fun other => other.id != id, board)

/-- The nodes whose identifiers were declared neither in front of the list nor in front of them in it. -/
def newNodes (earlier nodes : List Node) : List Node :=
  (nodes.zipIdx.filter fun entry =>
    (earlier ++ nodes.take entry.2).all fun other => other.id != entry.1.id).map Prod.fst

/-- The node where a board begins: the first new one labelled so, else the first new one. -/
def entryNode? (project : Project) (asked : Option String) : Option Node :=
  (project.askedBoard? asked).bind fun found =>
    let new := newNodes (found.1.flatMap Board.nodes) found.2.nodes
    (new.find? Node.isStart).or new.head?

end Project

/-- A label that is the word for a start in any case, with blanks around it. -/
def Node.LabelledStart (node : Node) : Prop :=
  ∃ word, Text.Padded word node.labelText.toList ∧ word.map Char.toLower = "start".toList

theorem Text.lower_of_blank {letter : Char} (blank : isBlank letter = true) : letter.toLower = letter := by
  unfold Char.toLower
  split
  · rename_i capital
    have upper : letter.isUpper = true := decide_eq_true capital
    have alpha : letter.isAlpha = true := Bool.or_eq_true_iff.mpr (.inl upper)
    have visible := visible_of_alphanum (Bool.or_eq_true_iff.mpr (.inl alpha))
    rw [blank] at visible
    cases visible
  · rfl

theorem is_word_iff {word letters : String}
    (visible : ∀ letter ∈ word.toList, Text.isBlank letter = false) :
    isWord word letters = true ↔
      ∃ part, Text.Padded part letters.toList ∧ part.map Char.toLower = word.toList := by
  have same : isWord word letters = true ↔ (Text.trim letters.toList).map Char.toLower = word.toList := by
    rw [isWord, beq_iff_eq, ← String.toList_inj, String.toList_ofList]
    rfl
  rw [same]
  constructor
  · intro spells
    exact ⟨_, Text.padded_trim letters.toList, spells⟩
  · rintro ⟨part, padded, spells⟩
    have trimmed : Text.trim part = part := by
      apply Text.trim_of_all_visible
      intro letter member
      cases blank : Text.isBlank letter with
      | false => rfl
      | true =>
          -- A blank is its own small letter, and the word has none.
          have among : letter ∈ part.map Char.toLower := by
            rw [← Text.lower_of_blank blank]
            exact List.mem_map_of_mem member
          rw [spells] at among
          exact blank.symm.trans (visible letter among)
    rw [padded.trim, trimmed, spells]

theorem Node.is_start_iff (node : Node) : node.isStart = true ↔ node.LabelledStart :=
  is_word_iff (by simp [Text.isBlank])

namespace Project

theorem new_nodes_cons (earlier : List Node) (node : Node) (rest : List Node) :
    newNodes earlier (node :: rest) =
      if earlier.all fun other => other.id != node.id then node :: newNodes (earlier ++ [node]) rest
      else newNodes (earlier ++ [node]) rest := by
  have later : ((rest.zipIdx 1).filter fun entry =>
      (earlier ++ (node :: rest).take entry.2).all fun other => other.id != entry.1.id).map Prod.fst =
        newNodes (earlier ++ [node]) rest := by
    rw [newNodes, List.zipIdx_succ, List.filter_map, List.map_map]
    simp only [Function.comp_def, List.take_succ_cons, List.append_assoc, List.cons_append, List.nil_append]
  rw [← later, newNodes, List.zipIdx_cons, List.filter_cons]
  split <;> simp_all

/-- No node in front of a new one has its identifier. -/
theorem exists_place_of_new {earlier nodes : List Node} {node : Node}
    (new : node ∈ newNodes earlier nodes) :
    ∃ front back, nodes = front ++ node :: back ∧ ∀ other ∈ earlier ++ front, other.id ≠ node.id := by
  obtain ⟨⟨_, place⟩, listed, rfl⟩ := List.mem_map.mp new
  obtain ⟨among, first⟩ := List.mem_filter.mp listed
  have here := List.mk_mem_zipIdx_iff_getElem?.mp among
  obtain ⟨inside, same⟩ := List.getElem?_eq_some_iff.mp here
  refine ⟨nodes.take place, nodes.drop (place + 1), ?_, fun other member => ?_⟩
  · rw [← same, List.getElem_cons_drop, List.take_append_drop]
  · simpa using List.all_eq_true.mp first other member

theorem exists_behind_asked {project : Project} {asked : Option String} {before : List Board}
    {board : Board} (found : project.askedBoard? asked = some (before, board)) :
    ∃ after, project.boards = before ++ board :: after := by
  cases asked with
  | none =>
      obtain ⟨first, head, same⟩ := Option.map_eq_some_iff.mp found
      cases same
      obtain ⟨after, boards⟩ := List.head?_eq_some_iff.mp head
      exact ⟨after, boards⟩
  | some id =>
      obtain ⟨first, held, same⟩ := Option.map_eq_some_iff.mp found
      cases same
      obtain ⟨named, front, back, boards, others⟩ := List.find?_eq_some_iff_append.mp held
      have before : project.boards.takeWhile (fun other => other.id != id) = front := by
        have passed : ∀ other ∈ front, (other.id != id) = true := others
        rw [boards, List.takeWhile_append_of_pos passed, List.takeWhile_cons_of_neg (by simpa using named),
          List.append_nil]
      exact ⟨back, before ▸ boards⟩

/-- The document leads to a new node of a board under its identifier. -/
theorem find_new {project : Project} {asked : Option String} {before : List Board} {board : Board}
    (found : project.askedBoard? asked = some (before, board)) {node : Node}
    (new : node ∈ newNodes (before.flatMap Board.nodes) board.nodes) :
    (project.nodes.find? fun other => other.id == node.id) = some node := by
  obtain ⟨after, boards⟩ := exists_behind_asked found
  obtain ⟨front, back, listed, first⟩ := exists_place_of_new new
  rw [List.find?_eq_some_iff_append]
  refine ⟨by simp, before.flatMap Board.nodes ++ front, back ++ after.flatMap Board.nodes, ?_, ?_⟩
  · simp [nodes, boards, listed]
  · simpa using first

end Project

namespace Graph

theorem find_node_eq (id : String) (nodes : List Node) :
    findNode? id nodes = nodes.find? fun node => node.id == id := by
  induction nodes with
  | nil => rfl
  | cons node rest induction =>
      by_cases named : node.id = id
      · simp [findNode?, named]
      · simp [findNode?, named, induction]

/-- The nodes that a board brings are those whose identifiers were not declared before. -/
theorem fresh_nodes_eq {known earlier : List Node}
    (same : ∀ id, (findNode? id known).isSome = earlier.any fun other => other.id == id) (nodes : List Node) :
    freshNodes known nodes = Project.newNodes earlier nodes := by
  induction nodes generalizing known earlier with
  | nil => rfl
  | cons node rest induction =>
      have all : (earlier.all fun other => other.id != node.id) = !(findNode? node.id known).isSome := by
        rw [same, List.not_any_eq_all_not]
        rfl
      rw [freshNodes, Project.new_nodes_cons, all]
      cases declared : (findNode? node.id known).isSome with
      | true =>
          have still : ∀ id, (findNode? id known).isSome =
              (earlier ++ [node]).any fun other => other.id == id := by
            intro id
            by_cases named : node.id = id
            · subst named
              simp [declared]
            · simp [same, named]
          simpa using induction still
      | false =>
          have grown : ∀ id, (findNode? id (node :: known)).isSome =
              (earlier ++ [node]).any fun other => other.id == id := by
            intro id
            by_cases named : node.id = id
            · simp [findNode?, named]
            · simp [findNode?, same, named]
          simpa using induction grown

/-! ## Board by board -/

/-- What the graph keeps of a board behind others. -/
def indexOf (before : List Board) (board : Board) : BoardIndex :=
  ⟨board.id, (Project.newNodes (before.flatMap Board.nodes) board.nodes).map Node.id⟩

/-- What the graph keeps of boards one after another behind others. -/
def indexesOf (before : List Board) : List Board → List BoardIndex
  | [] => []
  | board :: rest => indexOf before board :: indexesOf (before ++ [board]) rest

/-- A graph that knows the nodes of some boards. -/
def Knows (graph : Graph) (boards : List Board) : Prop :=
  ∀ id, graph.node? id = (boards.flatMap Board.nodes).find? fun node => node.id == id

theorem find_fresh (id : String) (known nodes : List Node) :
    (known ++ freshNodes known nodes).find? (fun node => node.id == id) =
      (known ++ nodes).find? fun node => node.id == id := by
  rw [List.find?_append, List.find?_append]
  induction nodes generalizing known with
  | nil => rfl
  | cons node rest induction =>
      rw [freshNodes]
      split
      · rename_i declared
        rw [induction]
        by_cases named : node.id = id
        · rw [named, find_node_eq] at declared
          rw [Option.or_of_isSome declared, Option.or_of_isSome declared]
        · simp [named]
      · rename_i new
        have later := induction (node :: known)
        by_cases named : node.id = id
        · simp [named]
        · simpa [named] using later

variable {graph : Graph} {before : List Board}

theorem Knows.fresh (knows : graph.Knows before) (board : Board) :
    freshNodes graph.nodes board.nodes = Project.newNodes (before.flatMap Board.nodes) board.nodes := by
  apply fresh_nodes_eq
  intro id
  have found : findNode? id graph.nodes = _ := knows id
  rw [found, List.isSome_find?]

theorem Knows.add_board (knows : graph.Knows before) (board : Board) :
    (graph.addBoard board).Knows (before ++ [board]) := by
  intro id
  have earlier : graph.nodes.find? (fun node => node.id == id) = _ :=
    (find_node_eq id graph.nodes).symm.trans (knows id)
  calc
    (graph.addBoard board).node? id =
        (graph.nodes ++ freshNodes graph.nodes board.nodes).find? fun node => node.id == id :=
      find_node_eq id _
    _ = (graph.nodes ++ board.nodes).find? fun node => node.id == id := find_fresh id _ _
    _ = ((before ++ [board]).flatMap Board.nodes).find? fun node => node.id == id := by
      rw [List.find?_append, earlier, ← List.find?_append]
      simp

theorem Knows.add_boards (knows : graph.Knows before) (boards : List Board) :
    (boards.foldl addBoard graph).Knows (before ++ boards) ∧
      (boards.foldl addBoard graph).boards = graph.boards ++ indexesOf before boards := by
  induction boards generalizing graph before with
  | nil => simpa [indexesOf] using knows
  | cons board rest induction =>
      obtain ⟨all, indexes⟩ := induction (knows.add_board board)
      have here : (graph.addBoard board).boards = graph.boards ++ [indexOf before board] := by
        rw [addBoard, indexOf, knows.fresh]
      rw [List.append_assoc, List.singleton_append] at all
      exact ⟨all, by rw [List.foldl_cons, indexes, here, indexesOf, List.append_assoc]; rfl⟩

theorem find_index (id : String) (before boards : List Board) :
    (indexesOf before boards).find? (fun index => index.id == id) =
      (boards.find? fun board => board.id == id).map
        (indexOf (before ++ boards.takeWhile fun other => other.id != id)) := by
  induction boards generalizing before with
  | nil => rfl
  | cons board rest induction =>
      by_cases named : board.id = id
      · simp [indexesOf, indexOf, named]
      · have other : (indexOf before board).id ≠ id := named
        simp [indexesOf, other, named, induction]

theorem board_of_project (project : Project) (asked : Option String) :
    (ofProject project).board? asked =
      (project.askedBoard? asked).map fun found => indexOf found.1 found.2 := by
  have knows : empty.Knows [] := fun _ => rfl
  have boards : (ofProject project).boards = indexesOf [] project.boards :=
    (knows.add_boards project.boards).2
  cases asked with
  | none =>
      rw [board?, boards, Project.askedBoard?]
      cases project.boards <;> rfl
  | some id =>
      rw [board?, boards, find_index, Project.askedBoard?, Option.map_map]
      rfl

theorem node_of_project (project : Project) (id : String) :
    (ofProject project).node? id = project.nodes.find? fun node => node.id == id := by
  have knows : empty.Knows [] := fun _ => rfl
  exact (knows.add_boards project.boards).1 id

/-- A board begins where a scan of the document finds its beginning. -/
theorem entry_of_project (project : Project) (asked : Option String) :
    entry? (ofProject project) asked = (project.entryNode? asked).map Node.id := by
  unfold Graph.entry?
  rw [board_of_project, Project.entryNode?]
  cases found : project.askedBoard? asked with
  | none => rfl
  | some place =>
      obtain ⟨before, board⟩ := place
      -- A new node is the one that the graph has under its identifier.
      have labelled : ∀ node ∈ Project.newNodes (before.flatMap Board.nodes) board.nodes,
          (ofProject project).isStart node.id = node.isStart := by
        intro node new
        rw [isStart, node_of_project, Project.find_new found new]
      have first : (indexOf before board).order.find? (ofProject project).isStart =
          ((Project.newNodes (before.flatMap Board.nodes) board.nodes).find? Node.isStart).map Node.id := by
        rw [indexOf, List.find?_map, ← List.head?_filter, ← List.head?_filter]
        exact congrArg (fun nodes => (List.head? nodes).map Node.id) (List.filter_congr labelled)
      have head : (indexOf before board).order.head? =
          (Project.newNodes (before.flatMap Board.nodes) board.nodes).head?.map Node.id := List.head?_map
      simp only [Option.map_some, Option.bind_some, first, head]
      cases (Project.newNodes (before.flatMap Board.nodes) board.nodes).find? Node.isStart <;> rfl

/-- The graph of a project answers as a scan of the whole document does, and the label of a beginning is
told with blanks and capitals aside. -/
theorem graph_scans_document (project : Project) :
    (∀ id, (ofProject project).node? id = project.nodes.find? fun node => node.id == id) ∧
    (∀ id, (ofProject project).edgesFrom id = project.edges.filter fun edge => edge.source == id) ∧
    (∀ id handle, (ofProject project).edgeFor? id handle =
      (project.edges.filter fun edge => edge.source == id).find? fun edge => edge.handle == some handle) ∧
    (∀ asked, entry? (ofProject project) asked = (project.entryNode? asked).map Node.id) ∧
    ∀ node : Node, node.isStart = true ↔ node.LabelledStart := by
  have edges (id : String) : (ofProject project).edgesFrom id =
      project.edges.filter fun edge => edge.source == id := edges_from_of_project project id
  refine ⟨node_of_project project, edges, fun id handle => ?_, entry_of_project project, Node.is_start_iff⟩
  rw [edgeFor?, edges]

end Graph

end Narrative
