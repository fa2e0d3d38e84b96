import Narrative.Proofs.Boards
import Narrative.Proofs.Resumption

/-!
# Choices on offer

Wherever a session has come to, by choices on offer or past them, the choices on offer are the edges of
the document that leave its node, and there are some exactly while the run waits.
-/

namespace Narrative

set_option autoImplicit false

/-- The edges that leave a place, in the order of the document. Nowhere leaves no edge. -/
def Project.edgesAt (project : Project) (current : Option String) : List Edge :=
  (project.boards.flatMap Board.edges).filter fun edge => current = some edge.source

namespace Story

theorem choices_from_eq (graph : Graph) (store : Store) (first : Nat) (edges : List Edge) :
    choicesFrom graph store first edges = (edges.zipIdx first).map fun numbered =>
      ⟨numbered.2, choiceLabel graph store numbered.1.target, numbered.1.target⟩ := by
  induction edges generalizing first with
  | nil => rfl
  | cons edge rest ih => rw [choicesFrom, List.zipIdx_cons, List.map_cons, ih]

theorem choices_from_length (graph : Graph) (store : Store) (first : Nat) (edges : List Edge) :
    (choicesFrom graph store first edges).length = edges.length := by
  rw [choices_from_eq, List.length_map, List.length_zipIdx]

theorem choices_from_get (graph : Graph) (store : Store) (edges : List Edge) (index : Nat) :
    (choicesFrom graph store 0 edges)[index]? = edges[index]?.map fun edge =>
      ⟨index, choiceLabel graph store edge.target, edge.target⟩ := by
  simp only [choices_from_eq, List.getElem?_map, List.getElem?_zipIdx, Option.map_map,
    Function.comp_def, Nat.zero_add]

theorem choices_from_indices (graph : Graph) (store : Store) (edges : List Edge) :
    (choicesFrom graph store 0 edges).map Choice.index = List.range edges.length := by
  rw [choices_from_eq, List.map_map, List.range_eq_range', ← List.zipIdx_map_snd 0 edges]
  rfl

theorem choices_from_targets (graph : Graph) (store : Store) (edges : List Edge) :
    (choicesFrom graph store 0 edges).map Choice.target = edges.map Edge.target := by
  calc
    (choicesFrom graph store 0 edges).map Choice.target =
        (edges.zipIdx.map Prod.fst).map Edge.target := by
      rw [choices_from_eq, List.map_map, List.map_map]
      rfl
    _ = edges.map Edge.target := by rw [List.zipIdx_map_fst]

/-- A run that waits is at a node that some edge leaves, and its choices follow these edges. -/
theorem Reachable.choices_of_paused {story : Story} {state : State} (reached : Reachable story state)
    (paused : state.status = .paused) :
    ∃ id, state.current = some id ∧ story.graph.edgesFrom id ≠ [] ∧
      story.choices state = choicesFrom story.graph state.store 0 (story.graph.edgesFrom id) := by
  have fits := reached.truthful.fits
  rw [paused] at fits
  obtain ⟨node, here, -, leaves⟩ := fits
  obtain ⟨id, current, found⟩ := Option.bind_eq_some_iff.mp here
  have named := Graph.node_id found
  subst named
  exact ⟨node.id, current, leaves, by simp only [choices, here, if_pos paused]⟩

theorem choices_of_not_paused {story : Story} {state : State} (moving : state.status ≠ .paused) :
    story.choices state = [] := by
  unfold choices
  split
  · rfl
  · exact if_neg moving

end Story

namespace Session

/-- A session of a project: created with any options and any entry, then moved on in any way. It may be
sent to a node that no choice leads to, and moves that are refused leave it as it is. -/
inductive Roamed (project : Project) : Session → Prop where
  | create {options : Story.Options} {entry : Option String} {session : Session}
      (created : create options entry project = .ok session) : Roamed project session
  | choose {session : Session} (prior : Roamed project session) (target : String) :
      Roamed project (session.choose target)
  | attempt {session : Session} (prior : Roamed project session) (move : Move) :
      Roamed project (session.attempt move).2
  | close {session : Session} (prior : Roamed project session) : Roamed project session.close

/-- The edges that a session offers: those that leave its place, while it waits. -/
def offered (project : Project) (session : Session) : List Edge :=
  if session.state.status = .paused then project.edgesAt session.state.current else []

theorem offered_get_iff {project : Project} {session : Session} {index : Nat} {edge : Edge} :
    (session.offered project)[index]? = some edge ↔ session.state.status = .paused ∧
      (project.edgesAt session.state.current)[index]? = some edge := by
  unfold offered
  split <;> simp [*]

theorem lt_offered_iff {project : Project} {session : Session} {index : Nat} :
    index < (session.offered project).length ↔ session.state.status = .paused ∧
      index < (project.edgesAt session.state.current).length := by
  unfold offered
  split <;> simp [*]

namespace Roamed

variable {project : Project} {session : Session}

theorem graph (roamed : Roamed project session) :
    session.story.graph = Graph.ofProject project := by
  induction roamed with
  | create created => rw [story_of_parts (created_parts created).1, Story.ofProject]
  | choose _ target ih => exact ih
  | @attempt session _ move ih =>
      obtain ⟨state, next, -⟩ := session.attempt_cases move
      rw [next]
      exact ih
  | close _ ih => exact ih

theorem reachable (roamed : Roamed project session) :
    Story.Reachable session.story session.state := by
  induction roamed with
  | @create options entry session created =>
      rw [(created_parts created).2]
      exact Story.Reachable.start entry
  | choose _ target ih => exact ih.choose target
  | @attempt session _ move ih =>
      obtain ⟨state, next, kept⟩ := session.attempt_cases move
      rw [next]
      exact kept ih
  | close _ ih => exact ih.close

theorem edges_from (roamed : Roamed project session) (id : String) :
    session.story.graph.edgesFrom id = project.edgesAt (some id) := by
  rw [roamed.graph, Graph.edges_from_of_project, Project.edgesAt]
  simp only [Option.some.injEq, eq_comm]

theorem offers_iff (roamed : Roamed project session) :
    session.offered project ≠ [] ↔ session.state.status = .paused := by
  unfold offered
  split
  · rename_i paused
    obtain ⟨id, current, leaves, -⟩ := roamed.reachable.choices_of_paused paused
    rw [roamed.edges_from] at leaves
    simpa [paused, current] using leaves
  · rename_i moving
    simp [moving]

/-- The choices in the view of a session are those for the edges that it offers. -/
theorem choices (roamed : Roamed project session) :
    session.view.choices = Story.choicesFrom session.story.graph session.state.store 0
      (session.offered project) := by
  change session.story.choices session.state = _
  unfold offered
  split
  · rename_i paused
    obtain ⟨id, current, -, offered⟩ := roamed.reachable.choices_of_paused paused
    rw [offered, current, roamed.edges_from]
  · rename_i moving
    exact Story.choices_of_not_paused moving

theorem choose_offered (roamed : Roamed project session) {index : Nat} {edge : Edge}
    (found : (session.offered project)[index]? = some edge) :
    session.chooseIndex index = .ok (session.choose edge.target) := by
  rw [chooseIndex, roamed.choices, Story.choices_from_get, found]
  rfl

theorem choose_beyond (roamed : Roamed project session) {index : Nat}
    (missing : (session.offered project)[index]? = none) :
    session.chooseIndex index =
      .error (.choiceOutOfRange index (session.offered project).length) := by
  rw [chooseIndex, roamed.choices, Story.choices_from_get, missing, Story.choices_from_length]
  rfl

end Roamed

theorem attempt_of_error {session : Session} {index : Nat} {error : SessionError}
    (failed : session.chooseIndex index = .error error) :
    session.attempt (.choose index) = (some (.session error), session) := by
  have made : session.make (.choose index) = .error (.session error) := by
    rw [make, Agent.choose, failed]
    rfl
  simp only [attempt, made]

/-- A choice is followed exactly if the run waits and an edge has its index; then the run goes on along
this edge. Any other choice is refused and leaves the session as it is. -/
theorem choices_follow_edges {project : Project} {session : Session}
    (roamed : Roamed project session) :
    (∀ index, (∃ next, session.chooseIndex index = .ok next) ↔
      session.state.status = .paused ∧ index < (project.edgesAt session.state.current).length) ∧
    (∀ index next, session.chooseIndex index = .ok next → ∃ edge,
      (project.edgesAt session.state.current)[index]? = some edge ∧
        next = { session with state := session.story.choose session.state edge.target }) ∧
    (∀ index error, session.chooseIndex index = .error error →
      session.attempt (.choose index) = (some (.session error), session)) ∧
    session.view.choices.map Story.Choice.index = List.range session.view.choices.length ∧
    session.view.choices.map Story.Choice.target = (if session.state.status = .paused then
      (project.edgesAt session.state.current).map Edge.target else []) ∧
    (session.view.isEnd = true ↔ session.state.status ≠ .paused) := by
  have choices := roamed.choices
  refine ⟨?_, ?_, fun index error => attempt_of_error, ?_, ?_, ?_⟩
  · intro index
    rw [← lt_offered_iff]
    cases found : (session.offered project)[index]? with
    | some edge => simp [roamed.choose_offered found, (List.getElem?_eq_some_iff.mp found).1]
    | none => simp [roamed.choose_beyond found, List.getElem?_eq_none_iff.mp found]
  · intro index next chosen
    cases found : (session.offered project)[index]? with
    | some edge =>
        rw [roamed.choose_offered found] at chosen
        exact ⟨edge, (offered_get_iff.mp found).2, (Except.ok.inj chosen).symm⟩
    | none =>
        rw [roamed.choose_beyond found] at chosen
        cases chosen
  · rw [choices, Story.choices_from_indices, Story.choices_from_length]
  · rw [choices, Story.choices_from_targets, offered]
    split <;> rfl
  · rw [Story.View.isEnd, choices, List.isEmpty_iff, ← List.length_eq_zero_iff,
      Story.choices_from_length, List.length_eq_zero_iff, ne_eq, ← roamed.offers_iff, Decidable.not_not]

/-- The hall again, after a way that no choice leads. -/
def strayed : Session :=
  (((fair "hall").choose "ghost").attempt .back).2

theorem choices_after_straying :
    Roamed Story.fairground strayed ∧ (∃ next, strayed.chooseIndex 1 = .ok next) ∧
      (¬∃ next, strayed.chooseIndex 2 = .ok next) ∧
      strayed.view.choices.map Story.Choice.target = ["wheel", "room"] ∧
      ¬strayed.view.isEnd = true := by
  have created : create Story.Options.standard (some "hall") Story.fairground =
      .ok (fair "hall") := rfl
  have roamed : Roamed Story.fairground strayed :=
    ((Roamed.create created).choose "ghost").attempt .back
  have paused : strayed.state.status = .paused := by decide +kernel
  have count : (Story.fairground.edgesAt strayed.state.current).length = 2 := by decide +kernel
  obtain ⟨follows, -, -, -, targets, ends⟩ := choices_follow_edges roamed
  refine ⟨roamed, (follows 1).mpr ⟨paused, by omega⟩, ?_, ?_, fun isEnd => ends.mp isEnd paused⟩
  · intro chosen
    exact absurd ((follows 2).mp chosen).2 (by omega)
  · rw [targets, if_pos paused]
    decide +kernel

end Session

end Narrative
