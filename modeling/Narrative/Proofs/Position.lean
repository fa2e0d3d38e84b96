import Narrative.Proofs.Reachable
import Narrative.Story.View

/-!
# Status and position

In every state that a run can come to, the status says what is true of the node where the run is. The
status is written in several places, so one invariant is kept for all of them: `Truthful`.
-/

namespace Narrative.Story

set_option autoImplicit false

/-- A node where a run with these variables cannot go on. -/
def IsEnd (graph : Graph) (store : Store) (node : Node) : Prop :=
  match node.kind with
  | .content => graph.edgesFrom node.id = []
  | .decorative => True
  | .jump => node.jumpTarget = none ∨ node.jumpTarget = some ""
  | .branch => branchTarget? graph node store = none

/-- What a status says of a state. -/
def Fits (story : Story) (state : State) : Status → Prop
  | .paused => ∃ node, currentNode? story state = some node ∧ node.kind = .content ∧
      story.graph.edgesFrom node.id ≠ []
  | .deadEnd => ∃ node, currentNode? story state = some node ∧ IsEnd story.graph state.store node
  | .cycle => ∃ node target, currentNode? story state = some node ∧
      (node.kind = .jump ∨ node.kind = .branch) ∧
      successor? story.graph node state.store = some target
  | .missing => state.current = none
  | .closed => True

/-- Every moment of a history is at a node of the graph. -/
def Known (graph : Graph) (history : List Moment) : Prop :=
  ∀ moment ∈ history, graph.hasNode moment.node = true

/-- The status fits the state, and the run stands at a node that exists and that it visited last. -/
structure Truthful (story : Story) (state : State) : Prop where
  known : Known story.graph state.history
  present : ∀ id, state.current = some id →
    story.graph.hasNode id = true ∧ state.lastVisited = some id
  fits : Fits story state state.status

theorem is_content_kind {node : Node} : node.isContent = true ↔ node.kind = .content := by
  simp [Node.isContent]

theorem current_node_of_found {story : Story} {state : State} {id : String} {node : Node}
    (current : state.current = some id) (found : story.graph.node? id = some node) :
    currentNode? story state = some node := by
  simp [currentNode?, current, found]

theorem is_end_of_stuck {graph : Graph} {node : Node} {store : Store}
    (other : node.isContent = false) (stuck : successor? graph node store = none) :
    IsEnd graph store node := by
  cases kind : node.kind with
  | content => simp [Node.isContent, kind] at other
  | decorative => simp [IsEnd, kind]
  | branch => simpa [IsEnd, kind, successor?] using stuck
  | jump =>
      cases target : node.jumpTarget with
      | none => simp [IsEnd, kind, target]
      | some id =>
          have blank : id = "" := by simpa [successor?, kind, target] using stuck
          simp [IsEnd, kind, target, blank]

theorem kind_of_successor {graph : Graph} {node : Node} {store : Store} {target : String}
    (next : successor? graph node store = some target) :
    node.kind = .jump ∨ node.kind = .branch := by
  cases kind : node.kind with
  | content => simp [successor?, kind] at next
  | decorative => simp [successor?, kind] at next
  | jump => exact Or.inl rfl
  | branch => exact Or.inr rfl

theorem known_cons {graph : Graph} {moment : Moment} {history : List Moment}
    (here : graph.hasNode moment.node = true) (known : Known graph history) :
    Known graph (moment :: history) := by
  intro other member
  rcases List.mem_cons.mp member with same | earlier
  · rw [same]
    exact here
  · exact known other earlier

theorem Truthful.known_remember {story : Story} {state : State} (truthful : Truthful story state) :
    Known story.graph state.remember.history := by
  cases current : state.current with
  | none => simpa [State.remember, current] using truthful.known
  | some id =>
      simpa [State.remember, current] using
        known_cons (truthful.present id current).1 truthful.known

theorem resting_status_ne_cycle (graph : Graph) (id : String) : restingStatus graph id ≠ .cycle := by
  unfold restingStatus
  split <;> simp

theorem resting_fits {story : Story} {state : State} {id : String} {node : Node}
    (current : state.current = some id) (found : story.graph.node? id = some node)
    (content : node.isContent = true) : Fits story state (restingStatus story.graph id) := by
  have here := current_node_of_found current found
  have named := Graph.node_id found
  have kind := is_content_kind.mp content
  cases edges : story.graph.edgesFrom id with
  | nil => simp [restingStatus, edges, Fits, here, IsEnd, kind, named]
  | cons edge rest => simp [restingStatus, edges, Fits, here, kind, named]

theorem truthful_passage (story : Story) :
    Passage story (fun state _ => Known story.graph state.history) (Truthful story) where
  missing known _ := ⟨known, by simp, rfl⟩
  content {state node} known found content := by
    refine ⟨known, ?_, ?_⟩
    · intro id current
      obtain rfl : node.id = id := by simpa [rest, arrive] using current
      exact ⟨Graph.has_node_of_found found, rfl⟩
    · exact resting_fits rfl found content
  stuck {state node} known found other stuck := by
    refine ⟨known, ?_, ?_⟩
    · intro id current
      obtain rfl : node.id = id := by simpa [arrive] using current
      exact ⟨Graph.has_node_of_found found, rfl⟩
    · exact ⟨node, current_node_of_found rfl found, is_end_of_stuck other stuck⟩
  passes known found _ _ := known_cons (Graph.has_node_of_found found) known
  bounded {state node target} known found other next := by
    refine ⟨known_cons (Graph.has_node_of_found found) known, ?_, ?_⟩
    · intro id current
      obtain rfl : node.id = id := by simpa [arrive, State.remember] using current
      exact ⟨Graph.has_node_of_found found, rfl⟩
    · exact ⟨node, target, current_node_of_found rfl found, kind_of_successor next, next⟩

theorem start_truthful (story : Story) (entry : Option String) :
    Truthful story (story.start entry) := by
  have fresh : ∀ first, Known story.graph (story.freshState first).history := by
    intro first moment member
    simp [freshState] at member
  rcases start_cases story entry with nowhere | ⟨id, entered⟩
  · rw [nowhere]
    exact ⟨fresh none, by simp [freshState], rfl⟩
  · rw [entered]
    exact (truthful_passage story).enter (fresh (some id))

theorem Truthful.choose {story : Story} {state : State} (truthful : Truthful story state)
    (target : String) : Truthful story (story.choose state target) := by
  rcases choose_cases story state target with same | entered
  · rw [same]
    exact truthful
  · rw [entered]
    exact (truthful_passage story).enter truthful.known_remember

theorem Truthful.goBack {story : Story} {state : State} (truthful : Truthful story state) :
    Truthful story (story.goBack state) := by
  rcases go_back_cases story state with same | ⟨moment, earlier, found, back⟩
  · rw [same]
    exact truthful
  · rw [back]
    obtain ⟨content, passed, split⟩ := last_content_some found
    obtain ⟨node, there, isContent⟩ := Graph.is_content_iff.mp content
    refine ⟨?_, ?_, resting_fits rfl there isContent⟩
    · intro other member
      exact truthful.known other (by simp [split, show other ∈ earlier from member])
    · intro id current
      obtain rfl : moment.node = id := by simpa [revisit] using current
      exact ⟨Graph.has_node_of_found there, rfl⟩

theorem Truthful.close {story : Story} {state : State} (truthful : Truthful story state) :
    Truthful story (Story.close state) :=
  ⟨truthful.known, truthful.present, trivial⟩

theorem Reachable.truthful {story : Story} {state : State} (reached : Reachable story state) :
    Truthful story state := by
  induction reached with
  | start entry => exact start_truthful story entry
  | choose _ target ih => exact ih.choose target
  | goBack _ ih => exact ih.goBack
  | restart _ _ => exact start_truthful story _
  | close _ ih => exact ih.close

/-- Whatever was chosen, taken back, begun again or closed before, the status tells the truth about the
position. -/
theorem status_tells_position {story : Story} {state : State} (reached : Reachable story state) :
    (∀ id, state.current = some id →
      story.graph.hasNode id = true ∧ state.lastVisited = some id) ∧
    (state.status = .missing → state.current = none) ∧
    (state.current = none → state.status = .missing ∨ state.status = .closed) ∧
    (state.status = .paused → ∃ node, currentNode? story state = some node ∧
      node.kind = .content ∧ story.graph.edgesFrom node.id ≠ []) ∧
    (state.status = .deadEnd → ∃ node, currentNode? story state = some node ∧
      IsEnd story.graph state.store node) ∧
    (state.status = .cycle → ∃ node target, currentNode? story state = some node ∧
      (node.kind = .jump ∨ node.kind = .branch) ∧
      successor? story.graph node state.store = some target) ∧
    ∀ moment ∈ state.history, story.graph.hasNode moment.node = true := by
  have truthful := reached.truthful
  have fits : ∀ status, state.status = status → Fits story state status := by
    intro status same
    rw [← same]
    exact truthful.fits
  refine ⟨truthful.present, fits .missing, ?_, fits .paused, fits .deadEnd, fits .cycle,
    truthful.known⟩
  intro nowhere
  -- Every other status names the node where the run is.
  have standing : ∀ node, currentNode? story state ≠ some node := by
    intro node found
    simp [currentNode?, nowhere] at found
  cases status : state.status with
  | missing => exact Or.inl rfl
  | closed => exact Or.inr rfl
  | paused =>
      obtain ⟨node, found, -⟩ := fits .paused status
      exact absurd found (standing node)
  | deadEnd =>
      obtain ⟨node, found, -⟩ := fits .deadEnd status
      exact absurd found (standing node)
  | cycle =>
      obtain ⟨node, target, found, -⟩ := fits .cycle status
      exact absurd found (standing node)

theorem status_on_the_carousel :
    Reachable carousel (carousel.choose (carousel.start (some "hall")) "wheel") ∧
      ∃ node target, currentNode? carousel (carousel.choose (carousel.start (some "hall")) "wheel") =
        some node ∧ (node.kind = .jump ∨ node.kind = .branch) ∧
        successor? carousel.graph node
          (carousel.choose (carousel.start (some "hall")) "wheel").store = some target := by
  have reached : Reachable carousel (carousel.choose (carousel.start (some "hall")) "wheel") :=
    (Reachable.start (some "hall")).choose "wheel"
  exact ⟨reached, (status_tells_position reached).2.2.2.2.2.1 (by decide)⟩

end Narrative.Story
