import Narrative.Proofs.Boards
import Narrative.Proofs.GoingBack
import Narrative.Proofs.Replay
import Narrative.Proofs.Sessions

/-!
# Histories as paths

The history of a session and the node where it is make a path through the project: it begins where the
run began, and each node leads to the next one by an edge, as a jump or by the branch that was taken with
the variables of that moment. Two kinds of states end it in another way. Where a run was stopped as a
cycle, the last moment is at the current node itself; where the run came to an identifier without a node,
there is no current node.
-/

namespace Narrative.Story

set_option autoImplicit false

/-- Where a run may go from a moment. -/
inductive Leads (project : Project) (moment : Moment) : String → Prop where
  | choice {node : Node} {edge : Edge}
      (found : (Graph.ofProject project).node? moment.node = some node) (kind : node.kind = .content)
      (drawn : edge ∈ project.boards.flatMap Board.edges) (leaves : edge.source = moment.node) :
      Leads project moment edge.target
  | jump {node : Node} {target : String}
      (found : (Graph.ofProject project).node? moment.node = some node) (kind : node.kind = .jump)
      (aim : node.jumpTarget = some target) : Leads project moment target
  | branch {node : Node} {target : String}
      (found : (Graph.ofProject project).node? moment.node = some node) (kind : node.kind = .branch)
      (taken : branchTarget? (Graph.ofProject project) node moment.store = some target) :
      Leads project moment target

/-- A history, the latest moment first, that leads from a node to an identifier. -/
inductive Journey (project : Project) (entry : String) : List Moment → String → Prop where
  | here (known : (Graph.ofProject project).hasNode entry = true) : Journey project entry [] entry
  | step {moment : Moment} {earlier : List Moment} {id : String}
      (prior : Journey project entry earlier moment.node) (leads : Leads project moment id) :
      Journey project entry (moment :: earlier) id

namespace Journey

variable {project : Project} {entry id : String}

theorem suffix {passed earlier : List Moment} {moment : Moment}
    (path : Journey project entry (passed ++ moment :: earlier) id) :
    Journey project entry earlier moment.node := by
  induction passed generalizing id with
  | nil =>
      cases path with
      | step prior _ => exact prior
  | cons latest rest ih =>
      cases path with
      | step prior _ => exact ih prior

theorem first {history : List Moment} (path : Journey project entry history id) (store : Store) :
    (Moment.mk id store :: history).getLast?.map Moment.node = some entry := by
  induction path generalizing store with
  | here _ => rfl
  | @step moment earlier id prior _ ih =>
      rw [List.getLast?_cons_cons]
      exact ih moment.store

/-- Each moment of a path leads to the next one, and the last moment to its end. -/
theorem consecutive {history : List Moment} (path : Journey project entry history id) {store : Store}
    {after before : List Moment} {left right : Moment}
    (split : Moment.mk id store :: history = after ++ right :: left :: before) :
    Leads project left right.node := by
  have reaching : Journey project entry (left :: before) right.node := by
    cases after with
    | nil =>
        obtain ⟨rfl, rest⟩ := List.cons.inj split
        rw [← rest]
        exact path
    | cons latest others =>
        rw [(List.cons.inj split).2] at path
        exact path.suffix
  cases reaching with
  | step _ leads => exact leads

/-- A path to an identifier without a node has a moment that leads there. -/
theorem last_of_missing {history : List Moment} (path : Journey project entry history id)
    (missing : (Graph.ofProject project).hasNode id = false) :
    ∃ moment earlier, history = moment :: earlier ∧ Journey project entry earlier moment.node ∧
      Leads project moment id := by
  cases path with
  | here known => simp [known] at missing
  | @step moment earlier _ prior leads => exact ⟨moment, earlier, rfl, prior, leads⟩

end Journey

/-- The run was stopped behind a moment at the node where it is. -/
def Stalled (project : Project) (state : State) : Prop :=
  ∃ entry moment earlier, state.entry = some entry ∧ state.current = some moment.node ∧
    state.history = moment :: earlier ∧ Journey project entry earlier moment.node

/-- How the history of a state leads to where the state is. -/
inductive Trail (project : Project) (state : State) : Prop where
  | nowhere (begun : state.entry = none) (current : state.current = none) (history : state.history = [])
  | standing {entry id : String} (begun : state.entry = some entry) (current : state.current = some id)
      (path : Journey project entry state.history id)
  | lost {entry id : String} (begun : state.entry = some entry) (current : state.current = none)
      (path : Journey project entry state.history id)
      (missing : (Graph.ofProject project).hasNode id = false)

theorem leads_of_successor {project : Project} {node : Node} {store : Store} {target : String}
    (found : (Graph.ofProject project).node? node.id = some node)
    (next : successor? (Graph.ofProject project) node store = some target) :
    Leads project ⟨node.id, store⟩ target := by
  cases kind : node.kind with
  | content => simp [successor?, kind] at next
  | decorative => simp [successor?, kind] at next
  | branch => exact .branch found kind (by simpa [successor?, kind] using next)
  | jump =>
      have aim : node.jumpTarget.filter (fun target => target != "") = some target := by
        simpa [successor?, kind] using next
      exact .jump found kind (Option.filter_eq_some_iff.mp aim).1

/-- A state that is entering an identifier to which its history leads. -/
def Heading (project : Project) (state : State) (id : String) : Prop :=
  ∃ entry, state.entry = some entry ∧ Journey project entry state.history id

theorem Heading.passes {project : Project} {state : State} {node : Node} {target : String}
    (heading : Heading project state node.id)
    (found : (Graph.ofProject project).node? node.id = some node)
    (next : successor? (Graph.ofProject project) node state.store = some target) :
    Heading project (arrive state node).remember target := by
  obtain ⟨entry, begun, path⟩ := heading
  exact ⟨entry, begun, .step path (leads_of_successor found next)⟩

/-- Where a move ends, its history leads there, unless the bound on passages was met. -/
def Ended (project : Project) (state : State) : Prop :=
  (state.status = .cycle ∧ Stalled project state) ∨ (state.status ≠ .cycle ∧ Trail project state)

theorem path_passage (options : Options) (project : Project) :
    Passage (ofProject options project) (Heading project) (Ended project) where
  missing {state id} heading absent := by
    obtain ⟨entry, begun, path⟩ := heading
    have missing : (Graph.ofProject project).hasNode id = false :=
      congrArg Option.isSome absent
    exact Or.inr ⟨by simp, .lost begun rfl path missing⟩
  content {state node} heading _ _ := by
    obtain ⟨entry, begun, path⟩ := heading
    exact Or.inr ⟨resting_status_ne_cycle _ node.id, .standing begun rfl path⟩
  stuck {state node} heading _ _ _ := by
    obtain ⟨entry, begun, path⟩ := heading
    exact Or.inr ⟨by simp, .standing begun rfl path⟩
  passes heading found _ next := heading.passes found next
  bounded {state node target} heading _ _ _ := by
    obtain ⟨entry, begun, path⟩ := heading
    exact Or.inl ⟨rfl, entry, ⟨node.id, state.store⟩, state.history, begun, rfl, rfl, path⟩

theorem Trail.cut {project : Project} {state : State} (trail : Trail project state)
    {passed earlier : List Moment} {moment : Moment}
    (split : state.history = passed ++ moment :: earlier) :
    ∃ entry, state.entry = some entry ∧ Journey project entry earlier moment.node := by
  cases trail with
  | nowhere _ _ history => simp [history] at split
  | standing begun _ path =>
      rw [split] at path
      exact ⟨_, begun, path.suffix⟩
  | lost begun _ path _ =>
      rw [split] at path
      exact ⟨_, begun, path.suffix⟩

theorem Stalled.cut {project : Project} {state : State} (stalled : Stalled project state)
    {passed earlier : List Moment} {moment : Moment}
    (split : state.history = passed ++ moment :: earlier) :
    ∃ entry, state.entry = some entry ∧ Journey project entry earlier moment.node := by
  obtain ⟨entry, last, before, begun, -, history, path⟩ := stalled
  rw [history] at split
  cases passed with
  | nil =>
      obtain ⟨rfl, rfl⟩ := List.cons.inj split
      exact ⟨entry, begun, path⟩
  | cons latest rest =>
      rw [(List.cons.inj split).2] at path
      exact ⟨entry, begun, path.suffix⟩

theorem start_of_none {story : Story} {first : String} (begins : story.entry? = some first) :
    story.start none = story.start (some first) := by
  simp [start, begins]

theorem start_at_node {options : Options} {project : Project} {entry : Option String}
    (known : ∀ id, entry = some id → (Graph.ofProject project).hasNode id = true) (id : String)
    (begun : ((ofProject options project).start entry).entry = some id) :
    (Graph.ofProject project).hasNode id = true := by
  cases entry with
  | some given =>
      rw [start_entry] at begun
      exact known id begun
  | none =>
      cases begins : Story.entry? (ofProject options project) with
      | none => simp [start, begins, freshState] at begun
      | some first =>
          rw [start_of_none begins, start_entry] at begun
          rw [← Option.some.inj begun]
          exact Graph.has_node_of_entry begins

theorem start_ended {options : Options} {project : Project} {entry : Option String}
    (known : ∀ id, entry = some id → (Graph.ofProject project).hasNode id = true) :
    Ended project ((ofProject options project).start entry) := by
  rcases start_cases (ofProject options project) entry with nowhere | ⟨id, entered⟩
  · rw [nowhere]
    exact Or.inr ⟨by simp [freshState], .nowhere rfl rfl rfl⟩
  · have begun : ((ofProject options project).start entry).entry = some id := by
      rw [entered]
      exact (enter_extends _ _ id).1.entry
    rw [entered]
    exact (path_passage options project).enter ⟨id, rfl, .here (start_at_node known id begun)⟩

theorem Trail.first {project : Project} {state : State} (trail : Trail project state) :
    (trace state).head?.map Moment.node = state.entry := by
  rw [trace_eq_reverse, List.head?_reverse]
  cases trail with
  | nowhere begun current history => simp [State.remember, current, history, begun]
  | standing begun current path =>
      rw [begun]
      simpa [State.remember, current] using path.first state.store
  | lost begun current path missing =>
      obtain ⟨moment, earlier, history, prior, -⟩ := path.last_of_missing missing
      rw [begun]
      simpa [State.remember, current, history] using prior.first moment.store

theorem Stalled.first {project : Project} {state : State} (stalled : Stalled project state) :
    (trace state).head?.map Moment.node = state.entry := by
  obtain ⟨entry, moment, earlier, begun, current, history, path⟩ := stalled
  have first := path.first moment.store
  rw [trace_eq_reverse, List.head?_reverse, begun, ← first]
  simp [State.remember, current, history]

theorem consecutive_of_trace {state : State} {before later : List Moment} {left right : Moment}
    (split : trace state = before ++ left :: right :: later) :
    state.remember.history = later.reverse ++ right :: left :: before.reverse := by
  rw [history_of_trace split]
  simp

theorem Trail.consecutive {project : Project} {state : State} (trail : Trail project state)
    {before later : List Moment} {left right : Moment}
    (split : trace state = before ++ left :: right :: later) : Leads project left right.node := by
  have history := consecutive_of_trace split
  cases trail with
  | nowhere _ current empty => simp [State.remember, current, empty] at history
  | standing _ current path =>
      apply path.consecutive
      simpa [State.remember, current] using history
  | lost _ current path missing =>
      obtain ⟨moment, earlier, ended, prior, -⟩ := path.last_of_missing missing
      have passed : moment :: earlier = later.reverse ++ right :: left :: before.reverse := by
        simpa [State.remember, current, ended] using history
      exact prior.consecutive passed

theorem Stalled.consecutive {project : Project} {state : State} (stalled : Stalled project state)
    {before later : List Moment} {left right : Moment}
    (split : trace state = before ++ left :: right :: later) :
    Leads project left right.node ∨ (later = [] ∧ right.node = left.node) := by
  obtain ⟨entry, moment, earlier, -, current, history, path⟩ := stalled
  have passed : ⟨moment.node, state.store⟩ :: moment :: earlier =
      later.reverse ++ right :: left :: before.reverse := by
    rw [← consecutive_of_trace split]
    simp [State.remember, current, history]
  cases order : later.reverse with
  | nil =>
      rw [order] at passed
      obtain ⟨rfl, rest⟩ := List.cons.inj passed
      obtain ⟨rfl, -⟩ := List.cons.inj rest
      exact Or.inr ⟨List.reverse_eq_nil_iff.mp order, rfl⟩
  | cons latest others =>
      rw [order] at passed
      exact Or.inl (path.consecutive (List.cons.inj passed).2)

end Narrative.Story

namespace Narrative.Session

open Story

/-- The run was stopped as a cycle, and perhaps closed then. -/
def Halted (project : Project) (session : Session) : Prop :=
  session.state.status = .cycle ∨
    ∃ prior, Reached project prior ∧ prior.state.status = .cycle ∧ session = prior.close

/-- The history leads to where the session is, unless the run was stopped as a cycle. -/
structure Lawful (project : Project) (session : Session) : Prop where
  stalls : session.state.status = .cycle → Stalled project session.state
  leads : Trail project session.state ∨ (Stalled project session.state ∧ Halted project session)

theorem Lawful.of_ended {project : Project} {session : Session}
    (ended : Ended project session.state) : Lawful project session := by
  rcases ended with ⟨cycle, stalled⟩ | ⟨running, trail⟩
  · exact ⟨fun _ => stalled, Or.inr ⟨stalled, Or.inl cycle⟩⟩
  · exact ⟨fun cycle => absurd cycle running, Or.inl trail⟩

theorem Lawful.close {project : Project} {session : Session} (reached : Reached project session)
    (lawful : Lawful project session) : Lawful project session.close := by
  refine ⟨fun cycle => by simp [Session.close, move, Story.close] at cycle, ?_⟩
  rcases lawful.leads with trail | ⟨stalled, halted⟩
  · cases trail with
    | nowhere begun current history => exact Or.inl (.nowhere begun current history)
    | standing begun current path => exact Or.inl (.standing begun current path)
    | lost begun current path missing => exact Or.inl (.lost begun current path missing)
  · refine Or.inr ⟨stalled, Or.inr ?_⟩
    rcases halted with cycle | ⟨prior, before, cycle, same⟩
    · exact ⟨session, reached, cycle, rfl⟩
    · -- Closing a closed run changes nothing.
      refine ⟨prior, before, cycle, ?_⟩
      rw [same]
      rfl

theorem Lawful.goBack {project : Project} {session : Session} (lawful : Lawful project session) :
    Lawful project session.goBack := by
  rcases go_back_cases session.story session.state with same | ⟨moment, earlier, found, back⟩
  · have unmoved : session.goBack = session := by rw [Session.goBack, move, same]
    rw [unmoved]
    exact lawful
  · obtain ⟨-, passed, split⟩ := last_content_some found
    have cut : ∃ entry, session.state.entry = some entry ∧
        Journey project entry earlier moment.node := by
      rcases lawful.leads with trail | ⟨stalled, -⟩
      · exact trail.cut split
      · exact stalled.cut split
    obtain ⟨entry, begun, path⟩ := cut
    apply Lawful.of_ended
    rw [Session.goBack, move, back]
    exact Or.inr ⟨resting_status_ne_cycle _ moment.node, .standing begun rfl path⟩

theorem Lawful.choose {project : Project} {session next : Session} {index : Nat}
    (reached : Reached project session) (lawful : Lawful project session)
    (chosen : session.chooseIndex index = .ok next) : Lawful project next := by
  obtain ⟨choice, offered, rfl⟩ := choice_of_index chosen
  obtain ⟨paused, node, here, edge, leaving, target⟩ := edge_of_choice offered
  obtain ⟨id, current, found⟩ := Option.bind_eq_some_iff.mp here
  have trail : Trail project session.state := by
    rcases lawful.leads with trail | ⟨-, cycle | ⟨prior, -, -, same⟩⟩
    · exact trail
    · simp [paused] at cycle
    · simp [same, Session.close, move, Story.close] at paused
  have kind : node.kind = .content := by
    have fits := reached.reachable.truthful.fits
    rw [paused] at fits
    obtain ⟨other, there, content, -⟩ := fits
    rw [here] at there
    rw [Option.some.inj there]
    exact content
  rw [reached.graph] at found leaving
  obtain ⟨options, story⟩ := reached.story
  apply Lawful.of_ended
  cases trail with
  | nowhere _ nothing _ => simp [current] at nothing
  | lost _ nothing _ _ => simp [current] at nothing
  | @standing entry place begun there path =>
      obtain rfl : id = place := Option.some.inj (current.symm.trans there)
      obtain ⟨drawn, leaves⟩ := Graph.mem_edges_from.mp leaving
      have leads : Leads project ⟨id, session.state.store⟩ choice.target := by
        rw [← target]
        exact .choice found kind drawn (leaves.trans (Graph.node_id found))
      have heading : Heading project session.state.remember choice.target := by
        refine ⟨entry, (remember_entry session.state).trans begun, ?_⟩
        simpa [State.remember, current] using Journey.step path leads
      change Ended project (session.story.choose session.state choice.target)
      rw [choose_of_running (by simp [paused]), story]
      exact (path_passage options project).enter heading

theorem created_known {options : Story.Options} {entry : Option String} {project : Project}
    {session : Session} (created : create options entry project = .ok session) (id : String)
    (given : entry = some id) : (Graph.ofProject project).hasNode id = true := by
  rw [given] at created
  have known := created_entry created
  rwa [story_of_parts (created_parts created).1] at known

theorem Reached.entry_known {project : Project} {session : Session}
    (reached : Reached project session) :
    ∀ id, session.state.entry = some id → (Graph.ofProject project).hasNode id = true := by
  induction reached with
  | @create options entry session created =>
      obtain ⟨told, started⟩ := created_parts created
      rw [started, story_of_parts told]
      exact fun id begun => start_at_node (created_known created) id begun
  | choose prior index chosen ih =>
      obtain ⟨choice, -, rfl⟩ := choice_of_index chosen
      intro id begun
      exact ih id ((choose_entry _ _ choice.target).symm.trans begun)
  | goBack _ ih =>
      intro id begun
      exact ih id ((go_back_entry _ _).symm.trans begun)
  | close _ ih => exact ih
  | @restart session prior ih =>
      obtain ⟨options, story⟩ := prior.story
      change ∀ id, (session.story.start session.state.entry).entry = some id → _
      rw [story]
      exact start_at_node ih

theorem Reached.lawful {project : Project} {session : Session} (reached : Reached project session) :
    Lawful project session := by
  induction reached with
  | @create options entry session created =>
      obtain ⟨told, started⟩ := created_parts created
      apply Lawful.of_ended
      rw [started, story_of_parts told]
      exact start_ended (created_known created)
  | choose prior index chosen ih => exact ih.choose prior chosen
  | goBack _ ih => exact ih.goBack
  | close prior ih => exact ih.close prior
  | @restart session prior _ =>
      obtain ⟨options, story⟩ := prior.story
      apply Lawful.of_ended
      change Ended project (session.story.start session.state.entry)
      rw [story]
      exact start_ended prior.entry_known

/-- The history of a session is a path through its project, from where the run began to where it is. The
last step alone may be none: where the run was stopped as a cycle it stays at its node, and where there is
no current node it leads to an identifier that the project does not have. -/
theorem history_is_a_path {project : Project} {session : Session}
    (reached : Reached project session) :
    (trace session.state).head?.map Moment.node = session.state.entry ∧
    (∀ before left right later, trace session.state = before ++ left :: right :: later →
      Leads project left right.node ∨
        (later = [] ∧ right.node = left.node ∧ Halted project session)) ∧
    (Halted project session → ∃ moment earlier, session.state.history = moment :: earlier ∧
      session.state.current = some moment.node) ∧
    (session.state.current = none → session.state.entry = none ∨
      ∃ moment earlier id, session.state.history = moment :: earlier ∧ Leads project moment id ∧
        (Graph.ofProject project).hasNode id = false) := by
  have lawful := reached.lawful
  refine ⟨?_, ?_, ?_, ?_⟩
  · rcases lawful.leads with trail | ⟨stalled, -⟩
    · exact trail.first
    · exact stalled.first
  · intro before left right later split
    rcases lawful.leads with trail | ⟨stalled, halted⟩
    · exact Or.inl (trail.consecutive split)
    · rcases stalled.consecutive split with leads | ⟨last, same⟩
      · exact Or.inl leads
      · exact Or.inr ⟨last, same, halted⟩
  · intro halted
    have stalled : Stalled project session.state := by
      rcases halted with cycle | ⟨prior, before, cycle, same⟩
      · exact lawful.stalls cycle
      · rw [same]
        exact before.lawful.stalls cycle
    obtain ⟨entry, moment, earlier, -, current, history, -⟩ := stalled
    exact ⟨moment, earlier, history, current⟩
  · intro nothing
    rcases lawful.leads with trail | ⟨⟨_, _, _, -, current, -⟩, -⟩
    · cases trail with
      | nowhere begun _ _ => exact Or.inl begun
      | standing _ current _ => simp [current] at nothing
      | @lost entry id _ _ path missing =>
          obtain ⟨moment, earlier, history, -, leads⟩ := path.last_of_missing missing
          exact Or.inr ⟨moment, earlier, id, history, leads, missing⟩
    · simp [current] at nothing

def onTheWheel : Session :=
  ⟨carousel, carousel.choose (carousel.start (some "hall")) "wheel"⟩

theorem path_onto_the_wheel :
    Reached fairground onTheWheel ∧ Halted fairground onTheWheel ∧
      (trace onTheWheel.state).map Moment.node = ["hall", "wheel", "wheel", "wheel"] ∧
      (∃ hall wheel later, trace onTheWheel.state = hall :: wheel :: later ∧
        Leads fairground hall wheel.node) ∧
      ∃ moment earlier, onTheWheel.state.history = moment :: earlier ∧
        onTheWheel.state.current = some moment.node := by
  have created : create { Options.standard with patience := 1 } (some "hall") fairground =
      .ok ⟨carousel, carousel.start (some "hall")⟩ := rfl
  have chosen : (Session.mk carousel (carousel.start (some "hall"))).chooseIndex 0 =
      .ok onTheWheel := rfl
  have reached : Reached fairground onTheWheel := (Reached.create created).choose 0 chosen
  have halted : Halted fairground onTheWheel := Or.inl (by decide)
  have nodes : (trace onTheWheel.state).map Moment.node = ["hall", "wheel", "wheel", "wheel"] := by
    decide
  obtain ⟨-, leads, stops, -⟩ := history_is_a_path reached
  refine ⟨reached, halted, nodes, ?_, stops halted⟩
  obtain ⟨hall, others, split, -, rest⟩ := List.map_eq_cons_iff.mp nodes
  obtain ⟨wheel, later, next, -, further⟩ := List.map_eq_cons_iff.mp rest
  rw [next] at split
  refine ⟨hall, wheel, later, split, ?_⟩
  rcases leads [] hall wheel later split with legal | ⟨last, -⟩
  · exact legal
  · simp [last] at further

end Narrative.Session
