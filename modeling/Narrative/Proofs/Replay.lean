import Narrative.Proofs.Reachable

/-!
# The history as a log of the variables

The history together with the current moment says how the variables came to be what they are: each
moment follows from the one before it by one run of the scripts of its node, or by none. The invariant
is stated for a state that remembers where it is, so that all moments are in one list.
-/

namespace Narrative.Story

set_option autoImplicit false

/-- The variables after a node was entered: its scripts are run once if it has content. -/
def entered (story : Story) (store : Store) (id : String) : Store :=
  match story.graph.node? id with
  | some node => if node.isContent then runScripts story.limits node store else store
  | none => store

/-- The variables at the end of a history, the latest moment first. -/
def lastStore (story : Story) : List Moment → Store
  | [] => story.declared
  | moment :: _ => moment.store

/-- The variables of the moment at a node that follows a history: scripts are not run again for a run that
was just there. -/
def storeAfter (story : Story) (earlier : List Moment) (id : String) : Store :=
  if earlier.head?.map Moment.node = some id then lastStore story earlier
  else entered story (lastStore story earlier) id

/-- Histories in which each moment follows from the ones before it, the latest moment first. -/
inductive Log (story : Story) : List Moment → Prop where
  | nil : Log story []
  | cons {moment : Moment} {earlier : List Moment} (prior : Log story earlier)
      (follows : moment.store = storeAfter story earlier moment.node) :
      Log story (moment :: earlier)

/-- The history is a log that ends with the variables and the last visited node of the state. -/
structure Settled (story : Story) (state : State) : Prop where
  log : Log story state.history
  store : state.store = lastStore story state.history
  visited : state.lastVisited = state.history.head?.map Moment.node

theorem Log.suffix {story : Story} (passed : List Moment) {earlier : List Moment}
    (log : Log story (passed ++ earlier)) : Log story earlier := by
  induction passed with
  | nil => exact log
  | cons moment rest ih =>
      cases log with
      | cons prior _ => exact ih prior

theorem store_after_other {story : Story} {earlier : List Moment} {id : String} {node : Node}
    (found : story.graph.node? id = some node) (other : node.isContent = false) :
    storeAfter story earlier id = lastStore story earlier := by
  simp [storeAfter, entered, found, other]

theorem store_after_content {story : Story} {earlier : List Moment} {id : String} {node : Node}
    (found : story.graph.node? id = some node) (content : node.isContent = true) :
    storeAfter story earlier id =
      if earlier.head?.map Moment.node = some id then lastStore story earlier
      else runScripts story.limits node (lastStore story earlier) := by
  simp [storeAfter, entered, found, content]

/-- A moment that follows from the history may be added to it. -/
theorem Settled.extend {story : Story} {state after : State} (settled : Settled story state)
    (id : String) (history : after.history = ⟨id, after.store⟩ :: state.history)
    (store : after.store = storeAfter story state.history id) (visited : after.lastVisited = some id) :
    Settled story after := by
  refine ⟨?_, ?_, ?_⟩
  · rw [history]
    exact .cons settled.log store
  · rw [history]
    rfl
  · rw [history, visited]
    rfl

/-- Remembering a node twice in a row adds the same moment again. -/
theorem Settled.remember {story : Story} {state : State} (settled : Settled story state)
    (id : String) (current : state.current = some id)
    (visited : state.lastVisited = some id) : Settled story state.remember := by
  have last : state.history.head?.map Moment.node = some id := settled.visited.symm.trans visited
  apply settled.extend id
  · simp [State.remember, current]
  · simp [State.remember, current, storeAfter, last, settled.store]
  · simp [State.remember, current, visited]

theorem Settled.passes {story : Story} {state : State} {node : Node} (settled : Settled story state)
    (found : story.graph.node? node.id = some node) (other : node.isContent = false) :
    Settled story (arrive state node).remember := by
  apply settled.extend node.id
  · simp [State.remember, arrive]
  · simp [State.remember, arrive, store_after_other found other, settled.store]
  · simp [State.remember, arrive]

theorem settled_passage (story : Story) :
    Passage story (fun state _ => Settled story state)
      (fun state => Settled story state.remember) where
  missing settled _ := ⟨settled.log, settled.store, settled.visited⟩
  content {state node} settled found content := by
    apply settled.extend node.id
    · simp [State.remember, rest, arrive]
    · simp [State.remember, rest, arrive, store_after_content found content, settled.store,
        settled.visited]
    · simp [State.remember, rest, arrive]
  stuck settled found other _ := by
    have further := settled.passes found other
    exact ⟨further.log, further.store, further.visited⟩
  passes settled found other _ := settled.passes found other
  bounded {state node _} settled found other _ := by
    have further := settled.passes found other
    have again := further.remember node.id rfl rfl
    exact ⟨again.log, again.store, again.visited⟩

theorem fresh_settled (story : Story) (first : Option String) :
    Settled story (story.freshState first) :=
  ⟨.nil, rfl, rfl⟩

theorem start_settled (story : Story) (entry : Option String) :
    Settled story (story.start entry).remember := by
  rcases start_cases story entry with nowhere | ⟨id, begun⟩
  · rw [nowhere]
    exact fresh_settled story none
  · rw [begun]
    exact (settled_passage story).enter (fresh_settled story (some id))

theorem close_remember (state : State) :
    (close state).remember = { state.remember with status := .closed } := by
  cases current : state.current <;> simp [close, State.remember, current]

theorem history_of_remember (state : State) :
    ∃ passed, state.remember.history = passed ++ state.history := by
  cases current : state.current with
  | none => exact ⟨[], by simp [State.remember, current]⟩
  | some id => exact ⟨[⟨id, state.store⟩], by simp [State.remember, current]⟩

/-- Where a run comes back to, its log ends as it did when the run was there. -/
theorem revisit_settled {story : Story} {state : State} {moment : Moment} {earlier : List Moment}
    (settled : Settled story state.remember)
    (found : lastContent? story.graph state.history = some (moment, earlier)) :
    Settled story (revisit story state moment earlier).remember := by
  obtain ⟨-, passed, split⟩ := last_content_some found
  obtain ⟨top, remembered⟩ := history_of_remember state
  have log : Log story (moment :: earlier) := by
    apply Log.suffix (top ++ passed)
    rw [List.append_assoc, ← split, ← remembered]
    exact settled.log
  exact ⟨log, rfl, rfl⟩

theorem Reachable.settled {story : Story} {state : State} (reached : Reachable story state) :
    Settled story state.remember := by
  induction reached with
  | start entry => exact start_settled story entry
  | @choose state _ target ih =>
      rcases choose_cases story state target with same | entered
      · rw [same]
        exact ih
      · rw [entered]
        exact (settled_passage story).enter ih
  | @goBack state _ ih =>
      rcases go_back_cases story state with same | ⟨moment, earlier, found, back⟩
      · rw [same]
        exact ih
      · rw [back]
        exact revisit_settled ih found
  | restart _ _ => exact start_settled story _
  | @close state _ ih =>
      rw [close_remember]
      exact ⟨ih.log, ih.store, ih.visited⟩

/-- The moments of a run from its beginning on, the current one last. -/
def trace (state : State) : List Moment :=
  match state.current with
  | none => state.history.reverse
  | some id => state.history.reverse ++ [⟨id, state.store⟩]

theorem trace_eq_reverse (state : State) : trace state = state.remember.history.reverse := by
  cases current : state.current <;> simp [trace, State.remember, current]

theorem history_of_trace {state : State} {before later : List Moment}
    (split : trace state = before ++ later) :
    state.remember.history = later.reverse ++ before.reverse := by
  rw [← List.reverse_append, ← split, trace_eq_reverse, List.reverse_reverse]

theorem trace_follows {story : Story} {state : State} (settled : Settled story state.remember)
    {before later : List Moment} {moment : Moment}
    (split : trace state = before ++ moment :: later) :
    moment.store = storeAfter story before.reverse moment.node := by
  have log := settled.log
  rw [history_of_trace split, List.reverse_cons, List.append_assoc, List.singleton_append] at log
  cases Log.suffix _ log with
  | cons _ follows => exact follows

theorem entered_other {story : Story} {store : Store} {id : String}
    (other : story.graph.isContent id = false) : entered story store id = store := by
  cases found : story.graph.node? id with
  | none => simp [entered, found]
  | some node =>
      rw [Graph.is_content_of_found found] at other
      simp [entered, found, other]

theorem entered_content {story : Story} {store : Store} {id : String} {node : Node}
    (found : story.graph.node? id = some node) (content : node.isContent = true) :
    entered story store id = runScripts story.limits node store := by
  simp [entered, found, content]

/-- The moments of a run replay its variables. The first one has the declared variables, changed by the
scripts of its node if that has content. From one moment to the next the scripts of the node that is
entered are run exactly once; nothing changes where that node has no content or the run was already
there. Where there is no current node, the variables are those of the latest moment. -/
theorem history_replays_variables {story : Story} {state : State}
    (reached : Reachable story state) :
    (∀ first later, trace state = first :: later →
      (story.graph.isContent first.node = false → first.store = story.declared) ∧
      (∀ node, story.graph.node? first.node = some node → node.isContent = true →
        first.store = runScripts story.limits node story.declared)) ∧
    (∀ before left right later, trace state = before ++ left :: right :: later →
      (story.graph.isContent right.node = false ∨ right.node = left.node →
        right.store = left.store) ∧
      (∀ node, story.graph.node? right.node = some node → node.isContent = true →
        right.node ≠ left.node → right.store = runScripts story.limits node left.store)) ∧
    (state.current = none →
      state.store = (state.history.head?.map Moment.store).getD story.declared) := by
  have settled := reached.settled
  refine ⟨?_, ?_, ?_⟩
  · intro first later split
    have follows : first.store = entered story story.declared first.node := by
      simpa [storeAfter, lastStore] using
        trace_follows settled (show trace state = [] ++ first :: later from split)
    constructor
    · intro other
      rw [follows, entered_other other]
    · intro node found content
      rw [follows, entered_content found content]
  · intro before left right later split
    have follows : right.store = if left.node = right.node then left.store
        else entered story left.store right.node := by
      simpa [storeAfter, lastStore] using
        trace_follows settled
          (show trace state = (before ++ [left]) ++ right :: later by simp [split])
    constructor
    · rintro (other | same)
      · rw [follows, entered_other other]
        simp
      · rw [follows, if_pos same.symm]
    · intro node found content moved
      rw [follows, if_neg (Ne.symm moved), entered_content found content]
  · intro nowhere
    have history : state.remember.history = state.history := by simp [State.remember, nowhere]
    have store : state.remember.store = state.store := by simp [State.remember, nowhere]
    rw [← store, settled.store, history]
    cases state.history <;> rfl

theorem trace_rest (story : Story) (state : State) (node : Node) :
    trace (rest story state node) =
      state.history.reverse ++ [⟨node.id, (rest story state node).store⟩] := by
  simp [trace, rest, arrive]

theorem replay_on_the_carousel :
    ∃ node, carousel.graph.node? "room" = some node ∧ node.isContent = true ∧
      (carousel.choose (carousel.start (some "hall")) "room").store =
        runScripts carousel.limits node (carousel.start (some "hall")).store := by
  obtain ⟨hall, hallFound, hallContent⟩ := Graph.is_content_iff.mp
    (show carousel.graph.isContent "hall" = true by decide)
  obtain ⟨room, roomFound, roomContent⟩ := Graph.is_content_iff.mp
    (show carousel.graph.isContent "room" = true by decide)
  have begun : carousel.start (some "hall") =
      rest carousel (carousel.freshState (some "hall")) hall := enter_content hallFound hallContent
  have chosen : carousel.choose (carousel.start (some "hall")) "room" =
      rest carousel (carousel.start (some "hall")).remember room := by
    rw [choose_of_running (by decide)]
    exact enter_content roomFound roomContent
  have moments : trace (carousel.choose (carousel.start (some "hall")) "room") =
      [⟨"hall", (carousel.start (some "hall")).store⟩,
        ⟨"room", (carousel.choose (carousel.start (some "hall")) "room").store⟩] := by
    have hallNamed := Graph.node_id hallFound
    have roomNamed := Graph.node_id roomFound
    rw [chosen, trace_rest, begun]
    simp [State.remember, rest, arrive, freshState, hallNamed, roomNamed]
  have reached : Reachable carousel (carousel.choose (carousel.start (some "hall")) "room") :=
    (Reachable.start (some "hall")).choose "room"
  have replay := (history_replays_variables reached).2.1 [] _ _ [] moments
  dsimp only at replay
  exact ⟨room, roomFound, roomContent, replay.2 room roomFound roomContent (by simp)⟩

end Narrative.Story
