import Narrative.Proofs.Patience
import Narrative.Proofs.Replay

/-!
# Scripts on visits

A choice that ends at content runs the scripts of that node once, unless the run is sent right back to
the node that it came to last. That node is read off where the run is, or off the history where the run is
nowhere.
-/

namespace Narrative.Story

set_option autoImplicit false

/-- A node with content where entering an identifier with these variables ends, after no more passages
than the run has patience for. -/
structure ComesTo (story : Story) (store : Store) (target : String) (node : Node) : Prop where
  found : story.graph.node? node.id = some node
  content : node.isContent = true
  near : ∃ position ≤ story.patience, chain? story.graph store target position = some node.id

/-- The node that a run came to last: where it is, or where it was before it came to a missing node. -/
def lastPlace (state : State) : Option String :=
  state.current.or (state.history.head?.map Moment.node)

theorem remember_visited (state : State) : state.remember.lastVisited = state.lastVisited := by
  unfold State.remember
  split <;> rfl

theorem Reachable.visited {story : Story} {state : State} (reached : Reachable story state) :
    state.lastVisited = lastPlace state := by
  rw [← remember_visited, reached.settled.visited]
  cases current : state.current <;> simp [lastPlace, State.remember, current]

section Passing

variable {story : Story} {node : Node}

theorem not_content_of_successor {store : Store} {target : String}
    (next : successor? story.graph node store = some target) : node.isContent = false := by
  rcases kind_of_successor next with kind | kind <;> simp [Node.isContent, kind]

theorem advance_onward {state : State} {here : Node} {id target : String}
    (found : story.graph.node? id = some here)
    (next : successor? story.graph here state.store = some target) (rounds : Nat) :
    advance story (rounds + 1) state id = advance story rounds (arrive state here).remember target := by
  have other := not_content_of_successor next
  simp [advance, found, other, next]

/-- A run that ends at content rests there in a state that has the same variables and that came to
another node last, if the run was not sent to the content itself. -/
theorem advance_rests (found : story.graph.node? node.id = some node) (content : node.isContent = true)
    {rounds position : Nat} {state : State} {target : String} (enough : position < rounds)
    (ends : chain? story.graph state.store target position = some node.id) :
    ∃ passed, advance story rounds state target = rest story passed node ∧
      passed.store = state.store ∧ (target = node.id → passed = state) ∧
      (target ≠ node.id → passed.lastVisited ≠ some node.id) := by
  induction position generalizing rounds state target with
  | zero =>
      obtain ⟨left, rfl⟩ := Nat.exists_eq_succ_of_ne_zero (Nat.ne_of_gt enough)
      obtain rfl : target = node.id := Option.some.inj ends
      exact ⟨state, by simp [advance, found, content], rfl, fun _ => rfl, fun other => absurd rfl other⟩
  | succ position ih =>
      obtain ⟨left, rfl⟩ := Nat.exists_eq_succ_of_ne_zero (Nat.ne_of_gt (Nat.zero_lt_of_lt enough))
      rw [chain_from_next] at ends
      obtain ⟨next, leads, further⟩ := Option.bind_eq_some_iff.mp ends
      obtain ⟨here, known, successor⟩ := Option.bind_eq_some_iff.mp leads
      have named := Graph.node_id known
      subst named
      -- Content leads nowhere by itself, so the run is not at its end yet.
      have apart : here.id ≠ node.id := by
        intro same
        rw [same, found] at known
        obtain rfl := Option.some.inj known
        simp [not_content_of_successor successor] at content
      have kept : (arrive state here).remember.store = state.store := remember_store (arrive state here)
      rw [← kept] at further
      obtain ⟨passed, rests, store, itself, elsewhere⟩ := ih (Nat.lt_of_succ_lt_succ enough) further
      refine ⟨passed, (advance_onward known successor left).trans rests, store.trans kept,
        fun same => absurd same apart, fun _ => ?_⟩
      by_cases direct : next = node.id
      · rw [itself direct, remember_visited]
        exact fun same => apart (Option.some.inj same)
      · exact elsewhere direct

end Passing

/-- A choice that ends at content runs the scripts of the node exactly once if the run came to another
node last or passes one on its way, and leaves the variables if it is sent to the node that it came to
last. -/
theorem scripts_run_once_a_visit {story : Story} {state : State} (reached : Reachable story state)
    (running : state.status ≠ .closed) {target : String} {node : Node}
    (comes : ComesTo story state.store target node) :
    (story.choose state target).current = some node.id ∧
    (lastPlace state ≠ some node.id ∨ target ≠ node.id →
      (story.choose state target).store = runScripts story.limits node state.store) ∧
    (lastPlace state = some node.id ∧ target = node.id →
      (story.choose state target).store = state.store) := by
  obtain ⟨position, within, ends⟩ := comes.near
  have kept := remember_store state
  rw [← kept] at ends
  obtain ⟨passed, rests, store, itself, elsewhere⟩ :=
    advance_rests comes.found comes.content (Nat.lt_succ_of_le within) ends
  have chosen : story.choose state target = rest story passed node :=
    (choose_of_running running target).trans rests
  rw [kept] at store
  have visited : target = node.id → passed.lastVisited = lastPlace state := by
    intro same
    rw [itself same, remember_visited, reached.visited]
  refine ⟨by rw [chosen]; rfl, ?_, ?_⟩
  · intro moved
    have apart : passed.lastVisited ≠ some node.id := by
      by_cases same : target = node.id
      · rw [visited same]
        exact moved.resolve_right fun other => other same
      · exact elsewhere same
    rw [chosen, rest, if_neg apart, store]
  · rintro ⟨last, same⟩
    rw [chosen, rest, if_pos ((visited same).trans last), store]

/-- The hall of the fairground. -/
def hall : Node :=
  ⟨"hall", .content, some "Hall", some "<script>score += 1</script>", [], [], none⟩

theorem hall_comes (store : Store) : ComesTo carousel store "hall" hall :=
  ⟨rfl, rfl, 0, Nat.zero_le _, rfl⟩

theorem hall_visited_again :
    Reachable carousel (carousel.choose (carousel.start (some "hall")) "room") ∧
      (carousel.choose (carousel.start (some "hall")) "hall").store =
        (carousel.start (some "hall")).store ∧
      (carousel.choose (carousel.choose (carousel.start (some "hall")) "room") "hall").store =
        runScripts carousel.limits hall (carousel.choose (carousel.start (some "hall")) "room").store := by
  have inHall : Reachable carousel (carousel.start (some "hall")) := Reachable.start (some "hall")
  have inRoom := inHall.choose "room"
  obtain ⟨-, -, stays⟩ := scripts_run_once_a_visit inHall (by decide) (hall_comes _)
  obtain ⟨-, runs, -⟩ := scripts_run_once_a_visit inRoom (by decide) (hall_comes _)
  exact ⟨inRoom, stays ⟨by decide, rfl⟩, runs (Or.inl (by decide))⟩

/-- A run that was sent from the hall to a missing node is nowhere; sent to the hall it is back there, and
the scripts of the hall are not run for that. -/
theorem hall_left_for_nowhere :
    let nowhere := carousel.choose (carousel.start (some "hall")) "ghost"
    Reachable carousel nowhere ∧ nowhere.status ≠ .closed ∧ nowhere.current ≠ some hall.id ∧
      ComesTo carousel nowhere.store "hall" hall ∧
      (carousel.choose nowhere "hall").current = some hall.id ∧
      (carousel.choose nowhere "hall").store ≠ runScripts carousel.limits hall nowhere.store := by
  refine ⟨(Reachable.start (some "hall")).choose "ghost", by decide, by decide, hall_comes _, by decide, ?_⟩
  intro same
  have scores := congrArg (fun store : Store => (store.find? "score").map Variable.display) same
  have shown : (Store.find? "score" (carousel.choose
      (carousel.choose (carousel.start (some "hall")) "ghost") "hall").store).map Variable.display =
        some "1" := by decide +kernel
  have expected : (Store.find? "score" (runScripts carousel.limits hall
      (carousel.choose (carousel.start (some "hall")) "ghost").store)).map Variable.display =
        some "2" := by decide +kernel
  exact absurd (shown.symm.trans (scores.trans expected)) (by decide)

end Narrative.Story
