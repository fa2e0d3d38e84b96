import Narrative.Proofs.Position

/-!
# Going back after a choice

What a choice adds to the history are jumps and branches only, behind the moment that it left. So going
back right after a choice ends where going back before it would have ended, or where the run stood.
-/

namespace Narrative.Story

set_option autoImplicit false

/-- What a move that entered a node leaves of the state before it: where the run began, and the history
below moments at jumps and branches. -/
structure Extends (graph : Graph) (before after : State) : Prop where
  entry : after.entry = before.entry
  history : ∃ passed, after.history = passed ++ before.history ∧
    ∀ moment ∈ passed, graph.isContent moment.node = false

theorem Extends.refl (graph : Graph) (state : State) : Extends graph state state :=
  ⟨rfl, [], rfl, by simp⟩

theorem Extends.passes {graph : Graph} {before state : State} {node : Node}
    (grown : Extends graph before state) (found : graph.node? node.id = some node)
    (other : node.isContent = false) : Extends graph before (arrive state node).remember := by
  obtain ⟨entry, passed, split, transit⟩ := grown
  refine ⟨entry, ⟨node.id, state.store⟩ :: passed, by simp [State.remember, arrive, split], ?_⟩
  intro moment member
  rcases List.mem_cons.mp member with same | earlier
  · rw [same, Graph.is_content_of_found found]
    exact other
  · exact transit moment earlier

theorem enter_extends (story : Story) (before : State) (id : String) :
    Extends story.graph before (story.enter before id) ∧ (story.enter before id).status ≠ .closed := by
  have passage : Passage story (fun state _ => Extends story.graph before state)
      (fun state => Extends story.graph before state ∧ state.status ≠ .closed) :=
    { missing := fun onTheWay _ => ⟨⟨onTheWay.entry, onTheWay.history⟩, by simp⟩
      content := by
        intro state node onTheWay _ _
        refine ⟨⟨onTheWay.entry, onTheWay.history⟩, ?_⟩
        simp only [rest, restingStatus]
        split <;> simp
      stuck := fun onTheWay _ _ _ => ⟨⟨onTheWay.entry, onTheWay.history⟩, by simp⟩
      passes := fun onTheWay found other _ => onTheWay.passes found other
      bounded := by
        intro state node target onTheWay found other _
        have further := onTheWay.passes found other
        exact ⟨⟨further.entry, further.history⟩, by simp⟩ }
  exact passage.enter (Extends.refl story.graph before)

theorem remember_entry (state : State) : state.remember.entry = state.entry := by
  cases current : state.current <;> simp [State.remember, current]

theorem choose_entry (story : Story) (state : State) (target : String) :
    (story.choose state target).entry = state.entry := by
  rcases choose_cases story state target with same | entered
  · rw [same]
  · rw [entered, (enter_extends story state.remember target).1.entry, remember_entry]

theorem go_back_entry (story : Story) (state : State) :
    (story.goBack state).entry = state.entry := by
  rcases go_back_cases story state with same | ⟨moment, earlier, -, back⟩
  · rw [same]
  · rw [back, Story.revisit]

theorem start_entry (story : Story) (id : String) : (story.start (some id)).entry = some id :=
  (enter_extends story (story.freshState (some id)) id).1.entry

theorem Extends.last_content {graph : Graph} {before after : State}
    (grown : Extends graph before after) :
    lastContent? graph after.history = lastContent? graph before.history := by
  obtain ⟨-, passed, split, transit⟩ := grown
  rw [split]
  exact last_content_append transit before.history

/-- A moment is all that is taken from the history, and of the state itself only where it began. -/
theorem Extends.revisit {story : Story} {before after : State}
    (grown : Extends story.graph before after) (moment : Moment) (earlier : List Moment) :
    revisit story after moment earlier = revisit story before moment earlier := by
  simp [Story.revisit, grown.entry]

/-- At content, a run that is not closed has the status of a run that rests there. -/
theorem Truthful.resting {story : Story} {state : State} (truthful : Truthful story state)
    (running : state.status ≠ .closed) {node : Node} (here : currentNode? story state = some node)
    (kind : node.kind = .content) : state.status = restingStatus story.graph node.id := by
  have fits := truthful.fits
  cases status : state.status with
  | paused =>
      rw [status] at fits
      obtain ⟨other, there, -, edges⟩ := fits
      obtain rfl : node = other := by simpa [here] using there
      simp [restingStatus, edges]
  | deadEnd =>
      rw [status] at fits
      obtain ⟨other, there, ends⟩ := fits
      obtain rfl : node = other := by simpa [here] using there
      have edges : story.graph.edgesFrom node.id = [] := by simpa [IsEnd, kind] using ends
      simp [restingStatus, edges]
  | cycle =>
      rw [status] at fits
      obtain ⟨other, target, there, passing, -⟩ := fits
      obtain rfl : node = other := by simpa [here] using there
      simp [kind] at passing
  | missing =>
      rw [status] at fits
      have nowhere : state.current = none := fits
      simp [currentNode?, nowhere] at here
  | closed => exact absurd status running

/-- A run that rests at content is what coming back to that content makes of it. -/
theorem Truthful.revisit_here {story : Story} {state : State} (truthful : Truthful story state)
    (running : state.status ≠ .closed) {id : String} (current : state.current = some id)
    (content : story.graph.isContent id = true) :
    revisit story state ⟨id, state.store⟩ state.history = state := by
  have visited := (truthful.present id current).2
  obtain ⟨node, found, isContent⟩ := Graph.is_content_iff.mp content
  have resting := truthful.resting running (current_node_of_found current found)
    (is_content_kind.mp isContent)
  rw [Graph.node_id found] at resting
  cases state
  simp_all [Story.revisit]

theorem last_content_remember {graph : Graph} {state : State}
    (transit : ∀ id, state.current = some id → graph.isContent id = false) :
    lastContent? graph state.remember.history = lastContent? graph state.history := by
  cases current : state.current with
  | none => simp [State.remember, current]
  | some id => simp [State.remember, current, lastContent?, transit id current]

theorem revisit_remember (story : Story) (state : State) (moment : Moment)
    (earlier : List Moment) :
    revisit story state.remember moment earlier = revisit story state moment earlier := by
  cases current : state.current <;> simp [revisit, State.remember, current]

/-- Going back undoes a choice: at content it restores the state in every part; elsewhere it does what it
would have done before the choice, and if that is nothing, it leaves the choice as it is. -/
theorem go_back_undoes_choice {story : Story} {state : State} (reached : Reachable story state)
    (running : state.status ≠ .closed) (target : String) :
    (∀ id, state.current = some id → story.graph.isContent id = true →
      story.goBack (story.choose state target) = state) ∧
    ((∀ id, state.current = some id → story.graph.isContent id = false) →
      (story.canGoBack state = true →
        story.goBack (story.choose state target) = story.goBack state) ∧
      (story.canGoBack state = false →
        story.goBack (story.choose state target) = story.choose state target)) := by
  obtain ⟨grown, unclosed⟩ := enter_extends story state.remember target
  rw [choose_of_running running target]
  have found := grown.last_content
  constructor
  · intro id current content
    have top : lastContent? story.graph state.remember.history =
        some (⟨id, state.store⟩, state.history) := by
      simp [State.remember, current, lastContent?, content]
    rw [go_back_of_content unclosed (found.trans top), grown.revisit, revisit_remember]
    exact reached.truthful.revisit_here running current content
  · intro transit
    rw [last_content_remember transit] at found
    constructor
    · intro able
      obtain ⟨-, some⟩ := can_go_back_iff.mp able
      obtain ⟨⟨moment, earlier⟩, last⟩ := Option.isSome_iff_exists.mp some
      rw [go_back_of_content unclosed (found.trans last), go_back_of_content running last,
        grown.revisit, revisit_remember]
    · intro unable
      have none : lastContent? story.graph state.history = none := by
        cases last : lastContent? story.graph state.history with
        | none => rfl
        | some pair =>
            have able : story.canGoBack state = true :=
              can_go_back_iff.mpr ⟨running, by simp [last]⟩
            simp [able] at unable
      apply go_back_of_unable
      cases able : story.canGoBack (story.enter state.remember target) with
      | false => rfl
      | true =>
          obtain ⟨-, some⟩ := can_go_back_iff.mp able
          simp [found.trans none] at some

theorem going_back_on_the_carousel :
    carousel.goBack (carousel.choose (carousel.start (some "hall")) "wheel") =
        carousel.start (some "hall") ∧
      carousel.goBack
          (carousel.choose (carousel.choose (carousel.start (some "hall")) "wheel") "room") =
        carousel.goBack (carousel.choose (carousel.start (some "hall")) "wheel") := by
  have inHall : Reachable carousel (carousel.start (some "hall")) := Reachable.start (some "hall")
  have onWheel := inHall.choose "wheel"
  have wheel : (carousel.choose (carousel.start (some "hall")) "wheel").current =
      some "wheel" := by decide
  constructor
  · exact (go_back_undoes_choice inHall (by decide) "wheel").1 "hall" (by decide) (by decide)
  · apply ((go_back_undoes_choice onWheel (by decide) "room").2 _).1 (by decide)
    intro id current
    obtain rfl : "wheel" = id := by simpa [wheel] using current
    decide

end Narrative.Story
