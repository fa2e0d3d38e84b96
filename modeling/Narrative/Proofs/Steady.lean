import Narrative.Proofs.Beginnings
import Narrative.Proofs.Ways

/-!
# Runs that go on or back

A run that begins where a choice waits can go on or back from then on: it leaves content only along an
edge, so whoever comes back to that content finds the edge again. Of a state only its way counts for this.
-/

namespace Narrative.Story

set_option autoImplicit false

/-- The run began where a choice waits, it waits at content that an edge leaves, and so is all content
that it left. -/
structure Steady (story : Story) (way : Way) : Prop where
  begun : ∃ id, way.entry = some id ∧ (story.start (some id)).status = .paused
  waiting : way.status = .paused → ∃ id, way.current = some id ∧
    story.graph.isContent id = true ∧ story.graph.edgesFrom id ≠ []
  behind : ∀ id ∈ way.nodes, story.graph.isContent id = true → story.graph.edgesFrom id ≠ []

/-- The run waits for a choice, or there is content to go back to. -/
def GoesOn (story : Story) (state : State) : Prop :=
  state.status = .paused ∨ story.canGoBack state = true

theorem resting_paused_iff {graph : Graph} {id : String} :
    restingStatus graph id = .paused ↔ graph.edgesFrom id ≠ [] := by
  cases edges : graph.edgesFrom id <;> simp [restingStatus, edges]

/-- Where entering a node ends with a choice, it ends at content. -/
theorem enter_waiting (story : Story) (state : State) (id : String)
    (waits : (story.enter state id).status = .paused) :
    ∃ here, (story.enter state id).current = some here ∧
      story.graph.isContent here = true ∧ story.graph.edgesFrom here ≠ [] := by
  have passage : Passage story (fun _ _ => True) (fun state => state.status = .paused →
      ∃ here, state.current = some here ∧ story.graph.isContent here = true ∧
        story.graph.edgesFrom here ≠ []) :=
    { missing := by simp
      content := by
        intro state node _ found content waits
        refine ⟨node.id, rfl, ?_, resting_paused_iff.mp waits⟩
        rw [Graph.is_content_of_found found]
        exact content
      stuck := by simp
      passes := fun _ _ _ _ => trivial
      bounded := by simp }
  exact passage.enter trivial waits

/-- Before the first choice a run passes jumps and branches only. -/
theorem start_transit (story : Story) (id : String) :
    ∀ moment ∈ (story.start (some id)).history, story.graph.isContent moment.node = false := by
  obtain ⟨passed, split, transit⟩ := (enter_extends story (story.freshState (some id)) id).1.history
  have all : (story.start (some id)).history = passed ++ [] := split
  rw [all, List.append_nil]
  exact transit

namespace Steady

/-- What is known at the beginning of a run that waits there. -/
theorem start {story : Story} {id : String} (waits : (story.start (some id)).status = .paused) :
    Steady story (story.start (some id)).way := by
  refine ⟨⟨id, start_entry story id, waits⟩, enter_waiting story _ id, ?_⟩
  intro node member content
  obtain ⟨moment, here, rfl⟩ := List.mem_map.mp member
  rw [start_transit story id moment here] at content
  simp at content

theorem restart {story : Story} {state : State} (steady : Steady story state.way) :
    Steady story (story.restart state).way ∧ GoesOn story (story.restart state) := by
  obtain ⟨id, entry, waits⟩ := steady.begun
  have again : story.restart state = story.start (some id) := by
    rw [Story.restart, show state.entry = some id from entry]
  rw [again]
  exact ⟨start waits, Or.inl waits⟩

/-- Behind a choice stands the content where it was made. -/
theorem choose {story : Story} {state : State} (steady : Steady story state.way)
    (waits : state.status = .paused) (target : String) :
    Steady story (story.choose state target).way ∧ GoesOn story (story.choose state target) := by
  obtain ⟨here, current, content, edges⟩ := steady.waiting waits
  have chosen : story.choose state target = story.enter state.remember target :=
    choose_of_running (by simp [waits]) target
  have remembered : state.remember.history = ⟨here, state.store⟩ :: state.history := by
    rw [State.remember, show state.current = some here from current]
  rw [chosen]
  obtain ⟨grown, running⟩ := enter_extends story state.remember target
  obtain ⟨passed, split, transit⟩ := grown.history
  rw [remembered] at split
  constructor
  · refine ⟨?_, enter_waiting story state.remember target, ?_⟩
    · obtain ⟨id, entry, begins⟩ := steady.begun
      exact ⟨id, (grown.entry.trans (remember_entry state)).trans entry, begins⟩
    · intro node member isContent
      obtain ⟨moment, among, rfl⟩ := List.mem_map.mp member
      rw [split] at among
      rcases List.mem_append.mp among with through | before
      · rw [transit moment through] at isContent
        simp at isContent
      · rcases List.mem_cons.mp before with rfl | earlier
        · exact edges
        · exact steady.behind moment.node (List.mem_map_of_mem earlier) isContent
  · apply Or.inr
    simp [canGoBack, running, split, content]

/-- Content that was left along an edge still has that edge. -/
theorem goBack {story : Story} {state : State} (steady : Steady story state.way)
    (able : story.canGoBack state = true) :
    Steady story (story.goBack state).way ∧ GoesOn story (story.goBack state) := by
  obtain ⟨running, some_left⟩ := can_go_back_iff.mp able
  obtain ⟨⟨moment, earlier⟩, last⟩ := Option.isSome_iff_exists.mp some_left
  obtain ⟨content, passed, split⟩ := last_content_some last
  have edges : story.graph.edgesFrom moment.node ≠ [] := by
    apply steady.behind moment.node _ content
    apply List.mem_map_of_mem
    simp [split]
  have waits := resting_paused_iff.mpr edges
  rw [go_back_of_content running last]
  refine ⟨⟨?_, fun _ => ⟨moment.node, rfl, content, edges⟩, ?_⟩, Or.inl waits⟩
  · exact steady.begun
  · intro node member isContent
    obtain ⟨other, among, rfl⟩ := List.mem_map.mp member
    have before : other ∈ state.history := by
      rw [split]
      exact List.mem_append_right passed (List.mem_cons_of_mem moment among)
    exact steady.behind other.node (List.mem_map_of_mem before) isContent

end Steady

/-- Before the first choice there is nothing to go back to, so only a choice keeps a beginning going. -/
theorem waits_at_start {story : Story} {entry : Option String}
    (going : GoesOn story (story.start entry)) :
    ∃ id, story.start entry = story.start (some id) ∧ (story.start (some id)).status = .paused := by
  rcases start_cases story entry with nowhere | ⟨id, entered⟩
  · rw [nowhere] at going
    simp [GoesOn, canGoBack, freshState] at going
  · have same : story.start entry = story.start (some id) := entered
    refine ⟨id, same, ?_⟩
    rw [same] at going
    rcases going with waits | able
    · exact waits
    · simp only [canGoBack, Bool.and_eq_true, List.any_eq_true] at able
      obtain ⟨-, moment, member, content⟩ := able
      rw [start_transit story id moment member] at content
      simp at content

end Narrative.Story
