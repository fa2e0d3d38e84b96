import Narrative.Proofs.GoingBack

/-!
# Beginning again

No move changes where a run began, and beginning there again finds the same way in. So a run that begins
again is as it was at first: variables, history, status, and the node that it visited last.
-/

namespace Narrative.Story

set_option autoImplicit false

/-- The states that a run comes to from one of its states, moved on in any way. -/
inductive Onward (story : Story) (origin : State) : State → Prop where
  | here : Onward story origin origin
  | choose {state : State} (prior : Onward story origin state) (target : String) :
      Onward story origin (story.choose state target)
  | goBack {state : State} (prior : Onward story origin state) :
      Onward story origin (story.goBack state)
  | restart {state : State} (prior : Onward story origin state) :
      Onward story origin (story.restart state)
  | close {state : State} (prior : Onward story origin state) : Onward story origin (close state)

/-- Where a run began is a node, or the story has no node to begin at. In both cases it is found again
without asking the board. -/
theorem restart_of_start (story : Story) (entry : Option String) :
    story.restart (story.start entry) = story.start entry := by
  cases first : entry.or story.entry? with
  | none =>
      obtain ⟨unasked, nowhere⟩ := Option.or_eq_none_iff.mp first
      subst unasked
      have begun : story.start none = story.freshState none := by simp [start, nowhere]
      rw [restart, begun]
      exact begun
  | some id =>
      have begun : story.start entry = story.start (some id) := by simp [start, first]
      rw [begun, restart, start_entry]

/-- A run never forgets where it began. -/
theorem Onward.entry {story : Story} {begun : Option String} {state : State}
    (onward : Onward story (story.start begun) state) :
    state.entry = (story.start begun).entry := by
  induction onward with
  | here => rfl
  | choose _ target ih => rw [choose_entry, ih]
  | goBack _ ih => rw [go_back_entry, ih]
  | restart _ ih => rw [Story.restart, ih, ← Story.restart, restart_of_start]
  | close _ ih => exact ih

/-- Whatever was done since, beginning again leads to the state in which the run began. -/
theorem restart_leads_to_start {story : Story} {begun : Option String} {state : State}
    (onward : Onward story (story.start begun) state) :
    story.restart state = story.start begun := by
  rw [restart, onward.entry, ← restart, restart_of_start]

theorem second_ride_on_the_carousel :
    Onward carousel (carousel.start none)
        (close (carousel.choose (carousel.goBack
          (carousel.choose (carousel.start none) "wheel")) "room")) ∧
      carousel.restart (close (carousel.choose (carousel.goBack
          (carousel.choose (carousel.start none) "wheel")) "room")) =
        carousel.start none := by
  have stepped : Onward carousel (carousel.start none) (carousel.start none) := Onward.here
  have ridden := (((stepped.choose "wheel").goBack).choose "room").close
  exact ⟨ridden, restart_leads_to_start ridden⟩

end Narrative.Story
