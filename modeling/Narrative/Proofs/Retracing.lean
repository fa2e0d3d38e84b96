import Mathlib.Logic.Function.Iterate
import Narrative.Proofs.Reachable

/-!
# Going back again and again

Going back once takes everything off the history down to the latest moment at content. Main statement:
going back several times in a row comes to the moments at content one by one, from the latest to the
first, and stays at the first one whatever jumps and branches are still below it.
-/

namespace Narrative.Story

set_option autoImplicit false

/-- How many moments of a history are at content. -/
def contentCount (graph : Graph) (history : List Moment) : Nat :=
  history.countP fun moment => graph.isContent moment.node

/-- The moment at content with a place among those of a history, counted from one for the latest, and
what the history was before it. -/
def IsContentMoment (graph : Graph) (history : List Moment) (place : Nat) (moment : Moment)
    (earlier : List Moment) : Prop :=
  ∃ later, history = later ++ moment :: earlier ∧ contentCount graph later + 1 = place ∧
    graph.isContent moment.node = true

section Counts

variable {graph : Graph}

theorem content_count_cons (moment : Moment) (earlier : List Moment) :
    contentCount graph (moment :: earlier) =
      contentCount graph earlier + if graph.isContent moment.node then 1 else 0 :=
  List.countP_cons

theorem content_count_split (later : List Moment) (moment : Moment) (earlier : List Moment) :
    contentCount graph (later ++ moment :: earlier) =
      contentCount graph later + contentCount graph (moment :: earlier) :=
  List.countP_append

theorem exists_content_moment {history : List Moment} {place : Nat} (positive : 1 ≤ place)
    (within : place ≤ contentCount graph history) :
    ∃ moment earlier, IsContentMoment graph history place moment earlier := by
  induction history generalizing place with
  | nil => exact absurd (Nat.le_trans positive within) (Nat.not_succ_le_zero 0)
  | cons first rest ih =>
      rw [content_count_cons] at within
      cases content : graph.isContent first.node with
      | false =>
          obtain ⟨moment, earlier, later, split, count, there⟩ :=
            ih positive (by simpa [content] using within)
          refine ⟨moment, earlier, first :: later, by rw [split, List.cons_append], ?_, there⟩
          rw [content_count_cons, content]
          exact count
      | true =>
          by_cases latest : place = 1
          · exact ⟨first, rest, [], rfl, latest.symm, content⟩
          · have before : place - 1 ≤ contentCount graph rest := by
              rw [content, if_pos rfl] at within
              omega
            obtain ⟨moment, earlier, later, split, count, there⟩ := ih (by omega) before
            refine ⟨moment, earlier, first :: later, by rw [split, List.cons_append], ?_, there⟩
            rw [content_count_cons, content, if_pos rfl]
            omega

end Counts

variable {story : Story} {state : State}

theorem can_go_back_iff_count : story.canGoBack state = true ↔
    state.status ≠ .closed ∧ 0 < contentCount story.graph state.history := by
  simp [canGoBack, contentCount, List.countP_pos_iff]

theorem revisit_running (moment : Moment) (earlier : List Moment) :
    (revisit story state moment earlier).status ≠ .closed := by
  simp only [revisit, restingStatus]
  split <;> simp

/-- Going back does not see the moments at jumps and branches that it takes off. -/
theorem go_back_passes {passed : Moment} {rest : List Moment}
    (able : story.canGoBack state = true) (history : state.history = passed :: rest)
    (transit : story.graph.isContent passed.node = false) :
    story.goBack state = story.goBack { state with history := rest } := by
  obtain ⟨running, content⟩ := can_go_back_iff.mp able
  obtain ⟨⟨moment, earlier⟩, found⟩ := Option.isSome_iff_exists.mp content
  have below : lastContent? story.graph rest = some (moment, earlier) := by
    rw [← found, history]
    simp [lastContent?, transit]
  have shorter : story.goBack { state with history := rest } = revisit story state moment earlier :=
    go_back_of_content running below
  rw [go_back_of_content running found, shorter]

/-- As many steps back as there are moments at content from a moment on lead to this moment. -/
theorem go_back_steps (running : state.status ≠ .closed) {later earlier : List Moment}
    {moment : Moment} (split : state.history = later ++ moment :: earlier)
    (content : story.graph.isContent moment.node = true) :
    story.goBack^[contentCount story.graph later + 1] state =
      revisit story state moment earlier := by
  -- At content a step lands, and the other steps go on from there; the rest is passed without a step.
  induction later generalizing state with
  | nil =>
      have found : lastContent? story.graph state.history = some (moment, earlier) := by
        simp [split, lastContent?, content]
      exact go_back_of_content running found
  | cons latest rest ih =>
      rw [content_count_cons, Function.iterate_succ_apply]
      cases here : story.graph.isContent latest.node with
      | true =>
          have found : lastContent? story.graph state.history =
              some (latest, rest ++ moment :: earlier) := by
            simp [split, lastContent?, here]
          rw [go_back_of_content running found]
          exact ih (revisit_running latest _) rfl
      | false =>
          have further : 0 < contentCount story.graph state.history := by
            rw [split, content_count_split, content_count_cons moment, content, if_pos rfl]
            omega
          have able := can_go_back_iff_count.mpr ⟨running, further⟩
          have shorter : story.goBack^[contentCount story.graph rest + 1]
              { state with history := rest ++ moment :: earlier } = revisit story state moment earlier :=
            ih running rfl
          rw [go_back_passes able split here]
          exact shorter

/-- As many steps back as there are moments at content leave nothing to go back to. -/
theorem go_back_to_first (running : state.status ≠ .closed) :
    story.canGoBack (story.goBack^[contentCount story.graph state.history] state) = false := by
  rw [← Bool.not_eq_true, can_go_back_iff_count]
  rintro ⟨-, further⟩
  cases count : contentCount story.graph state.history with
  | zero =>
      rw [count] at further
      exact absurd further (by simp [count])
  | succ before =>
      obtain ⟨moment, earlier, later, split, place, content⟩ :=
        exists_content_moment (Nat.le_add_left 1 before) (Nat.le_of_eq count.symm)
      rw [count, ← place, go_back_steps running split content] at further
      rw [split, content_count_split, content_count_cons moment, content, if_pos rfl] at count
      have none_left : contentCount story.graph earlier = 0 := by omega
      exact absurd further (by simp [revisit, none_left])

/-- Steps back retrace the history: each one comes to the next earlier moment at content, with the
variables and the history as they were there. There is such a moment for every step up to their number;
behind the first one nothing is left to go back to, and further steps change nothing. -/
theorem going_back_retraces_history (running : state.status ≠ .closed) :
    (∀ place moment earlier, IsContentMoment story.graph state.history place moment earlier →
      story.goBack^[place] state =
        { state with
          current := some moment.node
          lastVisited := some moment.node
          store := moment.store
          history := earlier
          status := if story.graph.edgesFrom moment.node = [] then .deadEnd else .paused }) ∧
    (∀ place, 1 ≤ place → place ≤ contentCount story.graph state.history →
      ∃ moment earlier, IsContentMoment story.graph state.history place moment earlier) ∧
    story.canGoBack (story.goBack^[contentCount story.graph state.history] state) = false ∧
    ∀ further, story.goBack^[further + contentCount story.graph state.history] state =
      story.goBack^[contentCount story.graph state.history] state := by
  have ended : story.canGoBack (story.goBack^[contentCount story.graph state.history] state) = false :=
    go_back_to_first running
  refine ⟨?_, fun place => exists_content_moment, ended, ?_⟩
  · rintro place moment earlier ⟨later, split, rfl, content⟩
    rw [go_back_steps running split content, revisit, restingStatus]
    simp only [List.isEmpty_iff]
  · intro further
    rw [Function.iterate_add_apply]
    exact Function.iterate_fixed (go_back_of_unable ended) further

/-- From the wheel to the room and the hall, and onto the wheel again. -/
def roundTrip : State :=
  carousel.choose (carousel.choose (carousel.choose (carousel.start (some "wheel")) "room") "hall") "wheel"

theorem back_through_the_round_trip :
    roundTrip.status ≠ .closed ∧ contentCount carousel.graph roundTrip.history = 2 ∧
      (∃ moment earlier, IsContentMoment carousel.graph roundTrip.history 2 moment earlier ∧
        earlier.map Moment.node = ["wheel", "wheel", "wheel"] ∧
        carousel.goBack^[2] roundTrip =
          { roundTrip with
            current := some "room"
            lastVisited := some "room"
            store := moment.store
            history := earlier
            status := .deadEnd }) ∧
      carousel.canGoBack (carousel.goBack^[2] roundTrip) = false ∧
      carousel.goBack^[5] roundTrip = carousel.goBack^[2] roundTrip := by
  have running : roundTrip.status ≠ .closed := by decide
  have count : contentCount carousel.graph roundTrip.history = 2 := by decide
  have long : 3 < roundTrip.history.length := by decide
  have split : roundTrip.history =
      roundTrip.history.take 3 ++ roundTrip.history[3] :: roundTrip.history.drop 4 := by
    rw [← List.drop_eq_getElem_cons long, List.take_append_drop]
  have second : IsContentMoment carousel.graph roundTrip.history 2 roundTrip.history[3]
      (roundTrip.history.drop 4) := ⟨_, split, by decide, rfl⟩
  obtain ⟨lands, -, ended, stays⟩ := @going_back_retraces_history carousel roundTrip running
  rw [count] at ended stays
  exact ⟨running, count, ⟨_, _, second, by decide, lands 2 _ _ second⟩, ended, stays 3⟩

end Narrative.Story
