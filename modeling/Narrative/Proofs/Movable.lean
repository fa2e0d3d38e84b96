import Narrative.Proofs.Offers

/-!
# Sessions that can move

Whether a session is worth a save is asked of its status and its history. Main statement: the answer says
exactly whether some choice can be followed or going back leads anywhere else.
-/

namespace Narrative

set_option autoImplicit false

/-- Going back takes at least one moment off the history. -/
theorem Story.go_back_changes_iff {story : Story} {state : Story.State} :
    story.goBack state ≠ state ↔ story.canGoBack state = true := by
  constructor
  · intro changed
    cases able : story.canGoBack state with
    | true => rfl
    | false => exact absurd (go_back_of_unable able) changed
  · intro able same
    obtain ⟨running, content⟩ := can_go_back_iff.mp able
    obtain ⟨⟨moment, earlier⟩, found⟩ := Option.isSome_iff_exists.mp content
    obtain ⟨-, passed, split⟩ := last_content_some found
    have shorter : state.history = earlier := by
      rw [← same, go_back_of_content running found, revisit]
    have lengths := congrArg List.length (shorter.symm.trans split)
    simp only [List.length_append, List.length_cons] at lengths
    omega

namespace Session

theorem Roamed.can_choose_iff {project : Project} {session : Session}
    (roamed : Roamed project session) :
    (∃ index next, session.chooseIndex index = .ok next) ↔ session.state.status = .paused := by
  rw [← roamed.offers_iff]
  constructor
  · rintro ⟨index, next, chosen⟩ nothing
    have missing : (session.offered project)[index]? = none := by rw [nothing, List.getElem?_nil]
    rw [roamed.choose_beyond missing] at chosen
    cases chosen
  · intro something
    obtain ⟨edge, rest, offered⟩ := List.exists_cons_of_ne_nil something
    have first : (session.offered project)[0]? = some edge := by rw [offered, List.getElem?_cons_zero]
    exact ⟨0, session.choose edge.target, roamed.choose_offered first⟩

/-- A session is worth a save exactly if it can still move: some choice can be followed, or going back
changes its state. The view offers a way back exactly if going back changes the state. -/
theorem worth_saving_iff_movable {project : Project} {session : Session}
    (roamed : Roamed project session) :
    (Agent.isWorthSaving session = true ↔
      (∃ index next, session.chooseIndex index = .ok next) ∨
        session.goBack.state ≠ session.state) ∧
    (session.view.canGoBack = true ↔ session.goBack.state ≠ session.state) := by
  have back : session.canGoBack = true ↔ session.goBack.state ≠ session.state :=
    Story.go_back_changes_iff.symm
  refine ⟨?_, back⟩
  rw [roamed.can_choose_iff, ← back, Agent.isWorthSaving, Bool.or_eq_true, beq_iff_eq]

/-- In the room there is nothing to choose, but there is a way back; closed there, a session cannot move. -/
theorem back_from_the_room :
    Roamed Story.fairground ((fair "hall").choose "room") ∧
      (¬∃ index next, ((fair "hall").choose "room").chooseIndex index = .ok next) ∧
      ((fair "hall").choose "room").goBack.state ≠ ((fair "hall").choose "room").state ∧
      ¬((∃ index next, ((fair "hall").choose "room").close.chooseIndex index = .ok next) ∨
        ((fair "hall").choose "room").close.goBack.state ≠
          ((fair "hall").choose "room").close.state) := by
  have created : create Story.Options.standard (some "hall") Story.fairground =
      .ok (fair "hall") := rfl
  have inRoom : Roamed Story.fairground ((fair "hall").choose "room") :=
    (Roamed.create created).choose "room"
  have ended : ((fair "hall").choose "room").state.status ≠ .paused := by decide +kernel
  have able : ((fair "hall").choose "room").view.canGoBack = true := by decide +kernel
  have worthless : ¬Agent.isWorthSaving ((fair "hall").choose "room").close = true := by decide +kernel
  obtain ⟨-, back⟩ := worth_saving_iff_movable inRoom
  obtain ⟨moves, -⟩ := worth_saving_iff_movable inRoom.close
  exact ⟨inRoom, fun chosen => ended (inRoom.can_choose_iff.mp chosen), back.mp able,
    fun closed => worthless (moves.mpr closed)⟩

end Session

end Narrative
