import Narrative.Player.Agent
import Narrative.Proofs.GoingBack
import Narrative.Proofs.Saving
import Narrative.Proofs.Sessions

/-!
# Runs taken up again

A run whose state is written, read and taken up again on the way, against the run where this is left
out. A player can tell them apart exactly where a number was infinite when the state was written.
-/

namespace Narrative.Session

set_option autoImplicit false

/-- What a player asks of a session. -/
inductive Move where
  | choose (index : Nat)
  | back
  /-- Back, as agents ask for it: refused where nothing is to go back to. -/
  | guardedBack
  | restart
  deriving DecidableEq, Repr

inductive Step where
  | move (move : Move)
  | reload
  deriving DecidableEq, Repr

/-- What is there to be seen after a step. -/
structure Sight where
  error : Option PlayerError
  view : Story.View
  state : Story.State

/-- The session after a move, or why it is refused. -/
def make (session : Session) : Move → Except PlayerError Session
  | .choose index => Agent.choose index session
  | .back => .ok session.goBack
  | .guardedBack => Agent.back session
  | .restart => Agent.restart session

/-- A move that is refused leaves the session as it is. -/
def attempt (session : Session) (move : Move) : Option PlayerError × Session :=
  match session.make move with
  | .ok next => (none, next)
  | .error error => (some error, session)

def sight (session : Session) (error : Option PlayerError) : Sight :=
  ⟨error, session.view, session.state⟩

/-- The sights of a run where nothing is reloaded. -/
def sights : Session → List Step → List Sight
  | _, [] => []
  | session, .move move :: rest =>
    let (error, next) := session.attempt move
    next.sight error :: sights next rest
  | session, .reload :: rest => session.sight none :: sights session rest

/-- The sights of a run with its reloads, if all of these go well. -/
def sightsWith? (reload : Session → Option Session) : Session → List Step → Option (List Sight)
  | _, [] => some []
  | session, .move move :: rest =>
    let (error, next) := session.attempt move
    (sightsWith? reload next rest).map fun others => next.sight error :: others
  | session, .reload :: rest => do
    let next ← reload session
    (sightsWith? reload next rest).map fun others => next.sight none :: others

/-- The states of a run where it is reloaded. -/
def reloadPoints : Session → List Step → List Story.State
  | _, [] => []
  | session, .move move :: rest => reloadPoints (session.attempt move).2 rest
  | session, .reload :: rest => session.state :: reloadPoints session rest

/-- The session that is taken up from the text of a session's state. -/
def reloaded? (options : Story.Options) (project : Project) (session : Session) : Option Session := do
  let state ← Story.State.ofText? session.state.text.toList
  (resume options state project).toOption

/-- The session that an agent's command takes up from the save of a session. -/
def reloadedByAgent? (project : LoadedProject) (path : String) (session : Session) :
    Option Session := do
  let save ← (Save.parse path (Save.ofState project.path session.state).text).toOption
  (resume Story.Options.standard save.state project.project).toOption

def onBoard (session : Session) (board : Option String) : Session :=
  { session with story := { session.story with board := board } }

theorem resume_of_known {options : Story.Options} {project : Project} {story : Story}
    {state : Story.State} (told : storyOf options project = .ok story)
    (known : ∀ id, state.current = some id → story.graph.hasNode id = true) :
    resume options state project = .ok ⟨story, state⟩ := by
  cases current : state.current with
  | none => simp [resume, told, current, bind, Except.bind, pure, Except.pure]
  | some id => simp [resume, told, current, known id current, bind, Except.bind, pure, Except.pure]

theorem attempt_of_chosen {session : Session} {index : Nat} {choice : Story.Choice}
    (chosen : session.view.choices[index]? = some choice) :
    session.attempt (.choose index) = (none, session.choose choice.target) := by
  have followed : session.chooseIndex index = .ok (session.choose choice.target) := by
    simp [chooseIndex, chosen]
  have made : session.make (.choose index) = .ok (session.choose choice.target) := by
    rw [make, Agent.choose, followed]
    rfl
  simp [attempt, made]

theorem attempt_of_refused {session : Session} {index : Nat}
    (refused : session.view.choices[index]? = none) :
    session.attempt (.choose index) =
      (some (.session (.choiceOutOfRange index session.view.choices.length)), session) := by
  have followed : session.chooseIndex index =
      .error (.choiceOutOfRange index session.view.choices.length) := by
    simp [chooseIndex, refused]
  have made : session.make (.choose index) =
      .error (.session (.choiceOutOfRange index session.view.choices.length)) := by
    rw [make, Agent.choose, followed]
    rfl
  simp [attempt, made]

theorem attempt_guarded_back (session : Session) : session.attempt .guardedBack =
    if session.canGoBack then (none, session.goBack) else (some .noWayBack, session) := by
  cases able : session.canGoBack <;> simp [attempt, make, Agent.back, able]

/-- A move changes the state of a session only, and to one that its story comes to. -/
theorem attempt_cases (session : Session) (move : Move) :
    ∃ state, (session.attempt move).2 = session.move state ∧
      (Story.Reachable session.story session.state → Story.Reachable session.story state) := by
  cases move with
  | back => exact ⟨session.story.goBack session.state, rfl, fun reached => reached.goBack⟩
  | guardedBack =>
      rw [attempt_guarded_back]
      split
      · exact ⟨session.story.goBack session.state, rfl, fun reached => reached.goBack⟩
      · exact ⟨session.state, rfl, fun reached => reached⟩
  | restart => exact ⟨session.story.restart session.state, rfl, fun reached => reached.restart⟩
  | choose index =>
      cases chosen : session.view.choices[index]? with
      | none =>
          rw [attempt_of_refused chosen]
          exact ⟨session.state, rfl, fun reached => reached⟩
      | some choice =>
          rw [attempt_of_chosen chosen]
          exact ⟨_, rfl, fun reached => reached.choose choice.target⟩

/-- How sessions of a run with reloads stay like those of the run without them. -/
structure Faithful (reload : Session → Option Session) (alike : Session → Session → Prop) :
    Prop where
  sight : ∀ {session other : Session}, alike session other →
    ∀ error, other.sight error = session.sight error
  attempt : ∀ {session other : Session}, alike session other → ∀ move,
    (other.attempt move).1 = (session.attempt move).1 ∧
      alike (session.attempt move).2 (other.attempt move).2
  reload : ∀ {session other : Session}, alike session other → Lasting session.state.numbers →
    ∃ next, reload other = some next ∧ next.state = session.state.saved ∧
      (session.state.saved = session.state → alike session next)

/-- The first infinite number that a reload meets shows in the state right after it. -/
theorem Faithful.sights_iff {reload : Session → Option Session} {alike : Session → Session → Prop}
    (faithful : Faithful reload alike) (steps : List Step) {session other : Session}
    (both : alike session other)
    (lasting : ∀ state ∈ session.reloadPoints steps, Lasting state.numbers) :
    other.sightsWith? reload steps = some (session.sights steps) ↔
      ∀ state ∈ session.reloadPoints steps, ∀ amount ∈ state.numbers, ¬Number.IsInfinite amount := by
  induction steps generalizing session other with
  | nil => simp [sightsWith?, sights, reloadPoints]
  | cons step rest ih =>
      cases step with
      | move move =>
          obtain ⟨errors, nexts⟩ := faithful.attempt both move
          have later := ih nexts lasting
          simpa [sightsWith?, sights, reloadPoints, errors, faithful.sight nexts] using later
      | reload =>
          obtain ⟨now, after⟩ := List.forall_mem_cons.mp lasting
          obtain ⟨next, taken, state, stays⟩ := faithful.reload both now
          rw [sightsWith?, sights, reloadPoints, List.forall_mem_cons, ← Story.State.saved_eq_iff,
            taken]
          by_cases whole : session.state.saved = session.state
          · have later := ih (stays whole) after
            simpa [whole, faithful.sight (stays whole)] using later
          · -- The reload step itself shows the changed state, whatever comes later.
            constructor
            · intro equal
              obtain ⟨others, -, first⟩ : ∃ others, sightsWith? reload next rest = some others ∧
                  next.sight none :: others = session.sight none :: session.sights rest := by
                simpa using equal
              have states : next.state = session.state :=
                congrArg Sight.state (List.cons.inj first).1
              exact absurd (state.symm.trans states) whole
            · intro finite
              exact absurd finite.1 whole

theorem known_of_reached {session : Session}
    (reached : Story.Reachable session.story session.state) (id : String)
    (current : session.state.saved.current = some id) : session.story.graph.hasNode id = true :=
  (reached.truthful.present id current).1

theorem reloaded_of_lasting {options : Story.Options} {project : Project} {session : Session}
    (told : storyOf options project = .ok session.story)
    (reached : Story.Reachable session.story session.state)
    (lasting : Lasting session.state.numbers) :
    session.reloaded? options project = some (session.move session.state.saved) := by
  have taken := resume_of_known told (known_of_reached reached)
  simp [reloaded?, Story.State.of_text lasting, taken, Except.toOption, move]

theorem reloaded_faithful (options : Story.Options) (project : Project) :
    Faithful (reloaded? options project) fun session other => other = session ∧
      storyOf options project = .ok session.story ∧
      Story.Reachable session.story session.state where
  sight := by
    rintro session other ⟨rfl, -⟩ error
    rfl
  attempt := by
    rintro session other ⟨rfl, told, reached⟩ move
    obtain ⟨state, next, kept⟩ := other.attempt_cases move
    refine ⟨rfl, rfl, ?_⟩
    rw [next]
    exact ⟨told, kept reached⟩
  reload := by
    rintro session other ⟨rfl, told, reached⟩ lasting
    refine ⟨other.move other.state.saved, reloaded_of_lasting told reached lasting, rfl, ?_⟩
    intro whole
    rw [whole]
    exact ⟨rfl, told, reached⟩

theorem advance_on_board (story : Story) (board : Option String) (rounds : Nat)
    (state : Story.State) (id : String) :
    Story.advance { story with board := board } rounds state id =
      Story.advance story rounds state id :=
  Story.advance_congr story { story with board := board } rfl rfl rounds state id

/-- The board counts only where a run begins without a node. -/
theorem start_on_board (story : Story) (board : Option String) (id : String) :
    Story.start { story with board := board } (some id) = story.start (some id) := by
  simp only [Story.start, Option.some_or, Story.enter, advance_on_board]
  rfl

theorem choose_on_board (story : Story) (board : Option String) (state : Story.State)
    (target : String) :
    Story.choose { story with board := board } state target = story.choose state target := by
  simp only [Story.choose, Story.enter, advance_on_board]

theorem sight_on_board (session : Session) (board : Option String) (error : Option PlayerError) :
    (session.onBoard board).sight error = session.sight error := rfl

theorem attempt_on_board {session : Session} {id : String} (begun : session.state.entry = some id)
    (board : Option String) (move : Move) :
    (session.onBoard board).attempt move =
      ((session.attempt move).1, (session.attempt move).2.onBoard board) := by
  cases move with
  | back => rfl
  | guardedBack =>
      have able : (session.onBoard board).canGoBack = session.canGoBack := rfl
      rw [attempt_guarded_back, attempt_guarded_back, able]
      split <;> rfl
  | restart =>
      simp only [attempt, make, Agent.restart, Session.restart, Story.restart, onBoard,
        Session.move, begun, start_on_board]
  | choose index =>
      have view : (session.onBoard board).view = session.view := rfl
      cases chosen : session.view.choices[index]? with
      | none =>
          rw [attempt_of_refused chosen, attempt_of_refused (view ▸ chosen), view]
      | some choice =>
          rw [attempt_of_chosen chosen, attempt_of_chosen (view ▸ chosen)]
          simp only [choose, onBoard, Session.move, choose_on_board]

theorem attempt_entry {session : Session} {id : String} (begun : session.state.entry = some id)
    (move : Move) : (session.attempt move).2.state.entry = some id := by
  have behind : (session.story.goBack session.state).entry = some id := by
    rw [Story.go_back_entry, begun]
  cases move with
  | back => exact behind
  | guardedBack =>
      rw [attempt_guarded_back]
      split
      · exact behind
      · exact begun
  | restart =>
      change (session.story.start session.state.entry).entry = some id
      rw [begun, Story.start_entry]
  | choose index =>
      cases chosen : session.view.choices[index]? with
      | none =>
          rw [attempt_of_refused chosen]
          exact begun
      | some choice =>
          rw [attempt_of_chosen chosen]
          change (session.story.choose session.state choice.target).entry = some id
          rw [Story.choose_entry, begun]

/-- A run that is worth a save has come to a node, so it began at one. -/
theorem begun_of_worth_saving {session : Session} {entry : Option String}
    (started : session.state = session.story.start entry)
    (worth : Agent.isWorthSaving session = true) : ∃ id, session.state.entry = some id := by
  rcases Story.start_cases session.story entry with nowhere | ⟨id, entered⟩
  · simp [Agent.isWorthSaving, canGoBack, Story.canGoBack, started, nowhere, Story.freshState]
      at worth
  · refine ⟨id, ?_⟩
    rw [started, entered]
    exact (Story.enter_extends session.story (session.story.freshState (some id)) id).1.entry

/-- An agent takes a run up with the standard options, so the board may change, and nothing else. -/
theorem reloaded_by_agent_faithful (project : LoadedProject) (path : String)
    (named : (Text.trim project.path.toList).isEmpty = false) :
    Faithful (reloadedByAgent? project path) fun session other =>
      (∃ board, other = session.onBoard board) ∧
      (∃ board, session.story =
        { Story.ofProject Story.Options.standard project.project with board := board }) ∧
      Story.Reachable session.story session.state ∧ ∃ id, session.state.entry = some id where
  sight := by
    rintro session other ⟨⟨board, rfl⟩, -⟩ error
    exact session.sight_on_board board error
  attempt := by
    rintro session other ⟨⟨board, rfl⟩, told, reached, id, begun⟩ move
    obtain ⟨state, next, kept⟩ := session.attempt_cases move
    rw [attempt_on_board begun board move]
    refine ⟨rfl, ⟨board, rfl⟩, ?_, ?_, id, attempt_entry begun move⟩
    · rw [next]
      exact told
    · rw [next]
      exact kept reached
  reload := by
    rintro session other ⟨⟨board, rfl⟩, ⟨own, told⟩, reached, id, begun⟩ lasting
    have standard : storyOf Story.Options.standard project.project =
        .ok (Story.ofProject Story.Options.standard project.project) := rfl
    have known : ∀ node, session.state.saved.current = some node →
        (Story.ofProject Story.Options.standard project.project).graph.hasNode node = true := by
      intro node current
      have here := known_of_reached reached node current
      rw [told] at here
      exact here
    have taken := resume_of_known standard known
    have parsed := Save.parse_text lasting named path
    refine ⟨⟨Story.ofProject Story.Options.standard project.project, session.state.saved⟩,
      ?_, rfl, ?_⟩
    · change (do
        let save ← (Save.parse path (Save.ofState project.path session.state).text).toOption
        (resume Story.Options.standard save.state project.project).toOption) = _
      rw [parsed]
      simp [Save.ofState, Except.toOption, taken]
    · intro whole
      rw [whole]
      refine ⟨⟨(Story.ofProject Story.Options.standard project.project).board, ?_⟩, ⟨own, told⟩,
        reached, id, begun⟩
      rw [onBoard, told]

/-- Reloading shows exactly where a number is infinite when the state is written. The same holds of
the agent's way of reloading in a run whose beginning was saved. -/
theorem reloads_show_infinite_numbers {options : Story.Options} {entry : Option String}
    {project : Project} {session : Session} (created : create options entry project = .ok session)
    (steps : List Step) (lasting : ∀ state ∈ session.reloadPoints steps, Lasting state.numbers) :
    (session.sightsWith? (reloaded? options project) steps = some (session.sights steps) ↔
      ∀ state ∈ session.reloadPoints steps, ∀ amount ∈ state.numbers,
        ¬Number.IsInfinite amount) ∧
    ∀ (board : Option String) (document path : String),
      options = { Story.Options.standard with board := board } →
      (Text.trim document.toList).isEmpty = false → Agent.isWorthSaving session = true →
      (session.sightsWith? (reloadedByAgent? ⟨document, project⟩ path) steps =
          some (session.sights steps) ↔
        ∀ state ∈ session.reloadPoints steps, ∀ amount ∈ state.numbers,
          ¬Number.IsInfinite amount) := by
  obtain ⟨told, started⟩ := created_parts created
  have reached : Story.Reachable session.story session.state := by
    rw [started]
    exact Story.Reachable.start entry
  refine ⟨(reloaded_faithful options project).sights_iff steps ⟨rfl, told, reached⟩ lasting, ?_⟩
  intro board document path chosen named worth
  obtain ⟨id, begun⟩ := begun_of_worth_saving started worth
  have story : session.story =
      { Story.ofProject Story.Options.standard project with
        board := board.or project.activeBoard } := by
    rw [chosen] at told
    exact story_of_parts told
  exact (reloaded_by_agent_faithful ⟨document, project⟩ path named).sights_iff steps
    ⟨⟨session.story.board, rfl⟩, ⟨_, story⟩, reached, id, begun⟩ lasting

def fair (entry : String) : Session :=
  ⟨Story.ofProject Story.Options.standard Story.fairground,
    (Story.ofProject Story.Options.standard Story.fairground).start (some entry)⟩

/-- A visit with a reload before each move and at the end. -/
def visit : List Step :=
  [.reload, .move (.choose 1), .reload, .move .guardedBack, .reload, .move (.choose 7), .reload,
    .move .restart, .reload]

theorem reloads_at_the_fair :
    create Story.Options.standard (some "hall") Story.fairground = .ok (fair "hall") ∧
      (fair "hall").sightsWith? (reloaded? Story.Options.standard Story.fairground) visit =
        some ((fair "hall").sights visit) ∧
      (fair "hall").sightsWith? (reloadedByAgent? ⟨"fair.json", Story.fairground⟩ "save.json")
        visit = some ((fair "hall").sights visit) := by
  have created : create Story.Options.standard (some "hall") Story.fairground =
      .ok (fair "hall") := rfl
  have lasting : ∀ state ∈ (fair "hall").reloadPoints visit, Lasting state.numbers := by
    decide +kernel
  have finite : ∀ state ∈ (fair "hall").reloadPoints visit,
      ∀ amount ∈ state.numbers, ¬Number.IsInfinite amount := by decide +kernel
  have worth : Agent.isWorthSaving (fair "hall") = true := by decide +kernel
  obtain ⟨plain, agents⟩ := reloads_show_infinite_numbers created visit lasting
  exact ⟨created, plain.mpr finite,
    (agents none "fair.json" "save.json" rfl (by decide) worth).mpr finite⟩

theorem infinity_lost_in_the_well :
    create Story.Options.standard (some "well") Story.fairground = .ok (fair "well") ∧
      Lasting (fair "well").state.numbers ∧
      ((fair "well").sights [.reload]).map (fun sight => sight.view.content) = ["Infinity"] ∧
      ((fair "well").sightsWith? (reloaded? Story.Options.standard Story.fairground) [.reload]).map
        (fun sights => sights.map fun sight => sight.view.content) = some ["NaN"] ∧
      (fair "well").sightsWith? (reloaded? Story.Options.standard Story.fairground) [.reload] ≠
        some ((fair "well").sights [.reload]) := by
  have shown : ((fair "well").sights [.reload]).map (fun sight => sight.view.content) =
      ["Infinity"] := by decide +kernel
  have lasting : Lasting (fair "well").state.numbers := by decide +kernel
  have reached : Story.Reachable (fair "well").story (fair "well").state :=
    Story.Reachable.start (some "well")
  have taken := @reloaded_of_lasting Story.Options.standard Story.fairground (fair "well") rfl
    reached lasting
  have reloaded : ((fair "well").sightsWith?
      (reloaded? Story.Options.standard Story.fairground) [.reload]).map
        (fun sights => sights.map fun sight => sight.view.content) = some ["NaN"] := by
    rw [sightsWith?, taken]
    decide +kernel
  refine ⟨rfl, lasting, shown, reloaded, ?_⟩
  intro same
  rw [same, Option.map_some, shown] at reloaded
  simp at reloaded

end Narrative.Session
