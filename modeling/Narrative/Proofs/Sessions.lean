import Narrative.Proofs.Reachable
import Narrative.Session

/-!
# Sessions that players come to

Sessions that were created and then moved on by what players ask for, where only offered choices are
followed. All their states are states that the story comes to.
-/

namespace Narrative.Session

set_option autoImplicit false

theorem created_parts {options : Story.Options} {entry : Option String} {project : Project}
    {session : Session} (created : create options entry project = .ok session) :
    storyOf options project = .ok session.story ∧ session.state = session.story.start entry := by
  unfold create at created
  cases told : storyOf options project with
  | error error =>
      rw [told] at created
      cases created
  | ok story =>
      rw [told] at created
      cases entry with
      | none =>
          cases created
          exact ⟨rfl, rfl⟩
      | some id =>
          change (if story.graph.hasNode id then pure _ else throw _) = _ at created
          split at created
          · cases created
            exact ⟨rfl, rfl⟩
          · cases created

theorem created_entry {options : Story.Options} {id : String} {project : Project}
    {session : Session} (created : create options (some id) project = .ok session) :
    session.story.graph.hasNode id = true := by
  have told := (created_parts created).1
  unfold create at created
  rw [told] at created
  change (if session.story.graph.hasNode id then pure _ else throw _) = _ at created
  split at created
  · assumption
  · cases created

theorem story_of_parts {options : Story.Options} {project : Project} {story : Story}
    (told : storyOf options project = .ok story) : story = Story.ofProject options project := by
  unfold storyOf at told
  split at told
  · exact (Except.ok.inj told).symm
  · split at told
    · exact (Except.ok.inj told).symm
    · simp at told

/-- A session of a project: created with any options and any entry, then moved on. A choice that is
refused leaves the session as it is. -/
inductive Reached (project : Project) : Session → Prop where
  | create {options : Story.Options} {entry : Option String} {session : Session}
      (created : create options entry project = .ok session) : Reached project session
  | choose {session next : Session} (prior : Reached project session) (index : Nat)
      (chosen : session.chooseIndex index = .ok next) : Reached project next
  | goBack {session : Session} (prior : Reached project session) : Reached project session.goBack
  | restart {session : Session} (prior : Reached project session) : Reached project session.restart
  | close {session : Session} (prior : Reached project session) : Reached project session.close

theorem choice_of_index {session next : Session} {index : Nat}
    (chosen : session.chooseIndex index = .ok next) :
    ∃ choice, session.view.choices[index]? = some choice ∧ next = session.choose choice.target := by
  unfold chooseIndex at chosen
  split at chosen
  · rename_i choice offered
    exact ⟨choice, offered, (Except.ok.inj chosen).symm⟩
  · simp at chosen

theorem mem_choices_from {graph : Graph} {store : Store} {first : Nat} {edges : List Edge}
    {choice : Story.Choice} (member : choice ∈ Story.choicesFrom graph store first edges) :
    ∃ edge ∈ edges, edge.target = choice.target := by
  induction edges generalizing first with
  | nil => simp [Story.choicesFrom] at member
  | cons edge rest ih =>
      rcases List.mem_cons.mp member with same | later
      · exact ⟨edge, List.mem_cons_self, by rw [same]⟩
      · obtain ⟨other, there, target⟩ := ih later
        exact ⟨other, List.mem_cons_of_mem edge there, target⟩

/-- A choice is offered where a run waits at a node, for an edge that leaves it. -/
theorem edge_of_choice {session : Session} {index : Nat} {choice : Story.Choice}
    (offered : session.view.choices[index]? = some choice) :
    session.state.status = .paused ∧
      ∃ node, session.story.currentNode? session.state = some node ∧
        ∃ edge ∈ session.story.graph.edgesFrom node.id, edge.target = choice.target := by
  have member : choice ∈ session.story.choices session.state := List.mem_of_getElem? offered
  unfold Story.choices at member
  split at member
  · simp at member
  · rename_i node here
    split at member
    · rename_i paused
      exact ⟨paused, node, here, mem_choices_from member⟩
    · simp at member

theorem Reached.story {project : Project} {session : Session} (reached : Reached project session) :
    ∃ options, session.story = Story.ofProject options project := by
  induction reached with
  | @create options entry session created =>
      exact ⟨options, story_of_parts (created_parts created).1⟩
  | choose _ index chosen ih =>
      obtain ⟨choice, -, rfl⟩ := choice_of_index chosen
      exact ih
  | goBack _ ih => exact ih
  | restart _ ih => exact ih
  | close _ ih => exact ih

theorem Reached.graph {project : Project} {session : Session} (reached : Reached project session) :
    session.story.graph = Graph.ofProject project := by
  obtain ⟨options, story⟩ := reached.story
  rw [story]
  rfl

theorem Reached.reachable {project : Project} {session : Session}
    (reached : Reached project session) : Story.Reachable session.story session.state := by
  induction reached with
  | create created =>
      rw [(created_parts created).2]
      exact Story.Reachable.start _
  | choose _ index chosen ih =>
      obtain ⟨choice, -, rfl⟩ := choice_of_index chosen
      exact ih.choose choice.target
  | goBack _ ih => exact ih.goBack
  | restart _ ih => exact ih.restart
  | close _ ih => exact ih.close

end Narrative.Session
