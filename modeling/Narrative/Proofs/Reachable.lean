import Narrative.Story.Moves

/-!
# Reachable states

The states that a run can come to, and one rule for what a move through jumps and branches leaves
behind: what holds when a node is entered, and survives every passage, decides where the move ends.
-/

namespace Narrative.Story

set_option autoImplicit false

/-- A run of a story: begun anywhere, then moved on in any way. -/
inductive Reachable (story : Story) : State → Prop where
  | start (entry : Option String) : Reachable story (story.start entry)
  | choose {state : State} (prior : Reachable story state) (target : String) :
      Reachable story (story.choose state target)
  | goBack {state : State} (prior : Reachable story state) : Reachable story (story.goBack state)
  | restart {state : State} (prior : Reachable story state) : Reachable story (story.restart state)
  | close {state : State} (prior : Reachable story state) : Reachable story (close state)

/-- What is known of a state and the identifier that it is about to enter (`onTheWay`), and what is
known where the move ends (`arrived`), one field for each way that entering a node can go. -/
structure Passage (story : Story) (onTheWay : State → String → Prop) (arrived : State → Prop) :
    Prop where
  missing : ∀ {state : State} {id : String}, onTheWay state id → story.graph.node? id = none →
    arrived { state with current := none, status := .missing }
  content : ∀ {state : State} {node : Node}, onTheWay state node.id →
    story.graph.node? node.id = some node → node.isContent = true → arrived (rest story state node)
  stuck : ∀ {state : State} {node : Node}, onTheWay state node.id →
    story.graph.node? node.id = some node → node.isContent = false →
    successor? story.graph node state.store = none →
    arrived { arrive state node with status := .deadEnd }
  passes : ∀ {state : State} {node : Node} {target : String}, onTheWay state node.id →
    story.graph.node? node.id = some node → node.isContent = false →
    successor? story.graph node state.store = some target →
    onTheWay (arrive state node).remember target
  /-- The bound is met right after a passage, never before the first node. -/
  bounded : ∀ {state : State} {node : Node} {target : String}, onTheWay state node.id →
    story.graph.node? node.id = some node → node.isContent = false →
    successor? story.graph node state.store = some target →
    arrived { (arrive state node).remember with status := .cycle }

namespace Passage

variable {story : Story} {onTheWay : State → String → Prop} {arrived : State → Prop}

private theorem one_round (passage : Passage story onTheWay arrived) (rounds : Nat)
    (further : ∀ {state : State} {node : Node} {target : String}, onTheWay state node.id →
      story.graph.node? node.id = some node → node.isContent = false →
      successor? story.graph node state.store = some target →
      arrived (Story.advance story rounds (arrive state node).remember target))
    {state : State} {id : String} (ready : onTheWay state id) :
    arrived (Story.advance story (rounds + 1) state id) := by
  cases found : story.graph.node? id with
  | none => simpa [Story.advance, found] using passage.missing ready found
  | some node =>
      have named := Graph.node_id found
      subst named
      cases content : node.isContent with
      | true => simpa [Story.advance, found, content] using passage.content ready found content
      | false =>
          cases next : successor? story.graph node state.store with
          | none =>
              simpa [Story.advance, found, content, next] using
                passage.stuck ready found content next
          | some target =>
              simpa [Story.advance, found, content, next] using further ready found content next

theorem advance (passage : Passage story onTheWay arrived) (rounds : Nat) {state : State}
    {id : String} (ready : onTheWay state id) :
    arrived (Story.advance story (rounds + 1) state id) := by
  induction rounds generalizing state id with
  | zero => exact one_round passage 0 passage.bounded ready
  | succ rounds ih =>
      apply one_round passage (rounds + 1) _ ready
      intro state node target ready found content next
      exact ih (passage.passes ready found content next)

theorem enter (passage : Passage story onTheWay arrived) {state : State} {id : String}
    (ready : onTheWay state id) : arrived (story.enter state id) :=
  passage.advance story.patience ready

end Passage

/-- Of a story, only its graph and the bounds of its scripts count on the way. -/
theorem advance_congr (story other : Story) (graph : other.graph = story.graph)
    (limits : other.limits = story.limits) (rounds : Nat) (state : State) (id : String) :
    advance other rounds state id = advance story rounds state id := by
  induction rounds generalizing state id with
  | zero => rfl
  | succ rounds ih => simp only [advance, rest, graph, limits, ih]

/-- A run begins by entering a node, unless there is none to begin at. -/
theorem start_cases (story : Story) (entry : Option String) :
    story.start entry = story.freshState none ∨
      ∃ id, story.start entry = story.enter (story.freshState (some id)) id := by
  cases first : entry.or story.entry? with
  | none => exact Or.inl (by simp only [start, first])
  | some id => exact Or.inr ⟨id, by simp only [start, first]⟩

theorem enter_content {story : Story} {state : State} {id : String} {node : Node}
    (found : story.graph.node? id = some node) (content : node.isContent = true) :
    story.enter state id = rest story state node := by
  simp [enter, advance, found, content]

theorem choose_of_running {story : Story} {state : State} (running : state.status ≠ .closed)
    (target : String) : story.choose state target = story.enter state.remember target := by
  simp [choose, running]

theorem choose_cases (story : Story) (state : State) (target : String) :
    story.choose state target = state ∨
      story.choose state target = story.enter state.remember target := by
  by_cases closed : state.status = .closed
  · exact Or.inl (by simp [choose, closed])
  · exact Or.inr (choose_of_running closed target)

theorem last_content_append {graph : Graph} {passed : List Moment}
    (transit : ∀ moment ∈ passed, graph.isContent moment.node = false) (earlier : List Moment) :
    lastContent? graph (passed ++ earlier) = lastContent? graph earlier := by
  induction passed with
  | nil => rfl
  | cons moment rest ih =>
      have skipped := transit moment (by simp)
      have others := ih (by intro other member; exact transit other (by simp [member]))
      simp [lastContent?, skipped, others]

theorem last_content_some {graph : Graph} {history earlier : List Moment} {moment : Moment}
    (found : lastContent? graph history = some (moment, earlier)) :
    graph.isContent moment.node = true ∧ ∃ passed, history = passed ++ moment :: earlier := by
  induction history with
  | nil => simp [lastContent?] at found
  | cons first rest ih =>
      by_cases content : graph.isContent first.node = true
      · have same : first = moment ∧ rest = earlier := by
          simpa [lastContent?, content] using found
        obtain ⟨rfl, rfl⟩ := same
        exact ⟨content, [], rfl⟩
      · obtain ⟨holds, passed, split⟩ := ih (by simpa [lastContent?, content] using found)
        exact ⟨holds, first :: passed, by simp [split]⟩

theorem any_content_iff (graph : Graph) (history : List Moment) :
    (history.any fun moment => graph.isContent moment.node) =
      (lastContent? graph history).isSome := by
  induction history with
  | nil => rfl
  | cons first rest ih =>
      by_cases content : graph.isContent first.node = true
      · simp [lastContent?, content]
      · simp [lastContent?, content, ih]

theorem can_go_back_iff {story : Story} {state : State} :
    story.canGoBack state = true ↔
      state.status ≠ .closed ∧ (lastContent? story.graph state.history).isSome = true := by
  simp [canGoBack, any_content_iff]

/-- The state in which a run returns to a moment. -/
def revisit (story : Story) (state : State) (moment : Moment) (earlier : List Moment) : State :=
  { state with
    current := some moment.node
    lastVisited := some moment.node
    store := moment.store
    history := earlier
    status := restingStatus story.graph moment.node }

theorem go_back_of_content {story : Story} {state : State} {moment : Moment}
    {earlier : List Moment} (running : state.status ≠ .closed)
    (found : lastContent? story.graph state.history = some (moment, earlier)) :
    story.goBack state = revisit story state moment earlier := by
  have able : story.canGoBack state = true := can_go_back_iff.mpr ⟨running, by simp [found]⟩
  simp [goBack, able, found, revisit]

theorem go_back_of_unable {story : Story} {state : State}
    (unable : story.canGoBack state = false) : story.goBack state = state := by
  simp [goBack, unable]

theorem go_back_cases (story : Story) (state : State) :
    story.goBack state = state ∨
      ∃ moment earlier, lastContent? story.graph state.history = some (moment, earlier) ∧
        story.goBack state = revisit story state moment earlier := by
  cases able : story.canGoBack state with
  | false => exact Or.inl (go_back_of_unable able)
  | true =>
      obtain ⟨running, some⟩ := can_go_back_iff.mp able
      obtain ⟨⟨moment, earlier⟩, found⟩ := Option.isSome_iff_exists.mp some
      exact Or.inr ⟨moment, earlier, found, go_back_of_content running found⟩

/-- The variables now and at each moment of the history. -/
def State.stores (state : State) : List Store :=
  state.store :: state.history.map Moment.store

theorem stores_of_remember (state : State) {store : Store} (member : store ∈ state.remember.stores) :
    store ∈ state.stores := by
  cases current : state.current with
  | none => simpa [State.remember, current] using member
  | some id => simpa [State.stores, State.remember, current] using member

private theorem stores_passage {story : Story} {keeps : Store → Prop}
    (scripts : ∀ (node : Node) (store : Store), keeps store →
      keeps (runScripts story.limits node store)) :
    Passage story (fun state _ => ∀ store ∈ state.stores, keeps store)
      (fun state => ∀ store ∈ state.stores, keeps store) where
  missing kept _ := kept
  content {state node} kept _ _ := by
    obtain ⟨now, before⟩ := List.forall_mem_cons.mp kept
    apply List.forall_mem_cons.mpr ⟨_, before⟩
    simp only [rest]
    split
    · exact now
    · exact scripts node state.store now
  stuck kept _ _ _ := kept
  passes {state node _} kept _ _ _ :=
    fun store member => kept store (stores_of_remember (arrive state node) member)
  bounded {state node _} kept _ _ _ :=
    fun store member => kept store (stores_of_remember (arrive state node) member)

/-- What the declared variables have and scripts keep, the variables of a run have at all moments. -/
theorem Reachable.every_store {story : Story} {state : State} (reached : Reachable story state)
    (keeps : Store → Prop) (declared : keeps story.declared)
    (scripts : ∀ (node : Node) (store : Store), keeps store →
      keeps (runScripts story.limits node store)) : ∀ store ∈ state.stores, keeps store := by
  have passage := stores_passage scripts
  have begun : ∀ entry, ∀ store ∈ (story.start entry).stores, keeps store := by
    intro entry
    have fresh : ∀ first, ∀ store ∈ (story.freshState first).stores, keeps store := by
      intro first store member
      rw [List.mem_singleton.mp member]
      exact declared
    rcases start_cases story entry with nowhere | ⟨id, entered⟩
    · rw [nowhere]
      exact fresh none
    · rw [entered]
      exact passage.enter (fresh (some id))
  induction reached with
  | start entry => exact begun entry
  | restart _ _ => exact begun _
  | close _ ih => exact ih
  | @choose state _ target ih =>
      rcases choose_cases story state target with same | entered
      · rw [same]
        exact ih
      · rw [entered]
        exact passage.enter fun store member => ih store (stores_of_remember state member)
  | @goBack state _ ih =>
      rcases go_back_cases story state with same | ⟨moment, earlier, found, back⟩
      · rw [same]
        exact ih
      · rw [back]
        obtain ⟨-, passed, split⟩ := last_content_some found
        intro store member
        apply ih store
        apply List.mem_cons_of_mem
        rw [split, List.map_append]
        exact List.mem_append_right _ member

/-- A hall with ways into a jump that leads to itself and into a room, and a bottomless well. The
modules on what runs do take their instances from here. -/
def fairground : Project :=
  { store := [⟨"s", "score", .number (Number.ofWhole 0)⟩]
    boards :=
      [{ id := "b"
         name := "Fair"
         nodes :=
          [⟨"hall", .content, some "Hall", some "<script>score += 1</script>", [], [], none⟩,
            ⟨"wheel", .jump, none, none, [], [], some "wheel"⟩,
            ⟨"room", .content, some "Room", some "<script>score += 2</script>", [], [], none⟩,
            ⟨"well", .content, some "Well", some "<script>score = 1 / 0</script>\x7b\x7bscore\x7d\x7d", [], [],
              none⟩]
         edges := [⟨"e", "hall", none, "wheel"⟩, ⟨"f", "hall", none, "room"⟩] }]
    activeBoard := none }

/-- The fairground with patience for two passages. -/
def carousel : Story :=
  ofProject { Options.standard with patience := 1 } fairground

end Narrative.Story
