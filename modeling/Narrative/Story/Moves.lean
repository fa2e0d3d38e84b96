import Narrative.Condition
import Narrative.Graph
import Narrative.Script.Block
import Narrative.Script.Run
import Narrative.Story.State

/-!
# Moves

How a run begins, goes on, goes back and ends. Going on enters a node and passes through jumps and
branches until it comes to content, to an end, or to the bound on such passages.
-/

namespace Narrative

set_option autoImplicit false

/-- A project made ready to be run. -/
structure Story where
  graph : Graph
  declared : Store
  /-- The board where a run begins; without one it is the first. -/
  board : Option String
  /-- How many jumps and branches a run passes in one move. -/
  patience : Nat
  limits : Script.Limits

namespace Story

/-- What may be chosen when a story is made ready. -/
structure Options where
  board : Option String
  patience : Nat
  limits : Script.Limits

def Options.standard : Options :=
  ⟨none, 10000, Script.Limits.standard⟩

/-- A project made ready; a chosen board goes before the one that the project names. -/
def ofProject (options : Options) (project : Project) : Story :=
  { graph := Graph.ofProject project
    declared := project.store
    board := options.board.or project.activeBoard
    patience := options.patience
    limits := options.limits }

/-- Where a run begins if nothing else is asked for. -/
def entry? (story : Story) : Option String :=
  story.graph.entry? story.board

/-- A run that has not come to any node. -/
def freshState (story : Story) (entry : Option String) : State :=
  { entry := entry
    current := none
    status := .missing
    store := story.declared
    history := []
    lastVisited := none }

/-- The branch that a branch node takes: the first one whose condition holds, or else the first that
is taken when none holds. -/
def chosenBranch? (branches : List Branch) (store : Store) : Option Branch :=
  (branches.find? fun branch =>
    !branch.isFallback && Condition.holds store branch.condition.toList).or
      (branches.find? Branch.isFallback)

/-- Where a branch node goes on: along the first edge of its branch, if that has one. -/
def branchTarget? (graph : Graph) (node : Node) (store : Store) : Option String :=
  (chosenBranch? node.branches store).bind fun branch =>
    (graph.edgeFor? node.id branch.id).map Edge.target

/-- Where a node goes on by itself. -/
def successor? (graph : Graph) (node : Node) (store : Store) : Option String :=
  match node.kind with
  | .content => none
  | .decorative => none
  | .jump => node.jumpTarget.filter fun target => target != ""
  | .branch => branchTarget? graph node store

/-- The code of a node: its fragments one below the other. -/
def codeOf (node : Node) : List Char :=
  match Script.Block.fragments node.contentText.toList with
  | [] => []
  | first :: others => first ++ others.flatMap fun fragment => '\n' :: fragment

/-- The variables after the scripts of a node. -/
def runScripts (limits : Script.Limits) (node : Node) (store : Store) : Store :=
  if (Script.Block.fragments node.contentText.toList).isEmpty then store
  else Script.run limits (codeOf node) store

/-- The status of a run at a content node. -/
def restingStatus (graph : Graph) (id : String) : Status :=
  if (graph.edgesFrom id).isEmpty then .deadEnd else .paused

/-- A state that has come to a node. -/
def arrive (state : State) (node : Node) : State :=
  { state with current := some node.id, lastVisited := some node.id }

/-- A state that rests at a content node. Its scripts are run unless the run was just there. -/
def rest (story : Story) (state : State) (node : Node) : State :=
  let store := if state.lastVisited = some node.id then state.store
    else runScripts story.limits node state.store
  { arrive state node with
    store := store
    status := restingStatus story.graph node.id }

/-- Enters a node and goes on by itself, at most as many nodes as there are rounds. -/
def advance (story : Story) : Nat → State → String → State
  | 0, state, _ => { state with status := .cycle }
  | rounds + 1, state, id =>
    match story.graph.node? id with
    | none => { state with current := none, status := .missing }
    | some node =>
      if node.isContent then rest story state node
      else match successor? story.graph node state.store with
        | none => { arrive state node with status := .deadEnd }
        | some target => advance story rounds (arrive state node).remember target

/-- Enters a node. -/
def enter (story : Story) (state : State) (id : String) : State :=
  advance story (story.patience + 1) state id

/-- Begins a run at a node, or where the story begins. -/
def start (story : Story) (entry : Option String) : State :=
  let first := entry.or story.entry?
  match first with
  | some id => story.enter (story.freshState first) id
  | none => story.freshState first

/-- Goes on to a node. A closed run does not go on. -/
def choose (story : Story) (state : State) (target : String) : State :=
  if state.status = .closed then state else story.enter state.remember target

/-- Begins again where the run began. -/
def restart (story : Story) (state : State) : State :=
  story.start state.entry

/-- Ends a run. -/
def close (state : State) : State :=
  { state with status := .closed }

/-- Whether there is content to go back to. -/
def canGoBack (story : Story) (state : State) : Bool :=
  state.status != .closed && state.history.any fun moment => story.graph.isContent moment.node

/-- The latest moment at a content node, and the history before it. -/
def lastContent? (graph : Graph) : List Moment → Option (Moment × List Moment)
  | [] => none
  | moment :: earlier =>
    if graph.isContent moment.node then some (moment, earlier) else lastContent? graph earlier

/-- Goes back to the last content, with the variables as they were when the run left it. -/
def goBack (story : Story) (state : State) : State :=
  if story.canGoBack state then
    match lastContent? story.graph state.history with
    | none => state
    | some (moment, earlier) =>
      { state with
        current := some moment.node
        lastVisited := some moment.node
        store := moment.store
        history := earlier
        status := restingStatus story.graph moment.node }
  else state

end Story

end Narrative
