import Narrative.Placeholder
import Narrative.Story.Moves

/-!
# Views

What a player sees of a state: the text of the current node with the values put in, and the choices
that lead on.
-/

namespace Narrative.Story

set_option autoImplicit false

/-- A choice, by the edge that it follows. -/
structure Choice where
  index : Nat
  label : String
  target : String
  deriving DecidableEq, Repr

structure View where
  status : Status
  node : Option String
  label : String
  content : String
  assets : List String
  choices : List Choice
  store : Store
  canGoBack : Bool

/-- Whether there is nothing to choose. -/
def View.isEnd (view : View) : Bool :=
  view.choices.isEmpty

/-- The node that a state is at. -/
def currentNode? (story : Story) (state : State) : Option Node :=
  state.current.bind story.graph.node?

/-- The content of a node as it is shown: without its scripts, with the values put in. -/
def shownContent (node : Node) (store : Store) : String :=
  if node.isContent then
    String.ofList (Interpolation.shown store (Script.Block.shownContent node.contentText.toList))
  else ""

/-- The label of a choice: that of the node it leads to, or the identifier of a node that does not
exist. -/
def choiceLabel (graph : Graph) (store : Store) (target : String) : String :=
  match graph.node? target with
  | some node => Interpolation.text store node.labelText
  | none => target

/-- Edges as choices, numbered from `first` on. -/
def choicesFrom (graph : Graph) (store : Store) (first : Nat) : List Edge → List Choice
  | [] => []
  | edge :: rest =>
    ⟨first, choiceLabel graph store edge.target, edge.target⟩ :: choicesFrom graph store (first + 1) rest

/-- The choices of a state: the edges of its node while it waits. -/
def choices (story : Story) (state : State) : List Choice :=
  match currentNode? story state with
  | none => []
  | some node =>
    if state.status = .paused then
      choicesFrom story.graph state.store 0 (story.graph.edgesFrom node.id)
    else []

def view (story : Story) (state : State) : View :=
  let node := currentNode? story state
  { status := state.status
    node := node.map Node.id
    label := (node.map fun found => Interpolation.text state.store found.labelText).getD ""
    content := (node.map fun found => shownContent found state.store).getD ""
    assets := (node.map Node.assets).getD []
    choices := choices story state
    store := state.store
    canGoBack := story.canGoBack state }

end Narrative.Story
