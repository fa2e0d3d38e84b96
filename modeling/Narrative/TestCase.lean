import Narrative.Story.View

/-!
# Test cases

What a run of a story is expected to show: the actions that are taken, the stops that are seen at the
start and after each of them, and what the variables hold in the end.
-/

namespace Narrative

set_option autoImplicit false

/-- What is done at a stop. -/
inductive Action where
  | choose (index : Nat)
  | back
  | restart
  deriving DecidableEq, Repr

/-- What is seen where a run stops. -/
inductive Stop where
  /-- Something can be chosen. -/
  | beat (label content : String) (choices : List String)
  | ending (label content : String)
  | missing
  | cycle
  deriving DecidableEq, Repr

structure TestCase where
  schema : String
  entry : Option String
  actions : List Action
  stops : List Stop
  /-- What variables hold in the end, by their names. -/
  values : Keyed Json

/-- What a view shows of a stop. -/
def Stop.ofView (view : Story.View) : Stop :=
  match view.status with
  | .paused => .beat view.label view.content (view.choices.map Story.Choice.label)
  | .deadEnd => .ending view.label view.content
  | .closed => .ending view.label view.content
  | .missing => .missing
  | .cycle => .cycle

end Narrative
