import Narrative.Player.Report
import Narrative.Player.Save

/-!
# Moves of agents

An agent makes one move at a time. Each move takes a run up from a saved state, or begins one, and
saves it again as long as it can go on or back.
-/

namespace Narrative.Agent

set_option autoImplicit false

/-- Whether a run is worth a save: it waits for a choice, or it can go back. -/
def isWorthSaving (session : Session) : Bool :=
  session.state.status == .paused || session.canGoBack

/-- Saves a session and reports it. -/
def finish (session : Session) (project save : String) : PlayerPlan (List String) := do
  if isWorthSaving session then
    Save.writeTo save project session.state
    pure (session.view.report (some save))
  else pure (session.view.report none)

/-- Begins a run. -/
def start (project : String) (board entry : Option String) (save : String) :
    PlayerPlan (List String) := do
  let loaded ← LoadedProject.load project
  let session ← loaded.begin board entry
  finish session loaded.path save

/-- Makes a move in a saved run. -/
def transition (source save : String) (move : Session → Except PlayerError Session) :
    PlayerPlan (List String) := do
  let (loaded, session) ← Save.load source
  let after ← PlayerPlan.ofExcept (move session)
  finish after loaded.path save

/-- Follows a choice. -/
def choose (index : Nat) (session : Session) : Except PlayerError Session :=
  (session.chooseIndex index).mapError .session

/-- Goes back, if there is content to go back to. -/
def back (session : Session) : Except PlayerError Session :=
  if session.canGoBack then .ok session.goBack else .error .noWayBack

def restart (session : Session) : Except PlayerError Session :=
  .ok session.restart

end Narrative.Agent
