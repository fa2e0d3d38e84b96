import Narrative.Files.Plan
import Narrative.Session

/-!
# Errors of the player

Why a command of the player cannot be carried out. Each error has a code for programs and a message
for people.
-/

namespace Narrative

set_option autoImplicit false

inductive PlayerError where
  | session (error : SessionError)
  /-- The current folder, where relative paths of projects begin, is not known. -/
  | unknownFolder (fault : Fault)
  | projectMissing (path : String)
  | unreadProject (fault : Fault)
  | saveMissing (path : String)
  | unreadSave (fault : Fault)
  | malformedSave
  | wrongSchema (found : String)
  /-- A saved run has a blank text where the path of its project should be. -/
  | unnamedProject (path : String)
  | otherProject (expected found : String)
  /-- A path without a name cannot be that of a file. -/
  | namelessSave (path : String)
  | unwrittenSave (fault : Fault)
  | noWayBack
  | unreadLine (fault : Fault)
  deriving DecidableEq, Repr

/-- The schema of saved runs. -/
def currentSaveSchema : String := "player-state.v1"

namespace PlayerError

def code : PlayerError → String
  | .session error => error.code
  | .unknownFolder _ => "CLI_PROJECT_PATH"
  | .projectMissing _ => "CLI_PROJECT_NOT_FOUND"
  | .unreadProject _ => "CLI_PROJECT_READ"
  | .saveMissing _ => "CLI_STATE_NOT_FOUND"
  | .unreadSave _ => "CLI_STATE_READ"
  | .malformedSave => "CLI_STATE_INVALID"
  | .wrongSchema _ => "CLI_STATE_SCHEMA"
  | .unnamedProject _ => "CLI_STATE_INVALID"
  | .otherProject _ _ => "PLAY_STATE_PROJECT_MISMATCH"
  | .namelessSave _ => "CLI_STATE_WRITE"
  | .unwrittenSave _ => "CLI_STATE_WRITE"
  | .noWayBack => "CLI_BACK_UNAVAILABLE"
  | .unreadLine _ => "LINE_IO"

def message : PlayerError → String
  | .session error => error.message
  | .unknownFolder fault => fault.message
  | .projectMissing path => "Project file does not exist: " ++ path
  | .unreadProject fault => fault.message
  | .saveMissing path => "State file does not exist: " ++ path
  | .unreadSave fault => fault.message
  | .malformedSave => readerComplaint
  | .wrongSchema found =>
    "Unsupported player state schema \"" ++ found ++ "\"; expected \"" ++ currentSaveSchema ++ "\"."
  | .unnamedProject path => "State file " ++ path ++ " does not name its project."
  | .otherProject expected found =>
    "State belongs to another project. expected=" ++ expected ++ " actual=" ++ found
  | .namelessSave path => "State path " ++ path ++ " does not name a file."
  | .unwrittenSave fault => fault.message
  | .noWayBack => "There is no earlier content node to go back to."
  | .unreadLine fault => fault.message

end PlayerError

/-- A plan that may end with an error. -/
abbrev PlayerPlan (α : Type) : Type := ExceptT PlayerError Plan α

namespace PlayerPlan

/-- Takes a result over. -/
def ofExcept {α : Type} (result : Except PlayerError α) : PlayerPlan α :=
  ExceptT.mk (pure result)

/-- Carries a plan out that may end with a fault. -/
def orFault {α : Type} (cause : Fault → PlayerError) (plan : Plan (Except Fault α)) : PlayerPlan α :=
  ExceptT.mk do
    let answer ← plan
    pure (answer.mapError cause)

/-- What a session says, or its error. -/
def ofSession {α : Type} (result : Except SessionError α) : PlayerPlan α :=
  ofExcept (result.mapError .session)

end PlayerPlan

end Narrative
