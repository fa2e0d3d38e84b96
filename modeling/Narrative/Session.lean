import Narrative.Project.Document
import Narrative.Story.View

/-!
# Sessions

A story and a run of it: begun anew or taken up from a saved state. What is asked for by identifier or
index has to exist.
-/

namespace Narrative

set_option autoImplicit false

/-- What stands in messages for what the reader of documents has to say. -/
def readerComplaint : String := "<json error>"

/-- Why a session cannot be had, or cannot go on. -/
inductive SessionError where
  | unreadableProject
  | missingBoard (id : String)
  | missingEntry (id : String)
  | missingSavedNode (id : String)
  | choiceOutOfRange (index available : Nat)
  deriving DecidableEq, Repr

namespace SessionError

def code : SessionError → String
  | .unreadableProject => "API_PROJECT_PARSE"
  | .missingBoard _ => "API_BOARD_NOT_FOUND"
  | .missingEntry _ => "API_ENTRY_NODE_NOT_FOUND"
  | .missingSavedNode _ => "API_STATE_NODE_NOT_FOUND"
  | .choiceOutOfRange _ _ => "API_CHOICE_INDEX"

def message : SessionError → String
  | .unreadableProject => "Failed to parse project JSON: " ++ readerComplaint
  | .missingBoard id => "Board \"" ++ id ++ "\" does not exist in the project."
  | .missingEntry id => "Entry node \"" ++ id ++ "\" does not exist in the project."
  | .missingSavedNode id =>
    "Saved state points at node \"" ++ id ++ "\" which the project no longer has."
  | .choiceOutOfRange index available =>
    "Choice index " ++ Nat.repr index ++ " is out of range; " ++ Nat.repr available ++
      " choice(s) available."

/-- Code and message. -/
def display (error : SessionError) : String :=
  error.code ++ ": " ++ error.message

end SessionError

/-- The project that a text holds. -/
def Project.parse (text : String) : Except SessionError Project :=
  match Project.ofText? text.toList with
  | some project => .ok project
  | none => .error .unreadableProject

/-- A run of a story. -/
structure Session where
  story : Story
  state : Story.State

namespace Session

/-- A story whose chosen board exists. -/
def storyOf (options : Story.Options) (project : Project) : Except SessionError Story :=
  match options.board with
  | none => .ok (Story.ofProject options project)
  | some id =>
    if project.boards.any fun board => board.id == id then .ok (Story.ofProject options project)
    else .error (.missingBoard id)

/-- Begins a session at a node, which has to exist, or where the story begins. -/
def create (options : Story.Options) (entry : Option String) (project : Project) :
    Except SessionError Session := do
  let story ← storyOf options project
  match entry with
  | none => pure ⟨story, story.start none⟩
  | some id =>
    if story.graph.hasNode id then pure ⟨story, story.start (some id)⟩
    else throw (.missingEntry id)

/-- Takes a saved state up; its node has to exist. -/
def resume (options : Story.Options) (state : Story.State) (project : Project) :
    Except SessionError Session := do
  let story ← storyOf options project
  match state.current with
  | none => pure ⟨story, state⟩
  | some id =>
    if story.graph.hasNode id then pure ⟨story, state⟩ else throw (.missingSavedNode id)

def view (session : Session) : Story.View :=
  session.story.view session.state

def canGoBack (session : Session) : Bool :=
  session.story.canGoBack session.state

/-- The session with its run in another state. -/
def move (session : Session) (state : Story.State) : Session :=
  { session with state := state }

def choose (session : Session) (target : String) : Session :=
  session.move (session.story.choose session.state target)

/-- Follows the choice with an index. -/
def chooseIndex (session : Session) (index : Nat) : Except SessionError Session :=
  match session.view.choices[index]? with
  | some choice => .ok (session.choose choice.target)
  | none => .error (.choiceOutOfRange index session.view.choices.length)

def goBack (session : Session) : Session :=
  session.move (session.story.goBack session.state)

def restart (session : Session) : Session :=
  session.move (session.story.restart session.state)

def close (session : Session) : Session :=
  session.move (Story.close session.state)

end Session

end Narrative
