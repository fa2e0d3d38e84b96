import Narrative.Json.Writer
import Narrative.Player.LoadedProject

/-!
# Saved runs

The state of a run together with the path of its project, kept in a file. A save is first written
beside the file and then put in its place, so that a save that goes wrong does not harm the one before.
-/

namespace Narrative

set_option autoImplicit false

/-- What the file of a saved run says. -/
structure Save where
  schema : String
  project : String
  state : Story.State

namespace Save

def read? (value : Raw) : Option Save := do
  let fields ← Fields.of? ["schemaVersion", "projectPath", "state"] value
  let schema ← fields.required? 0 Raw.text?
  let project ← fields.required? 1 Raw.text?
  let state ← fields.required? 2 (Story.State.read? (Raw.deepest - 1))
  pure ⟨schema, project, state⟩

def toJson (save : Save) : Json :=
  .object [("schemaVersion", .text save.schema), ("projectPath", .text save.project),
    ("state", save.state.toJson)]

/-- The save of a run as it is written now. -/
def ofState (project : String) (state : Story.State) : Save :=
  ⟨currentSaveSchema, project, state⟩

/-- The text of a save. -/
def text (save : Save) : String :=
  save.toJson.indentedText

/-- The save that the text of a file holds. -/
def parse (path text : String) : Except PlayerError Save :=
  match (Json.raw? text.toList).bind read? with
  | none => .error .malformedSave
  | some save =>
    if save.schema ≠ currentSaveSchema then .error (.wrongSchema save.schema)
    else if (Text.trim save.project.toList).isEmpty then .error (.unnamedProject path)
    else .ok save

/-- The save of a file. -/
def readFrom (path : String) : PlayerPlan Save := do
  if ← Plan.isFile (Path.ofText path) then
    let text ← PlayerPlan.orFault .unreadSave (Plan.readText (Path.ofText path))
    PlayerPlan.ofExcept (parse path text)
  else throw (.saveMissing path)

/-- Writes a text beside a file and puts it in its place. -/
def replaceFile (path : Path) (name text : String) : Plan (Except Fault Unit) := do
  match ← Plan.makeFolders path.parent with
  | .error fault => pure (.error fault)
  | .ok () =>
    let staging := path.withName (name ++ ".tmp")
    match ← Plan.write staging text with
    | .error fault => pure (.error fault)
    | .ok () => Plan.move staging path

/-- Writes the save of a run. -/
def writeTo (path project : String) (state : Story.State) : PlayerPlan Unit :=
  match (Path.ofText path).fileName? with
  | none => throw (.namelessSave path)
  | some name =>
    PlayerPlan.orFault .unwrittenSave
      (replaceFile (Path.ofText path) name (ofState project state).text)

/-- The project and the session of a saved run. -/
def load (path : String) : PlayerPlan (LoadedProject × Session) := do
  let save ← readFrom path
  let loaded ← LoadedProject.load save.project
  let session ← loaded.resume save.state
  pure (loaded, session)

/-- The session of a saved run that has to be one of this project. -/
def loadFor (path : String) (loaded : LoadedProject) : PlayerPlan Session := do
  let save ← readFrom path
  if save.project = loaded.path then loaded.resume save.state
  else throw (.otherProject loaded.path save.project)

end Save

end Narrative
