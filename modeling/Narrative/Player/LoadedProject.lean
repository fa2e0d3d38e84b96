import Narrative.Player.Error

/-!
# Projects from files

A project is asked for by a path, of its document or of the folder where that stands, and keeps the
path of the document.
-/

namespace Narrative

set_option autoImplicit false

/-- A project with the path of its document. -/
structure LoadedProject where
  path : String
  project : Project

namespace LoadedProject

/-- The path of a document that has to be there. -/
def present (file : String) : PlayerPlan String := do
  if ← Plan.isFile (Path.ofText file) then pure file else throw (.projectMissing file)

/-- The path of a project's document, asked for from a folder on: a file, or a folder where the document
has its usual name. -/
def locateFrom (folder text : String) : PlayerPlan String := do
  let path := Path.joined folder text
  present (if ← Plan.isFolder (Path.ofText path) then Path.joined path "project.json" else path)

/-- The path of a project's document, asked for from the current folder on. -/
def locate (text : String) : PlayerPlan String := do
  let folder ← if Path.isAbsolute text then pure "" else
    PlayerPlan.orFault .unknownFolder Plan.currentFolder
  locateFrom folder text

/-- The project of a file or a folder. -/
def load (text : String) : PlayerPlan LoadedProject := do
  let path ← locate text
  let document ← PlayerPlan.orFault .unreadProject (Plan.readText (Path.ofText path))
  let project ← PlayerPlan.ofSession (Project.parse document)
  pure ⟨path, project⟩

/-- Begins a session. -/
def begin (loaded : LoadedProject) (board entry : Option String) : PlayerPlan Session :=
  PlayerPlan.ofSession
    (Session.create { Story.Options.standard with board := board } entry loaded.project)

/-- Takes a saved state up. -/
def resume (loaded : LoadedProject) (state : Story.State) : PlayerPlan Session :=
  PlayerPlan.ofSession (Session.resume Story.Options.standard state loaded.project)

end LoadedProject

end Narrative
