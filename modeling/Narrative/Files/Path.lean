import Narrative.Text.Blank

/-!
# Paths

Where a file or a folder stands, as steps from the root or from the current folder.
-/

namespace Narrative

set_option autoImplicit false

/-- What follows the last name of a path. Behind a slash or a dot only a folder can be meant. -/
inductive PathEnding where
  | name
  | slash
  | dot
  deriving DecidableEq, Repr

structure Path where
  absolute : Bool
  steps : List String
  ending : PathEnding
  deriving DecidableEq, Repr

namespace Path

/-- Whether a part between slashes leads anywhere. -/
def isStep (part : List Char) : Bool :=
  part != [] && part != ['.']

/-- What the parts behind the last name say. -/
def endingOf (parts : List (List Char)) : PathEnding :=
  match parts.reverse.takeWhile fun part => !isStep part with
  | [] => .name
  | first :: others => if (first :: others).contains ['.'] then .dot else .slash

/-- Whether a text begins at the root. -/
def isAbsolute (text : String) : Bool :=
  text.toList.head? == some '/'

/-- The path that a text spells. -/
def ofText (text : String) : Path :=
  let parts := Text.splitOn '/' text.toList
  { absolute := isAbsolute text
    steps := (parts.filter isStep).map String.ofList
    ending := endingOf parts }

/-- The text of a path as seen from a folder. -/
def joined (folder text : String) : String :=
  if isAbsolute text || folder.isEmpty then text
  else if folder.toList.getLast? == some '/' then folder ++ text
  else folder ++ "/" ++ text

/-- The name of a file: the last step, unless it leads upwards. -/
def fileName? (path : Path) : Option String :=
  path.steps.getLast?.filter fun step => step != ".."

/-- The folder where the last step is taken. -/
def parent (path : Path) : Path :=
  { path with steps := path.steps.dropLast, ending := .name }

/-- A path with another last step. -/
def withName (path : Path) (name : String) : Path :=
  { path with steps := path.steps.dropLast ++ [name], ending := .name }

/-- The steps with slashes between them. -/
def stepsText : List String → String
  | [] => ""
  | [step] => step
  | step :: rest => step ++ "/" ++ stepsText rest

/-- A text that spells a path. -/
def text (path : Path) : String :=
  let start := if path.absolute then "/" else "./"
  let body := start ++ stepsText path.steps
  match path.ending with
  | .name => body
  | .slash => body ++ "/"
  | .dot => body ++ "/."

end Path

end Narrative
