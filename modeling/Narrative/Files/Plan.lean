import Narrative.Files.Path

/-!
# Plans

What a program does with files, as a value: a plan is done, or makes one request and goes on with the
answer. What the answers are is decided where the plan is carried out, so one plan can be followed on a
model of a disk and on a real one.
-/

namespace Narrative

set_option autoImplicit false

/-- Why files did not do what was asked for. -/
inductive Fault where
  | missing
  | busy
  | taken
  | notFolder
  | isFolder
  | longName
  /-- The bytes are not those of a text. -/
  | notText
  | other (words : String)
  deriving DecidableEq, Repr

/-- What the system says about a fault. -/
def Fault.message : Fault → String
  | .missing => "No such file or directory (os error 2)"
  | .busy => "Device or resource busy (os error 16)"
  | .taken => "File exists (os error 17)"
  | .notFolder => "Not a directory (os error 20)"
  | .isFolder => "Is a directory (os error 21)"
  | .longName => "File name too long (os error 36)"
  | .notText => "stream did not contain valid UTF-8"
  | .other words => words

inductive EntryKind where
  | file
  | folder
  deriving DecidableEq, Repr

inductive Request where
  /-- The text of the current folder's path. -/
  | currentFolder
  /-- What stands at a path. -/
  | kind (path : Path)
  /-- The bytes of a file. -/
  | read (path : Path)
  /-- The names in a folder and what stands there. -/
  | list (path : Path)
  | makeFolder (path : Path)
  /-- Gives a file these bytes; it is made if there is none. -/
  | write (path : Path) (bytes : ByteArray)
  /-- Puts a file in another place. A file that is there goes away. -/
  | move (source target : Path)

/-- What a request is answered with. -/
def Request.Answer : Request → Type
  | .currentFolder => Except Fault String
  | .kind _ => Option EntryKind
  | .read _ => Except Fault ByteArray
  | .list _ => Except Fault (List (String × EntryKind))
  | .makeFolder _ => Except Fault Unit
  | .write _ _ => Except Fault Unit
  | .move _ _ => Except Fault Unit

inductive Plan (α : Type) : Type where
  | done (value : α)
  | ask (request : Request) (next : request.Answer → Plan α)

namespace Plan

/-- Goes on with the result of a plan. -/
def andThen {α β : Type} (next : α → Plan β) : Plan α → Plan β
  | .done value => next value
  | .ask request rest => .ask request fun answer => andThen next (rest answer)

instance : Monad Plan where
  pure := .done
  bind plan next := andThen next plan

/-- The plan that makes one request. -/
def request (wanted : Request) : Plan wanted.Answer :=
  .ask wanted .done

def currentFolder : Plan (Except Fault String) :=
  request .currentFolder

def kind (path : Path) : Plan (Option EntryKind) :=
  request (.kind path)

def list (path : Path) : Plan (Except Fault (List (String × EntryKind))) :=
  request (.list path)

def makeFolder (path : Path) : Plan (Except Fault Unit) :=
  request (.makeFolder path)

def write (path : Path) (content : String) : Plan (Except Fault Unit) :=
  request (.write path content.toUTF8)

def move (source target : Path) : Plan (Except Fault Unit) :=
  request (.move source target)

def read (path : Path) : Plan (Except Fault ByteArray) :=
  request (.read path)

def isFile (path : Path) : Plan Bool := do
  let found ← kind path
  pure (found == some .file)

def isFolder (path : Path) : Plan Bool := do
  let found ← kind path
  pure (found == some .folder)

/-- The text that bytes hold. -/
def decoded (bytes : ByteArray) : Except Fault String :=
  match String.fromUTF8? bytes with
  | some text => .ok text
  | none => .error .notText

/-- The text of a file. -/
def readText (path : Path) : Plan (Except Fault String) := do
  let bytes ← read path
  pure (bytes >>= decoded)

/-- Makes a folder where the folders around it exist. That it exists already is no fault. -/
def makeLastFolder (path : Path) : Plan (Except Fault Unit) := do
  match ← makeFolder path with
  | .ok () => pure (.ok ())
  | .error fault =>
    if ← isFolder path then pure (.ok ()) else pure (.error fault)

/-- Makes a folder and the folders around it; `steps` is the path backwards. -/
def makeFoldersAt (absolute : Bool) : List String → Plan (Except Fault Unit)
  | [] => pure (.ok ())
  | step :: outer => do
    let path : Path := ⟨absolute, (step :: outer).reverse, .name⟩
    match ← makeLastFolder path with
    | .error .missing =>
      match ← makeFoldersAt absolute outer with
      | .ok () => makeLastFolder path
      | .error fault => pure (.error fault)
    | answer => pure answer

/-- Makes a folder and the folders around it. -/
def makeFolders (path : Path) : Plan (Except Fault Unit) :=
  makeFoldersAt path.absolute path.steps.reverse

end Plan

end Narrative
