import Narrative.Player

/-!
# The command line

Carries plans out on real files, reads what is typed and prints.
-/

namespace Narrative

set_option autoImplicit false

/-- The fault that the system's number for it stands for. -/
def Fault.ofCode (code : UInt32) (words : String) : Fault :=
  if code = 2 then .missing
  else if code = 16 then .busy
  else if code = 17 then .taken
  else if code = 20 then .notFolder
  else if code = 21 then .isFolder
  else if code = 36 then .longName
  else .other (words ++ " (os error " ++ Nat.repr code.toNat ++ ")")

def Fault.ofError : IO.Error → Fault
  | .alreadyExists _ code words => ofCode code words
  | .otherError code words => ofCode code words
  | .resourceBusy code words => ofCode code words
  | .resourceVanished code words => ofCode code words
  | .unsupportedOperation code words => ofCode code words
  | .hardwareFault code words => ofCode code words
  | .unsatisfiedConstraints code words => ofCode code words
  | .illegalOperation code words => ofCode code words
  | .protocolError code words => ofCode code words
  | .timeExpired code words => ofCode code words
  | .interrupted _ code words => ofCode code words
  | .noFileOrDirectory _ code words => ofCode code words
  | .invalidArgument _ code words => ofCode code words
  | .permissionDenied _ code words => ofCode code words
  | .resourceExhausted _ code words => ofCode code words
  | .inappropriateType _ code words => ofCode code words
  | .noSuchThing _ code words => ofCode code words
  | .unexpectedEof => .notText
  | .userError _ => .notText

namespace Player

/-- What an action gives, or its fault. -/
def attempt {α : Type} (action : IO α) : IO (Except Fault α) := do
  try
    let value ← action
    pure (.ok value)
  catch error => pure (.error (Fault.ofError error))

def kindOf (type : IO.FS.FileType) : Option EntryKind :=
  match type with
  | .file => some .file
  | .dir => some .folder
  | _ => none

/-- What stands at a path. -/
def kindAt (text : String) : IO (Option EntryKind) := do
  let found ← attempt (System.mkFilePath [text]).metadata
  match found with
  | .ok metadata => pure (kindOf metadata.type)
  | .error _ => pure none

/-- The names in a folder and what stands there. -/
def membersAt (text : String) : IO (List (String × EntryKind)) := do
  let entries ← (System.mkFilePath [text]).readDir
  let kinds ← entries.toList.mapM fun entry => do
    let kind ← kindAt (Path.joined text entry.fileName)
    pure (kind.map fun kind => (entry.fileName, kind))
  pure (kinds.filterMap id)

/-- Answers a request by doing what it asks for. -/
def perform : (request : Request) → IO request.Answer
  | .currentFolder => attempt do
    let folder ← IO.currentDir
    pure folder.toString
  | .kind path => kindAt path.text
  | .read path => attempt (IO.FS.readBinFile path.text)
  | .list path => attempt (membersAt path.text)
  | .makeFolder path => attempt (IO.FS.createDir path.text)
  | .write path bytes => attempt (IO.FS.writeBinFile path.text bytes)
  | .move source target => attempt (IO.FS.rename source.text target.text)

/-- Carries a plan out. -/
def follow {α : Type} : Plan α → IO α
  | .done value => pure value
  | .ask request next => do
    let answer ← perform request
    follow (next answer)

/-- Prints at once. -/
def say (text : String) : IO Unit := do
  let output ← IO.getStdout
  output.putStr text
  output.flush

/-- Ends a command with its outcome. -/
def conclude (outcome : Outcome) : IO UInt32 := do
  say outcome.output
  pure (UInt32.ofNat outcome.code)

/-- The bytes up to and with the next line feed, or up to the end of the input; `typed` holds those that
were read before, backwards. -/
partial def nextLine (input : IO.FS.Stream) (typed : List UInt8) : IO (List UInt8) := do
  let bytes ← input.read 1
  match bytes.toList with
  | [] => pure typed.reverse
  | byte :: _ => if byte = 10 then pure (byte :: typed).reverse else nextLine input (byte :: typed)

/-- Plays the lines that are typed until the game or the input ends. -/
partial def playOn (setting : Play.Setting) (session : Session) : IO UInt32 := do
  say Play.prompt
  let input ← IO.getStdin
  match ← attempt (nextLine input []) with
  | .error fault => conclude (failed "" (.unreadLine fault))
  | .ok [] => pure 0
  | .ok line =>
    let (printed, turn) ← follow (playLine setting session line)
    say printed
    match turn with
    | .over => pure 0
    | .stopped error => conclude (failed "" error)
    | .ready after => playOn setting after

/-- Opens a game and plays it. -/
def playGame (project : String) (board entry save : Option String) : IO UInt32 := do
  match ← follow (opening project board entry save).run with
  | .error error => conclude (failed "" error)
  | .ok (setting, session) =>
    say (linesText (Play.openingLines session))
    playOn setting session

end Player

end Narrative

open Narrative in
/-- Does what the words of the command line ask for. -/
def main (words : List String) : IO UInt32 := do
  match Command.ofWords? words with
  | none =>
    IO.eprintln "usage: agent (start | choose | back | restart) OPTIONS, or play OPTIONS"
    Player.conclude Player.misused
  | some (.play project board entry save) => Player.playGame project board entry save
  | some command => do
    let outcome ← Player.follow (Player.carryOut command [])
    Player.conclude outcome
