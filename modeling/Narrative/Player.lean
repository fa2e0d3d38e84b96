import Narrative.Player.Agent
import Narrative.Player.Command
import Narrative.Player.Play

/-!
# The player

Carries commands out: moves of agents at once, and games over all the lines that are typed.
-/

namespace Narrative.Player

set_option autoImplicit false

/-- What a command leaves: its exit code and what it printed. -/
structure Outcome where
  code : Nat
  output : String
  deriving DecidableEq, Repr

/-- Where runs are saved in play if nothing else is asked for. -/
def usualSave : String := ".storyboard/save.json"

/-- The outcome of a command that ends with an error, after what it printed before. -/
def failed (printed : String) (error : PlayerError) : Outcome :=
  ⟨1, printed ++ linesText error.report⟩

/-- The outcome of words that ask for no command. -/
def misused : Outcome :=
  ⟨2, ""⟩

/-- The move that a command asks for. A game is not a move. -/
def move? : Command → Option (PlayerPlan (List String))
  | .start project board entry save => some (Agent.start project board entry save)
  | .choose source index save => some (Agent.transition source save (Agent.choose index))
  | .back source save => some (Agent.transition source save Agent.back)
  | .restart source save => some (Agent.transition source save Agent.restart)
  | .play _ _ _ _ => none

/-- The outcome of a move. -/
def moved (result : Except PlayerError (List String)) : Outcome :=
  match result with
  | .ok report => ⟨0, linesText report⟩
  | .error error => failed "" error

/-- The setting and the session at the beginning of a game. -/
def opening (project : String) (board entry save : Option String) :
    PlayerPlan (Play.Setting × Session) := do
  let loaded ← LoadedProject.load project
  let session ← loaded.begin board entry
  pure (⟨loaded, save.getD usualSave⟩, session)

/-- Bytes up to and with each line feed. What follows the last one is a line too. -/
def byteLines : List UInt8 → List (List UInt8)
  | [] => []
  | byte :: rest =>
    if byte = 10 then [byte] :: byteLines rest
    else match byteLines rest with
      | [] => [[byte]]
      | line :: lines => (byte :: line) :: lines

/-- The text of a line. -/
def lineText? (line : List UInt8) : Option String :=
  String.fromUTF8? ⟨line.toArray⟩

/-- How a game stands after a line. -/
inductive Turn where
  | ready (session : Session)
  | over
  | stopped (error : PlayerError)

/-- How a game stands after a reply. -/
def turnOf (session : Session) (reply : Play.Reply) : Turn :=
  match reply.next with
  | .wait => .ready session
  | .show after => .ready after
  | .quit => .over
  | .fail error => .stopped error

/-- What is printed for a line, and how the game stands after it. -/
def playLine (setting : Play.Setting) (session : Session) (line : List UInt8) :
    Plan (String × Turn) :=
  match lineText? line with
  | none => pure ("", .stopped (.unreadLine .notText))
  | some text => do
    let reply ← Play.reply setting session text
    pure (reply.text, turnOf session reply)

/-- What a game leaves: what was printed for its lines, the session where it stood, and the error that
ended it, if one did. -/
structure Game where
  printed : List String
  left : Session
  error : Option PlayerError

/-- Plays the lines of a game. -/
def playLines (setting : Play.Setting) (session : Session) : List (List UInt8) → Plan Game
  | [] => pure ⟨[Play.prompt], session, none⟩
  | line :: rest => do
    let (printed, turn) ← playLine setting session line
    match turn with
    | .over => pure ⟨[Play.prompt, printed], session, none⟩
    | .stopped error => pure ⟨[Play.prompt, printed], session, some error⟩
    | .ready after =>
      let game ← playLines setting after rest
      pure { game with printed := Play.prompt :: printed :: game.printed }

/-- The outcome of a game that was opened. -/
def played (session : Session) (game : Game) : Outcome :=
  let printed := String.join (linesText (Play.openingLines session) :: game.printed)
  match game.error with
  | none => ⟨0, printed⟩
  | some error => failed printed error

/-- Opens a game and plays lines. -/
def play (project : String) (board entry save : Option String) (input : List UInt8) :
    Plan Outcome := do
  match ← (opening project board entry save).run with
  | .error error => pure (failed "" error)
  | .ok (setting, session) =>
    let game ← playLines setting session (byteLines input)
    pure (played session game)

/-- Carries a command out; `input` is what is typed. -/
def carryOut (command : Command) (input : List UInt8) : Plan Outcome :=
  match command with
  | .play project board entry save => play project board entry save input
  | other =>
    match move? other with
    | some move => do
      let result ← move.run
      pure (moved result)
    | none => pure misused

/-- Carries out what the words of a command line ask for. -/
def run (words : List String) (input : List UInt8) : Plan Outcome :=
  match Command.ofWords? words with
  | some command => carryOut command input
  | none => pure misused

end Narrative.Player
