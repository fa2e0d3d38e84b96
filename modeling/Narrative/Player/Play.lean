import Narrative.Number.Literal
import Narrative.Player.Save
import Narrative.Player.Report

/-!
# Play

A person plays a story line by line: the current view is shown, and each line either names a choice by
its index or is a command, which begins with a colon.
-/

namespace Narrative.Play

set_option autoImplicit false

def help : String := "commands: :help :back :restart :vars :save :load :quit"

/-- What stands before each line that is read. -/
def prompt : String := "> "

/-- What a game is played with. -/
structure Setting where
  loaded : LoadedProject
  /-- The file where runs are saved. -/
  save : String

/-- How a game goes on after a line. -/
inductive Next where
  /-- Reads another line. -/
  | wait
  /-- Shows the view of a session and reads another line. -/
  | show (session : Session)
  | quit
  | fail (error : PlayerError)

/-- What is said to a line, and how the game goes on. -/
structure Reply where
  said : List String
  next : Next

/-- A line with a text, unless the text is empty. -/
def lineUnlessEmpty (text line : String) : List String :=
  if text.isEmpty then [] else [line]

/-- The lines of a choice list, or what stands in its place. -/
def choiceLines (view : Story.View) : List String :=
  match view.status with
  | .paused => view.choices.map fun choice => "  [" ++ Nat.repr choice.index ++ "] " ++ choice.label
  | .deadEnd => ["[END]"]
  | .closed => ["[END]"]
  | .missing => ["[MISSING]"]
  | .cycle => ["[CYCLE]"]

/-- The lines of a view. -/
def viewLines (view : Story.View) : List String :=
  [""] ++ lineUnlessEmpty view.label ("== " ++ view.label ++ " ==") ++
    lineUnlessEmpty view.content view.content ++ choiceLines view

/-- The lines at the beginning of a game. -/
def openingLines (session : Session) : List String :=
  ["Storyboard player", help] ++ viewLines session.view

/-- A reply that says one line and waits. -/
def remark (line : String) : Reply :=
  ⟨[line], .wait⟩

def back (session : Session) : Reply :=
  if session.canGoBack then ⟨[], .show session.goBack⟩ else remark "nothing to go back to"

def variableLine (known : Variable) : String :=
  known.name ++ " = " ++ known.display

def save (setting : Setting) (session : Session) : Plan Reply := do
  match ← (Save.writeTo setting.save setting.loaded.path session.state).run with
  | .ok () => pure (remark ("saved: " ++ setting.save))
  | .error error => pure ⟨[], .fail error⟩

def load (setting : Setting) : Plan Reply := do
  match ← (Save.loadFor setting.save setting.loaded).run with
  | .ok session => pure ⟨["loaded: " ++ setting.save], .show session⟩
  | .error error => pure ⟨[], .fail error⟩

/-- The reply to a line that is no command. -/
def choose (session : Session) (line : List Char) : Reply :=
  match Number.count? line with
  | none => remark ("unknown input: " ++ String.ofList line ++ " (type :help)")
  | some index =>
    match session.chooseIndex index with
    | .ok after => ⟨[], .show after⟩
    | .error error => remark error.message

/-- The reply to a line without the blanks around it. -/
def replyTo (setting : Setting) (session : Session) (line : List Char) : Plan Reply :=
  match String.ofList line with
  | "" => pure ⟨[], .wait⟩
  | ":help" => pure (remark help)
  | ":back" => pure (back session)
  | ":restart" => pure ⟨["restarted"], .show session.restart⟩
  | ":vars" => pure ⟨session.state.store.map variableLine, .wait⟩
  | ":save" => save setting session
  | ":load" => load setting
  | ":quit" => pure ⟨["bye"], .quit⟩
  | _ => pure (choose session line)

/-- The reply to a line. -/
def reply (setting : Setting) (session : Session) (line : String) : Plan Reply :=
  replyTo setting session (Text.trim line.toList)

/-- What is printed for a reply: what is said, and the view if it is shown. -/
def Reply.text (reply : Reply) : String :=
  match reply.next with
  | .show session => linesText (reply.said ++ viewLines session.view)
  | _ => linesText reply.said

end Narrative.Play
