import Narrative.Keyed
import Narrative.Number.Literal

/-!
# Commands

What the words of a command line ask for. Every option has a value, in the next word or behind an
equals sign, and is given at most once.
-/

namespace Narrative

set_option autoImplicit false

/-- What the player is asked to do. -/
inductive Command where
  | start (project : String) (board entry : Option String) (save : String)
  | choose (source : String) (index : Nat) (save : String)
  | back (source save : String)
  | restart (source save : String)
  | play (project : String) (board entry save : Option String)
  deriving DecidableEq, Repr

namespace Command

/-- Whether the next word of a command line can be a value: options cannot, a lone dash can. -/
def isValue (word : List Char) : Bool :=
  match word with
  | '-' :: _ :: _ => false
  | _ => true

/-- An option's name, and its value if that is in the same word. -/
def option? (word : List Char) : Option (String × Option String) :=
  (Text.after? ['-', '-'] word).map fun body =>
    match Text.cutAt? '=' body with
    | some parts => (String.ofList parts.1, some (String.ofList parts.2))
    | none => (String.ofList body, none)

/-- Adds an option, if it is a known one that was not given before. -/
def addOption? (names : List String) (name value : String) (given : Keyed String) :
    Option (Keyed String) :=
  if names.contains name && (Keyed.find? name given).isNone then
    some (Keyed.insert name value given)
  else none

/-- The options that words give. Nothing may follow the word that ends them. -/
def options? (names : List String) (given : Keyed String) : List String → Option (Keyed String)
  | [] => some given
  | ["--"] => some given
  | word :: rest =>
    match option? word.toList with
    | none => none
    | some (name, some value) => (addOption? names name value given).bind fun known =>
        options? names known rest
    | some (name, none) =>
      match rest with
      | [] => none
      | value :: others =>
        if isValue value.toList then
          (addOption? names name value given).bind fun known => options? names known others
        else none

def start? (words : List String) : Option Command := do
  let given ← options? ["project", "entry-node", "board", "state-out"] [] words
  let project ← Keyed.find? "project" given
  let save ← Keyed.find? "state-out" given
  pure (.start project (Keyed.find? "board" given) (Keyed.find? "entry-node" given) save)

def choose? (words : List String) : Option Command := do
  let given ← options? ["state-in", "choice", "state-out"] [] words
  let source ← Keyed.find? "state-in" given
  let choice ← Keyed.find? "choice" given
  let index ← Number.count? choice.toList
  let save ← Keyed.find? "state-out" given
  pure (.choose source index save)

/-- A command that goes from one saved state to another. -/
def transition? (command : String → String → Command) (words : List String) : Option Command := do
  let given ← options? ["state-in", "state-out"] [] words
  let source ← Keyed.find? "state-in" given
  let save ← Keyed.find? "state-out" given
  pure (command source save)

def play? (words : List String) : Option Command := do
  let given ← options? ["project", "entry-node", "board", "state-file"] [] words
  let project ← Keyed.find? "project" given
  pure (.play project (Keyed.find? "board" given) (Keyed.find? "entry-node" given)
    (Keyed.find? "state-file" given))

/-- The command that words ask for. -/
def ofWords? : List String → Option Command
  | "agent" :: "start" :: words => start? words
  | "agent" :: "choose" :: words => choose? words
  | "agent" :: "back" :: words => transition? .back words
  | "agent" :: "restart" :: words => transition? .restart words
  | "play" :: words => play? words
  | _ => none

end Command

end Narrative
