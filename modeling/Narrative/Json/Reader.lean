import Narrative.Json.Token

/-!
# Reading documents

Tokens put together to one value. `Build.step?` takes one token; the lists and objects that are open
are kept innermost first, so no depth is too great.
-/

namespace Narrative.Json

set_option autoImplicit false

/-- A list or object that is open, with what it holds so far, backwards. -/
inductive Frame where
  | list (items : List Raw)
  | object (members : List (Option String × Raw)) (name : Option String)

/-- What may come next in an open place. -/
inductive Want where
  | value
  /-- A value, or the end of a list that holds nothing yet. -/
  | firstItem
  | name
  /-- A name, or the end of an object that holds nothing yet. -/
  | firstName
  | colon
  /-- A comma or the end of the innermost list or object. -/
  | separator

/-- A value in progress, or the whole value. -/
inductive Build where
  | open (frames : List Frame) (want : Want)
  | complete (value : Raw)

namespace Build

/-- Puts a value where one was awaited. -/
def put (frames : List Frame) (value : Raw) : Build :=
  match frames with
  | [] => .complete value
  | .list items :: outer => .open (.list (value :: items) :: outer) .separator
  | .object members name :: outer => .open (.object ((name, value) :: members) none :: outer) .separator

/-- Takes a token that begins a value. -/
def begin? (frames : List Frame) : Token → Option Build
  | .null => some (put frames .null)
  | .boolean flag => some (put frames (.boolean flag))
  | .number value => some (put frames (.number value))
  | .text letters => some (put frames (.text letters))
  | .listOpen => some (.open (.list [] :: frames) .firstItem)
  | .objectOpen => some (.open (.object [] none :: frames) .firstName)
  | _ => none

/-- Ends the innermost list. -/
def closeList? : List Frame → Option Build
  | .list items :: outer => some (put outer (.list items.reverse))
  | _ => none

/-- Ends the innermost object. -/
def closeObject? : List Frame → Option Build
  | .object members _ :: outer => some (put outer (.object members.reverse))
  | _ => none

/-- Takes the name of a member. -/
def named? (letters : Option String) : List Frame → Option Build
  | .object members _ :: outer => some (.open (.object members letters :: outer) .colon)
  | _ => none

/-- Takes a comma. -/
def next? : List Frame → Option Build
  | .list items :: outer => some (.open (.list items :: outer) .value)
  | .object members name :: outer => some (.open (.object members name :: outer) .name)
  | [] => none

/-- Takes one token. -/
def step? : Build → Token → Option Build
  | .complete _, _ => none
  | .open frames .value, token => begin? frames token
  | .open frames .firstItem, .listClose => closeList? frames
  | .open frames .firstItem, token => begin? frames token
  | .open frames .name, .text letters => named? letters frames
  | .open frames .firstName, .text letters => named? letters frames
  | .open frames .firstName, .objectClose => closeObject? frames
  | .open frames .colon, .colon => some (.open frames .value)
  | .open frames .separator, .comma => next? frames
  | .open frames .separator, .listClose => closeList? frames
  | .open frames .separator, .objectClose => closeObject? frames
  | _, _ => none

/-- Takes tokens one after another. -/
def run? : Build → List Token → Option Build
  | build, [] => some build
  | build, token :: rest =>
    match build.step? token with
    | none => none
    | some next => run? next rest

end Build

/-- The value that a text spells: exactly one, with nothing but blanks around it. -/
def raw? (text : List Char) : Option Raw := do
  let tokens ← tokens? text
  match ← Build.run? (.open [] .value) tokens with
  | .complete value => some value
  | _ => none

/-- The document that a text says. -/
def read? (text : List Char) : Option Json :=
  (raw? text).bind fun value => value.json? Raw.deepest

end Narrative.Json
