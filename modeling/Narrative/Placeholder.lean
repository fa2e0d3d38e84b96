import Narrative.Text.Pieces
import Narrative.Variable

/-!
# Placeholders

A text may hold placeholders: a variable's name, an element of a list or an entry of an object,
between double braces. Showing the text puts the values in, and leaves a placeholder as it stands
when it names nothing.
-/

namespace Narrative

set_option autoImplicit false

/-- What the text between the braces names. -/
inductive Placeholder where
  | element (name : List Char) (index : Nat)
  | entry (name key : List Char)
  | whole (name : List Char)
  | invalid
  deriving DecidableEq, Repr

namespace Placeholder

/-- The text up to a closing bracket at its very end. -/
def beforeBracket? (letters : List Char) : Option (List Char) :=
  match letters.getLast? with
  | some last => if last = ']' then some letters.dropLast else none
  | none => none

/-- Reads `name[index]`, given the text before the first opening bracket and the text after it. -/
def ofIndexed (before after : List Char) : Placeholder :=
  let name := Text.trim before
  match (beforeBracket? after).bind fun inner => Number.count? (Text.trim inner) with
  | some index => if name.isEmpty then .invalid else .element name index
  | none => .invalid

/-- Reads `name.key`, given the texts on both sides of the first dot. -/
def ofKeyed (before after : List Char) : Placeholder :=
  let name := Text.trim before
  let key := Text.trim after
  if name.isEmpty || key.isEmpty then .invalid else .entry name key

/-- What a text names, blanks around its parts aside. -/
def parse (letters : List Char) : Placeholder :=
  let text := Text.trim letters
  if text.isEmpty then .invalid
  else match Text.cutAt? '[' text with
    | some (before, after) => ofIndexed before after
    | none =>
      match Text.cutAt? '.' text with
      | some (before, after) => ofKeyed before after
      | none => .whole text

/-- The text that a placeholder is replaced by, if it names something in the store. -/
def resolve? (store : Store) : Placeholder → Option String
  | .element name index =>
    match (store.find? (String.ofList name)).map Variable.value with
    | some (.list _ elements) => elements[index]?.map Scalar.display
    | _ => none
  | .entry name key =>
    match (store.find? (String.ofList name)).map Variable.value with
    | some (.object members) =>
      (Keyed.find? (String.ofList key) members.entries).map fun entry => entry.value.display
    | _ => none
  | .whole name => (store.find? (String.ofList name)).map Variable.display
  | .invalid => none

end Placeholder

/-- A part of a text to be shown. -/
inductive Interpolation.Piece where
  | plain (letter : Char)
  /-- The text between a pair of double braces, which holds no brace. -/
  | slot (inner : List Char)
  deriving DecidableEq, Repr

namespace Interpolation

/-- The letters before the first brace, if a pair of closing braces follows them. -/
def closed? : List Char → Option (List Char)
  | '}' :: '}' :: _ => some []
  | letter :: rest =>
    if letter = '{' || letter = '}' then none
    else (closed? rest).map (letter :: ·)
  | [] => none

/-- The text between the braces of a placeholder that begins here. -/
def slotAt? : List Char → Option (List Char)
  | '{' :: '{' :: rest => closed? rest
  | _ => none

/-- The placeholder that begins here, and how many letters it has. -/
def pieceAt? (letters : List Char) : Option (Piece × Nat) :=
  (slotAt? letters).map fun inner => (.slot inner, inner.length + 4)

/-- The pieces of a text from left to right. -/
def pieces (letters : List Char) : List Piece :=
  Text.pieces pieceAt? Piece.plain letters

/-- A piece as it stands in the text. -/
def Piece.source : Piece → List Char
  | .plain letter => [letter]
  | .slot inner => '{' :: '{' :: inner ++ ['}', '}']

/-- A piece as it is shown. -/
def Piece.shown (store : Store) : Piece → List Char
  | .plain letter => [letter]
  | .slot inner =>
    match (Placeholder.parse inner).resolve? store with
    | some replacement => replacement.toList
    | none => (Piece.slot inner).source

/-- A text with its placeholders replaced once, from left to right. -/
def shown (store : Store) (letters : List Char) : List Char :=
  (pieces letters).flatMap (Piece.shown store)

/-- The same on strings. -/
def text (store : Store) (letters : String) : String :=
  String.ofList (shown store letters.toList)

end Interpolation

end Narrative
