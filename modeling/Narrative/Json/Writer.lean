import Narrative.Json.Basic

/-!
# Writing documents

The compact text of a document, without blanks, and the indented text with two blanks per level.
Members stand in the order in which the document lists them. An infinite double and not-a-number are
written as null.
-/

namespace Narrative.Json

set_option autoImplicit false

/-- A hexadecimal digit, with small letters. -/
def hexadecimal (digit : Nat) : Char :=
  if digit < 10 then Char.ofNat (48 + digit) else Char.ofNat (87 + digit)

/-- A character as it stands between quotes. -/
def escapedLetter (letter : Char) : List Char :=
  if letter = '\x22' then ['\\', '\x22']
  else if letter = '\\' then ['\\', '\\']
  else if letter = '\x08' then ['\\', 'b']
  else if letter = '\x0c' then ['\\', 'f']
  else if letter = '\n' then ['\\', 'n']
  else if letter = '\r' then ['\\', 'r']
  else if letter = '\t' then ['\\', 't']
  else if letter.toNat < 0x20 then
    ['\\', 'u', '0', '0', hexadecimal (letter.toNat / 16), hexadecimal (letter.toNat % 16)]
  else [letter]

/-- A text in quotes. -/
def quote (letters : List Char) : List Char :=
  '\x22' :: letters.flatMap escapedLetter ++ ['\x22']

/-- A double as documents hold it. -/
def realText (number : Float) : List Char :=
  match Number.Binary.ofFloat number with
  | .finite negative significand exponent => Number.documentText negative significand exponent
  | _ => ['n', 'u', 'l', 'l']

mutual

/-- The text of a document without blanks. -/
def compact : Json → List Char
  | .null => ['n', 'u', 'l', 'l']
  | .boolean true => ['t', 'r', 'u', 'e']
  | .boolean false => ['f', 'a', 'l', 's', 'e']
  | .whole number => Number.wholeText number
  | .real number => realText number
  | .text letters => quote letters.toList
  | .list items => '[' :: compactItems items
  | .object members => '{' :: compactMembers members

/-- Items with commas between them, and the closing bracket. -/
def compactItems : List Json → List Char
  | [] => [']']
  | item :: rest => compact item ++ compactLaterItems rest

def compactLaterItems : List Json → List Char
  | [] => [']']
  | item :: rest => ',' :: (compact item ++ compactLaterItems rest)

/-- Members with commas between them, and the closing brace. -/
def compactMembers : List (String × Json) → List Char
  | [] => ['}']
  | (name, member) :: rest =>
    quote name.toList ++ ':' :: (compact member ++ compactLaterMembers rest)

def compactLaterMembers : List (String × Json) → List Char
  | [] => ['}']
  | (name, member) :: rest =>
    ',' :: (quote name.toList ++ ':' :: (compact member ++ compactLaterMembers rest))

end

/-- The beginning of a line at a level. -/
def lineAt (level : Nat) : List Char :=
  '\n' :: List.replicate (2 * level) ' '

mutual

/-- The text of a document with each item and member on its own line; `level` is the depth at which
the document stands. -/
def indented (level : Nat) : Json → List Char
  | .list [] => ['[', ']']
  | .list (item :: rest) =>
    '[' :: (lineAt (level + 1) ++ (indented (level + 1) item ++ indentedItems level rest))
  | .object [] => ['{', '}']
  | .object ((name, member) :: rest) =>
    '{' :: (lineAt (level + 1) ++ (quote name.toList ++
      ':' :: ' ' :: (indented (level + 1) member ++ indentedMembers level rest)))
  | .null => ['n', 'u', 'l', 'l']
  | .boolean true => ['t', 'r', 'u', 'e']
  | .boolean false => ['f', 'a', 'l', 's', 'e']
  | .whole number => Number.wholeText number
  | .real number => realText number
  | .text letters => quote letters.toList

/-- The items after the first one, and the closing bracket. -/
def indentedItems (level : Nat) : List Json → List Char
  | [] => lineAt level ++ [']']
  | item :: rest =>
    ',' :: (lineAt (level + 1) ++ (indented (level + 1) item ++ indentedItems level rest))

/-- The members after the first one, and the closing brace. -/
def indentedMembers (level : Nat) : List (String × Json) → List Char
  | [] => lineAt level ++ ['}']
  | (name, member) :: rest =>
    ',' :: (lineAt (level + 1) ++ (quote name.toList ++
      ':' :: ' ' :: (indented (level + 1) member ++ indentedMembers level rest)))

end

/-- The compact text as a string. -/
def compactText (document : Json) : String :=
  String.ofList document.compact

/-- The indented text as a string. -/
def indentedText (document : Json) : String :=
  String.ofList (indented 0 document)

end Narrative.Json
