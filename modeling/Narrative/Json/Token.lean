import Narrative.Json.Basic
import Narrative.Json.Figure

/-!
# Tokens of a document

A document's text as tokens, found in one pass: `Scan.step` takes one more letter, so the tokens of
two texts set end to end come from two runs one after the other.
-/

namespace Narrative.Json

set_option autoImplicit false

inductive Token where
  | listOpen
  | listClose
  | objectOpen
  | objectClose
  | comma
  | colon
  | null
  | boolean (flag : Bool)
  | number (value : Option (Int ⊕ Float))
  /-- A text in quotes; `none` if an escape names half of a surrogate pair. -/
  | text (letters : Option String)

/-- A quoted text in progress: its letters backwards, whether all escapes so far stood for
characters, and the first half of a surrogate pair that was just read. -/
structure Quoted where
  letters : List Char
  sound : Bool
  high : Option Nat

/-- What the letters before were part of. -/
inductive Mode where
  | between
  /-- Inside a bare word, with the letters still to come. -/
  | word (expected : List Char) (token : Token)
  /-- Inside a number, its letters backwards. -/
  | figure (letters : List Char)
  | quoted (inside : Quoted)
  /-- After a backslash. -/
  | escape (inside : Quoted)
  /-- After `\u`, with the number of hexadecimal digits still to come and their value so far. -/
  | code (inside : Quoted) (missing value : Nat)

/-- The state of a pass: the mode, and the tokens found, backwards. -/
structure Scan where
  mode : Mode
  found : List Token

def isSpace (letter : Char) : Bool :=
  letter = ' ' || letter = '\n' || letter = '\t' || letter = '\r'

def isFigureLetter (letter : Char) : Bool :=
  letter.isDigit || letter = '-' || letter = '+' || letter = '.' || letter = 'e' || letter = 'E'

def hexadecimalValue? (letter : Char) : Option Nat :=
  let code := letter.toNat
  if 48 ≤ code && code ≤ 57 then some (code - 48)
  else if 97 ≤ code && code ≤ 102 then some (code - 87)
  else if 65 ≤ code && code ≤ 70 then some (code - 55)
  else none

namespace Quoted

def empty : Quoted := ⟨[], true, none⟩

/-- Takes a letter; a first half before it stays without its second. -/
def push (inside : Quoted) (letter : Char) : Quoted :=
  ⟨letter :: inside.letters, inside.sound && inside.high.isNone, none⟩

/-- Takes an escaped code unit. -/
def pushUnit (inside : Quoted) (unit : Nat) : Quoted :=
  match inside.high with
  | some high =>
    if 0xDC00 ≤ unit && unit ≤ 0xDFFF then
      ⟨Char.ofNat (0x10000 + (high - 0xD800) * 0x400 + (unit - 0xDC00)) :: inside.letters,
        inside.sound, none⟩
    else ⟨inside.letters, false, none⟩
  | none =>
    if 0xD800 ≤ unit && unit ≤ 0xDBFF then ⟨inside.letters, inside.sound, some unit⟩
    else if 0xDC00 ≤ unit && unit ≤ 0xDFFF then ⟨inside.letters, false, none⟩
    else ⟨Char.ofNat unit :: inside.letters, inside.sound, none⟩

/-- The text at its closing quote. -/
def close (inside : Quoted) : Token :=
  .text (if inside.sound && inside.high.isNone then some (String.ofList inside.letters.reverse) else none)

end Quoted

/-- The character that a letter after a backslash stands for. -/
def escaped? (letter : Char) : Option Char :=
  if letter = '\x22' || letter = '\\' || letter = '/' then some letter
  else if letter = 'b' then some '\x08'
  else if letter = 'f' then some '\x0c'
  else if letter = 'n' then some '\n'
  else if letter = 'r' then some '\r'
  else if letter = 't' then some '\t'
  else none

/-- A token that is a single letter. -/
def mark? (letter : Char) : Option Token :=
  if letter = '[' then some .listOpen
  else if letter = ']' then some .listClose
  else if letter = '{' then some .objectOpen
  else if letter = '}' then some .objectClose
  else if letter = ',' then some .comma
  else if letter = ':' then some .colon
  else none

namespace Scan

/-- Takes a letter between tokens. -/
def fresh? (found : List Token) (letter : Char) : Option Scan :=
  if isSpace letter then some ⟨.between, found⟩
  else match mark? letter with
    | some token => some ⟨.between, token :: found⟩
    | none =>
      if letter = '\x22' then some ⟨.quoted .empty, found⟩
      else if letter = 'n' then some ⟨.word ['u', 'l', 'l'] .null, found⟩
      else if letter = 't' then some ⟨.word ['r', 'u', 'e'] (.boolean true), found⟩
      else if letter = 'f' then some ⟨.word ['a', 'l', 's', 'e'] (.boolean false), found⟩
      else if letter.isDigit || letter = '-' then some ⟨.figure [letter], found⟩
      else none

/-- The token of a number's letters, given backwards. -/
def figureToken? (letters : List Char) : Option Token :=
  (Figure.spelling? letters.reverse).map fun spelling => .number spelling.value?

/-- Takes one letter. -/
def step? (scan : Scan) (letter : Char) : Option Scan :=
  match scan.mode with
  | .between => fresh? scan.found letter
  | .word expected token =>
    match expected with
    | [] => none
    | [last] => if letter = last then some ⟨.between, token :: scan.found⟩ else none
    | next :: later => if letter = next then some ⟨.word later token, scan.found⟩ else none
  | .figure letters =>
    if isFigureLetter letter then some ⟨.figure (letter :: letters), scan.found⟩
    else (figureToken? letters).bind fun token => fresh? (token :: scan.found) letter
  | .quoted inside =>
    if letter = '\x22' then some ⟨.between, inside.close :: scan.found⟩
    else if letter = '\\' then some ⟨.escape inside, scan.found⟩
    else if letter.toNat < 0x20 then none
    else some ⟨.quoted (inside.push letter), scan.found⟩
  | .escape inside =>
    if letter = 'u' then some ⟨.code inside 4 0, scan.found⟩
    else (escaped? letter).map fun meant => ⟨.quoted (inside.push meant), scan.found⟩
  | .code inside missing value =>
    (hexadecimalValue? letter).map fun digit =>
      let unit := value * 16 + digit
      if missing ≤ 1 then ⟨.quoted (inside.pushUnit unit), scan.found⟩
      else ⟨.code inside (missing - 1) unit, scan.found⟩

/-- Takes letters one after another. -/
def run? : Scan → List Char → Option Scan
  | scan, [] => some scan
  | scan, letter :: rest =>
    match scan.step? letter with
    | none => none
    | some next => run? next rest

/-- The tokens at the end of the text, which must not cut one off. -/
def finish? (scan : Scan) : Option (List Token) :=
  match scan.mode with
  | .between => some scan.found.reverse
  | .figure letters => (figureToken? letters).map fun token => (token :: scan.found).reverse
  | _ => none

end Scan

/-- The tokens of a text, if it consists of tokens and blanks. -/
def tokens? (text : List Char) : Option (List Token) :=
  (Scan.run? ⟨.between, []⟩ text).bind Scan.finish?

end Narrative.Json
