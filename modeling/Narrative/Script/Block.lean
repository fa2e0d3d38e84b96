import Narrative.Text.Letter
import Narrative.Text.Pieces

/-!
# Script blocks in content

Content is text to be shown with script blocks in it. A block is an opening script tag, the shortest
body, and a closing script tag; letter case does not matter in the tags. The bodies are run and all
else is shown.
-/

namespace Narrative.Script.Block

set_option autoImplicit false

/-- Whether a letter stands for a small letter of a tag name. The long s folds to s as well. -/
def foldsTo (small letter : Char) : Bool :=
  letter.toLower = small || (small = 's' && letter = 'ſ')

/-- The text after a word, letter case aside. -/
def afterWord? : List Char → List Char → Option (List Char)
  | [], text => some text
  | _ :: _, [] => none
  | small :: word, letter :: rest => if foldsTo small letter then afterWord? word rest else none

def openingWord : List Char := ['<', 's', 'c', 'r', 'i', 'p', 't']

def closingWord : List Char := ['<', '/', 's', 'c', 'r', 'i', 'p', 't']

/-- The text after an opening tag that begins here: the word must end there, and the tag goes on to
the next angle bracket. -/
def afterOpening? (text : List Char) : Option (List Char) :=
  match afterWord? openingWord text with
  | some (letter :: rest) =>
    if Text.isWord letter then none
    else match (letter :: rest).dropWhile fun letter => letter != '>' with
      | _ :: after => some after
      | [] => none
  | _ => none

/-- The text after a closing tag that begins here. -/
def afterClosing? (text : List Char) : Option (List Char) :=
  match (afterWord? closingWord text).map Text.trimStart with
  | some ('>' :: after) => some after
  | _ => none

/-- The letters before the first closing tag, and the text after it. -/
def untilClosing? : List Char → Option (List Char × List Char)
  | [] => none
  | letter :: rest =>
    match afterClosing? (letter :: rest) with
    | some after => some ([], after)
    | none => (untilClosing? rest).map fun parts => (letter :: parts.1, parts.2)

/-- The body of a block that begins here, and the text after the block. -/
def blockAt? (text : List Char) : Option (List Char × List Char) :=
  (afterOpening? text).bind untilClosing?

/-- A part of content. -/
inductive Piece where
  | plain (letter : Char)
  | block (body : List Char)
  deriving DecidableEq, Repr

/-- The block that begins here, and how many letters it has. -/
def pieceAt? (text : List Char) : Option (Piece × Nat) :=
  (blockAt? text).map fun found => (.block found.1, text.length - found.2.length)

/-- The pieces of content from left to right. -/
def pieces (content : List Char) : List Piece :=
  Text.pieces pieceAt? Piece.plain content

def Piece.body? : Piece → Option (List Char)
  | .plain _ => none
  | .block body => some body

def Piece.plain? : Piece → Option Char
  | .plain letter => some letter
  | .block _ => none

/-- The code of the blocks in order, without blanks around it, blank blocks left out. -/
def fragments (content : List Char) : List (List Char) :=
  (((pieces content).filterMap Piece.body?).map Text.trim).filter fun code => !code.isEmpty

/-- Content without its blocks and without blanks around it. -/
def shownContent (content : List Char) : List Char :=
  Text.trim ((pieces content).filterMap Piece.plain?)

end Narrative.Script.Block
