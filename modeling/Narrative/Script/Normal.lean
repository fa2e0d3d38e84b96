import Narrative.Text.Letter
import Narrative.Text.Mark
import Narrative.Text.Pieces

/-!
# Normal form of script texts

Authors write scripts with long equality operators, increments and line ends instead of semicolons.
The normal form writes these out in the script language. Quoted texts and line comments stay as they
are.
-/

namespace Narrative.Script.Normal

set_option autoImplicit false

/-- A part of a script text. -/
inductive Segment where
  | code (letters : List Char)
  /-- A quoted text with its marks, to the end of the script if it is not closed. -/
  | quoted (letters : List Char)
  /-- A line comment without its line end. -/
  | comment (letters : List Char)
  deriving DecidableEq, Repr

/-- The segment in progress, its letters backwards. -/
inductive Mode where
  | code (letters : List Char)
  | quoted (mark : Char) (escaped : Bool) (letters : List Char)
  | comment (letters : List Char)
  deriving DecidableEq, Repr

/-- The segments of a script text from left to right. -/
def segments : Mode → List Char → List Segment
  | .code letters, [] => [.code letters.reverse]
  | .quoted _ _ letters, [] => [.quoted letters.reverse]
  | .comment letters, [] => [.comment letters.reverse]
  | .code letters, letter :: rest =>
    if Text.isMark letter then .code letters.reverse :: segments (.quoted letter false [letter]) rest
    else if letter = '/' && rest.head? == some '/' then
      .code letters.reverse :: segments (.comment [letter]) rest
    else segments (.code (letter :: letters)) rest
  | .quoted mark escaped letters, letter :: rest =>
    if escaped then segments (.quoted mark false (letter :: letters)) rest
    else if letter = '\\' then segments (.quoted mark true (letter :: letters)) rest
    else if letter = mark then .quoted (letter :: letters).reverse :: segments (.code []) rest
    else segments (.quoted mark false (letter :: letters)) rest
  | .comment letters, letter :: rest =>
    if letter = '\n' then .comment letters.reverse :: segments (.code [letter]) rest
    else segments (.comment (letter :: letters)) rest

/-- Letters that may begin the name before an increment. -/
def beginsName (letter : Char) : Bool :=
  letter.isAlpha || letter = '_' || letter = '$'

/-- Letters that may continue it. -/
def continuesName (letter : Char) : Bool :=
  letter.isAlphanum || letter = '_' || letter = '$'

/-- A name with an increment or decrement after it that begins here: the name, the sign, and how many
letters they take with the blanks between them. -/
def incrementAt? (text : List Char) : Option (List Char × Char × Nat) :=
  match text with
  | [] => none
  | first :: _ =>
    if beginsName first then
      let name := text.takeWhile continuesName
      let rest := text.dropWhile continuesName
      match rest.dropWhile Text.isBlank with
      | '+' :: '+' :: after => some (name, '+', text.length - after.length)
      | '-' :: '-' :: after => some (name, '-', text.length - after.length)
      | _ => none
    else none

/-- The assignment for an increment or decrement that begins here, and how many letters that has. -/
def assignmentAt? (text : List Char) : Option (List Char × Nat) :=
  (incrementAt? text).map fun (name, sign, count) => (name ++ [' ', sign, '=', ' ', '1'], count)

/-- Writes increments and decrements as assignments. -/
def writeIncrements (text : List Char) : List Char :=
  Text.rewrite assignmentAt? text

/-- Code with short operators and without increments. -/
def plainCode (code : List Char) : List Char :=
  writeIncrements (Text.replace ['!', '=', '='] ['!', '='] (Text.replace ['=', '=', '='] ['=', '='] code))

def Segment.plain : Segment → List Char
  | .code letters => plainCode letters
  | .quoted letters => letters
  | .comment letters => letters

/-- A script text with its code made plain, quoted texts and comments untouched. -/
def plainText (source : List Char) : List Char :=
  (segments (.code []) source).flatMap Segment.plain

/-- A line cut before its comment. `mark` is the quote that is open, `escaped` tells that the letter
before was a backslash in it. -/
def cutComment (mark : Option Char) (escaped : Bool) : List Char → List Char × List Char
  | [] => ([], [])
  | letter :: rest =>
    let next := fun mark escaped =>
      let parts := cutComment mark escaped rest
      (letter :: parts.1, parts.2)
    match mark with
    | some opening =>
      if escaped then next mark false
      else if letter = '\\' then next mark true
      else if letter = opening then next none false
      else next mark false
    | none =>
      if Text.isMark letter then next (some letter) false
      else if letter = '/' && rest.head? == some '/' then ([], letter :: rest)
      else next none false

/-- The code and the comment of a line. -/
def lineParts (line : List Char) : List Char × List Char :=
  cutComment none false line

/-- Letters after which a statement is finished or goes on. -/
def needsNoEnd : List Char :=
  [';', '{', '}', '(', '[', ',', '+', '-', '*', '/', '%', '=', '&', '|', '!', '<', '>', '.', '?', ':',
    '\\']

/-- Code that a semicolon has to end. -/
def needsEnd (code : List Char) : Bool :=
  match code.getLast? with
  | none => false
  | some last => !needsNoEnd.contains last

/-- The first code that is not blank in lines to come. -/
def nextCode? : List (List Char) → Option (List Char)
  | [] => none
  | line :: rest =>
    let code := Text.trim (lineParts line).1
    if code.isEmpty then nextCode? rest else some code

/-- Whether code goes on with a statement begun on a line before: a block, a member, or the word for
the other branch. -/
def continuesStatement (code : List Char) : Bool :=
  match code with
  | '{' :: _ => true
  | '.' :: _ => true
  | _ =>
    match Text.after? ['e', 'l', 's', 'e'] code with
    | none => false
    | some [] => true
    | some (letter :: _) => !(Text.isAlphanumeric letter || letter = '_')

/-- Whether the lines to come go on with the statement of a line. -/
def goesOn (later : List (List Char)) : Bool :=
  match nextCode? later with
  | none => false
  | some code => continuesStatement code

/-- A line with its statement ended and its comment set off by one blank. -/
def endLine (line : List Char) (later : List (List Char)) : List Char :=
  let parts := lineParts (Text.trimEnd line)
  let code := Text.trimEnd parts.1
  let finish := if needsEnd code && !goesOn later then [';'] else []
  let gap := if !parts.2.isEmpty && !code.isEmpty then [' '] else []
  code ++ finish ++ gap ++ parts.2

/-- All lines, each with a line end. -/
def endLines : List (List Char) → List Char
  | [] => []
  | line :: later => endLine line later ++ '\n' :: endLines later

end Narrative.Script.Normal

namespace Narrative.Script

/-- The normal form of a script text. -/
def normalize (source : List Char) : List Char :=
  Normal.endLines (Text.lines (Normal.plainText source))

end Narrative.Script
