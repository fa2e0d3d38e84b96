import Narrative.Number.Literal

/-!
# Tokens of the script language

A script text in normal form as names, literals and signs. A quoted text with inserted values gives
one token for each part of it, with the tokens of the values between them. A part of the script language
is left out (`leftOutWords`, and what `Script/Parser` and `Datum.call?` say).
-/

namespace Narrative.Script

set_option autoImplicit false

inductive Token where
  | name (letters : String)
  /-- A reserved word or a mark. -/
  | sign (letters : String)
  | integer (number : Int)
  | real (number : Float)
  | character (letter : Char)
  | text (letters : String)
  /-- The part of a text before its first inserted value. -/
  | firstPart (letters : String)
  /-- A part between two inserted values. -/
  | middlePart (letters : String)
  /-- The part after the last inserted value. -/
  | lastPart (letters : String)

namespace Token

/-- Whole numbers have 64 bits and a sign. -/
def isInteger (number : Int) : Bool :=
  -9223372036854775808 ≤ number && number ≤ 9223372036854775807

/-- Words with a meaning of their own. -/
def words : List String :=
  ["true", "false", "let", "const", "if", "else", "switch", "do", "while", "until", "loop", "for", "in",
    "fn", "private", "import", "export", "as", "return", "break", "continue", "throw", "try", "catch",
    "_", "print", "debug"]

/-- Words with a meaning of their own that are called like functions. -/
def callable : List String :=
  ["print", "debug"]

/-- Words of the script language for parts of it that are left out here: the kinds of values, scripts
that are run from texts, functions as values with what they are bound to and called on, and questions
about what is declared and shared. The language has a meaning for them in scripts; here a script with one
of them is no script, and so fails. -/
def leftOutWords : List String :=
  ["type_of", "eval", "Fn", "call", "curry", "this", "is_def_var", "is_def_fn", "is_shared"]

/-- Words that are kept back in the script language, so that scripts may not use them. -/
def reservedWords : List String :=
  ["var", "static", "shared", "goto", "match", "case", "public", "protected", "new", "use", "with",
    "is", "module", "package", "super", "thread", "spawn", "go", "sync", "async", "await", "yield",
    "default", "void", "null", "nil"]

/-- Marks, and marks that scripts may not use; longer ones first. -/
def marks : List (String × Bool) :=
  [("**=", true), ("<<=", true), (">>=", true), ("..=", true), ("===", false), ("!==", false),
    ("...", false), ("::<", false),
    ("+=", true), ("-=", true), ("*=", true), ("/=", true), ("%=", true), ("**", true), ("<<", true),
    (">>", true), ("<=", true), (">=", true), ("==", true), ("!=", true), ("&&", true), ("||", true),
    ("&=", true), ("|=", true), ("^=", true), ("=>", true), ("..", true), ("#\x7b", true),
    ("::", true), ("??", true), ("++", false), ("--", false), ("->", false), ("<-", false),
    (":=", false), (":;", false), ("(*", false), ("*)", false), ("<|", false), ("|>", false),
    ("?.", true), ("?[", true), ("()", true),
    ("+", true), ("-", true), ("*", true), ("/", true), ("%", true), ("=", true), ("<", true),
    (">", true), ("!", true), ("&", true), ("|", true), ("^", true), (".", true), (",", true),
    (";", true), (":", true), ("(", true), (")", true), ("[", true), ("]", true), ("\x7b", true),
    ("\x7d", true)]

/-- Signs after which a minus belongs to the number that follows it. -/
def beforeOperand : List String :=
  [";", ":", ",", "??", "..", "..=", "\x7b", "#\x7b", "(", "[", "+", "+=", "-", "-=", "*", "*=", "/",
    "/=", "%", "%=", "**", "**=", "<<", "<<=", ">>", ">>=", "=", "==", "!=", "<", ">", "!", "<=", ">=",
    "|", "&", "if", "while", "until", "in", "!in", "&&", "&=", "||", "|=", "^", "^=", "return", "throw",
    "=>"]

/-- Whether a minus after the token belongs to the number that follows it. -/
def beginsOperand : Token → Bool
  | .sign letters => beforeOperand.contains letters
  | _ => false

/-- The longest mark here, whether it may be used, and the text after it. -/
def markAt? (text : List Char) : List (String × Bool) → Option (String × Bool × List Char)
  | [] => none
  | (mark, allowed) :: others =>
    match Text.after? mark.toList text with
    | some rest => some (mark, allowed, rest)
    | none => markAt? text others

def beginsName (letter : Char) : Bool :=
  letter.isAlpha || letter = '_'

def continuesName (letter : Char) : Bool :=
  letter.isAlphanum || letter = '_'

/-- A name has a letter, and none of its digits stands before the first letter. -/
def isName : List Char → Bool
  | [] => false
  | letter :: rest => if letter = '_' then isName rest else letter.isAlpha

/-- The token of a word; `none` if scripts may not use it, or if it belongs to what is left out. -/
def ofWord? (letters : List Char) : Option Token :=
  let word := String.ofList letters
  if words.contains word then some (.sign word)
  else if leftOutWords.contains word || reservedWords.contains word then none
  else if isName letters then some (.name word)
  else none

/-- What a letter adds to a number, and how many letters after it belong to the number as well. -/
structure FigurePart where
  letters : List Char
  taken : Nat
  /-- Whether a point can no longer follow. -/
  pointed : Bool
  /-- Whether an exponent can no longer follow. -/
  powered : Bool

/-- The part that a letter adds to a number, given the letter after it; `none` where the number ends.
A point ends it when a name could follow, or nothing does. -/
def figurePart? (pointed powered : Bool) (letter : Char) (next : Option Char) : Option FigurePart :=
  if letter.isDigit then some ⟨[letter], 0, pointed, powered⟩
  else if letter = '_' then some ⟨[], 0, pointed, powered⟩
  else if letter = '.' && !pointed then
    match next with
    | none => none
    | some after =>
      if after.isDigit then some ⟨[letter], 0, true, powered⟩
      else if after = '_' || after = '.' || after.isAlpha then none
      else some ⟨[letter, '0'], 0, true, powered⟩
  else if (letter = 'e' || letter = 'E') && !powered then
    match next with
    | none => none
    | some after =>
      if after.isDigit then some ⟨[letter], 0, true, true⟩
      else if after = '+' || after = '-' then some ⟨[letter, after], 1, true, true⟩
      else none
  else none

/-- The letters of a number, separators left out, and the text after it. The first `skip` letters
belong to the number already. -/
def figure (pointed powered : Bool) (skip : Nat) : List Char → List Char × List Char
  | [] => ([], [])
  | letter :: rest =>
    match skip with
    | more + 1 => figure pointed powered more rest
    | 0 =>
      match figurePart? pointed powered letter rest.head? with
      | some part =>
        let others := figure part.pointed part.powered part.taken rest
        (part.letters ++ others.1, others.2)
      | none => ([], letter :: rest)

/-- A decimal number: a whole one that does not fit into 64 bits is a double. -/
def ofFigure? (negative : Bool) (letters : List Char) : Option Token :=
  match Number.naturalOf? letters with
  | some size =>
    let number := if negative then -Int.ofNat size else Int.ofNat size
    if isInteger number then some (.integer number)
    else (Number.decimalOf? negative letters).map .real
  | none => (Number.decimalOf? negative letters).map .real

/-- The value of a digit in any base. -/
def digitIn? (base : Nat) (letter : Char) : Option Nat :=
  let value :=
    if letter.isDigit then letter.toNat - 48
    else if 'a' ≤ letter && letter ≤ 'f' then letter.toNat - 87
    else if 'A' ≤ letter && letter ≤ 'F' then letter.toNat - 55
    else 99
  if value < base then some value else none

/-- A number of 64 bits in another base; the highest bit is the sign. -/
def ofDigits? (base : Nat) (letters : List Char) : Option Token :=
  let digits := letters.filterMap (digitIn? base)
  let size := digits.foldl (fun total digit => total * base + digit) 0
  if digits.isEmpty || Number.powerOfTwo 64 ≤ size then none
  else if Number.powerOfTwo 63 ≤ size then some (.integer (Int.ofNat size - 18446744073709551616))
  else some (.integer (Int.ofNat size))

def baseOf? (letter : Char) : Option Nat :=
  if letter = 'x' || letter = 'X' then some 16
  else if letter = 'o' || letter = 'O' then some 8
  else if letter = 'b' || letter = 'B' then some 2
  else none

/-- A number that begins here with a digit, and the text after it. A number in another base has no
minus of its own. -/
def numberAt? (negative : Bool) (text : List Char) : Option (Token × List Char) :=
  let decimal := fun (_ : Unit) =>
    let parts := figure false false 0 text
    (ofFigure? negative parts.1).map fun token => (token, parts.2)
  match text with
  | '0' :: after =>
    match after.dropWhile fun letter => letter = '_' with
    | letter :: rest =>
      match baseOf? letter with
      | some base =>
        let isPart := fun letter => (digitIn? base letter).isSome || letter = '_'
        if negative then none
        else (ofDigits? base (rest.takeWhile isPart)).map fun token => (token, rest.dropWhile isPart)
      | none => decimal ()
    | [] => decimal ()
  | _ => decimal ()

/-- The character with a code in hexadecimal digits. -/
def ofCode? (digits : List Char) : Option Char :=
  if digits.any fun letter => (digitIn? 16 letter).isNone then none
  else
    let code := (digits.filterMap (digitIn? 16)).foldl (fun total digit => total * 16 + digit) 0
    if code < 0xD800 || (0xDFFF < code && code < 0x110000) then some (Char.ofNat code) else none

/-- The character that an escape stands for, given the letters after the backslash, and how many
letters it takes. -/
def escapeAt? (mark : Char) : List Char → Option (Char × Nat)
  | [] => none
  | letter :: rest =>
    if letter = '\\' then some ('\\', 1)
    else if letter = 't' then some ('\t', 1)
    else if letter = 'n' then some ('\n', 1)
    else if letter = 'r' then some ('\r', 1)
    else if letter = mark then some (mark, 1)
    else
      let count := if letter = 'x' then 2 else if letter = 'u' then 4
        else if letter = 'U' then 8 else 0
      if count = 0 || rest.length < count then none
      else (ofCode? (rest.take count)).map fun meant => (meant, count + 1)

/-- The letters of a quoted text up to its closing mark, and the text after it. A doubled mark stands
for one. A text may leave its line only behind a backslash, and only if it has a `margin`, the column
of its opening mark: blanks up to that column do not count in the next line. The first `skip` letters
belong to an escape, and `indent` letters are left up to the margin. -/
def quoted? (mark : Char) (margin : Option Nat) (indent skip : Nat) :
    List Char → Option (List Char × List Char)
  | [] => none
  | letter :: rest =>
    match skip with
    | more + 1 => quoted? mark margin (indent - 1) more rest
    | 0 =>
      if letter = mark then
        if rest.head? == some mark then
          (quoted? mark margin 0 1 rest).map fun parts => (mark :: parts.1, parts.2)
        else some ([], rest)
      else if letter = '\\' then
        match escapeAt? mark rest, margin with
        | some (meant, count), _ =>
          (quoted? mark margin (indent - 1) count rest).map fun parts => (meant :: parts.1, parts.2)
        | none, some column =>
          if rest.head? == some '\n' then quoted? mark margin (column + 1) 1 rest else none
        | none, none => none
      else if letter = '\n' then none
      else if 0 < indent && Text.isBlank letter then quoted? mark margin (indent - 1) 0 rest
      else (quoted? mark margin 0 0 rest).map fun parts => (letter :: parts.1, parts.2)

/-- The column of the first letter of `rest`, which is the end of the text `whole`. -/
def columnOf (whole rest : List Char) : Nat :=
  let before := whole.take (whole.length - rest.length)
  (before.reverse.takeWhile fun letter => letter != '\n').length + 1

/-- How a part of a raw text ends. -/
inductive PartEnd where
  | closed
  /-- An inserted value follows. -/
  | value
  deriving DecidableEq, Repr

/-- The letters of a raw text up to its closing mark or to an inserted value. -/
def rawPart? (skip : Nat) : List Char → Option (List Char × PartEnd × List Char)
  | [] => none
  | letter :: rest =>
    match skip with
    | more + 1 => rawPart? more rest
    | 0 =>
      if letter = '\x60' then
        if rest.head? == some '\x60' then
          (rawPart? 1 rest).map fun parts => (letter :: parts.1, parts.2)
        else some ([], .closed, rest)
      else if letter = '$' && rest.head? == some '{' then some ([], .value, rest.drop 1)
      else if letter = '\r' && rest.head? == some '\n' then rawPart? 0 rest
      else (rawPart? 0 rest).map fun parts => (letter :: parts.1, parts.2)

/-- A line end right after the opening mark of a raw text does not count. -/
def afterOpening : List Char → List Char
  | '\r' :: '\n' :: rest => rest
  | '\r' :: rest => rest
  | '\n' :: rest => rest
  | rest => rest

/-- The text after a comment between marks, which may hold others. -/
def afterComment (depth : Nat) : List Char → List Char
  | [] => []
  | '/' :: '*' :: rest => afterComment (depth + 1) rest
  | '*' :: '/' :: rest =>
    match depth with
    | 0 => rest
    | outer + 1 => afterComment outer rest
  | _ :: rest => afterComment depth rest

/-- Whether a text literal is longer than allowed; a limit of zero allows any length. -/
def isTooLong (limit : Nat) (letters : List Char) : Bool :=
  limit != 0 && limit < (String.ofList letters).utf8ByteSize

/-- The word for membership right after an exclamation mark, as one sign with it. -/
def notInAt? : List Char → Option (List Char)
  | '!' :: 'i' :: 'n' :: rest =>
    match rest with
    | [] => some []
    | letter :: _ => if continuesName letter then none else some rest
  | _ => none

/-- The tokens of what is left of a text. `depths` counts, for each raw text that is open, the braces
that are open in its inserted value; `operand` tells whether a minus belongs to a number after it.
Every round takes a letter, so the length of the text bounds the rounds. -/
def scan (limit : Nat) (whole : List Char) : Nat → List Nat → Bool → List Char → Option (List Token)
  | 0, _, _, _ => none
  | rounds + 1, depths, operand, source =>
    let emit := fun (token : Token) (depths : List Nat) (rest : List Char) =>
      (scan limit whole rounds depths token.beginsOperand rest).map (token :: ·)
    match source with
    | [] => if depths.isEmpty then some [] else none
    | '/' :: '/' :: rest =>
      scan limit whole rounds depths operand
        (rest.dropWhile fun letter => letter != '\n' && letter != '\r')
    | '/' :: '*' :: rest => scan limit whole rounds depths operand (afterComment 0 rest)
    | letter :: rest =>
      if Text.isBlank letter then scan limit whole rounds depths operand rest
      else if letter = '\x22' then
        match quoted? letter (some (columnOf whole source)) 0 0 rest with
        | some (letters, after) =>
          if isTooLong limit letters then none
          else emit (.text (String.ofList letters)) depths after
        | none => none
      else if letter = '\x27' then
        if rest.head? == some '\x27' then none
        else match quoted? letter none 0 0 rest with
        | some ([only], after) => emit (.character only) depths after
        | _ => none
      else if letter = '\x60' then
        match rawPart? 0 (afterOpening rest) with
        | some (letters, .closed, after) =>
          if isTooLong limit letters then none
          else emit (.text (String.ofList letters)) depths after
        | some (letters, .value, after) =>
          if isTooLong limit letters then none
          else (scan limit whole rounds (0 :: depths) true after).map
            (.firstPart (String.ofList letters) :: ·)
        | none => none
      else if letter.isDigit then
        match numberAt? false source with
        | some (token, after) => emit token depths after
        | none => none
      else if letter = '-' && operand && rest.head?.any Char.isDigit then
        match numberAt? true rest with
        | some (token, after) => emit token depths after
        | none => none
      else if beginsName letter then
        match ofWord? (source.takeWhile continuesName) with
        | some token => emit token depths (source.dropWhile continuesName)
        | none => none
      else match notInAt? source with
        | some after => emit (.sign "!in") depths after
        | none =>
          match markAt? source marks, depths with
          | some ("\x7d", _, after), 0 :: outer =>
            match rawPart? 0 after with
            | some (letters, .closed, after) =>
              if isTooLong limit letters then none
              else emit (.lastPart (String.ofList letters)) outer after
            | some (letters, .value, after) =>
              if isTooLong limit letters then none
              else (scan limit whole rounds depths true after).map
                (.middlePart (String.ofList letters) :: ·)
            | none => none
          | some (mark, allowed, after), _ =>
            if !allowed then none
            else
              let counted := match depths with
                | [] => []
                | inner :: outer =>
                  if mark = "\x7b" || mark = "#\x7b" then (inner + 1) :: outer
                  else if mark = "\x7d" then (inner - 1) :: outer
                  else inner :: outer
              emit (.sign mark) counted after
          | none, _ => none

end Token

/-- The tokens of a script text, whose text literals have at most `limit` bytes each. -/
def tokens? (limit : Nat) (text : List Char) : Option (List Token) :=
  Token.scan limit text (text.length + 1) [] true text

end Narrative.Script
