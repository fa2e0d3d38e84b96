import Narrative.Text.Hidden
import Narrative.Value

/-!
# Values inside scripts

Scripts tell whole numbers from doubles and characters from texts, and have ranges, functions and a
unit beside the values of a story. `Datum.ofValue` brings a story's value in and `Datum.value?` takes
one out; what has no counterpart in a story comes out as nothing.
-/

namespace Narrative.Script

set_option autoImplicit false

inductive Datum where
  | unit
  | boolean (flag : Bool)
  | integer (number : Int)
  | real (number : Float)
  | character (letter : Char)
  | text (letters : String)
  | list (items : List Datum)
  | object (entries : List (String × Datum))
  | range (low high : Int) (closed : Bool)
  /-- A function of the script, by its name. -/
  | function (name : String)

namespace Datum

mutual

/-- A story's value as a script sees it; all its numbers are doubles. -/
def ofValue : Value → Datum
  | .boolean flag => .boolean flag
  | .number amount => .real amount
  | .text letters => .text letters
  | .list items => .list (ofItems items)
  | .object entries => .object (ofEntries entries)

def ofItems : List Value → List Datum
  | [] => []
  | item :: rest => ofValue item :: ofItems rest

def ofEntries : List (String × Value) → List (String × Datum)
  | [] => []
  | (name, value) :: rest => (name, ofValue value) :: ofEntries rest

end

mutual

/-- The story's value that a script's value stands for. -/
def value? : Datum → Option Value
  | .unit => none
  | .boolean flag => some (.boolean flag)
  | .integer amount => some (.number (Number.ofWhole amount))
  | .real amount => some (.number amount)
  | .character letter => some (.text (String.singleton letter))
  | .text letters => some (.text letters)
  | .list items => (values? items).map .list
  | .object entries => (entryValues? entries).map .object
  | .range _ _ _ => none
  | .function _ => none

def values? : List Datum → Option (List Value)
  | [] => some []
  | item :: rest =>
    match value? item, values? rest with
    | some first, some others => some (first :: others)
    | _, _ => none

def entryValues? : List (String × Datum) → Option (List (String × Value))
  | [] => some []
  | (name, item) :: rest =>
    match value? item, entryValues? rest with
    | some first, some others => some ((name, first) :: others)
    | _, _ => none

end

/-- How much a value holds: items of lists, entries of objects and bytes of texts, at all depths. -/
structure Size where
  items : Nat
  entries : Nat
  bytes : Nat
  deriving DecidableEq, Repr

namespace Size

def none : Size := ⟨0, 0, 0⟩

def plus (left right : Size) : Size :=
  ⟨left.items + right.items, left.entries + right.entries, left.bytes + right.bytes⟩

end Size

mutual

/-- The size of a value. -/
def size : Datum → Size
  | .text letters => ⟨0, 0, letters.utf8ByteSize⟩
  | .list items => itemsSize items
  | .object entries => entriesSize entries
  | _ => Size.none

def itemsSize : List Datum → Size
  | [] => Size.none
  | item :: rest => (Size.mk 1 0 0).plus ((size item).plus (itemsSize rest))

def entriesSize : List (String × Datum) → Size
  | [] => Size.none
  | (_, item) :: rest => (Size.mk 0 1 0).plus ((size item).plus (entriesSize rest))

end

/-- A letter as it stands inside marks. Letters that would not be seen there have an escape. -/
def quoteLetter (mark letter : Char) : List Char :=
  if letter = mark || letter = '\\' then ['\\', letter]
  else if letter = '\n' then ['\\', 'n']
  else if letter = '\r' then ['\\', 'r']
  else if letter = '\t' then ['\\', 't']
  else if letter.toNat = 0 then ['\\', '0']
  else if Text.isHidden letter then
    ['\\', 'u', '\x7b'] ++ Nat.toDigits 16 letter.toNat ++ ['\x7d']
  else [letter]

/-- A text with its marks. -/
def quoted (mark : Char) (letters : List Char) : List Char :=
  mark :: letters.flatMap (quoteLetter mark) ++ [mark]

/-- The digits of a positive number as one digit, a point, the others, and the power of ten without a
plus sign. -/
def powerText (decimal : Number.Decimal) : List Char :=
  (Number.scientific decimal).filter fun letter => letter != '+'

/-- A finite number that is positional from `10 ^ (-least)` up to `10 ^ most`, with a point always, and
else has an exponent. -/
def realText (positional : Bool) (negative : Bool) (significand exponent : Nat) : List Char :=
  let decimal := Number.shortest .up significand exponent
  if positional then
    let letters := Number.positional decimal
    Number.signed negative (if letters.contains '.' then letters else letters ++ ['.', '0'])
  else Number.signed negative (powerText decimal)

/-- A double between the parts of a text: with an exponent above ten trillion and below the ten
trillionth part of one, both rounded to single precision. -/
def insertedReal (number : Float) : List Char :=
  match Number.Binary.ofFloat number with
  | .nan => ['N', 'a', 'N']
  | .infinite negative => Number.signed negative ['i', 'n', 'f']
  | .finite negative significand exponent =>
    if significand = 0 then ['0', '.', '0']
    else
      let size := Float.abs number
      let most := Number.ofDecimal false 9999999827968 0
      let least := Number.ofDecimal false 99999998245167 (-27)
      realText (!(decide (most < size) || decide (size < least))) negative significand exponent

/-- A double inside a list or an object: with an exponent from `10 ^ 16` and below `10 ^ (-4)`. -/
def nestedReal (number : Float) : List Char :=
  match Number.Binary.ofFloat number with
  | .nan => ['N', 'a', 'N']
  | .infinite negative => Number.signed negative ['i', 'n', 'f']
  | .finite negative significand exponent =>
    if significand = 0 then Number.signed negative ['0', '.', '0']
    else
      let size := Float.abs number
      let most := Number.ofDecimal false 1 16
      let least := Number.ofDecimal false 1 (-4)
      realText (decide (size < most) && decide (least ≤ size)) negative significand exponent

def rangeText (low high : Int) (closed : Bool) : List Char :=
  Number.wholeText low ++ ['.', '.'] ++ (if closed then ['='] else []) ++ Number.wholeText high

def booleanText (flag : Bool) : List Char :=
  if flag then ['t', 'r', 'u', 'e'] else ['f', 'a', 'l', 's', 'e']

def functionText (name : String) : List Char :=
  'F' :: 'n' :: '(' :: name.toList ++ [')']

/-- How a character stands inside a list or an object. -/
inductive CharacterForm where
  | bare
  | marked
  deriving DecidableEq, Repr

/-- A character in a form. -/
def CharacterForm.write : CharacterForm → Char → List Char
  | .bare, letter => [letter]
  | .marked, letter => quoted '\x27' [letter]

mutual

/-- A value as it stands inside a list or an object. -/
def nested (form : CharacterForm) : Datum → List Char
  | .unit => ['(', ')']
  | .boolean flag => booleanText flag
  | .integer amount => Number.wholeText amount
  | .real amount => nestedReal amount
  | .character letter => form.write letter
  | .text letters => quoted '\x22' letters.toList
  | .list items => '[' :: nestedItems form items
  | .object entries => '#' :: '\x7b' :: nestedEntries form entries
  | .range low high closed => rangeText low high closed
  | .function name => functionText name

def nestedItems (form : CharacterForm) : List Datum → List Char
  | [] => [']']
  | item :: rest => nested form item ++ nestedLaterItems form rest

def nestedLaterItems (form : CharacterForm) : List Datum → List Char
  | [] => [']']
  | item :: rest => ',' :: ' ' :: (nested form item ++ nestedLaterItems form rest)

def nestedEntries (form : CharacterForm) : List (String × Datum) → List Char
  | [] => ['\x7d']
  | (name, item) :: rest =>
    quoted '\x22' name.toList ++ ':' :: ' ' :: (nested form item ++ nestedLaterEntries form rest)

def nestedLaterEntries (form : CharacterForm) : List (String × Datum) → List Char
  | [] => ['\x7d']
  | (name, item) :: rest =>
    ',' :: ' ' ::
      (quoted '\x22' name.toList ++ ':' :: ' ' :: (nested form item ++ nestedLaterEntries form rest))

end

/-- The text of a value, given the text of doubles and how characters stand inside it. -/
def display (real : Float → List Char) (form : CharacterForm) : Datum → List Char
  | .unit => []
  | .boolean flag => booleanText flag
  | .integer amount => Number.wholeText amount
  | .real amount => real amount
  | .character letter => [letter]
  | .text letters => letters.toList
  | .list items => nested form (.list items)
  | .object entries => nested form (.object entries)
  | .range low high closed => rangeText low high closed
  | .function name => functionText name

/-- A value joined to a text by an operator; numbers are as the player reads them. -/
def joined (datum : Datum) : List Char :=
  datum.display Number.display .bare

/-- A value inserted into a text. -/
def inserted (datum : Datum) : List Char :=
  datum.display insertedReal .bare

/-- A value that stands in a text from the start, before the script runs. -/
def written (datum : Datum) : List Char :=
  datum.display insertedReal .marked

/-- A number as a double. -/
def float? : Datum → Option Float
  | .integer amount => some (Number.ofWhole amount)
  | .real amount => some amount
  | _ => none

/-- A character or a text as a text. -/
def letters? : Datum → Option (List Char)
  | .character letter => some [letter]
  | .text letters => some letters.toList
  | _ => none

/-- The share of its size up to which a double counts as equal to another: the gap between one and the
next double. -/
def tolerance : Float :=
  Number.withSign false 0x3CB0000000000000

def zero : Float := Number.withSign false 0

/-- The size that two doubles are compared by: the greater of theirs, or one if their product
vanishes. A double that is not a number has no part in it. -/
def scaleOf (left right : Float) : Float :=
  if left * right == zero then Number.ofWhole 1
  else
    let first := Float.abs left
    let second := Float.abs right
    if first.isNaN || decide (first < second) then second else first

/-- How far the first double is above the second, as a share of their size. -/
def excess (left right : Float) : Float :=
  (left - right) / scaleOf left right

/-- Two doubles are equal when they are close, or have no size to be compared by. -/
def closeTo (left right : Float) : Bool :=
  let scale := scaleOf left right
  scale == zero || decide (Float.abs (left - right) / scale ≤ tolerance)

/-- Two doubles are unequal when they are apart; what is not a number is hardly ever close or
apart. -/
def apartFrom (left right : Float) : Bool :=
  decide (tolerance < Float.abs (left - right) / scaleOf left right)

/-- Whether the first double goes before the second, and is not close to it. -/
def isBelow (left right : Float) : Bool :=
  decide (tolerance < excess right left)

/-- Whether the first double goes before the second, or is close to it or has no size to be compared
by. -/
def isBelowOrClose (left right : Float) : Bool :=
  let scale := scaleOf left right
  scale == zero || decide (-tolerance < excess right left)

mutual

/-- Equality of values. A whole number is compared with a double as a double, and a character is equal
to the text of it; all else is equal only within its kind, and no function is equal to another. -/
def equal : Datum → Datum → Bool
  | .unit, .unit => true
  | .boolean left, .boolean right => left == right
  | .integer left, .integer right => left == right
  | .integer left, .real right => closeTo (Number.ofWhole left) right
  | .real left, .integer right => closeTo left (Number.ofWhole right)
  | .real left, .real right => closeTo left right
  | .character left, .character right => left == right
  | .character left, .text right => right.toList == [left]
  | .text left, .character right => left.toList == [right]
  | .text left, .text right => left == right
  | .list left, .list right => equalItems left right
  | .object left, .object right => equalEntries left right
  | .range low high closed, .range otherLow otherHigh otherClosed =>
    low == otherLow && high == otherHigh && closed == otherClosed
  | _, _ => false

def equalItems : List Datum → List Datum → Bool
  | [], [] => true
  | left :: lefts, right :: rights => equal left right && equalItems lefts rights
  | _, _ => false

def equalEntries : List (String × Datum) → List (String × Datum) → Bool
  | [], [] => true
  | (leftName, left) :: lefts, (rightName, right) :: rights =>
    leftName == rightName && equal left right && equalEntries lefts rights
  | _, _ => false

end

/-- What is not equal, doubles aside. -/
def unequal (left right : Datum) : Bool :=
  match left, right with
  | .real first, .real second => apartFrom first second
  | .integer first, .real second => apartFrom (Number.ofWhole first) second
  | .real first, .integer second => apartFrom first (Number.ofWhole second)
  | _, _ => !equal left right

mutual

/-- Whether two values are the very same: of one kind, and doubles with the same bits. -/
def isExactly : Datum → Datum → Bool
  | .unit, .unit => true
  | .boolean left, .boolean right => left == right
  | .integer left, .integer right => left == right
  | .real left, .real right => left.toBits == right.toBits
  | .character left, .character right => left == right
  | .text left, .text right => left == right
  | .list left, .list right => itemsAreExactly left right
  | .object left, .object right => entriesAreExactly left right
  | .range low high closed, .range otherLow otherHigh otherClosed =>
    low == otherLow && high == otherHigh && closed == otherClosed
  | .function left, .function right => left == right
  | _, _ => false

def itemsAreExactly : List Datum → List Datum → Bool
  | [], [] => true
  | left :: lefts, right :: rights => isExactly left right && itemsAreExactly lefts rights
  | _, _ => false

def entriesAreExactly : List (String × Datum) → List (String × Datum) → Bool
  | [], [] => true
  | (leftName, left) :: lefts, (rightName, right) :: rights =>
    leftName == rightName && isExactly left right && entriesAreExactly lefts rights
  | _, _ => false

end

end Datum

end Narrative.Script
