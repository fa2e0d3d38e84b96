import Narrative.Json.Writer
import Narrative.Number.Literal

/-!
# Values

The values that scripts and conditions work on, their texts, their readings as documents and back,
and two equalities: ordinary equality, in which not-a-number differs from itself, and sameness, in
which it does not.
-/

namespace Narrative

set_option autoImplicit false

/-- A value at run time. The entries of an object are in the order of their names. -/
inductive Value where
  | boolean (flag : Bool)
  | number (amount : Float)
  | text (letters : String)
  | list (items : List Value)
  | object (entries : List (String × Value))

namespace Value

/-- The name of the kind of a value. -/
def kindName : Value → String
  | .boolean _ => "boolean"
  | .number _ => "number"
  | .text _ => "string"
  | .list _ => "array"
  | .object _ => "object"

def text? : Value → Option String
  | .text letters => some letters
  | _ => none

def number? : Value → Option Float
  | .number amount => some amount
  | _ => none

/-- The number that a value counts as in an ordering; not-a-number if it counts as none. -/
def toNumber : Value → Float
  | .number amount => amount
  | .boolean flag => if flag then Number.ofWhole 1 else Number.ofWhole 0
  | .text letters => Number.ofText letters.toList
  | .list _ => Number.quietNan
  | .object _ => Number.quietNan

mutual

/-- Equality of two values of one kind, position by position, with `numbers` deciding on numbers. -/
def agree (numbers : Float → Float → Bool) : Value → Value → Bool
  | .boolean left, .boolean right => left == right
  | .number left, .number right => numbers left right
  | .text left, .text right => left == right
  | .list left, .list right => agreeItems numbers left right
  | .object left, .object right => agreeEntries numbers left right
  | _, _ => false

def agreeItems (numbers : Float → Float → Bool) : List Value → List Value → Bool
  | [], [] => true
  | left :: lefts, right :: rights => agree numbers left right && agreeItems numbers lefts rights
  | _, _ => false

def agreeEntries (numbers : Float → Float → Bool) :
    List (String × Value) → List (String × Value) → Bool
  | [], [] => true
  | (leftName, left) :: lefts, (rightName, right) :: rights =>
    leftName == rightName && agree numbers left right && agreeEntries numbers lefts rights
  | _, _ => false

end

/-- Ordinary equality. -/
def equal (left right : Value) : Bool :=
  agree (· == ·) left right

/-- Equality in which not-a-number matches itself, at any depth. -/
def same (left right : Value) : Bool :=
  agree Number.same left right

/-- A number in a document: without a point if it is whole and below `2 ^ 53`. -/
def numberJson (amount : Float) : Json :=
  match Number.whole? amount with
  | some whole => .whole whole
  | none => if Number.isFinite amount then .real amount else .null

mutual

/-- The document that a value is written as. -/
def toJson : Value → Json
  | .boolean flag => .boolean flag
  | .number amount => numberJson amount
  | .text letters => .text letters
  | .list items => .list (itemsToJson items)
  | .object entries => .object (entriesToJson entries)

def itemsToJson : List Value → List Json
  | [] => []
  | item :: rest => toJson item :: itemsToJson rest

def entriesToJson : List (String × Value) → List (String × Json)
  | [] => []
  | (name, value) :: rest => (name, toJson value) :: entriesToJson rest

end

mutual

/-- The value that a document stands for; null stands for not-a-number. -/
def ofJson : Json → Value
  | .null => .number Number.quietNan
  | .boolean flag => .boolean flag
  | .whole amount => .number (Number.ofWhole amount)
  | .real amount => .number amount
  | .text letters => .text letters
  | .list items => .list (itemsOfJson items)
  | .object members => .object (entriesOfJson members)

def itemsOfJson : List Json → List Value
  | [] => []
  | item :: rest => ofJson item :: itemsOfJson rest

def entriesOfJson : List (String × Json) → List (String × Value)
  | [] => []
  | (name, member) :: rest => (name, ofJson member) :: entriesOfJson rest

end

/-- The text of a number as the player reads it. -/
def numberText (amount : Float) : String :=
  String.ofList (Number.display amount)

def booleanText (flag : Bool) : String :=
  if flag then "true" else "false"

/-- What the player reads: lists and objects as compact documents. -/
def display : Value → String
  | .boolean flag => booleanText flag
  | .number amount => numberText amount
  | .text letters => letters
  | .list items => (Json.list (itemsToJson items)).compactText
  | .object entries => (Json.object (entriesToJson entries)).compactText

/-- Whether the text stands for truth. -/
def textTruth (letters : String) : Bool :=
  Text.trimmed letters == "true"

/-- The truth of a value in a boolean variable. -/
def truth : Value → Bool
  | .boolean flag => flag
  | .text letters => textTruth letters
  | .number amount => !(amount == Number.ofWhole 0) && !amount.isNaN
  | .list _ => false
  | .object _ => false

end Value

end Narrative
