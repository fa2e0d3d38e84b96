import Narrative.Script.Token
import Narrative.Script.Tree
import Narrative.Text.Pieces

/-!
# Operators of scripts

What operators make of two values. Whole numbers have 64 bits and a sign, and a result that does not
fit is a failure; with a double on either side the operation is one of doubles. The quotient of whole
numbers is a double, except in a compound assignment. Nothing is the result where the operands do not
fit the operator.
-/

namespace Narrative.Script

set_option autoImplicit false

namespace Datum

/-- A whole number, if it fits. -/
def whole? (number : Int) : Option Datum :=
  if Token.isInteger number then some (.integer number) else none

/-- A power of whole numbers; a great exponent fits only a base of zero or one. -/
def wholePower? (base exponent : Int) : Option Datum :=
  if exponent < 0 || 4294967295 < exponent then none
  else if base.natAbs ≤ 1 then
    if exponent = 0 then some (.integer 1)
    else if base = -1 && exponent.natAbs % 2 = 0 then some (.integer 1)
    else some (.integer base)
  else if 64 ≤ exponent then none
  else
    let size := Nat.pow base.natAbs exponent.natAbs
    whole? (if base < 0 && exponent.natAbs % 2 = 1 then -Int.ofNat size else Int.ofNat size)

/-- The bits of a whole number as a word. -/
def word (number : Int) : UInt64 :=
  (Int64.ofInt number).toUInt64

def ofWord (bits : UInt64) : Datum :=
  .integer bits.toInt64.toInt

/-- Bits moved up, bits above the highest dropped. -/
def movedUp (number : Int) (count : Nat) : Datum :=
  if 64 ≤ count then .integer 0 else ofWord (word number <<< UInt64.ofNat count)

/-- Bits moved down, the sign kept. -/
def movedDown (number : Int) (count : Nat) : Datum :=
  if 64 ≤ count then .integer (if number < 0 then -1 else 0)
  else .integer (Int.fdiv number (Int.ofNat (Number.powerOfTwo count)))

def shiftLeft (number count : Int) : Datum :=
  if count < 0 then movedDown number count.natAbs else movedUp number count.natAbs

def shiftRight (number count : Int) : Datum :=
  if count < 0 then movedUp number count.natAbs else movedDown number count.natAbs

/-- The remainder of doubles, with the sign of the first, exact. -/
def realRemainder (left right : Float) : Float :=
  match Number.Binary.ofFloat left, Number.Binary.ofFloat right with
  | .finite negative significand exponent, .finite _ divisor power =>
    if divisor = 0 then Number.quietNan
    else
      let units := significand * Number.powerOfTwo exponent
      let step := divisor * Number.powerOfTwo power
      Number.roundQuotient negative (units % step) (Number.powerOfTwo 1074)
  | .finite _ _ _, .infinite _ => left
  | _, _ => Number.quietNan

/-- An operation on whole numbers. -/
def wholeOperation? (operator : Operator) (left right : Int) : Option Datum :=
  match operator with
  | .add => whole? (left + right)
  | .subtract => whole? (left - right)
  | .multiply => whole? (left * right)
  | .divide => some (.real (Number.ofWhole left / Number.ofWhole right))
  | .remainder =>
    if right = 0 then none
    else if right = -1 && !Token.isInteger (-left) then none
    else whole? (Int.tmod left right)
  | .power => wholePower? left right
  | .shiftLeft => some (shiftLeft left right)
  | .shiftRight => some (shiftRight left right)
  | .bitAnd => some (ofWord (word left &&& word right))
  | .bitOr => some (ofWord (word left ||| word right))
  | .bitXor => some (ofWord (word left ^^^ word right))
  | _ => none

/-- An operation on doubles. -/
def realOperation? (operator : Operator) (left right : Float) : Option Datum :=
  match operator with
  | .add => some (.real (left + right))
  | .subtract => some (.real (left - right))
  | .multiply => some (.real (left * right))
  | .divide => some (.real (left / right))
  | .remainder => some (.real (realRemainder left right))
  | .power => some (.real (Float.pow left right))
  | _ => none

/-- An operation on two numbers; with a double on either side it is one of doubles. -/
def numberOperation? (operator : Operator) (left right : Datum) : Option Datum :=
  match left, right with
  | .integer first, .integer second => wholeOperation? operator first second
  | .real first, .integer second => realOperation? operator first (Number.ofWhole second)
  | .integer first, .real second => realOperation? operator (Number.ofWhole first) second
  | .real first, .real second => realOperation? operator first second
  | _, _ => none

/-- An operation on truth values. -/
def booleanOperation? (operator : Operator) (left right : Bool) : Option Datum :=
  match operator with
  | .bitAnd => some (.boolean (left && right))
  | .bitOr => some (.boolean (left || right))
  | .bitXor => some (.boolean (left != right))
  | _ => none

/-- A text without a part of it, wherever that stands. -/
def without (part text : List Char) : List Char :=
  Text.replace part [] text

/-- An operation on texts. Anything may be joined to a text. -/
def textOperation? (operator : Operator) (left right : Datum) : Option Datum :=
  match operator, left, right with
  | .add, .text letters, other => some (.text (letters ++ String.ofList other.joined))
  | .add, other, .text letters => some (.text (String.ofList other.joined ++ letters))
  | .add, .character first, .character second => some (.text (String.ofList [first, second]))
  | .subtract, .text letters, .text part =>
    some (.text (String.ofList (without part.toList letters.toList)))
  | .subtract, .text letters, .character part =>
    some (.text (String.ofList (without [part] letters.toList)))
  | _, _, _ => none

/-- An operation on lists and objects. -/
def collectionOperation? (operator : Operator) (left right : Datum) : Option Datum :=
  match operator, left, right with
  | .add, .list first, .list second => some (.list (first ++ second))
  | .add, .object first, .object second =>
    some (.object (second.foldl (fun entries entry => Keyed.insert entry.1 entry.2 entries) first))
  | _, _, _ => none

/-- The order of two values of kinds that have one: whether the first goes before the second. -/
def isBefore? (left right : Datum) : Option Bool :=
  match left, right with
  | .integer first, .integer second => some (decide (first < second))
  | .boolean first, .boolean second => some (!first && second)
  | _, _ =>
    match left.letters?, right.letters? with
    | some first, some second => some (lettersBefore first second)
    | _, _ =>
      match left.float?, right.float? with
      | some first, some second => some (isBelow first second)
      | _, _ => none

/-- Whether the first value goes before the second or equals it. -/
def isAtMost? (left right : Datum) : Option Bool :=
  match left, right with
  | .integer first, .integer second => some (decide (first ≤ second))
  | .boolean first, .boolean second => some (!first || second)
  | _, _ =>
    match left.letters?, right.letters? with
    | some first, some second => some (!lettersBefore second first)
    | _, _ =>
      match left.float?, right.float? with
      | some first, some second => some (isBelowOrClose first second)
      | _, _ => none

/-- Two values of one kind that has no order. -/
def isUnordered (left right : Datum) : Bool :=
  match left, right with
  | .list _, .list _ => true
  | .object _, .object _ => true
  | .range _ _ closed, .range _ _ otherClosed => closed == otherClosed
  | .function _, .function _ => true
  | _, _ => false

/-- What a comparison by order gives: a failure within a kind that has no order, and false between
kinds. -/
def ordered? (left right : Datum) (found : Option Bool) : Option Datum :=
  if isUnordered left right then none else some (.boolean (found.getD false))

mutual

/-- Whether finding out if two values are equal meets two functions, which cannot be compared with each
other. -/
def isIncomparable : Datum → Datum → Bool
  | .function _, .function _ => true
  | .list left, .list right => left.length == right.length && itemsAreIncomparable left right
  | .object left, .object right => left.length == right.length && entriesAreIncomparable left right
  | _, _ => false

def itemsAreIncomparable : List Datum → List Datum → Bool
  | left :: lefts, right :: rights =>
    isIncomparable left right || (left.equal right && itemsAreIncomparable lefts rights)
  | _, _ => false

def entriesAreIncomparable : List (String × Datum) → List (String × Datum) → Bool
  | (leftName, left) :: lefts, (rightName, right) :: rights =>
    leftName == rightName &&
      (isIncomparable left right || (left.equal right && entriesAreIncomparable lefts rights))
  | _, _ => false

end

/-- Whether one of some items is equal to another value; nothing if an item before it cannot be compared
with it. -/
def holds? (item : Datum) : List Datum → Option Bool
  | [] => some false
  | found :: rest =>
    if isIncomparable found item then none
    else if found.equal item then some true
    else holds? item rest

/-- Whether a part stands anywhere in a text. -/
def hasPart (part : List Char) : List Char → Bool
  | [] => part.isEmpty
  | letter :: rest => (Text.after? part (letter :: rest)).isSome || hasPart part rest

/-- Whether a container holds a value. -/
def contains? (container item : Datum) : Option Bool :=
  match container, item with
  | .list items, _ => holds? item items
  | .object entries, .text name => some (Keyed.find? name entries).isSome
  | .text letters, .text part => some (hasPart part.toList letters.toList)
  | .text letters, .character letter => some (letters.toList.contains letter)
  | .range low high closed, .integer number =>
    some (low ≤ number && (number < high || (closed && number == high)))
  | _, _ => none

/-- The first of several readings that gives something. -/
def firstOf : List (Option Datum) → Option Datum
  | [] => none
  | some found :: _ => some found
  | none :: rest => firstOf rest

/-- What an operator makes of two values. -/
def combine? (operator : Operator) (left right : Datum) : Option Datum :=
  match operator with
  | .equal => if isIncomparable left right then none else some (.boolean (left.equal right))
  | .unequal => if isIncomparable left right then none else some (.boolean (left.unequal right))
  | .less => ordered? left right (isBefore? left right)
  | .atMost => ordered? left right (isAtMost? left right)
  | .greater => ordered? left right (isBefore? right left)
  | .atLeast => ordered? left right (isAtMost? right left)
  | .upTo =>
    match left, right with
    | .integer low, .integer high => some (.range low high false)
    | _, _ => none
  | .through =>
    match left, right with
    | .integer low, .integer high => some (.range low high true)
    | _, _ => none
  | _ =>
    match left, right with
    | .boolean first, .boolean second => booleanOperation? operator first second
    | _, _ =>
      firstOf [numberOperation? operator left right, textOperation? operator left right,
        collectionOperation? operator left right]

/-- The kinds of values, characters and texts being one. -/
def kindNumber : Datum → Nat
  | .unit => 0
  | .boolean _ => 1
  | .integer _ => 2
  | .real _ => 3
  | .character _ => 4
  | .text _ => 4
  | .list _ => 5
  | .object _ => 6
  | .range _ _ false => 7
  | .range _ _ true => 8
  | .function _ => 9

/-- Whether an operator only compares. -/
def compares : Operator → Bool
  | .equal => true
  | .unequal => true
  | .less => true
  | .atMost => true
  | .greater => true
  | .atLeast => true
  | _ => false

/-- Whether the result for two values is plain from what a script says, before it runs: numbers and
texts among themselves, and comparisons between kinds. The quotient of whole numbers and a text with
another value are worked out only when they are needed. -/
def isPlain (operator : Operator) (left right : Datum) : Bool :=
  match left, right with
  | .integer _, .integer _ => operator != .divide
  | .integer _, .real _ => true
  | .real _, .integer _ => true
  | .real _, .real _ => true
  | .boolean _, .boolean _ => true
  | .character _, .character _ => true
  | .character _, .text _ => true
  | .text _, .character _ => true
  | .text _, .text _ => true
  | .unit, .unit => compares operator
  | .range _ _ _, .range _ _ _ => operator == .equal || operator == .unequal
  | _, _ => compares operator && left.kindNumber != right.kindNumber

/-- What an operator makes of two values before a script runs. -/
def plain? (operator : Operator) (left right : Datum) : Option Datum :=
  if isPlain operator left right then combine? operator left right else none

/-- What a compound assignment puts in the place of a value. The quotient of whole numbers is whole,
and a value that is no list is put at the end of one. -/
def assign? (operator : Operator) (current change : Datum) : Option Datum :=
  match operator, current, change with
  | .divide, .integer left, .integer right =>
    if right = 0 then none else whole? (Int.tdiv left right)
  | .add, .list items, .list others => some (.list (items ++ others))
  | .add, .list items, other => some (.list (items ++ [other]))
  | _, _, _ => combine? operator current change

/-- What a sign makes of a value. -/
def sign? (sign : Sign) (operand : Datum) : Option Datum :=
  match sign, operand with
  | .plus, .integer number => some (.integer number)
  | .plus, .real number => some (.real number)
  | .minus, .integer number => whole? (-number)
  | .minus, .real number => some (.real (-number))
  | .negation, .boolean flag => some (.boolean (!flag))
  | _, _ => none

end Datum

end Narrative.Script
