import Narrative.Number.Binary
import Narrative.Text.Blank

/-!
# Reading number texts

A number written by an author: an optional sign, then digits with or without a point and an
exponent, or one of the words for infinity and not-a-number. Anything else reads as not-a-number.
-/

namespace Narrative.Number

set_option autoImplicit false

def digitValue (letter : Char) : Nat :=
  letter.toNat - 48

/-- The number that a run of decimal digits spells, continuing from `start`. -/
def digitsValue (start : Nat) (letters : List Char) : Nat :=
  letters.foldl (fun total letter => 10 * total + digitValue letter) start

/-- An optional sign: whether it is a minus, and what follows. -/
def takeSign : List Char → Bool × List Char
  | '-' :: rest => (true, rest)
  | '+' :: rest => (false, rest)
  | letters => (false, letters)

/-- A text of one or more decimal digits. -/
def naturalOf? (letters : List Char) : Option Nat :=
  if letters.isEmpty || letters.any (fun letter => !letter.isDigit) then none
  else some (digitsValue 0 letters)

/-- Digits with an optional sign. -/
def integerOf? (letters : List Char) : Option Int :=
  let sign := takeSign letters
  (naturalOf? sign.2).map fun size => if sign.1 then -Int.ofNat size else Int.ofNat size

/-- What may follow the digits of a mantissa: nothing, or the letter E and an exponent. -/
def exponentOf? : List Char → Option Int
  | [] => some 0
  | letter :: rest => if letter = 'e' || letter = 'E' then integerOf? rest else none

/-- An unsigned decimal: the digits before and after the point, of which there is at least one, and
the exponent. -/
def decimalOf? (negative : Bool) (letters : List Char) : Option Float :=
  let before := letters.takeWhile Char.isDigit
  let rest := letters.dropWhile Char.isDigit
  let after := match rest with
    | '.' :: more => more.takeWhile Char.isDigit
    | _ => []
  let tail := match rest with
    | '.' :: more => more.dropWhile Char.isDigit
    | _ => rest
  if before.isEmpty && after.isEmpty then none
  else (exponentOf? tail).map fun exponent =>
    ofDecimal negative (digitsValue (digitsValue 0 before) after)
      (exponent - Int.ofNat after.length)

/-- A number text without blanks around it. -/
def float? (letters : List Char) : Option Float :=
  let sign := takeSign letters
  let word := String.ofList (Text.lowerAscii sign.2)
  if word == "inf" || word == "infinity" then some (withSign sign.1 infinityBits)
  else if word == "nan" then some quietNan
  else decimalOf? sign.1 sign.2

/-- The number that a text spells, blanks around it aside; not-a-number if it spells none. -/
def ofText (letters : List Char) : Float :=
  (float? (Text.trim letters)).getD quietNan

/-- A count: digits after an optional plus sign, below `2 ^ 64`. -/
def count? (letters : List Char) : Option Nat :=
  let digits := match letters with
    | '+' :: rest => rest
    | _ => letters
  (naturalOf? digits).bind fun number =>
    if number < powerOfTwo 64 then some number else none

end Narrative.Number
