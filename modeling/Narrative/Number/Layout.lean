import Narrative.Number.Shortest

/-!
# Number texts

Two ways to write a double: as the player reads it, never with an exponent, and as a document holds
it, where very large and very small numbers have one.
-/

namespace Narrative.Number

set_option autoImplicit false

/-- Decimal digits of a whole number. -/
def digitsOf (number : Nat) : List Char :=
  Nat.toDigits 10 number

def signed (negative : Bool) (letters : List Char) : List Char :=
  if negative then '-' :: letters else letters

def zeros (count : Nat) : List Char :=
  List.replicate count '0'

/-- The whole number, with a sign when it is negative. -/
def wholeText (number : Int) : List Char :=
  signed (decide (number < 0)) (digitsOf number.natAbs)

/-- Digits with the point where the place puts it; nothing follows the digits of a whole number. -/
def positional (decimal : Decimal) : List Char :=
  let letters := digitsOf decimal.digits
  if 0 ≤ decimal.place then letters ++ zeros decimal.place.toNat
  else
    let decimals := (-decimal.place).toNat
    if decimals < letters.length then
      letters.take (letters.length - decimals) ++ '.' :: letters.drop (letters.length - decimals)
    else '0' :: '.' :: zeros (decimals - letters.length) ++ letters

/-- The digits as one digit, a point, the others, and the power of ten. -/
def scientific (decimal : Decimal) : List Char :=
  let letters := digitsOf decimal.digits
  let power := decimal.place + Int.ofNat letters.length - 1
  let mantissa := match letters with
    | [] => []
    | [only] => [only]
    | first :: others => first :: '.' :: others
  mantissa ++ 'e' :: (if power < 0 then '-' else '+') :: digitsOf power.natAbs

/-- A number as the player reads it: the whole part alone if what is left is below the precision of
the number one, else the shortest decimal. -/
def display (number : Float) : List Char :=
  match Binary.ofFloat number with
  | .nan => ['N', 'a', 'N']
  | .infinite negative => signed negative ['I', 'n', 'f', 'i', 'n', 'i', 't', 'y']
  | .finite negative significand exponent =>
    let split := parts significand exponent
    if split.remainder < powerOfTwo 1022 ∧ split.whole < significandBound then
      signed (negative && split.whole != 0) (digitsOf split.whole)
    else signed negative (positional (shortest .up significand exponent))

/-- A finite number as documents hold it: a point is always there unless there is an exponent, which
stands for numbers of `10 ^ 16` and more and for those below `10 ^ (-5)`. -/
def documentText (negative : Bool) (significand exponent : Nat) : List Char :=
  let decimal := shortest .even significand exponent
  let size := Int.ofNat (digitsOf decimal.digits).length + decimal.place
  if decimal.digits = 0 then signed negative ['0', '.', '0']
  else if 16 < size ∨ size ≤ -5 then signed negative (scientific decimal)
  else if 0 ≤ decimal.place then signed negative (positional decimal ++ ['.', '0'])
  else signed negative (positional decimal)

end Narrative.Number
