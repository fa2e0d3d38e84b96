import Narrative.Number.Literal

/-!
# Numbers in documents

Whether letters form a number of a document, and which number that is. Digits are collected into one
64 bit significand as long as they fit; the power of ten is applied by one multiplication or
division of doubles, so the result of a long number may differ from the nearest double in its last
bit.
-/

namespace Narrative.Json.Figure

open Narrative.Number

set_option autoImplicit false

/-- The greatest significand. -/
def significandLimit : Nat := 18446744073709551615

/-- The least whole number that is kept as such, without its sign. -/
def wholeLimit : Nat := 9223372036854775808

/-- The greatest exponent that is counted. -/
def exponentLimit : Nat := 2147483647

/-- Digits taken so far, and the power of ten that they stand before. -/
structure Collected where
  significand : Nat
  place : Int
  full : Bool
  deriving DecidableEq, Repr

/-- Takes a digit before the point; one that does not fit any more only raises the power of ten, and
so do all after it. -/
def Collected.before (taken : Collected) (letter : Char) : Collected :=
  let next := taken.significand * 10 + digitValue letter
  if taken.full || significandLimit < next then ⟨taken.significand, taken.place + 1, true⟩
  else ⟨next, taken.place, false⟩

/-- Takes a digit after the point; one that does not fit any more is dropped with all after it. -/
def Collected.after (taken : Collected) (letter : Char) : Collected :=
  let next := taken.significand * 10 + digitValue letter
  if taken.full || significandLimit < next then ⟨taken.significand, taken.place, true⟩
  else ⟨next, taken.place - 1, false⟩

/-- Applies a power of ten to a double; `none` if the result is too great. Powers below the range of
doubles are applied in several divisions, which `tries` bounds: the fourth quotient is zero. -/
def scale? : Nat → Float → Int → Option Float
  | 0, number, _ => some number
  | tries + 1, number, place =>
    if place.natAbs ≤ 308 then
      let power := ofDecimal false 1 (Int.ofNat place.natAbs)
      if place < 0 then some (number / power)
      else
        let product := number * power
        if product.isInf then none else some product
    else if number == withSign false 0 then some number
    else if 0 ≤ place then none
    else scale? tries (number / ofDecimal false 1 308) (place + 308)

/-- The number `significand * 10 ^ place`, with its sign. -/
def real? (negative : Bool) (significand : Nat) (place : Int) : Option Float :=
  (scale? 4 (ofWhole (Int.ofNat significand)) place).map fun number =>
    if negative then -number else number

/-- A number written without point and exponent. -/
def plain? (negative : Bool) (taken : Collected) : Option (Int ⊕ Float) :=
  if taken.full then (real? negative taken.significand taken.place).map .inr
  else if !negative then some (.inl (Int.ofNat taken.significand))
  else if taken.significand = 0 || wholeLimit < taken.significand then
    (real? true taken.significand 0).map .inr
  else some (.inl (-Int.ofNat taken.significand))

/-- The parts of a number's letters. -/
structure Spelling where
  negative : Bool
  whole : List Char
  /-- The digits after the point, if there is one. -/
  decimals : Option (List Char)
  /-- The sign and the digits after the letter E, if there is one. -/
  exponent : Option (Bool × List Char)
  deriving DecidableEq, Repr

/-- A whole part has a digit, and no zero before another digit. -/
def isWholePart : List Char → Bool
  | [] => false
  | ['0'] => true
  | '0' :: _ => false
  | _ => true

/-- The exponent after the mantissa; nothing may follow it. -/
def exponentPart? : List Char → Option (Option (Bool × List Char))
  | [] => some none
  | letter :: rest =>
    if letter = 'e' || letter = 'E' then
      let sign := takeSign rest
      (naturalOf? sign.2).map fun _ => some sign
    else none

/-- The parts of the letters after the sign, if they form a number. -/
def unsignedSpelling? (negative : Bool) (letters : List Char) : Option Spelling :=
  let whole := letters.takeWhile Char.isDigit
  if !isWholePart whole then none
  else match letters.dropWhile Char.isDigit with
    | '.' :: rest =>
      let decimals := rest.takeWhile Char.isDigit
      if decimals.isEmpty then none
      else (exponentPart? (rest.dropWhile Char.isDigit)).map fun exponent =>
        ⟨negative, whole, some decimals, exponent⟩
    | rest => (exponentPart? rest).map fun exponent => ⟨negative, whole, none, exponent⟩

/-- The parts of the letters, if they form a number. -/
def spelling? (letters : List Char) : Option Spelling :=
  match letters with
  | '-' :: rest => unsignedSpelling? true rest
  | _ => unsignedSpelling? false letters

/-- The number that a spelling stands for; `none` if it is out of range. -/
def Spelling.value? (spelling : Spelling) : Option (Int ⊕ Float) :=
  let whole := spelling.whole.foldl Collected.before ⟨0, 0, false⟩
  match spelling.decimals, spelling.exponent with
  | none, none => plain? spelling.negative whole
  | decimals, exponent =>
    let start : Collected := ⟨whole.significand, whole.place, false⟩
    let taken := (decimals.getD []).foldl Collected.after start
    match exponent with
    | none => (real? spelling.negative taken.significand taken.place).map .inr
    | some (downward, digits) =>
      let power := digitsValue 0 digits
      if exponentLimit < power then
        if taken.significand = 0 || downward then
          some (.inr (withSign spelling.negative 0))
        else none
      else
        let place := if downward then taken.place - Int.ofNat power
          else taken.place + Int.ofNat power
        (real? spelling.negative taken.significand place).map .inr

end Narrative.Json.Figure
