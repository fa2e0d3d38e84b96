import Narrative.Number.Binary

/-!
# Shortest decimals

The decimal with the fewest digits among those that a double is the nearest double to; of several
such decimals the one closest to the double. Everything is exact arithmetic on whole numbers.
-/

namespace Narrative.Number

set_option autoImplicit false

/-- `digits * 10 ^ place`. -/
structure Decimal where
  digits : Nat
  place : Int
  deriving DecidableEq, Repr

/-- Which way a double goes that lies halfway between two equally short decimals. -/
inductive Tie where
  | up
  | even
  deriving DecidableEq, Repr

/-- The decimals that read back as a positive double, in units of `2 ^ (-1076)`: from `low` to
`high` around `middle`, ends included when the significand is even. -/
structure Neighbourhood where
  low : Nat
  middle : Nat
  high : Nat
  closed : Bool
  deriving DecidableEq, Repr

/-- Half the gap to the next double on either side. Below a power of two the gap is half as wide. -/
def neighbourhood (significand exponent : Nat) : Neighbourhood :=
  let unit := powerOfTwo exponent
  let below := if significand = hiddenBit ∧ 0 < exponent then 1 else 2
  { low := (4 * significand - below) * unit
    middle := 4 * significand * unit
    high := (4 * significand + 2) * unit
    closed := significand % 2 = 0 }

/-- Whether `numerator / denominator` is in the neighbourhood stretched by `scale`. -/
def Neighbourhood.holds (around : Neighbourhood) (scale point : Nat) : Bool :=
  if around.closed then around.low * scale ≤ point && point ≤ around.high * scale
  else around.low * scale < point && point < around.high * scale

/-- The multiple of `10 ^ place` in the neighbourhood that is closest to its middle, if one of the
middle's two neighbours on that grid is inside. -/
def Neighbourhood.atPlace? (around : Neighbourhood) (tie : Tie) (place : Int) : Option Nat :=
  let scale := powerOfTen (-place).toNat
  let step := powerOfTwo 1076 * powerOfTen place.toNat
  let value := around.middle * scale
  let lower := value / step
  let upper := lower + 1
  match around.holds scale (lower * step), around.holds scale (upper * step) with
  | false, false => none
  | true, false => some lower
  | false, true => some upper
  | true, true =>
    let before := value - lower * step
    let after := upper * step - value
    if before < after then some lower
    else if after < before then some upper
    else match tie with
      | .up => some upper
      | .even => some (if lower % 2 = 0 then lower else upper)

/-- Tries ever finer grids, beginning at `place`. -/
def Neighbourhood.search (around : Neighbourhood) (tie : Tie) : Nat → Int → Decimal
  | 0, place => ⟨0, place⟩
  | tries + 1, place =>
    match around.atPlace? tie place with
    | some digits => ⟨digits, place⟩
    | none => around.search tie tries (place - 1)

/-- The shortest decimal of `significand * 2 ^ exponent` units. No grid coarser than the first one
tried has a positive point in the neighbourhood. -/
def shortest (tie : Tie) (significand exponent : Nat) : Decimal :=
  if significand = 0 then ⟨0, 0⟩
  else
    let around := neighbourhood significand exponent
    let coarsest := (Int.ofNat (Nat.log2 around.high) - 1076) * 30103 / 100000 + 2
    around.search tie 400 coarsest

end Narrative.Number
