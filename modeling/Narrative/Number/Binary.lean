/-!
# Doubles as exact numbers

A finite double is a sign and `significand * 2 ^ exponent` units of `2 ^ (-1074)`, the least positive
double. `Binary.ofFloat` and `Binary.toFloat` go between the two readings, and `roundQuotient` gives
the double nearest to a fraction, a tie going to the even significand.
-/

namespace Narrative.Number

set_option autoImplicit false

/-- What a double stands for. -/
inductive Binary where
  | nan
  | infinite (negative : Bool)
  /-- `significand * 2 ^ exponent` units of `2 ^ (-1074)`, with the sign told apart even at zero. -/
  | finite (negative : Bool) (significand exponent : Nat)
  deriving DecidableEq, Repr

/-- `2 ^ count`. -/
def powerOfTwo (count : Nat) : Nat :=
  Nat.pow 2 count

/-- `10 ^ count`. -/
def powerOfTen (count : Nat) : Nat :=
  Nat.pow 10 count

/-- Significands stay below this bound; those of normal doubles reach half of it. -/
def significandBound : Nat := 9007199254740992

/-- The significand of a normal double has at least this size. -/
def hiddenBit : Nat := 4503599627370496

/-- The bit pattern of positive infinity, and the number of finite doubles that are not negative. -/
def infinityBits : Nat := 0x7FF0000000000000

/-- The bit that marks a negative double. -/
def signBit : Nat := 0x8000000000000000

/-- The double with a sign and the remaining 63 bits, every pattern past infinity meaning infinity. -/
def withSign (negative : Bool) (magnitude : Nat) : Float :=
  let clamped := if magnitude < infinityBits then magnitude else infinityBits
  Float.ofBits (UInt64.ofNat (if negative then signBit + clamped else clamped))

def quietNan : Float := Float.ofBits 0x7FF8000000000000

namespace Binary

/-- Reads a bit pattern. -/
def ofBits (bits : Nat) : Binary :=
  let negative := signBit ≤ bits
  let magnitude := bits % signBit
  let field := magnitude / hiddenBit
  let fraction := magnitude % hiddenBit
  if field = 2047 then (if fraction = 0 then .infinite negative else .nan)
  else if field = 0 then .finite negative fraction 0
  else .finite negative (hiddenBit + fraction) (field - 1)

def ofFloat (number : Float) : Binary :=
  ofBits number.toBits.toNat

/-- A significand with its hidden bit carries by itself into the exponent field, so one sum serves
normal and subnormal doubles alike. -/
def toFloat : Binary → Float
  | .nan => quietNan
  | .infinite negative => withSign negative infinityBits
  | .finite negative significand exponent => withSign negative (exponent * hiddenBit + significand)

end Binary

/-- The quotient to the nearest whole number, ties to even. -/
def nearestEven (numerator denominator : Nat) : Nat :=
  let quotient := numerator / denominator
  let doubled := 2 * (numerator % denominator)
  if doubled < denominator then quotient
  else if doubled = denominator then quotient + quotient % 2
  else quotient + 1

/-- The double nearest to `numerator / denominator`; the denominator is positive. -/
def roundQuotient (negative : Bool) (numerator denominator : Nat) : Float :=
  let units := numerator * powerOfTwo 1074
  let exponent := Nat.log2 (units / denominator) - 52
  withSign negative
    (exponent * hiddenBit + nearestEven units (denominator * powerOfTwo exponent))

/-- The double nearest to `digits * 10 ^ place`. Places beyond the range of doubles are settled by
the number of digits alone, so that no huge power is formed. -/
def ofDecimal (negative : Bool) (digits : Nat) (place : Int) : Float :=
  if digits = 0 then withSign negative 0
  else if 400 < place then withSign negative infinityBits
  else if 0 ≤ place then roundQuotient negative (digits * powerOfTen place.toNat) 1
  else if place + Int.ofNat (Nat.log2 digits) < -1200 then withSign negative 0
  else roundQuotient negative digits (powerOfTen (-place).toNat)

/-- The double nearest to a whole number. -/
def ofWhole (whole : Int) : Float :=
  roundQuotient (decide (whole < 0)) whole.natAbs 1

/-- Whole part of the magnitude, and whether anything is left after it. -/
structure Parts where
  whole : Nat
  remainder : Nat
  deriving DecidableEq, Repr

/-- Splits `significand * 2 ^ exponent` units into whole part and remaining units. -/
def parts (significand exponent : Nat) : Parts :=
  let units := significand * powerOfTwo exponent
  ⟨units / powerOfTwo 1074, units % powerOfTwo 1074⟩

/-- The whole number that a double is, if it is one of magnitude below `2 ^ 53`. -/
def whole? (number : Float) : Option Int :=
  match Binary.ofFloat number with
  | .finite negative significand exponent =>
    let split := parts significand exponent
    if split.remainder = 0 ∧ split.whole < significandBound then
      some (if negative then -Int.ofNat split.whole else Int.ofNat split.whole)
    else none
  | _ => none

/-- Neither infinite nor not-a-number. -/
def isFinite (number : Float) : Bool :=
  match Binary.ofFloat number with
  | .finite _ _ _ => true
  | _ => false

/-- Equality in which not-a-number matches itself; the two zeros are equal. -/
def same (left right : Float) : Bool :=
  (left.isNaN && right.isNaN) || left == right

end Narrative.Number
