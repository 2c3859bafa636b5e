/-
Double-precision numbers as 64-bit words, with exact integer arithmetic: a
finite word stands for plus or minus significand * 2 ^ scale. Products and
quotients are formed exactly and then rounded once, to the nearest word and from
a tie to the even one; no machine arithmetic takes part.
-/

namespace SearchRequest

structure Binary64 where
  bits : UInt64
  deriving DecidableEq, Inhabited

namespace Binary64

/-- The number of stored fraction bits. -/
def fractionWidth : Nat := 52

/-- The exponent of two that belongs to the least significant bit of a subnormal word. -/
def leastScale : Int := -1074

/-- The bit above the fraction, which a normal word leaves out. -/
def leadingBit : Nat := 0x10000000000000

def signBit : Nat := 0x8000000000000000

def isNegative (number : Binary64) : Bool :=
  number.bits.toNat / signBit == 1

def exponentField (number : Binary64) : Nat :=
  number.bits.toNat / leadingBit % 2048

def fractionField (number : Binary64) : Nat :=
  number.bits.toNat % leadingBit

def isFinite (number : Binary64) : Bool :=
  number.exponentField != 2047

/-- The integer that `2 ^ scale` multiplies. -/
def significand (number : Binary64) : Nat :=
  if number.exponentField = 0 then number.fractionField else number.fractionField + leadingBit

def scale (number : Binary64) : Int :=
  leastScale + (number.exponentField - 1 : Nat)

def isZero (number : Binary64) : Bool :=
  number.significand == 0

def ofMagnitude (negative : Bool) (magnitude : Nat) : Binary64 :=
  ⟨UInt64.ofNat (if negative then signBit + magnitude else magnitude)⟩

/-- The lower 63 bits of an infinite word. -/
def infiniteMagnitude : Nat := 2047 * leadingBit

def infinity (negative : Bool) : Binary64 :=
  ofMagnitude negative infiniteMagnitude

def notANumber : Binary64 :=
  ofMagnitude false (infiniteMagnitude + leadingBit / 2)

/-- The greatest `exponent` with `2 ^ exponent ≤ numerator / denominator`, for positive parts. -/
def floorLog2 (numerator denominator : Nat) : Int :=
  let guess : Int := (numerator.log2 : Int) - denominator.log2
  if denominator <<< guess.toNat ≤ numerator <<< (-guess).toNat then guess else guess - 1

/-- The quotient rounded to the nearest integer, a half going to the even neighbour. -/
def roundQuotient (numerator denominator : Nat) : Nat :=
  let quotient := numerator / denominator
  let remainder := numerator % denominator
  if denominator < 2 * remainder then quotient + 1
  else if denominator = 2 * remainder then quotient + quotient % 2
  else quotient

/--
The lower 63 bits of the word nearest to a positive quotient, a tie going to the
even word. The quotient is brought to 53 bits, or to fewer at the least scale; a
carry out of the rounding moves into the exponent field by itself.
-/
def nearestMagnitude (numerator denominator : Nat) : Nat :=
  let scale := max (floorLog2 numerator denominator - fractionWidth) leastScale
  let rounded := roundQuotient (numerator <<< (-scale).toNat) (denominator <<< scale.toNat)
  min ((scale - leastScale).toNat * leadingBit + rounded) infiniteMagnitude

def ofQuotient (negative : Bool) (numerator denominator : Nat) : Binary64 :=
  if numerator = 0 then ofMagnitude negative 0
  else ofMagnitude negative (nearestMagnitude numerator denominator)

def ofInt (value : Int) : Binary64 :=
  ofQuotient (decide (value < 0)) value.natAbs 1

def mul (left right : Binary64) : Binary64 :=
  let scale := left.scale + right.scale
  ofQuotient (left.isNegative != right.isNegative)
    ((left.significand * right.significand) <<< scale.toNat) (1 <<< (-scale).toNat)

/-- The rounded quotient of two finite numbers, of which the second is not zero. -/
def div (left right : Binary64) : Binary64 :=
  let scale := left.scale - right.scale
  ofQuotient (left.isNegative != right.isNegative)
    (left.significand <<< scale.toNat) (right.significand <<< (-scale).toNat)

/-- Zero has two words; every other finite number has one. -/
def sameNumber (left right : Binary64) : Bool :=
  left == right || (left.isZero && right.isZero)

end Binary64

end SearchRequest
