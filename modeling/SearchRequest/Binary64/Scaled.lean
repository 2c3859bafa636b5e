/-
An integer times a power of ten, computed in double precision. The integer, each
power of ten and each product or quotient are rounded one after the other, so the
result need not be the word nearest to the exact value.
-/

import SearchRequest.Binary64

namespace SearchRequest.Binary64

/-- The exponent of the largest finite power of ten. -/
def largestPower : Nat := 308

def powerOfTen (exponent : Nat) : Binary64 :=
  ofQuotient false (Nat.pow 10 exponent) 1

/-- A single product; beyond the largest power everything but zero is infinite. -/
def scaleUp (value : Binary64) (exponent : Nat) : Binary64 :=
  if value.isZero then value
  else if exponent ≤ largestPower then value.mul (powerOfTen exponent)
  else infinity value.isNegative

/-- Divides by the largest power a number of times; zero stays as it is. -/
def divideByLargest : Nat → Binary64 → Binary64
  | 0, value => value
  | steps + 1, value =>
      if value.isZero then value
      else divideByLargest steps (value.div (powerOfTen largestPower))

/-- The last quotient takes between one and all of the places that one step can take. -/
def scaleDown (value : Binary64) (places : Nat) : Binary64 :=
  let steps := (places - 1) / largestPower
  (divideByLargest steps value).div (powerOfTen (places - steps * largestPower))

def ofScaled (negative : Bool) (digits : Nat) (exponent : Int) : Binary64 :=
  let value := ofQuotient negative digits 1
  if 0 ≤ exponent then value.scaleUp exponent.toNat else value.scaleDown (-exponent).toNat

end SearchRequest.Binary64
