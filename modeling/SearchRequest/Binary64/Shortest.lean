/-
The shortest decimal that reads back as a given finite, nonzero word. Of the
decimals with the fewest digits inside the rounding interval of the word the
nearest is taken, and an exact tie goes to the even last digit.
-/

import SearchRequest.Binary64
import SearchRequest.Text.Digits

namespace SearchRequest

/-- The number `digits * 10 ^ exponent`. -/
structure Decimal where
  digits : Nat
  exponent : Int
  deriving DecidableEq, Repr

namespace Binary64

/--
The reals that round to a word, each divided by `unit`. The ends belong to the interval
exactly when the significand is even.
-/
structure RoundingInterval where
  lower : Nat
  value : Nat
  upper : Nat
  closed : Bool
  /-- The exponent of two of the common unit. -/
  unit : Int

/-- The word below is half as far away when the significand is the least of its scale. -/
def roundingInterval (number : Binary64) : RoundingInterval :=
  let significand := number.significand
  let narrow := number.fractionField = 0 ∧ 1 < number.exponentField
  { lower := 4 * significand - (if narrow then 1 else 2)
    value := 4 * significand
    upper := 4 * significand + 2
    closed := significand % 2 == 0
    unit := number.scale - 2 }

/-- The greatest `exponent` with `10 ^ exponent ≤ numerator / denominator`, for positive parts. -/
def floorLog10 (numerator denominator : Nat) : Int :=
  let guess : Int :=
    ((Text.digitsOf numerator).length : Int) - (Text.digitsOf denominator).length
  if denominator * Nat.pow 10 guess.toNat ≤ numerator * Nat.pow 10 (-guess).toNat then guess
  else guess - 1

/--
The candidate on the grid of `10 ^ exponent`: one of the two neighbours of the value there,
if one lies in the interval.
-/
def candidate? (interval : RoundingInterval) (exponent : Int) : Option Decimal :=
  -- All quantities are multiplied by `multiplier`; one step of the grid is then `step`.
  let multiplier := Nat.pow 10 (-exponent).toNat <<< interval.unit.toNat
  let step := Nat.pow 10 exponent.toNat <<< (-interval.unit).toNat
  let inside := fun (point : Nat) =>
    if interval.closed then
      interval.lower * multiplier ≤ point ∧ point ≤ interval.upper * multiplier
    else
      interval.lower * multiplier < point ∧ point < interval.upper * multiplier
  let below := interval.value * multiplier / step
  let remainder := interval.value * multiplier % step
  let above := below + 1
  if inside (below * step) then
    if inside (above * step) then
      if 2 * remainder < step ∨ (2 * remainder = step ∧ below % 2 = 0) then
        some ⟨below, exponent⟩
      else some ⟨above, exponent⟩
    else some ⟨below, exponent⟩
  else if inside (above * step) then some ⟨above, exponent⟩
  else none

/-- Tries the grids with one digit, two digits and so on; the first hit wins. -/
def searchGrids (interval : RoundingInterval) (leading : Int) : Nat → Nat → Option Decimal
  | 0, _ => none
  | remaining + 1, digits =>
      match candidate? interval (leading - digits) with
      | some decimal => some decimal
      | none => searchGrids interval leading remaining (digits + 1)

/-- Seventeen digits always suffice, so the last alternative is never taken. -/
def shortest (number : Binary64) : Decimal :=
  let interval := number.roundingInterval
  let leading :=
    floorLog10 (interval.value <<< interval.unit.toNat) (1 <<< (-interval.unit).toNat)
  (searchGrids interval leading 17 0).getD ⟨0, 0⟩

end Binary64

end SearchRequest
