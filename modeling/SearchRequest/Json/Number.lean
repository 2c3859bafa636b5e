/-
The numbers of a JSON document and their text. A number is either an integer of
64 bits or a finite double, and the two never equal each other: `1` and `1.0`
are different values.
-/

import SearchRequest.Binary64.Scaled
import SearchRequest.Binary64.Shortest
import SearchRequest.Text.Digits

namespace SearchRequest.Json

/-- The integers that stay integers: 64 bits, signed below zero and unsigned above. -/
def IntegerRange (value : Int) : Prop :=
  -0x8000000000000000 ≤ value ∧ value < 0x10000000000000000

instance (value : Int) : Decidable (IntegerRange value) :=
  inferInstanceAs (Decidable (_ ∧ _))

inductive Number where
  | integer (value : Int) (inRange : IntegerRange value)
  | float (value : Binary64) (finite : value.isFinite = true)
  deriving DecidableEq

namespace Number

/-- The decimal exponents of the leading digit for which a double is written without `e`. -/
def isPositional (leading : Int) : Bool :=
  decide (-5 ≤ leading ∧ leading ≤ 15)

/-- Digits with the point after the digit of exponent zero, and at least one digit on each side. -/
def positionalText (digits : List Char) (leading : Int) : List Char :=
  if leading < 0 then
    ['0', '.'] ++ List.replicate (-leading - 1).toNat '0' ++ digits
  else
    let integerWidth := leading.toNat + 1
    let integerPart := digits.take integerWidth
    let fraction := digits.drop integerWidth
    integerPart ++ List.replicate (integerWidth - integerPart.length) '0' ++
      '.' :: (if fraction.isEmpty then ['0'] else fraction)

/-- One digit before the point, no point after a lone digit, and the exponent with its sign. -/
def scientificText (digits : List Char) (leading : Int) : List Char :=
  let fraction := digits.drop 1
  digits.take 1 ++ (if fraction.isEmpty then [] else '.' :: fraction) ++
    'e' :: (if leading < 0 then '-' else '+') :: Text.digitsOf leading.natAbs

/-- The text of a positive decimal. -/
def decimalText (decimal : Decimal) : List Char :=
  let digits := Text.digitsOf decimal.digits
  let leading := decimal.exponent + digits.length - 1
  -- Zeros at the end of the digits say nothing that the exponent does not say.
  let significant := (digits.reverse.dropWhile (· == '0')).reverse
  if isPositional leading then positionalText significant leading
  else scientificText significant leading

def floatText (value : Binary64) : List Char :=
  (if value.isNegative then ['-'] else []) ++
    if value.isZero then ['0', '.', '0'] else decimalText value.shortest

def integerText (value : Int) : List Char :=
  (if value < 0 then ['-'] else []) ++ Text.digitsOf value.natAbs

def text : Number → List Char
  | .integer value _ => integerText value
  | .float value _ => floatText value

/-- The nearest double, which an integer of 64 bits always has. -/
def toBinary64 : Number → Binary64
  | .integer value _ => Binary64.ofInt value
  | .float value _ => value

/-- Positive and negative zero are the same number. -/
def same : Number → Number → Bool
  | .integer left _, .integer right _ => left == right
  | .float left _, .float right _ => left.sameNumber right
  | _, _ => false

/--
A number literal: an optional sign, digits without a leading zero, an optional fraction and
an optional exponent. A literal without fraction and exponent that fits 64 bits is an integer,
except for `-0`; any other literal is a double, and none if that double is infinite.
-/
structure Literal where
  negative : Bool
  integerDigits : List Char
  fractionDigits : Option (List Char)
  exponent : Option Int

def takeDigits? (text : List Char) : Option (List Char × List Char) :=
  let digits := text.takeWhile Char.isDigit
  if digits.isEmpty then none else some (digits, text.dropWhile Char.isDigit)

def readFraction? : List Char → Option (Option (List Char) × List Char)
  | '.' :: rest => (takeDigits? rest).map fun (digits, after) => (some digits, after)
  | rest => some (none, rest)

def readExponent? : List Char → Option (Option Int × List Char)
  | mark :: rest =>
      if mark == 'e' || mark == 'E' then
        let (negative, unsigned) :=
          match rest with
          | '-' :: after => (true, after)
          | '+' :: after => (false, after)
          | after => (false, after)
        (takeDigits? unsigned).map fun (digits, after) =>
          let size := (Text.digitsValue digits : Int)
          (some (if negative then -size else size), after)
      else some (none, mark :: rest)
  | [] => some (none, [])

def Literal.read? (text : List Char) : Option Literal := do
  let (negative, unsigned) :=
    match text with
    | '-' :: after => (true, after)
    | after => (false, after)
  let (integerDigits, afterInteger) ← takeDigits? unsigned
  if integerDigits.head? == some '0' && 1 < integerDigits.length then none
  let (fractionDigits, afterFraction) ← readFraction? afterInteger
  let (exponent, afterExponent) ← readExponent? afterFraction
  if afterExponent.isEmpty then
    some { negative, integerDigits, fractionDigits, exponent }
  else none

def ofBinary64? (value : Binary64) : Option Number :=
  if finite : value.isFinite = true then some (.float value finite) else none

/--
Joins digits to a number as long as it stays below `2 ^ 64`, and gives the rest back from the
first digit that does not fit.
-/
def joinFitting (value : Nat) : List Char → Nat × List Char
  | [] => (value, [])
  | digit :: rest =>
      let joined := 10 * value + Text.digitValue digit
      if joined < 0x10000000000000000 then joinFitting joined rest else (value, digit :: rest)

/--
The double that a literal denotes. Its digits are joined to one number of 64 bits, which is then
scaled. Integer digits that do not fit still count as places; fraction digits that do not fit
are passed over.
-/
def Literal.toBinary64 (literal : Literal) : Binary64 :=
  let fraction := literal.fractionDigits.getD []
  let (whole, moreInteger) := joinFitting 0 literal.integerDigits
  let (digits, moreFraction) := joinFitting whole fraction
  Binary64.ofScaled literal.negative digits
    (literal.exponent.getD 0 + moreInteger.length + moreFraction.length - fraction.length)

def Literal.toNumber? (literal : Literal) : Option Number :=
  let size := (Text.digitsValue literal.integerDigits : Int)
  let value := if literal.negative then -size else size
  let plain := literal.fractionDigits.isNone && literal.exponent.isNone
  if inRange : IntegerRange value then
    if plain && !(literal.negative && size == 0) then some (.integer value inRange)
    else ofBinary64? literal.toBinary64
  else ofBinary64? literal.toBinary64

def read? (text : List Char) : Option Number :=
  (Literal.read? text).bind Literal.toNumber?

end Number

end SearchRequest.Json
