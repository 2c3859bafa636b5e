/-
Decimal digits: writing a natural number and the value of a run of digits.
-/

namespace SearchRequest.Text

def digitsOf (value : Nat) : List Char :=
  Nat.toDigits 10 value

def digitValue (digit : Char) : Nat :=
  digit.toNat - '0'.toNat

def digitsValue (digits : List Char) : Nat :=
  digits.foldl (fun value digit => 10 * value + digitValue digit) 0

theorem isDigit_of_mem_digitsOf {value : Nat} {char : Char} (member : char ∈ digitsOf value) :
    char.isDigit = true :=
  Nat.isDigit_of_mem_toDigits (by omega) (by omega) member

end SearchRequest.Text
