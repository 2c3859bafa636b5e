/-
Lower case of a text by the full Unicode rules. Two characters need more than
the simple mapping: the capital I with a dot becomes two characters, and the
capital sigma becomes a final sigma at the end of a word.
-/

import SearchRequest.Text.LetterCase

namespace SearchRequest.Text

def capitalSigma : Char := 'Σ'

/-- The first character that is not passed over is a letter with case. -/
def meetsCased (chars : List Char) : Bool :=
  match chars.dropWhile isCaseIgnorable with
  | [] => false
  | char :: _ => isCased char

/-- A sigma ends a word when a letter stands before it and none after it. -/
def lowerSigma (before after : List Char) : Char :=
  if meetsCased before && !meetsCased after then 'ς' else 'σ'

def lowerChar (char : Char) : List Char :=
  if char = 'İ' then ['i', '\u0307']
  else
    match lowerCaseRuns.find? (·.covers char.toNat) with
    | some run => [Char.ofNat (char.toNat + run.shift).toNat]
    | none => [char]

/-- Lower case of the rest of a text; the characters before it come in reverse order. -/
def lowerFrom (before : List Char) : List Char → List Char
  | [] => []
  | char :: after =>
      (if char = capitalSigma then [lowerSigma before after] else lowerChar char) ++
        lowerFrom (char :: before) after

def lowerCase (text : String) : String :=
  String.ofList (lowerFrom [] text.toList)

end SearchRequest.Text
