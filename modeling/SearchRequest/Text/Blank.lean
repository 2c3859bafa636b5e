/-
White space and texts that hold nothing else. The class is the Unicode property
White_Space: it holds the no-break spaces but neither the zero-width space nor
the separators below the ordinary space.
-/

namespace SearchRequest.Text

def isWhiteSpace (char : Char) : Bool :=
  let code := char.toNat
  (0x09 ≤ code && code ≤ 0x0D) || code == 0x20 || code == 0x85 || code == 0xA0 ||
    code == 0x1680 || (0x2000 ≤ code && code ≤ 0x200A) || code == 0x2028 || code == 0x2029 ||
    code == 0x202F || code == 0x205F || code == 0x3000

/-- Nothing is left after trimming white space from both ends. -/
def isBlank (text : String) : Bool :=
  text.toList.all isWhiteSpace

end SearchRequest.Text
