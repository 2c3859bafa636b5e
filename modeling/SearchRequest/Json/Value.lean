/-
JSON documents. An object is a list of entries, so the order of its keys is part
of the value; whatever builds an object keeps its keys distinct by inserting.
-/

import SearchRequest.Entries
import SearchRequest.Json.Number

namespace SearchRequest

inductive Json where
  | null
  | bool (value : Bool)
  | number (value : Json.Number)
  | string (value : String)
  | array (items : List Json)
  | object (entries : List (String × Json))
  deriving Inhabited

namespace Json

def single (key : String) (value : Json) : Json :=
  .object [(key, value)]

def strings (texts : List String) : Json :=
  .array (texts.map .string)

def ofInt64 (value : Int64) : Json :=
  .number (.integer value.toInt
    ⟨value.le_toInt, Int.lt_trans value.toInt_lt (by decide)⟩)

def ofUInt64 (value : UInt64) : Json :=
  .number (.integer value.toNat
    ⟨Int.le_trans (by decide) (Int.natCast_nonneg value.toNat),
      Int.ofNat_lt.mpr value.toNat_lt⟩)

/-- A document has no infinite number and no NaN; both are written as null. -/
def ofBinary64 (value : Binary64) : Json :=
  match Number.ofBinary64? value with
  | some finite => .number finite
  | none => .null

/-- A choice among fixed names: the name itself, or an object that maps just it to null. -/
def choice? : Json → Option String
  | .string name => some name
  | .object [(name, .null)] => some name
  | _ => none

mutual

/-- Equality up to the order of object keys and the sign of zero. -/
def same : Json → Json → Bool
  | .null, .null => true
  | .bool left, .bool right => left == right
  | .number left, .number right => left.same right
  | .string left, .string right => left == right
  | .array left, .array right => sameItems left right
  | .object left, .object right => left.length == right.length && sameEntries left right
  | _, _ => false

def sameItems : List Json → List Json → Bool
  | [], [] => true
  | left :: lefts, right :: rights => same left right && sameItems lefts rights
  | _, _ => false

/-- Every entry of the first list has a partner under its key in the second. -/
def sameEntries : List (String × Json) → List (String × Json) → Bool
  | [], _ => true
  | (key, left) :: lefts, rights =>
      (match Entries.find? key rights with
        | some right => same left right
        | none => false) && sameEntries lefts rights

end

end Json

end SearchRequest
