/-
Sort directions.
-/

import SearchRequest.Error
import SearchRequest.Text.LowerCase

namespace SearchRequest

inductive SortOrder where
  | asc
  | desc
  deriving DecidableEq, Repr

namespace SortOrder

def key : SortOrder → String
  | .asc => "asc"
  | .desc => "desc"

def toJson (order : SortOrder) : Json :=
  .string order.key

def ofKey? (key : String) : Option SortOrder :=
  [asc, desc].find? fun order => order.key == key

def ofJson? (value : Json) : Option SortOrder :=
  value.choice?.bind ofKey?

/-- Reads a direction in any letter case; the error quotes the text in lower case. -/
def parse (text : String) : Except RequestError SortOrder :=
  let lowered := Text.lowerCase text
  match ofKey? lowered with
  | some order => .ok order
  | none => .error (.invalidArgument (.sortOrder lowered))

end SortOrder

end SearchRequest
