/-
The sort clauses of a request, by field. A field stands where it was first
written and carries what was written last; what it carries is always an object.
-/

import SearchRequest.Mapping
import SearchRequest.SortOrder

namespace SearchRequest

abbrev Sorting := Mapping Json

namespace Sorting

def orderKey : String := "order"

/-- A scalar is short for an object with the scalar as its order. -/
def clause? : Json → Option Json
  | .object options => some (.object options)
  | .string text => some (.single orderKey (.string text))
  | .number value => some (.single orderKey (.number value))
  | .bool value => some (.single orderKey (.bool value))
  | .null | .array _ => none

/-- Writes the entries in order up to the first bad one; what was written before it stays. -/
def writeAll : Entries Json → Sorting → Except RequestError Unit × Sorting
  | [], sorting => (.ok (), sorting)
  | (field, value) :: rest, sorting =>
      match clause? value with
      | some clause => writeAll rest (sorting.insert field clause)
      | none => (.error (.invalidArgument (.sortEntry field value)), sorting)

def write (fields : Json) (sorting : Sorting) : Except RequestError Unit × Sorting :=
  match fields with
  | .object entries => writeAll entries sorting
  | _ => (.error (.invalidArgument .sortShape), sorting)

def writeField (sorting : Sorting) (field : String) (order : SortOrder) : Sorting :=
  sorting.insert field (.single orderKey order.toJson)

/-- One object for each field. -/
def toJson? (sorting : Sorting) : Option Json :=
  if sorting.isEmpty then none
  else some (.array (sorting.entries.map fun (field, clause) => .single field clause))

end Sorting

end SearchRequest
