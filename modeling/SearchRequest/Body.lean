/-
The body of a search request while it is put together: the result window, the
source filter, sorting and collapsing beside one query and one list of
aggregations. Merging prefers the right-hand body; queries and aggregations are
combined, those of the left-hand body first.
-/

import SearchRequest.Aggregation.Tree
import SearchRequest.Sorting
import SearchRequest.SourceFilter

namespace SearchRequest

structure Body where
  offset : Option UInt64 := none
  pageSize : Option UInt64 := none
  source : Option SourceFilter := none
  /-- The field of whose hits only the best one is kept for each value. -/
  collapse : Option String := none
  sorting : Sorting := .empty
  query : Query := .empty
  aggregations : Aggregations := []

namespace Body

def empty : Body := {}

def ofSettings (settings : Settings) : Body :=
  { pageSize := settings.defaultSize }

/-- A parameter of the window has 64 bits and no sign. -/
def windowValue (parameter : WindowParameter) (value : Int) : Except RequestError UInt64 :=
  if 0 ≤ value ∧ value < 0x10000000000000000 then .ok (UInt64.ofNat value.toNat)
  else .error (.invalidArgument (.negativeWindow parameter))

def withOffset (body : Body) (value : Int) : Except RequestError Body := do
  return { body with offset := some (← windowValue .offset value) }

def withPageSize (body : Body) (value : Int) : Except RequestError Body := do
  return { body with pageSize := some (← windowValue .pageSize value) }

/-- The sum, unless it needs more than 64 bits: it then wraps around to less than each part. -/
def sumOfSizes? (left right : UInt64) : Option UInt64 :=
  if left + right < left then none else some (left + right)

/-- The window ends at the sum of offset and page size; no limit allows one beyond 64 bits. -/
def validateWindow (body : Body) (settings : Settings) : Except RequestError Unit :=
  let offset := body.offset.getD 0
  let pageSize := (body.pageSize <|> settings.defaultSize).getD 0
  if (sumOfSizes? offset pageSize).any fun last => last ≤ settings.maxWindow then .ok ()
  else .error (.invalidArgument (.windowExceeded settings.maxWindow offset pageSize))

def withSource (body : Body) (source : SourceFilter) : Body :=
  { body with source := some source }

/-- A rejected value leaves the body as it was. -/
def withSourceJson (body : Body) (value : Json) : Except RequestError Body := do
  return body.withSource (← SourceFilter.ofJson value)

def withCollapse (body : Body) (field : String) : Body :=
  { body with collapse := some field }

def sort (fields : Json) (body : Body) : Except RequestError Unit × Body :=
  let (result, sorting) := Sorting.write fields body.sorting
  (result, { body with sorting })

def sortField (body : Body) (field : String) (order : SortOrder) : Body :=
  { body with sorting := Sorting.writeField body.sorting field order }

/-- The query is rendered before the aggregations, so its fault is reported first. -/
def toJson (body : Body) : Except RequestError Json := do
  let query ← body.query.toJson
  let aggregations ← body.aggregations.toEntries
  return .object (
    Entries.optional "from" (body.offset.map Json.ofUInt64) ++
    Entries.optional "size" (body.pageSize.map Json.ofUInt64) ++
    Entries.optional "_source" (body.source.map SourceFilter.toJson) ++
    [("query", query)] ++
    Entries.optional "sort" (Sorting.toJson? body.sorting) ++
    Entries.optional "collapse"
      (body.collapse.map fun field => .single "field" (.string field)) ++
    (if aggregations.isEmpty then [] else [("aggs", .object aggregations)]))

def render (body : Body) (pretty : Bool) : Except RequestError String := do
  let document ← body.toJson
  return if pretty then document.toIndentedText else document.toText

/-- The document for embedding into a larger one; a fault is then no longer structural. -/
def embedded (body : Body) : Except RequestError Json :=
  body.toJson.mapError fun error => .embedding error.message

def merge (body other : Body) : Body :=
  { offset := other.offset <|> body.offset
    pageSize := other.pageSize <|> body.pageSize
    source := other.source <|> body.source
    collapse := other.collapse <|> body.collapse
    sorting := body.sorting.overlay other.sorting
    query := body.query.merge other.query
    aggregations := body.aggregations.merge other.aggregations }

end Body

end SearchRequest
