/-
Composite buckets: one bucket for each combination of the values of several
named sources. There is always at least one source, and sources are only added.
-/

import SearchRequest.SortOrder

namespace SearchRequest

inductive SourceOrigin where
  | terms (field : String) (order : Option SortOrder)
  | histogram (field : String) (interval : Binary64)
  | dateHistogram (field calendarInterval : String) (format : Option String)

namespace SourceOrigin

def key : SourceOrigin → String
  | .terms .. => "terms"
  | .histogram .. => "histogram"
  | .dateHistogram .. => "date_histogram"

def body : SourceOrigin → Json
  | .terms field order =>
      .object (("field", .string field) ::
        Entries.optional "order" (order.map SortOrder.toJson))
  | .histogram field interval =>
      .object [("field", .string field), ("interval", .ofBinary64 interval)]
  | .dateHistogram field calendarInterval format =>
      .object ([("field", .string field), ("calendar_interval", .string calendarInterval)] ++
        Entries.optional "format" (format.map Json.string))

end SourceOrigin

structure CompositeSource where
  name : String
  origin : SourceOrigin

def CompositeSource.toJson (source : CompositeSource) : Json :=
  .single source.name (.single source.origin.key source.origin.body)

structure Composite where
  sources : List CompositeSource
  size : Option UInt64 := none
  sourcesNotEmpty : sources ≠ []

namespace Composite

/-- The name of the aggregation is only needed for the error. -/
def build (name : String) (sources : List CompositeSource) : Except RequestError Composite :=
  if sourcesNotEmpty : sources ≠ [] then .ok { sources, sourcesNotEmpty }
  else .error (.invalidArgument (.noCompositeSource name))

def addSource (composite : Composite) (source : CompositeSource) : Composite :=
  { composite with
    sources := composite.sources ++ [source]
    sourcesNotEmpty := List.append_ne_nil_of_left_ne_nil composite.sourcesNotEmpty [source] }

def withSize (composite : Composite) (size : UInt64) : Composite :=
  { composite with size := some size }

def body (composite : Composite) : Json :=
  .object (("sources", .array (composite.sources.map CompositeSource.toJson)) ::
    Entries.optional "size" (composite.size.map Json.ofUInt64))

end Composite

end SearchRequest
