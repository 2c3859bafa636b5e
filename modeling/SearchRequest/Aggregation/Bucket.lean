/-
Aggregations that sort documents into buckets, and may therefore hold further
aggregations, which are then computed in every bucket.
-/

import SearchRequest.Aggregation.Composite
import SearchRequest.Mapping
import SearchRequest.Query
import SearchRequest.Script

namespace SearchRequest

inductive TermsSource where
  | field (name : String)
  | script (content : Script)

namespace TermsSource

/-- Exactly one of a field and a script has to be given. -/
def choose : Option String → Option Script → Except RequestError TermsSource
  | some name, none => .ok (.field name)
  | none, some content => .ok (.script content)
  | some _, some _ => .error (.invalidArgument .termsSourceTwice)
  | none, none => .error (.invalidArgument .termsSourceMissing)

def entry : TermsSource → String × Json
  | .field name => ("field", .string name)
  | .script content => ("script", content.toJson)

end TermsSource

/-- One bucket for each distinct term, in the order of the sort keys. -/
structure TermsBuckets where
  source : TermsSource
  size : Option UInt64 := none
  order : Mapping SortOrder := .empty

namespace TermsBuckets

def withSize (buckets : TermsBuckets) (size : UInt64) : TermsBuckets :=
  { buckets with size := some size }

def withOrder (buckets : TermsBuckets) (key : String) (order : SortOrder) : TermsBuckets :=
  { buckets with order := buckets.order.insert key order }

def orderJson? (buckets : TermsBuckets) : Option Json :=
  if buckets.order.isEmpty then none
  else some (.object (buckets.order.entries.map fun (key, order) => (key, order.toJson)))

def body (buckets : TermsBuckets) : Json :=
  .object (buckets.source.entry ::
    (Entries.optional "size" (buckets.size.map Json.ofUInt64) ++
      Entries.optional "order" buckets.orderJson?))

end TermsBuckets

inductive Bucket where
  | terms (content : TermsBuckets)
  | topHits (size : UInt64)
  | filter (query : Query)
  | composite (content : Composite)
  | dateHistogram (field calendarInterval : String) (format : Option String)

namespace Bucket

def kind : Bucket → AggregationKind
  | .terms _ => .terms
  | .topHits _ => .topHits
  | .filter _ => .filter
  | .composite _ => .composite
  | .dateHistogram .. => .dateHistogram

/-- Only the query of a filter can have a fault. -/
def body : Bucket → Except RequestError Json
  | .terms content => .ok content.body
  | .topHits size => .ok (.single "size" (.ofUInt64 size))
  | .filter query => query.toJson
  | .composite content => .ok content.body
  | .dateHistogram field calendarInterval format =>
      .ok (.object ([("field", .string field), ("calendar_interval", .string calendarInterval)] ++
        Entries.optional "format" (format.map Json.string)))

end Bucket

end SearchRequest
