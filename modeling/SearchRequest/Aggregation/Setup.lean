/-
How aggregations come about. A filter and a composite bucket are made by a block that
fills their query or their sources; if the block fails, or leaves no source, nothing
is added. Options are set later, each on the kinds of aggregation that have it.
-/

import SearchRequest.Aggregation.Tree

namespace SearchRequest

namespace Bucket

def ofQueryBlock (block : Query → Except RequestError Unit × Query) :
    Except RequestError Bucket :=
  match block .empty with
  | (.ok (), query) => .ok (.filter query)
  | (.error error, _) => .error error

/-- The failure of the block comes before the check that there is a source. -/
def ofSourcesBlock (name : String)
    (block : List CompositeSource → Except RequestError Unit × List CompositeSource) :
    Except RequestError Bucket :=
  match block [] with
  | (.ok (), sources) => (Composite.build name sources).map .composite
  | (.error error, _) => .error error

end Bucket

namespace Aggregations

def pushBuilt (items : Aggregations) (name : String) :
    Except RequestError Bucket → Except RequestError Unit × Aggregations
  | .ok content => (.ok (), items.push (.bucket name content none))
  | .error error => (.error error, items)

def addFilter (items : Aggregations) (name : String)
    (block : Query → Except RequestError Unit × Query) :
    Except RequestError Unit × Aggregations :=
  items.pushBuilt name (Bucket.ofQueryBlock block)

def addComposite (items : Aggregations) (name : String)
    (block : List CompositeSource → Except RequestError Unit × List CompositeSource) :
    Except RequestError Unit × Aggregations :=
  items.pushBuilt name (Bucket.ofSourcesBlock name block)

end Aggregations

inductive AggregationOption where
  | size (size : UInt64)
  | order (key : String) (order : SortOrder)
  | source (source : CompositeSource)
  | format (format : String)
  | missing (value : Json)
  | initScript (script : Script)
  | gapPolicy (policy : GapPolicy)

/-- An option that the metric does not have changes nothing. -/
def Metric.configure : Metric → AggregationOption → Metric
  | .avg field _, .missing value => .avg field (some value)
  | .sum field _, .missing value => .sum field (some value)
  | .scriptedMetric content, .initScript script =>
      .scriptedMetric { content with init := some script }
  | .bucketSelector content, .gapPolicy policy =>
      .bucketSelector { content with gapPolicy := some policy }
  | content, _ => content

/-- An option that the bucket does not have changes nothing. -/
def Bucket.configure : Bucket → AggregationOption → Bucket
  | .terms content, .size size => .terms (content.withSize size)
  | .terms content, .order key order => .terms (content.withOrder key order)
  | .composite content, .size size => .composite (content.withSize size)
  | .composite content, .source source => .composite (content.addSource source)
  | .dateHistogram field calendarInterval _, .format format =>
      .dateHistogram field calendarInterval (some format)
  | content, _ => content

namespace Aggregation

def configure (aggregation : Aggregation) (option : AggregationOption) : Aggregation :=
  match aggregation with
  | .metric name content => .metric name (content.configure option)
  | .bucket name content children => .bucket name (content.configure option) children

/-- Runs a block on the query of a filter; no other aggregation has a query. -/
def editFilter? {β : Type} (block : Query → Except RequestError β × Query) :
    Aggregation → Option (Except RequestError β × Aggregation)
  | .bucket name (.filter query) children =>
      let (result, query) := block query
      some (result, .bucket name (.filter query) children)
  | _ => none

/-- Asks for the nested aggregations, and leaves them as they are. -/
def reachChildren (aggregation : Aggregation) : Except RequestError Unit × Aggregation :=
  aggregation.editChildren id fun children => (.ok (), children)

end Aggregation

end SearchRequest
