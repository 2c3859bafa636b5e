/-
The twelve kinds of aggregation and the keys that stand for them in a request.
-/

namespace SearchRequest

inductive AggregationKind where
  | terms
  | topHits
  | filter
  | composite
  | dateHistogram
  | avg
  | sum
  | max
  | valueCount
  | cardinality
  | scriptedMetric
  | bucketSelector
  deriving DecidableEq, Repr

namespace AggregationKind

def key : AggregationKind → String
  | .terms => "terms"
  | .topHits => "top_hits"
  | .filter => "filter"
  | .composite => "composite"
  | .dateHistogram => "date_histogram"
  | .avg => "avg"
  | .sum => "sum"
  | .max => "max"
  | .valueCount => "value_count"
  | .cardinality => "cardinality"
  | .scriptedMetric => "scripted_metric"
  | .bucketSelector => "bucket_selector"

end AggregationKind

end SearchRequest
