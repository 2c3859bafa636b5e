/-
Aggregations that compute a value or select buckets. None of them holds further
aggregations.
-/

import SearchRequest.Error
import SearchRequest.Mapping
import SearchRequest.Script

namespace SearchRequest

/-- What a bucket selector does where a path leads to no value. -/
inductive GapPolicy where
  | skip
  | insertZeros
  | keepValues
  deriving DecidableEq, Repr

namespace GapPolicy

def key : GapPolicy → String
  | .skip => "skip"
  | .insertZeros => "insert_zeros"
  | .keepValues => "keep_values"

def ofKey? (key : String) : Option GapPolicy :=
  [skip, insertZeros, keepValues].find? fun policy => policy.key == key

def ofJson? (value : Json) : Option GapPolicy :=
  value.choice?.bind ofKey?

end GapPolicy

/-- A value that scripts compute in stages, of which the first may be left out. -/
structure ScriptedMetric where
  init : Option Script := none
  map : Script
  combine : Script
  reduce : Script

def ScriptedMetric.body (metric : ScriptedMetric) : Json :=
  .object (Entries.optional "init_script" (metric.init.map Script.toJson) ++ [
    ("map_script", metric.map.toJson),
    ("combine_script", metric.combine.toJson),
    ("reduce_script", metric.reduce.toJson)])

/-- Drops the buckets of the parent for which the script is false. -/
structure BucketSelector where
  /-- The variables of the script and the paths to their values. -/
  bucketsPath : Mapping String
  script : Script
  gapPolicy : Option GapPolicy := none

def BucketSelector.body (selector : BucketSelector) : Json :=
  .object ([
    ("buckets_path",
      .object (selector.bucketsPath.entries.map fun (name, path) => (name, .string path))),
    ("script", selector.script.toJson)] ++
    Entries.optional "gap_policy" (selector.gapPolicy.map fun policy => .string policy.key))

inductive Metric where
  | avg (field : String) (missing : Option Json)
  | sum (field : String) (missing : Option Json)
  | max (field : String)
  | valueCount (field : String)
  | cardinality (field : String)
  | scriptedMetric (content : ScriptedMetric)
  | bucketSelector (content : BucketSelector)

namespace Metric

def kind : Metric → AggregationKind
  | .avg .. => .avg
  | .sum .. => .sum
  | .max _ => .max
  | .valueCount _ => .valueCount
  | .cardinality _ => .cardinality
  | .scriptedMetric _ => .scriptedMetric
  | .bucketSelector _ => .bucketSelector

def fieldBody (field : String) (missing : Option Json) : Json :=
  .object (("field", .string field) :: Entries.optional "missing" missing)

def body : Metric → Json
  | .avg field missing | .sum field missing => fieldBody field missing
  | .max field | .valueCount field | .cardinality field => fieldBody field none
  | .scriptedMetric content => content.body
  | .bucketSelector content => content.body

end Metric

end SearchRequest
