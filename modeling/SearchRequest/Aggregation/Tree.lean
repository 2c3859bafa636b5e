/-
Trees of named aggregations. A bucket aggregation has no container for nested
aggregations until one is asked for; in a request an empty container and a
missing one look the same. Several aggregations of a list may have one name: a
lookup finds the last of them, and so does the rendered object.
-/

import SearchRequest.Aggregation.Bucket
import SearchRequest.Aggregation.Metric

namespace SearchRequest

inductive Aggregation where
  | metric (name : String) (content : Metric)
  | bucket (name : String) (content : Bucket) (children : Option (List Aggregation))

abbrev Aggregations := List Aggregation

namespace Aggregation

def name : Aggregation → String
  | .metric name _ => name
  | .bucket name _ _ => name

def kind : Aggregation → AggregationKind
  | .metric _ content => content.kind
  | .bucket _ content _ => content.kind

def isNestable : Aggregation → Bool
  | .metric .. => false
  | .bucket .. => true

def children? : Aggregation → Option Aggregations
  | .metric .. => none
  | .bucket _ _ children => children

def notNestable (aggregation : Aggregation) : RequestError :=
  .notNestable aggregation.name aggregation.kind

mutual

/-- The fragment of an aggregation: its own body first, then the nested ones, if any. -/
def toJson : Aggregation → Except RequestError Json
  | .metric _ content => .ok (.single content.kind.key content.body)
  | .bucket _ content none => content.body.map (.single content.kind.key)
  | .bucket _ content (some []) => content.body.map (.single content.kind.key)
  | .bucket _ content (some (child :: children)) =>
      match content.body with
      | .error error => .error error
      | .ok body =>
          (listToEntries [] (child :: children)).map fun nested =>
            .object [(content.kind.key, body), ("aggs", .object nested)]

/-- Every aggregation is rendered, also one whose entry a later one of its name replaces. -/
def listToEntries (written : Entries Json) :
    List Aggregation → Except RequestError (Entries Json)
  | [] => .ok written
  | item :: items =>
      match toJson item with
      | .error error => .error error
      | .ok fragment => listToEntries (Entries.insert item.name fragment written) items

end

/--
Runs an edit on the nested aggregations, whose container exists from then on. A metric refuses,
and `refuse` places its error among those of the edit.
-/
def editChildren {ε β : Type} (refuse : RequestError → ε)
    (edit : Aggregations → Except ε β × Aggregations) (aggregation : Aggregation) :
    Except ε β × Aggregation :=
  match aggregation with
  | .metric name content =>
      (.error (refuse (notNestable (.metric name content))), .metric name content)
  | .bucket name content children =>
      let (result, children) := edit (children.getD [])
      (result, .bucket name content (some children))

end Aggregation

namespace Aggregations

def names (items : Aggregations) : List String :=
  items.map Aggregation.name

/-- The last aggregation of a name. -/
def find? (name : String) : Aggregations → Option Aggregation
  | [] => none
  | item :: items =>
      match find? name items with
      | some later => some later
      | none => if item.name = name then some item else none

def push (items : Aggregations) (item : Aggregation) : Aggregations :=
  items ++ [item]

def merge (items others : Aggregations) : Aggregations :=
  items ++ others

def toEntries (items : Aggregations) : Except RequestError (Entries Json) :=
  Aggregation.listToEntries [] items

end Aggregations

end SearchRequest
