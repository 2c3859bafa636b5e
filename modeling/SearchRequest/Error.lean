/-
Why a request cannot be assembled or rendered. A structural error is a fault in
the shape of the clause or aggregation tree; the others concern one argument.
-/

import SearchRequest.Aggregation.Kind
import SearchRequest.Json.Written
import SearchRequest.Role

namespace SearchRequest

inductive WindowParameter where
  | offset
  | pageSize
  deriving DecidableEq, Repr

def WindowParameter.key : WindowParameter → String
  | .offset => "from"
  | .pageSize => "size"

inductive ArgumentFault where
  | rangeValue (value : Json)
  | unknownComparison (key : String)
  | blankRangeField
  | noRangeBound
  | sourceEntry (value : Json)
  | sourceShape (value : Json)
  | sortShape
  | sortEntry (field : String) (value : Json)
  | sortOrder (text : String)
  | negativeWindow (parameter : WindowParameter)
  | windowExceeded (limit offset pageSize : UInt64)
  | termsSourceTwice
  | termsSourceMissing
  | noCompositeSource (name : String)
  /-- A detail that the caller's own code gives. -/
  | stated (detail : String)

def ArgumentFault.detail : ArgumentFault → String
  | .rangeValue value => s!"range bound must be a number or string, got {value.toText}"
  | .unknownComparison key =>
      s!"Unknown range bound `{key}`, expected one of gt, gte, lt, lte"
  | .blankRangeField => "range query requires a non-empty field name"
  | .noRangeBound => "At least one of gt, gte, lt, lte should be given"
  | .sourceEntry value => s!"_source list entries must be strings, got {value.toText}"
  | .sourceShape value =>
      s!"_source must be false, a string, a list or a mapping, got {value.toText}"
  | .sortShape => "sort must be a mapping of field to order"
  | .sortEntry field value =>
      s!"sort order for `{field}` must be a scalar or a mapping, got {value.toText}"
  | .sortOrder text => s!"sort order must be asc or desc, got `{text}`"
  | .negativeWindow parameter => s!"{parameter.key} must be a non-negative integer"
  | .windowExceeded limit offset pageSize =>
      s!"from + size must not exceed {limit.toNat}, got from={offset.toNat} size={pageSize.toNat}"
  | .termsSourceTwice => "terms aggregation takes either a field or a script, not both"
  | .termsSourceMissing => "terms aggregation requires a field or a script"
  | .noCompositeSource name => s!"composite aggregation `{name}` requires at least one source"
  | .stated detail => detail

inductive RequestError where
  | invalidArgument (fault : ArgumentFault)
  | multipleTopLevelClauses
  | emptyBool
  | emptyBoolRole (role : Role)
  | noOpenRole
  | notNestable (name : String) (kind : AggregationKind)
  /-- A failure met while a request was embedded into a larger document. -/
  | embedding (detail : String)

namespace RequestError

def message : RequestError → String
  | .invalidArgument fault => s!"Invalid argument: {fault.detail}"
  | .multipleTopLevelClauses =>
      "Only one top-level clause is allowed, use a bool query to combine multiple clauses"
  | .emptyBool => "Bool query has no clauses: open one of must, filter, should or must_not first"
  | .emptyBoolRole role => s!"Bool query role `{role.key}` was opened but holds no clauses"
  | .noOpenRole =>
      "No bool role is open: call must, filter, should or must_not before adding clauses"
  | .notNestable name kind =>
      s!"Aggregation `{name}` of type {kind.key} cannot have nested aggregations"
  | .embedding detail => s!"JSON error: {detail}"

def isStructural : RequestError → Bool
  | .invalidArgument _ | .embedding _ => false
  | _ => true

end RequestError

end SearchRequest
