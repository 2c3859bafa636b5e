/-
From arguments to a request body. All filters go under the filter role of one
bool query, in the order terms, ranges, exists, query string, and the negation
comes last; the first argument that cannot be read is the failure.
-/

import SearchRequest.Body
import SearchRequest.CommandLine.Arguments
import SearchRequest.CommandLine.Failure
import SearchRequest.Json.Reader

namespace SearchRequest.CommandLine

/-- The key and the value around the first separator; the key must not be empty. -/
def splitPair (kind : PairKind) (raw : String) : Except Failure (String × String) :=
  match Text.splitOnce? kind.separator raw.toList with
  | some (char :: key, value) => .ok (String.ofList (char :: key), String.ofList value)
  | _ => .error (.malformedPair kind raw)

/-- A text that is a JSON number or a JSON truth value counts as that, any other as itself. -/
def scalar (raw : String) : Json :=
  match Json.ofText? raw with
  | some (.number value) => .number value
  | some (.bool value) => .bool value
  | _ => .string raw

def parseBound (part : String) : Except Failure (String × RangeValue) := do
  let (key, text) ← splitPair .rangeBound part
  let value ← (RangeValue.ofJson (scalar text)).mapError .request
  return (key, value)

/-- All bounds are read before their keys are looked at. -/
def parseRange (raw : String) : Except Failure (String × RangeBounds) := do
  let (field, spec) ← splitPair .range raw
  let pairs ← (Text.splitAll ',' spec.toList).mapM fun part => parseBound (String.ofList part)
  let bounds ← (RangeBounds.ofPairs pairs).mapError (.invalidRange field)
  return (field, bounds)

/-- A field with a direction after a colon, or alone and then ascending. -/
def parseSort (raw : String) : Except Failure (String × SortOrder) :=
  match Text.splitOnce? ':' raw.toList with
  | none => .ok (raw, .asc)
  | some (field, order) => do
      let order ← (SortOrder.parse (String.ofList order)).mapError .request
      return (String.ofList field, order)

/-- The single word `false` turns the source off. -/
def sourceFilter? (fields : List String) : Option SourceFilter :=
  match fields with
  | [] => none
  | ["false"] => some .disabled
  | fields => some (.fields fields)

def sortBy (arguments : Arguments) : Except Failure Sorting :=
  arguments.sorts.foldlM (fun sorting raw => do
    let (field, order) ← parseSort raw
    return Sorting.writeField sorting field order) .empty

def pushLeaf (query : Query) (leaf : Leaf) : Except Failure Query :=
  (query.pushLeaf leaf).mapError .request

def pushTerm (query : Query) (raw : String) : Except Failure Query := do
  let (field, text) ← splitPair .term raw
  pushLeaf query (.term field (scalar text))

def pushRange (query : Query) (raw : String) : Except Failure Query := do
  let (field, bounds) ← parseRange raw
  (query.pushRange field bounds).mapError .request

def filterCount (arguments : Arguments) : Nat :=
  arguments.terms.length + arguments.ranges.length + arguments.existsFields.length +
    arguments.queryString.toList.length

def openFilters (query : Query) : Except Failure Query :=
  let (result, query) := query.editBool fun table => (.ok (), table.openRole .filter)
  (result.map fun () => query).mapError .request

def filters (arguments : Arguments) : Except Failure Query := do
  let query ← openFilters .empty
  let query ← arguments.terms.foldlM pushTerm query
  let query ← arguments.ranges.foldlM pushRange query
  let query ← arguments.existsFields.foldlM
    (fun query field => pushLeaf query (.exists field)) query
  match arguments.queryString with
  | none => return query
  | some text => pushLeaf query (.queryString text none)

/-- No bool query is made for no filters, since an empty one could not be rendered. -/
def queryOf (arguments : Arguments) : Except Failure Query := do
  let query ← if 0 < filterCount arguments then filters arguments else pure .empty
  return if arguments.negate then query.negate else query

def termsAggregation (raw : String) : Except Failure Aggregation := do
  let (name, field) ← splitPair .termsAggregation raw
  return .bucket name (.terms { source := .field field }) none

def avgAggregation (raw : String) : Except Failure Aggregation := do
  let (name, field) ← splitPair .avgAggregation raw
  return .metric name (.avg field none)

/-- The body for some arguments; its result window is not checked yet. -/
def assemble (arguments : Arguments) (settings : Settings) : Except Failure Body := do
  let sorting ← sortBy arguments
  let query ← queryOf arguments
  let terms ← arguments.termsAggregations.mapM termsAggregation
  let averages ← arguments.avgAggregations.mapM avgAggregation
  return { Body.ofSettings settings with
    offset := arguments.offset
    pageSize := arguments.pageSize <|> settings.defaultSize
    source := sourceFilter? arguments.source
    collapse := arguments.collapse
    sorting
    query
    aggregations := terms ++ averages }

def settingsOf (arguments : Arguments) : Settings :=
  { defaultSize := arguments.defaultSize
    maxWindow := arguments.maxWindow
    scriptLanguage := arguments.scriptLanguage
    pretty := arguments.pretty }

def request (arguments : Arguments) : Except Failure String := do
  if Text.isBlank arguments.scriptLanguage then throw .blankScriptLanguage
  let settings := settingsOf arguments
  let body ← assemble arguments settings
  (body.validateWindow settings).mapError .windowExceeded
  (body.render settings.pretty).mapError .request

structure Outcome where
  exitCode : Nat
  stdout : String := ""
  stderr : String := ""

/--
What a command does: words that cannot be read as arguments exit with 2, and those that ask for
help are among them; a failure exits with 1.
-/
def run (words : List String) (environment : Environment) : Outcome :=
  match Arguments.parse words environment with
  | .error error => { exitCode := 2, stderr := s!"error: {error.message}\n" }
  | .ok arguments =>
      match request arguments with
      | .error failure => { exitCode := 1, stderr := failure.report }
      | .ok text => { exitCode := 0, stdout := text ++ "\n" }

end SearchRequest.CommandLine
