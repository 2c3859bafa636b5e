/-
Runs of calls on a tree of aggregations. Each call walks from the root by the names of
a path, which creates the containers on its way, and then does one thing to the list at
the end of the path. Calls that fail stay in the run, and so does what they created.

A caller that keeps hold of an aggregation adds nothing beside it meanwhile, so it stays
the last of its name and its calls reach it by walking. A block is given by the calls
that it makes and by how it ends, which is up to its own code. The constructors that run
no block push what they have made.
-/

import SearchRequest.Aggregation.Setup
import SearchRequest.Proofs.BodyConstruction
import SearchRequest.Proofs.SlotRun

namespace SearchRequest

inductive AggregationOperation where
  | push (item : Aggregation)
  | addFilter (name : String) (calls : List QueryOperation) (result : Except RequestError Unit)
  | addComposite (name : String) (sources : List CompositeSource)
      (result : Except RequestError Unit)
  /-- Puts the merge with another list, which comes second, in the place of the list. -/
  | merge (others : Aggregations)
  | mergeInto (others : Aggregations)
  /-- Asks the last aggregation of a name for its nested ones. -/
  | nest (name : String)
  | configure (name : String) (option : AggregationOption)
  | editFilter (name : String) (calls : List QueryOperation)

namespace AggregationOperation

/-- The error of a request, placed among those of a walk. -/
def settle {α : Type} (outcome : Except RequestError Unit × α) : Except PathError Unit × α :=
  (outcome.1.mapError .refused, outcome.2)

def apply (items : Aggregations) : AggregationOperation → Except PathError Unit × Aggregations
  | .push item => (.ok (), items.push item)
  | .addFilter name calls result =>
      settle (items.addFilter name fun query => (result, QueryRun.execute query calls))
  | .addComposite name sources result =>
      settle (items.addComposite name fun present => (result, present ++ sources))
  | .merge others => (.ok (), items.merge others)
  | .mergeInto others => (.ok (), others.merge items)
  | .nest name => items.editNamed name fun item => settle item.reachChildren
  | .configure name option => items.editNamed name fun item => (.ok (), item.configure option)
  | .editFilter name calls =>
      items.editNamed name fun item =>
        settle ((item.editFilter? fun query => (.ok (), QueryRun.execute query calls)).getD
          (.ok (), item))

end AggregationOperation

structure AggregationCall where
  path : List String
  operation : AggregationOperation

def AggregationCall.apply (items : Aggregations) (call : AggregationCall) :
    Except PathError Unit × Aggregations :=
  items.editAt (fun nested => call.operation.apply nested) call.path

def AggregationRun.execute (items : Aggregations) (run : List AggregationCall) : Aggregations :=
  run.foldl (fun reached call => (call.apply reached).2) items

namespace Aggregations

theorem pushBuilt_unchanged {items : Aggregations} {name : String}
    {outcome : Except RequestError Bucket} {error : RequestError}
    (failed : (items.pushBuilt name outcome).1 = .error error) :
    (items.pushBuilt name outcome).2 = items := by
  cases outcome with
  | error found => rfl
  | ok content => cases failed

theorem addFilter_failed_iff (items : Aggregations) (name : String)
    (block : Query → Except RequestError Unit × Query) (error : RequestError) :
    (items.addFilter name block).1 = .error error ↔ (block .empty).1 = .error error := by
  unfold addFilter Bucket.ofQueryBlock
  rcases block .empty with ⟨_ | _, query⟩
  · exact Iff.rfl
  · exact ⟨nofun, nofun⟩

/-- The block has failed, or it has ended well and left no source. -/
theorem addComposite_failed_iff (items : Aggregations) (name : String)
    (block : List CompositeSource → Except RequestError Unit × List CompositeSource)
    (error : RequestError) :
    (items.addComposite name block).1 = .error error ↔
      (block []).1 = .error error ∨
        (block []) = (.ok (), []) ∧ error = .invalidArgument (.noCompositeSource name) := by
  unfold addComposite Bucket.ofSourcesBlock
  rcases block [] with ⟨found | _, sources⟩
  · simp [pushBuilt]
  · cases sources with
    | nil => simp [pushBuilt, Composite.build, Except.map, eq_comm]
    | cons source rest => simp [pushBuilt, Composite.build, Except.map]

end Aggregations

/-! ### Runs on what has been built -/

/-- The aggregations and queries that the call hands over have been built themselves. -/
def AggregationOperation.OperandsBuilt : AggregationOperation → Prop
  | .push item => item.Built
  | .addFilter _ calls _ | .editFilter _ calls => ∀ call ∈ calls, call.OperandsBuilt
  | .merge others | .mergeInto others => Aggregations.Built others
  | .addComposite _ _ _ | .nest _ | .configure _ _ => True

/-- No option makes a filter, or touches the query of one. -/
theorem Bucket.eq_filter_of_configure {content : Bucket} {option : AggregationOption}
    {query : Query} (same : content.configure option = .filter query) :
    content = .filter query := by
  unfold configure at same
  split at same
  case h_6 => exact same
  all_goals cases same

theorem Bucket.Built.configured {content : Bucket} (built : content.Built)
    (option : AggregationOption) : (content.configure option).Built := by
  intro query same
  exact built query (eq_filter_of_configure same)

theorem Bucket.built_of_ofSourcesBlock {name : String} {content : Bucket}
    {block : List CompositeSource → Except RequestError Unit × List CompositeSource}
    (made : ofSourcesBlock name block = .ok content) : content.Built := by
  unfold ofSourcesBlock at made
  split at made
  · obtain ⟨composite, _, same⟩ := map_eq_ok_iff.mp made
    subst same
    intro query impossible
    cases impossible
  · cases made

theorem Aggregation.Built.configured {aggregation : Aggregation} (built : aggregation.Built)
    (option : AggregationOption) : (aggregation.configure option).Built := by
  cases aggregation with
  | metric name content => exact .metric name _
  | bucket name content children => exact .configure built (built.content.configured option)

theorem Aggregation.Built.reachChildren {aggregation : Aggregation} (built : aggregation.Built) :
    aggregation.reachChildren.2.Built := by
  unfold Aggregation.reachChildren
  apply built.editChildren
  intro children childrenBuilt
  exact childrenBuilt

theorem Aggregation.Built.editFilter {β : Type} {block : Query → Except RequestError β × Query}
    (keeps : ∀ query, query.Built → (block query).2.Built) {aggregation changed : Aggregation}
    {result : Except RequestError β} (built : aggregation.Built)
    (edited : aggregation.editFilter? block = some (result, changed)) : changed.Built := by
  unfold editFilter? at edited
  split at edited
  · next name query children =>
      cases edited
      apply Aggregation.Built.configure built
      intro other same
      cases same
      exact keeps query (built.content query rfl)
  · cases edited

theorem Aggregations.Built.pushBuilt {items : Aggregations} (built : Built items) (name : String)
    {outcome : Except RequestError Bucket}
    (made : ∀ content, outcome = .ok content → content.Built) :
    Built (items.pushBuilt name outcome).2 := by
  cases outcome with
  | error found => exact built
  | ok content => exact .push built (.bucket name (made content rfl))

theorem AggregationOperation.built_apply {items : Aggregations} (built : Aggregations.Built items)
    {operation : AggregationOperation} (operands : operation.OperandsBuilt) :
    Aggregations.Built (operation.apply items).2 := by
  cases operation with
  | push item => exact .push built operands
  | addFilter name calls result =>
      apply built.pushBuilt name
      intro content made
      unfold Bucket.ofQueryBlock at made
      split at made
      · next query ended =>
          cases made
          cases ended
          intro other same
          cases same
          exact QueryRun.built_execute .empty operands
      · cases made
  | addComposite name sources result =>
      exact built.pushBuilt name fun content made => Bucket.built_of_ofSourcesBlock made
  | merge others => exact .merge built operands
  | mergeInto others => exact .merge operands built
  | nest name =>
      exact built.editNamed fun item itemBuilt => itemBuilt.reachChildren
  | configure name option => exact built.editNamed fun item itemBuilt => itemBuilt.configured option
  | editFilter name calls =>
      apply built.editNamed
      intro item itemBuilt
      cases edited : item.editFilter? fun query => (.ok (), QueryRun.execute query calls) with
      | none => exact itemBuilt
      | some outcome =>
          exact itemBuilt.editFilter
            (fun query queryBuilt => QueryRun.built_execute queryBuilt operands) edited

theorem AggregationRun.built_execute {items : Aggregations} (built : Aggregations.Built items)
    {run : List AggregationCall} (operands : ∀ call ∈ run, call.operation.OperandsBuilt) :
    Aggregations.Built (execute items run) := by
  apply List.foldlRecOn run _ built
  intro reached reachedBuilt call member
  apply Aggregations.Built.editAt _ call.path reachedBuilt
  intro nested nestedBuilt
  exact AggregationOperation.built_apply nestedBuilt (operands call member)

end SearchRequest
