/-
Runs of calls on the slot for the top-level clause. Calls that fail stay in the
run, and so do the refused ones among the calls on its bool query. A block that
gives up early has made a shorter list of calls, so nothing is lost by letting
every list run to its end.

Every leaf but a range is handed over as a clause; a range is checked first.
-/

import SearchRequest.Proofs.Construction
import SearchRequest.Proofs.OperationLog

namespace SearchRequest

inductive QueryOperation where
  | push (clause : Clause)
  | pushRange (field : String) (bounds : RangeBounds)
  /-- Asks for the bool query of the slot and calls it. -/
  | editBool (calls : List BoolOperation)
  /-- Runs a block under a role; how the block ends is up to its own code. -/
  | withBool (role : Role) (calls : List BoolOperation) (result : Except RequestError Unit)
  | negate
  /-- Puts the merge with another slot, which comes second, in the place of the slot. -/
  | merge (other : Query)
  | mergeInto (other : Query)

namespace Query

/-- The range is checked without a look at the slot, and pushed like any clause. -/
theorem pushRange_eq (query : Query) (field : String) (bounds : RangeBounds) :
    query.pushRange field bounds =
      match RangeClause.build field bounds with
      | .error error => .error error
      | .ok range => query.push (.leaf (.range range)) := by
  change (RangeClause.build field bounds).bind (fun range => query.pushLeaf (.range range)) = _
  cases RangeClause.build field bounds <;> rfl

end Query

namespace QueryOperation

/-- A refusal leaves the slot as it was. -/
def settle (query : Query) : Except RequestError Query → Except RequestError Unit × Query
  | .error error => (.error error, query)
  | .ok changed => (.ok (), changed)

def apply (query : Query) : QueryOperation → Except RequestError Unit × Query
  | .push clause => settle query (query.push clause)
  | .pushRange field bounds => settle query (query.pushRange field bounds)
  | .editBool calls => query.editBool fun table => (.ok (), BoolRun.execute table calls)
  | .withBool role calls result =>
      query.withBool role fun table => (result, BoolRun.execute table calls)
  | .negate => (.ok (), query.negate)
  | .merge other => (.ok (), query.merge other)
  | .mergeInto other => (.ok (), other.merge query)

theorem settle_error {query : Query} {outcome : Except RequestError Query} {error : RequestError}
    (refused : (settle query outcome).1 = .error error) : (settle query outcome).2 = query := by
  cases outcome with
  | error found => rfl
  | ok changed => cases refused

/-- A range goes the way of a clause, unless it is refused before the slot comes in. -/
theorem apply_pushRange (query : Query) (field : String) (bounds : RangeBounds) :
    (∃ error, apply query (.pushRange field bounds) = (.error error, query)) ∨
      ∃ range, apply query (.pushRange field bounds) =
        apply query (.push (.leaf (.range range))) := by
  simp only [apply, Query.pushRange_eq]
  cases RangeClause.build field bounds with
  | error refused => exact Or.inl ⟨refused, rfl⟩
  | ok range => exact Or.inr ⟨range, rfl⟩

/-- A block under a role leaves behind what the same calls leave after an opening. -/
theorem apply_withBool (query : Query) (role : Role) (calls : List BoolOperation)
    (result : Except RequestError Unit) :
    (apply query (.withBool role calls result)).2 =
      (apply query (.editBool (.openRole role :: calls))).2 := by
  cases query <;> rfl

end QueryOperation

namespace QueryRun

def execute (query : Query) (run : List QueryOperation) : Query :=
  run.foldl (fun reached operation => (operation.apply reached).2) query

theorem execute_cons (query : Query) (operation : QueryOperation) (run : List QueryOperation) :
    execute query (operation :: run) = execute (operation.apply query).2 run :=
  rfl

end QueryRun

/-! ### Runs on what has been built -/

/-- The clauses and bool queries that the call hands over have been built themselves. -/
def BoolOperation.OperandsBuilt : BoolOperation → Prop
  | .openRole _ => True
  | .push clause | .merge clause => clause.Built
  | .union other => other.Built

def QueryOperation.OperandsBuilt : QueryOperation → Prop
  | .push clause => clause.Built
  | .pushRange _ _ | .negate => True
  | .editBool calls | .withBool _ calls _ => ∀ call ∈ calls, call.OperandsBuilt
  | .merge other | .mergeInto other => other.Built

theorem BoolOperation.built_apply {table : BoolQuery} (built : table.Built)
    {operation : BoolOperation} (operands : operation.OperandsBuilt) :
    (operation.apply table).2.Built := by
  cases operation with
  | openRole role => exact .openRole role built
  | push clause =>
      rw [apply]
      cases result : table.push clause with
      | error refused => exact built
      | ok pushed => exact .push built operands result
  | merge clause => exact .merge built operands
  | union other => exact .union built operands

theorem BoolRun.built_execute {table : BoolQuery} (built : table.Built)
    {run : List BoolOperation} (operands : ∀ operation ∈ run, operation.OperandsBuilt) :
    (execute table run).Built := by
  apply List.foldlRecOn run _ built
  intro reached reachedBuilt operation member
  exact BoolOperation.built_apply reachedBuilt (operands operation member)

theorem QueryOperation.built_apply {query : Query} (built : query.Built)
    {operation : QueryOperation} (operands : operation.OperandsBuilt) :
    (operation.apply query).2.Built := by
  cases operation with
  | push clause =>
      rw [apply]
      cases result : query.push clause with
      | error refused => exact built
      | ok pushed => exact .push built operands result
  | pushRange field bounds =>
      rw [apply]
      cases result : query.pushRange field bounds with
      | error refused => exact built
      | ok pushed => exact .pushRange built result
  | editBool calls =>
      exact .editBool (fun _ present => BoolRun.built_execute present operands) built
  | withBool role calls result =>
      exact .withBool role (fun _ present => BoolRun.built_execute present operands) built
  | negate => exact .negate built
  | merge other => exact .merge built operands
  | mergeInto other => exact .merge operands built

theorem QueryRun.built_execute {query : Query} (built : query.Built)
    {run : List QueryOperation} (operands : ∀ operation ∈ run, operation.OperandsBuilt) :
    (execute query run).Built := by
  apply List.foldlRecOn run _ built
  intro reached reachedBuilt operation member
  exact QueryOperation.built_apply reachedBuilt (operands operation member)

end SearchRequest
