/-
Runs of operations on a body, told apart by the part that each operation addresses. An
operation reads and writes its own part and no other, also when it fails. A run is
therefore told by what it does to each part, and it does not matter how the operations
on different parts come between each other.

The query and the aggregations are handed out to be changed at will, so an operation on
one of them is any function of it.
-/

import SearchRequest.Proofs.AggregationRun
import SearchRequest.Proofs.BodyDocument
import SearchRequest.Proofs.BodyMerge

namespace SearchRequest

inductive BodyPart where
  | offset
  | pageSize
  | source
  | collapse
  | sorting
  | query
  | aggregations
  deriving DecidableEq

/-- The results of what is done to the query and to the aggregations are of the given type. -/
inductive BodyOperation (ρ : Type) where
  | offset (value : Int)
  | pageSize (value : Int)
  | source (filter : SourceFilter)
  | sourceJson (value : Json)
  | collapse (field : String)
  | sort (fields : Json)
  | sortField (field : String) (order : SortOrder)
  | query (edit : Query → ρ × Query)
  | aggregations (edit : Aggregations → ρ × Aggregations)

inductive BodyReport (ρ : Type) where
  | settled (outcome : Except RequestError Unit)
  | edited (result : ρ)

namespace Body

/-- The body without everything but one part. -/
def only (body : Body) : BodyPart → Body
  | .offset => { offset := body.offset }
  | .pageSize => { pageSize := body.pageSize }
  | .source => { source := body.source }
  | .collapse => { collapse := body.collapse }
  | .sorting => { sorting := body.sorting }
  | .query => { query := body.query }
  | .aggregations => { aggregations := body.aggregations }

theorem eq_of_only_eq {left right : Body} (same : ∀ part, left.only part = right.only part) :
    left = right := by
  have agree : AgreesBesideQuery left right :=
    { offset := (congrArg Body.offset (same .offset) :)
      pageSize := (congrArg Body.pageSize (same .pageSize) :)
      source := (congrArg Body.source (same .source) :)
      collapse := (congrArg Body.collapse (same .collapse) :)
      sorting := (congrArg Body.sorting (same .sorting) :)
      aggregations := (congrArg Body.aggregations (same .aggregations) :) }
  exact eq_of_agree agree (congrArg Body.query (same .query) :)

end Body

variable {ρ : Type}

namespace BodyOperation

def part : BodyOperation ρ → BodyPart
  | .offset _ => .offset
  | .pageSize _ => .pageSize
  | .source _ | .sourceJson _ => .source
  | .collapse _ => .collapse
  | .sort _ | .sortField _ _ => .sorting
  | .query _ => .query
  | .aggregations _ => .aggregations

/-- A refusal leaves the body as it was. -/
def settle (body : Body) : Except RequestError Body → BodyReport ρ × Body
  | .error error => (.settled (.error error), body)
  | .ok changed => (.settled (.ok ()), changed)

def apply (body : Body) : BodyOperation ρ → BodyReport ρ × Body
  | .offset value => settle body (body.withOffset value)
  | .pageSize value => settle body (body.withPageSize value)
  | .source filter => (.settled (.ok ()), body.withSource filter)
  | .sourceJson value => settle body (body.withSourceJson value)
  | .collapse field => (.settled (.ok ()), body.withCollapse field)
  | .sort fields => (.settled (body.sort fields).1, (body.sort fields).2)
  | .sortField field order => (.settled (.ok ()), body.sortField field order)
  | .query edit => (.edited (edit body.query).1, { body with query := (edit body.query).2 })
  | .aggregations edit =>
      (.edited (edit body.aggregations).1,
        { body with aggregations := (edit body.aggregations).2 })

def ofQuery (call : QueryOperation) : BodyOperation (Except PathError Unit) :=
  .query fun query => AggregationOperation.settle (call.apply query)

/-- A single call on the bool query of the slot. -/
def ofBool (call : BoolOperation) : BodyOperation (Except PathError Unit) :=
  .query fun query => AggregationOperation.settle (query.editBool fun table => call.apply table)

def ofAggregations (call : AggregationCall) : BodyOperation (Except PathError Unit) :=
  .aggregations fun items => call.apply items

/-- The other parts of the body have no say in what is reported and what becomes of the part. -/
theorem apply_only (operation : BodyOperation ρ) (body : Body) :
    (operation.apply body).1 = (operation.apply (body.only operation.part)).1 ∧
      (operation.apply body).2.only operation.part =
        (operation.apply (body.only operation.part)).2.only operation.part := by
  cases operation with
  | offset value =>
      simp only [apply, Body.withOffset]
      cases Body.windowValue .offset value <;> exact ⟨rfl, rfl⟩
  | pageSize value =>
      simp only [apply, Body.withPageSize]
      cases Body.windowValue .pageSize value <;> exact ⟨rfl, rfl⟩
  | sourceJson value =>
      simp only [apply, Body.withSourceJson]
      cases SourceFilter.ofJson value <;> exact ⟨rfl, rfl⟩
  | source _ | collapse _ | sort _ | sortField _ _ | query _ | aggregations _ =>
      exact ⟨rfl, rfl⟩

theorem only_apply_other {operation : BodyOperation ρ} {part : BodyPart}
    (other : operation.part ≠ part) (body : Body) :
    (operation.apply body).2.only part = body.only part := by
  cases operation with
  | offset value =>
      simp only [apply, Body.withOffset]
      cases Body.windowValue .offset value with
      | error refused => rfl
      | ok offset => cases part <;> first | rfl | exact absurd rfl other
  | pageSize value =>
      simp only [apply, Body.withPageSize]
      cases Body.windowValue .pageSize value with
      | error refused => rfl
      | ok pageSize => cases part <;> first | rfl | exact absurd rfl other
  | sourceJson value =>
      simp only [apply, Body.withSourceJson]
      cases SourceFilter.ofJson value with
      | error refused => rfl
      | ok source => cases part <;> first | rfl | exact absurd rfl other
  | source _ | collapse _ | sort _ | sortField _ _ | query _ | aggregations _ =>
      cases part <;> first | rfl | exact absurd rfl other

/-- On bodies that agree in its part, an operation reports the same and they agree afterwards. -/
theorem apply_congr {operation : BodyOperation ρ} {left right : Body}
    (agree : left.only operation.part = right.only operation.part) :
    (operation.apply left).1 = (operation.apply right).1 ∧
      (operation.apply left).2.only operation.part =
        (operation.apply right).2.only operation.part := by
  obtain ⟨leftReport, leftPart⟩ := operation.apply_only left
  obtain ⟨rightReport, rightPart⟩ := operation.apply_only right
  rw [agree] at leftReport leftPart
  exact ⟨leftReport.trans rightReport.symm, leftPart.trans rightPart.symm⟩

end BodyOperation

namespace BodyRun

def execute (body : Body) (run : List (BodyOperation ρ)) : Body :=
  run.foldl (fun reached operation => (operation.apply reached).2) body

/-- The operations, each with what it reports when its turn comes. -/
def record (body : Body) : List (BodyOperation ρ) → List (BodyOperation ρ × BodyReport ρ)
  | [] => []
  | operation :: run =>
      (operation, (operation.apply body).1) :: record (operation.apply body).2 run

def onPart (part : BodyPart) (run : List (BodyOperation ρ)) : List (BodyOperation ρ) :=
  run.filter fun operation => operation.part = part

def recordOnPart (part : BodyPart) (body : Body) (run : List (BodyOperation ρ)) :
    List (BodyOperation ρ × BodyReport ρ) :=
  (record body run).filter fun entry => entry.1.part = part

/-! ### A whole run -/

/-- What a run does to a part is what its operations on the part do when they run alone. -/
theorem run_onPart {part : BodyPart} {left right : Body}
    (agree : left.only part = right.only part) (run : List (BodyOperation ρ)) :
    recordOnPart part left run = record right (onPart part run) ∧
      (execute left run).only part = (execute right (onPart part run)).only part := by
  induction run generalizing left right with
  | nil => exact ⟨rfl, agree⟩
  | cons operation run ih =>
      by_cases addressed : operation.part = part
      · subst addressed
        obtain ⟨sameReport, agreeAfter⟩ := BodyOperation.apply_congr agree
        obtain ⟨restRecord, restPart⟩ := ih agreeAfter
        have kept : onPart operation.part (operation :: run) =
            operation :: onPart operation.part run :=
          List.filter_cons_of_pos (decide_eq_true rfl)
        rw [kept]
        constructor
        · calc
            recordOnPart operation.part left (operation :: run)
                = (operation, (operation.apply left).1) ::
                    recordOnPart operation.part (operation.apply left).2 run :=
                  List.filter_cons_of_pos (decide_eq_true rfl)
            _ = record right (operation :: onPart operation.part run) := by
                  rw [restRecord, sameReport]
                  rfl
        · exact restPart
      · have skipped : onPart part (operation :: run) = onPart part run :=
          List.filter_cons_of_neg (by simp [addressed])
        have unrecorded : recordOnPart part left (operation :: run) =
            recordOnPart part (operation.apply left).2 run :=
          List.filter_cons_of_neg (by simp [addressed])
        have agreeAfter : (operation.apply left).2.only part = right.only part :=
          (BodyOperation.only_apply_other addressed left).trans agree
        rw [skipped, unrecorded]
        exact ih agreeAfter

/--
Two runs on one body that have the same operations on every part, in the same order, report the
same for each of them and leave the same body, so the same request is rendered or the same fault
is found. Its keys are always in the one order.
-/
theorem interleaving_immaterial (start : Body) {first second : List (BodyOperation ρ)}
    (same : ∀ part, onPart part first = onPart part second) :
    (∀ part, recordOnPart part start first = recordOnPart part start second) ∧
      execute start first = execute start second ∧
      (execute start first).toJson = (execute start second).toJson ∧
      (∀ pretty, (execute start first).render pretty = (execute start second).render pretty) ∧
      ∀ (body : Body) (document : Json), body.toJson = .ok document →
        ∃ entries, document = .object entries ∧
          Entries.keys entries = Body.keyOrder.filter body.shows := by
  have records : ∀ part, recordOnPart part start first = recordOnPart part start second := by
    intro part
    have own : start.only part = start.only part := rfl
    obtain ⟨ofFirst, _⟩ := run_onPart own first
    obtain ⟨ofSecond, _⟩ := run_onPart own second
    rw [ofFirst, ofSecond, same part]
  have sameBody : execute start first = execute start second := by
    apply Body.eq_of_only_eq
    intro part
    have own : start.only part = start.only part := rfl
    obtain ⟨_, ofFirst⟩ := run_onPart own first
    obtain ⟨_, ofSecond⟩ := run_onPart own second
    rw [ofFirst, ofSecond, same part]
  refine ⟨records, sameBody, congrArg Body.toJson sameBody, ?_, ?_⟩
  · intro pretty
    exact congrArg (fun body => body.render pretty) sameBody
  · intro body document rendered
    exact Body.keys_of_toJson rendered

/-- Each part is finished before the next one is begun. On most parts an operation fails. -/
def dashboardByPart : List (BodyOperation (Except PathError Unit)) :=
  [.offset (-1), .offset 40, .sourceJson (.bool true), .source .disabled, .collapse "job",
    .sort (.object [("age", .string "asc"), ("id", .null)]), .sortField "id" .desc,
    .ofBool (.push (.leaf (.exists "id"))), .ofBool (.openRole .must),
    .ofBool (.push (.leaf (.exists "age"))), .ofQuery .negate,
    .ofAggregations ⟨[], .push (.metric "cost" (.max "cost"))⟩,
    .ofAggregations ⟨["cost"], .push (.metric "low" (.max "low"))⟩]

/-- The same operations, part by part in turns. -/
def dashboardInTurns : List (BodyOperation (Except PathError Unit)) :=
  [.ofAggregations ⟨[], .push (.metric "cost" (.max "cost"))⟩,
    .ofBool (.push (.leaf (.exists "id"))),
    .sort (.object [("age", .string "asc"), ("id", .null)]), .sourceJson (.bool true),
    .offset (-1), .ofBool (.openRole .must), .sortField "id" .desc, .source .disabled,
    .ofAggregations ⟨["cost"], .push (.metric "low" (.max "low"))⟩,
    .ofBool (.push (.leaf (.exists "age"))), .offset 40, .collapse "job", .ofQuery .negate]

theorem interleaving_immaterial_dashboard :
    dashboardByPart.map BodyOperation.part ≠ dashboardInTurns.map BodyOperation.part ∧
      (∀ part, onPart part dashboardByPart = onPart part dashboardInTurns) ∧
      (recordOnPart .query .empty dashboardInTurns).map Prod.snd =
        [.edited (.error (.refused .noOpenRole)), .edited (.ok ()), .edited (.ok ()),
          .edited (.ok ())] ∧
      (recordOnPart .aggregations .empty dashboardInTurns).map Prod.snd =
        [.edited (.ok ()), .edited (.error (.refused (.notNestable "cost" .max)))] ∧
      (execute .empty dashboardByPart).sorting.keys = ["age", "id"] ∧
      execute .empty dashboardByPart = execute .empty dashboardInTurns ∧
      ∀ document, (execute .empty dashboardInTurns).toJson = .ok document →
        ∃ entries, document = .object entries ∧
          Entries.keys entries = ["from", "_source", "query", "sort", "collapse", "aggs"] := by
  have same : ∀ part, onPart part dashboardByPart = onPart part dashboardInTurns := by
    intro part
    cases part <;> rfl
  obtain ⟨_, sameBody, _, _, keys⟩ := interleaving_immaterial .empty same
  refine ⟨by decide, same, rfl, rfl, rfl, sameBody, ?_⟩
  intro document rendered
  exact keys (execute .empty dashboardInTurns) document rendered

end BodyRun

end SearchRequest
