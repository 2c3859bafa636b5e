/-
Faults of clauses, aggregations and bodies, and what rendering says about them.

A fault is a bool query without roles, or a role without clauses. The lists below
name all faults of a tree in the order of one walk: the roles of a bool query in
the order in which they are listed, the clauses of a role in order and each one
to its end, an aggregation before those nested in it, the query of a body before
its aggregations. Rendering stops at the first fault of that walk, and it fails
for no other reason.
-/

import SearchRequest.Proofs.AggregationFragments
import SearchRequest.Proofs.Fragments

namespace SearchRequest

/-- The error of an outcome that has no value. -/
def failure? {ε α : Type} : Except ε α → Option ε
  | .error error => some error
  | .ok _ => none

/-- The outcome is the first of the faults, or a value if there is none. -/
def ReportsFirst {α : Type} (outcome : Except RequestError α)
    (faults : List RequestError) : Prop :=
  match outcome with
  | .error error => faults.head? = some error
  | .ok _ => faults = []

namespace ReportsFirst

variable {α β : Type} {outcome : Except RequestError α} {faults : List RequestError}

theorem error_iff (reports : ReportsFirst outcome faults) (error : RequestError) :
    outcome = .error error ↔ faults.head? = some error := by
  cases outcome with
  | error found =>
      change faults.head? = some found at reports
      rw [reports, Except.error.injEq, Option.some.injEq]
  | ok value =>
      change faults = [] at reports
      subst reports
      constructor
      · intro impossible
        cases impossible
      · intro impossible
        cases impossible

theorem ok_iff (reports : ReportsFirst outcome faults) :
    (∃ value, outcome = .ok value) ↔ faults = [] := by
  cases outcome with
  | error found =>
      change faults.head? = some found at reports
      constructor
      · intro rendered
        obtain ⟨value, impossible⟩ := rendered
        cases impossible
      · intro none
        rw [none] at reports
        cases reports
  | ok value => exact ⟨fun _ => reports, fun _ => ⟨value, rfl⟩⟩

theorem failure?_eq (reports : ReportsFirst outcome faults) : failure? outcome = faults.head? := by
  cases outcome with
  | error found => exact Eq.symm reports
  | ok value =>
      change faults = [] at reports
      rw [reports]
      rfl

theorem map (reports : ReportsFirst outcome faults) (transform : α → β) :
    ReportsFirst (outcome.map transform) faults := by
  cases outcome with
  | error found => exact reports
  | ok value => exact reports

/-- A second part is only looked at when the first one has no fault. -/
theorem andThen (reports : ReportsFirst outcome faults) {next : α → Except RequestError β}
    {later : List RequestError} (reportsLater : ∀ value, ReportsFirst (next value) later) :
    ReportsFirst (outcome.bind next) (faults ++ later) := by
  cases outcome with
  | error found =>
      change (faults ++ later).head? = some found
      rw [List.head?_append, show faults.head? = some found from reports]
      rfl
  | ok value =>
      have none : faults = [] := reports
      subst none
      exact reportsLater value

end ReportsFirst

/-! ### Clauses -/

def RoleTable.Filled {α : Type} (table : RoleTable α) : Prop :=
  table.groups ≠ [] ∧ ∀ group ∈ table.groups, group.2 ≠ []

namespace Clause

/-- What is wrong with one group, where the clauses come with their own faults. -/
def groupFaults (group : Role × List (List RequestError)) : List RequestError :=
  if group.2.isEmpty then [.emptyBoolRole group.1] else group.2.flatten

def tableFaults (table : RoleTable (List RequestError)) : List RequestError :=
  if table.isEmpty then [.emptyBool] else table.groups.flatMap groupFaults

def faults : Clause → List RequestError :=
  fold (fun _ => []) tableFaults

theorem faults_bool (table : BoolQuery) :
    faults (.bool table) =
      if table.isEmpty then [.emptyBool]
      else table.groups.flatMap fun group =>
        if group.2.isEmpty then [.emptyBoolRole group.1] else group.2.flatMap faults := by
  unfold faults
  rw [fold_bool]
  simp only [tableFaults, RoleTable.isEmpty, RoleTable.map, List.isEmpty_map, List.flatMap_map,
    groupFaults]
  rfl

private theorem listToJson_reports {clauses : List Clause}
    (each : ∀ clause ∈ clauses, ReportsFirst clause.toJson clause.faults) :
    ReportsFirst (listToJson clauses) (clauses.flatMap faults) := by
  induction clauses with
  | nil => rfl
  | cons clause clauses ih =>
      have first := each clause List.mem_cons_self
      have rest := ih fun other member => each other (List.mem_cons_of_mem clause member)
      rw [listToJson_cons, List.flatMap_cons]
      exact first.andThen fun fragment => rest.map (fragment :: ·)

private theorem groupsToJson_reports {groups : List (Role × List Clause)}
    (each : ∀ group ∈ groups, ∀ clause ∈ group.2, ReportsFirst clause.toJson clause.faults)
    (written : Entries Json) :
    ReportsFirst (groupsToJson written groups)
      (groups.flatMap fun group =>
        if group.2.isEmpty then [.emptyBoolRole group.1] else group.2.flatMap faults) := by
  induction groups generalizing written with
  | nil => rfl
  | cons group groups ih =>
      obtain ⟨role, clauses⟩ := group
      have rest := ih fun other member => each other (List.mem_cons_of_mem _ member)
      rw [List.flatMap_cons]
      cases clauses with
      | nil => rfl
      | cons clause clauses =>
          have first := listToJson_reports (each (role, clause :: clauses) List.mem_cons_self)
          rw [groupsToJson_cons]
          exact first.andThen fun fragments => rest _

theorem toJson_reports (clause : Clause) : ReportsFirst clause.toJson clause.faults := by
  induction clause with
  | leaf content => rfl
  | bool table ih =>
      obtain ⟨groups, current⟩ := table
      rw [faults_bool, toJson]
      cases groups with
      | nil => rfl
      | cons group groups => exact (groupsToJson_reports ih []).map _

private theorem groupFaults_nil_iff {role : Role} {clauses : List Clause} :
    (if clauses.isEmpty then [RequestError.emptyBoolRole role] else clauses.flatMap faults) = [] ↔
      clauses ≠ [] ∧ ∀ clause ∈ clauses, clause.faults = [] := by
  cases clauses with
  | nil => simp
  | cons clause clauses => simp

theorem faults_bool_nil_iff (table : BoolQuery) :
    faults (.bool table) = [] ↔
      table.Filled ∧ ∀ group ∈ table.groups, ∀ clause ∈ group.2, clause.faults = [] := by
  obtain ⟨groups, current⟩ := table
  rw [faults_bool]
  cases groups with
  | nil => simp [RoleTable.isEmpty, RoleTable.Filled]
  | cons group groups =>
      simp only [RoleTable.isEmpty, List.isEmpty_cons, Bool.false_eq_true, if_false,
        List.flatMap_eq_nil_iff, groupFaults_nil_iff, RoleTable.Filled]
      constructor
      · intro all
        exact ⟨⟨List.cons_ne_nil group groups, fun other member => (all other member).1⟩,
          fun other member => (all other member).2⟩
      · intro both other member
        obtain ⟨⟨_, filled⟩, inside⟩ := both
        exact ⟨filled other member, inside other member⟩

theorem faults_nil_iff (clause : Clause) :
    clause.faults = [] ↔ ∀ table, clause.Contains table → table.Filled := by
  induction clause with
  | leaf content =>
      constructor
      · intro _ table impossible
        cases impossible
      · intro _
        rfl
  | bool table ih =>
      rw [faults_bool_nil_iff]
      constructor
      · intro both inner contained
        obtain ⟨filled, inside⟩ := both
        rcases (contains_bool_iff inner table).mp contained with
          same | ⟨group, groupMember, clause, clauseMember, deeper⟩
        · exact same ▸ filled
        · exact (ih group groupMember clause clauseMember).mp
            (inside group groupMember clause clauseMember) inner deeper
      · intro all
        refine ⟨all table .here, fun group groupMember clause clauseMember => ?_⟩
        apply (ih group groupMember clause clauseMember).mpr
        intro inner deeper
        exact all inner (.deeper groupMember clauseMember deeper)

theorem mem_faults {clause : Clause} {error : RequestError} (member : error ∈ clause.faults) :
    error = .emptyBool ∨ ∃ role, error = .emptyBoolRole role := by
  induction clause with
  | leaf content => cases member
  | bool table ih =>
      rw [faults_bool] at member
      split at member
      · exact Or.inl (List.mem_singleton.mp member)
      · obtain ⟨group, groupMember, inGroup⟩ := List.mem_flatMap.mp member
        split at inGroup
        · exact Or.inr ⟨group.1, List.mem_singleton.mp inGroup⟩
        · obtain ⟨clause, clauseMember, deeper⟩ := List.mem_flatMap.mp inGroup
          exact ih group groupMember clause clauseMember deeper

end Clause

namespace Query

/-- An empty slot has no fault, since it stands for `match_all`. -/
def faults (query : Query) : List RequestError :=
  query.clause.faults

theorem toJson_reports (query : Query) : ReportsFirst query.toJson query.faults :=
  query.clause.toJson_reports

end Query

/-! ### Aggregations -/

/-- Of all buckets only a filter can have faults, those of its query. -/
def Bucket.faults : Bucket → List RequestError
  | .filter query => query.faults
  | _ => []

theorem Bucket.body_reports (content : Bucket) : ReportsFirst content.body content.faults := by
  cases content with
  | filter query => exact query.toJson_reports
  | terms _ => rfl
  | topHits _ => rfl
  | composite _ => rfl
  | dateHistogram _ _ _ => rfl

namespace Aggregation

mutual

/-- The faults of an aggregation itself stand before those nested in it. -/
def faults : Aggregation → List RequestError
  | .metric _ _ => []
  | .bucket _ content none => content.faults
  | .bucket _ content (some children) => content.faults ++ listFaults children

def listFaults : List Aggregation → List RequestError
  | [] => []
  | item :: items => faults item ++ listFaults items

end

theorem listFaults_eq_flatMap (items : List Aggregation) :
    listFaults items = items.flatMap faults := by
  induction items with
  | nil => rfl
  | cons item items ih => rw [listFaults, ih, List.flatMap_cons]

theorem faults_bucket (name : String) (content : Bucket) (children : Option (List Aggregation)) :
    faults (.bucket name content children) =
      content.faults ++ (children.getD []).flatMap faults := by
  cases children with
  | none => exact (List.append_nil _).symm
  | some children => rw [faults, listFaults_eq_flatMap, Option.getD_some]

private theorem listToEntries_reports {items : List Aggregation}
    (each : ∀ item ∈ items, ReportsFirst item.toJson item.faults) (written : Entries Json) :
    ReportsFirst (listToEntries written items) (items.flatMap faults) := by
  induction items generalizing written with
  | nil => rfl
  | cons item items ih =>
      have first := each item List.mem_cons_self
      have rest := ih fun other member => each other (List.mem_cons_of_mem item member)
      rw [listToEntries_cons, List.flatMap_cons]
      exact first.andThen fun fragment => rest _

theorem toJson_reports (aggregation : Aggregation) :
    ReportsFirst aggregation.toJson aggregation.faults := by
  induction aggregation with
  | metric name content => rfl
  | bucket name content children ih =>
      rw [faults_bucket, toJson_bucket]
      exact content.body_reports.andThen fun body => (listToEntries_reports ih []).map _

/-- The faults of an aggregation are those of the filter queries in it. -/
theorem mem_faults_iff (aggregation : Aggregation) (error : RequestError) :
    error ∈ aggregation.faults ↔
      ∃ query, aggregation.HasFilter query ∧ error ∈ query.faults := by
  induction aggregation with
  | metric name content =>
      constructor
      · intro impossible
        cases impossible
      · intro faulty
        obtain ⟨query, impossible, _⟩ := faulty
        cases impossible
  | bucket name content children ih =>
      rw [faults_bucket, List.mem_append, List.mem_flatMap]
      constructor
      · intro either
        rcases either with own | ⟨item, itemMember, nested⟩
        · cases content with
          | filter query => exact ⟨query, .here, own⟩
          | terms _ => cases own
          | topHits _ => cases own
          | composite _ => cases own
          | dateHistogram _ _ _ => cases own
        · obtain ⟨query, found, faulty⟩ := (ih item itemMember).mp nested
          exact ⟨query,
            (hasFilter_bucket_iff query name content children).mpr
              (Or.inr ⟨item, itemMember, found⟩), faulty⟩
      · intro inFilter
        obtain ⟨query, found, faulty⟩ := inFilter
        rcases (hasFilter_bucket_iff query name content children).mp found with
          same | ⟨item, itemMember, nested⟩
        · subst same
          exact Or.inl faulty
        · exact Or.inr ⟨item, itemMember, (ih item itemMember).mpr ⟨query, nested, faulty⟩⟩

end Aggregation

namespace Aggregations

def faults (items : Aggregations) : List RequestError :=
  items.flatMap Aggregation.faults

theorem toEntries_reports (items : Aggregations) : ReportsFirst items.toEntries items.faults :=
  Aggregation.listToEntries_reports (fun item _ => item.toJson_reports) []

theorem mem_faults_iff (items : Aggregations) (error : RequestError) :
    error ∈ items.faults ↔
      ∃ item ∈ items, ∃ query, item.HasFilter query ∧ error ∈ query.faults := by
  simp only [faults, List.mem_flatMap, Aggregation.mem_faults_iff]

theorem faults_nil_iff (items : Aggregations) :
    items.faults = [] ↔
      ∀ item ∈ items, ∀ query, item.HasFilter query → query.faults = [] := by
  constructor
  · intro none item member query found
    apply List.eq_nil_iff_forall_not_mem.mpr
    intro error faulty
    have listed := (mem_faults_iff items error).mpr ⟨item, member, query, found, faulty⟩
    rw [none] at listed
    cases listed
  · intro clean
    apply List.eq_nil_iff_forall_not_mem.mpr
    intro error listed
    obtain ⟨item, member, query, found, faulty⟩ := (mem_faults_iff items error).mp listed
    rw [clean item member query found] at faulty
    cases faulty

end Aggregations

namespace Body

def faults (body : Body) : List RequestError :=
  body.query.faults ++ body.aggregations.faults

/-- The bool query stands in the query of the body or in that of a filter aggregation. -/
def Contains (body : Body) (table : BoolQuery) : Prop :=
  body.query.clause.Contains table ∨
    ∃ item ∈ body.aggregations, ∃ query,
      item.HasFilter query ∧ query.clause.Contains table

theorem toJson_reports (body : Body) : ReportsFirst body.toJson body.faults := by
  have entries := body.aggregations.toEntries_reports
  refine body.query.toJson_reports.andThen fun query => ?_
  cases rendered : body.aggregations.toEntries with
  | error found =>
      rw [rendered] at entries
      exact entries
  | ok nested =>
      rw [rendered] at entries
      exact entries

theorem faults_nil_iff (body : Body) :
    body.faults = [] ↔ ∀ table, body.Contains table → table.Filled := by
  rw [faults, List.append_eq_nil_iff, Aggregations.faults_nil_iff, Query.faults,
    Clause.faults_nil_iff]
  constructor
  · intro both table contained
    obtain ⟨queryClean, clean⟩ := both
    rcases contained with inQuery | ⟨item, member, query, found, inFilter⟩
    · exact queryClean table inQuery
    · have filterClean := clean item member query found
      exact query.clause.faults_nil_iff.mp filterClean table inFilter
  · intro all
    constructor
    · intro table inQuery
      exact all table (Or.inl inQuery)
    · intro item member query found
      apply query.clause.faults_nil_iff.mpr
      intro table inFilter
      exact all table (Or.inr ⟨item, member, query, found, inFilter⟩)

theorem mem_faults {body : Body} {error : RequestError} (member : error ∈ body.faults) :
    error = .emptyBool ∨ ∃ role, error = .emptyBoolRole role := by
  rcases List.mem_append.mp member with inQuery | inAggregations
  · exact Clause.mem_faults inQuery
  · obtain ⟨_, _, query, _, faulty⟩ :=
      (Aggregations.mem_faults_iff body.aggregations error).mp inAggregations
    exact Clause.mem_faults faulty

/--
A body renders exactly when every bool query in it, in filters at any depth too, has a role and
no role without clauses. Otherwise the error is the first fault of the walk over the body, and
it is never of another kind.
-/
theorem toJson_stops_at_first_fault (body : Body) :
    ((∃ document, body.toJson = .ok document) ↔
        ∀ table, body.Contains table → table.Filled) ∧
      (∀ error, body.toJson = .error error ↔ body.faults.head? = some error) ∧
      ∀ error, body.toJson = .error error →
        error = .emptyBool ∨ ∃ role, error = .emptyBoolRole role := by
  have reports := body.toJson_reports
  refine ⟨reports.ok_iff.trans body.faults_nil_iff, reports.error_iff, ?_⟩
  intro error failed
  have first := (reports.error_iff error).mp failed
  exact mem_faults (List.mem_of_mem_head? first)

/-- A filter whose name a later one takes over is still rendered, and so is its fault. -/
def shadowedFault : Body :=
  { aggregations :=
      [.bucket "failed" (.filter (.boolean
          ⟨[(.must, [.bool ⟨[(.filter, [.leaf .matchAll]), (.should, [])], none⟩]),
            (.mustNot, [])], none⟩)) none,
        .bucket "failed" (.filter .empty) none] }

theorem shadowedFault_reported :
    shadowedFault.toJson = .error (.emptyBoolRole .should) ∧
      ¬ ∀ table, shadowedFault.Contains table → table.Filled := by
  obtain ⟨success, failure, _⟩ := shadowedFault.toJson_stops_at_first_fault
  have failed : shadowedFault.toJson = .error (.emptyBoolRole .should) := (failure _).mpr rfl
  refine ⟨failed, ?_⟩
  intro allFilled
  obtain ⟨document, rendered⟩ := success.mpr allFilled
  rw [failed] at rendered
  cases rendered

end Body

end SearchRequest
