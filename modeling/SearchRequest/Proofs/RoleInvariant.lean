/-
The role invariant, for every bool query that stands at any depth in anything the
operations have built: its roles are listed once each, the open role among them.

Two things follow. A push finds its role and never brings up a new one. And the
document has room for everything: one key for each role, in order, one array for
each key, and one fragment in an array for each clause under its role.
-/

import SearchRequest.Proofs.BodyConstruction
import SearchRequest.Proofs.Fragments

namespace SearchRequest

def Json.elements : Json → List Json
  | .array items => items
  | _ => []

namespace RoleTable

/-- The bool query stands somewhere in what the operations have built. -/
inductive Reachable (table : BoolQuery) : Prop
  | inBool {outer : BoolQuery} :
      outer.Built → (Clause.bool outer).Contains table → Reachable table
  | inClause {clause : Clause} : clause.Built → clause.Contains table → Reachable table
  | inQuery {query : Query} : query.Built → query.clause.Contains table → Reachable table
  | inAggregations {items : Aggregations} {item : Aggregation} {query : Query} :
      Aggregations.Built items → item ∈ items → item.HasFilter query →
        query.clause.Contains table → Reachable table
  | inBody {body : Body} : body.Built → body.Contains table → Reachable table

/-- The entries under `bool` show each role once, with all its clauses. -/
structure ShownBy (table : BoolQuery) (entries : Entries Json) : Prop where
  keys : Entries.keys entries = table.roles.map Role.key
  array : ∀ role clauses, table.items? role = some clauses →
    ∃ fragments, Entries.find? role.key entries = some (.array fragments) ∧
      fragments.length = clauses.length
  total : (entries.flatMap fun entry => entry.2.elements).length = table.count

structure ListsRolesOnce (table : BoolQuery) : Prop where
  distinct : table.roles.Nodup
  openListed : ∀ role, table.current = some role → role ∈ table.roles
  pushed : ∀ clause pushed, table.push clause = .ok pushed → pushed.roles = table.roles
  shown : ∀ document, table.toJson = .ok document →
    ∃ entries, document = .single Clause.boolKey (.object entries) ∧ table.ShownBy entries

theorem Reachable.wellFormed {table : BoolQuery} (reachable : table.Reachable) :
    table.WellFormed := by
  cases reachable with
  | inBool built contained => exact built.wellFormed table contained
  | inClause built contained => exact built.wellFormed table contained
  | inQuery built contained => exact built.wellFormed table contained
  | inAggregations built member found contained =>
      have filterBuilt := (built.item _ member).filter found
      exact filterBuilt.wellFormed table contained
  | inBody built contained =>
      obtain ⟨queryBuilt, aggregationsBuilt⟩ := built.parts
      rcases contained with inQuery | ⟨item, member, query, found, inFilter⟩
      · exact queryBuilt.wellFormed table inQuery
      · have filterBuilt := (aggregationsBuilt.item item member).filter found
        exact filterBuilt.wellFormed table inFilter

theorem WellFormed.roles_push {α : Type} {table pushed : RoleTable α} {item : α}
    (wellFormed : table.WellFormed) (accepted : table.push item = .ok pushed) :
    pushed.roles = table.roles := by
  cases isOpen : table.current with
  | none =>
      rw [push_closed isOpen] at accepted
      cases accepted
  | some role =>
      have listed := wellFormed.2 role isOpen
      rw [push_open isOpen] at accepted
      cases accepted
      rw [roles_append, if_pos listed]

theorem keys_body (fragments : RoleTable Json) :
    Entries.keys fragments.body = fragments.roles.map Role.key := by
  simp only [Entries.keys, body, roles, List.map_map]
  rfl

theorem find?_body (fragments : RoleTable Json) (role : Role) :
    Entries.find? role.key fragments.body = (fragments.items? role).map Json.array := by
  obtain ⟨groups, current⟩ := fragments
  simp only [body]
  induction groups with
  | nil => rfl
  | cons group rest ih =>
      obtain ⟨name, items⟩ := group
      rw [items?_cons, List.map_cons, Entries.find?]
      by_cases same : name = role
      · rw [if_pos same, if_pos (congrArg Role.key same)]
        rfl
      · have otherKey : name.key ≠ role.key := fun keys => same (Role.key_injective keys)
        rw [if_neg same, if_neg otherKey]
        exact ih

theorem elements_body (fragments : RoleTable Json) :
    (fragments.body.flatMap fun entry => entry.2.elements) = fragments.contents := by
  simp only [body, contents, List.flatMap_map]
  rfl

theorem shownBy_body {table : BoolQuery} {fragments : RoleTable Json}
    (same : table.map Clause.toJson = fragments.map Except.ok) :
    table.ShownBy fragments.body where
  keys := by
    have sameRoles := congrArg roles same
    rw [roles_map, roles_map] at sameRoles
    rw [keys_body, sameRoles]
  array role clauses present := by
    have sameItems := congrArg (fun image => image.items? role) same
    simp only [items?_map, present, Option.map_some] at sameItems
    obtain ⟨items, found, sameImages⟩ := Option.map_eq_some_iff.mp sameItems.symm
    have sameLength := congrArg List.length sameImages
    rw [List.length_map, List.length_map] at sameLength
    refine ⟨items, ?_, sameLength⟩
    rw [find?_body, found]
    rfl
  total := by
    have sameCount := congrArg count same
    rw [count_map, count_map] at sameCount
    rw [elements_body]
    exact sameCount.symm

theorem WellFormed.shown {table : BoolQuery} (wellFormed : table.WellFormed) {document : Json}
    (rendered : table.toJson = .ok document) :
    ∃ entries, document = .single Clause.boolKey (.object entries) ∧ table.ShownBy entries := by
  obtain ⟨fragments, same, isDocument⟩ := Clause.fragments_of_toJson wellFormed.1 rendered
  exact ⟨fragments.body, isDocument, shownBy_body same⟩

/-- No operation, in whatever order and at whatever depth, lists a role of a bool query twice. -/
theorem Reachable.roles_listed_once {table : BoolQuery} (reachable : table.Reachable) :
    table.ListsRolesOnce where
  distinct := reachable.wellFormed.1
  openListed := reachable.wellFormed.2
  pushed _ _ accepted := reachable.wellFormed.roles_push accepted
  shown _ rendered := reachable.wellFormed.shown rendered

/-- Two bool queries come in by merging, and one of them has a role that is already listed. -/
def stalledJobs : BoolQuery :=
  ((ofRole .should [.leaf (.exists "retry")]).union
    (ofRole .mustNot [.negate (.leaf (.exists "stage"))])).union
      (ofRole .should [.leaf .matchNone])

def withStages (nested : Aggregation) (items : Aggregations) :
    Except PathError Unit × Aggregations :=
  Aggregations.editAt (fun inner => (.ok (), inner.push nested)) ["stages"]
    (items.push (.bucket "stages" (.topHits 5) none))

/-- The bool query stands negated in a filter, two levels down. -/
def stalledReport : Body :=
  Body.empty.merge { Body.empty with
    aggregations := (withStages
      (.bucket "stalled" (.filter (Query.boolean stalledJobs).negate) none) []).2 }

theorem built_stalledJobs : RoleTable.Built stalledJobs := by
  have retried : ∀ clause ∈ [Clause.leaf (.exists "retry")], clause.Built :=
    List.forall_mem_singleton.mpr (.leaf _)
  have unstaged : ∀ clause ∈ [Clause.negate (.leaf (.exists "stage"))], clause.Built :=
    List.forall_mem_singleton.mpr (.negate (.leaf _))
  have never : ∀ clause ∈ [Clause.leaf .matchNone], clause.Built :=
    List.forall_mem_singleton.mpr (.leaf _)
  exact .union (.union (.ofRole .should retried) (.ofRole .mustNot unstaged))
    (.ofRole .should never)

theorem built_withStages {nested : Aggregation} (nestedBuilt : nested.Built)
    {items : Aggregations} (built : Aggregations.Built items) :
    Aggregations.Built (withStages nested items).2 := by
  have hitsBuilt : Bucket.Built (.topHits 5) := fun _ impossible => nomatch impossible
  apply Aggregations.Built.editAt
  · intro inner innerBuilt
    exact .push innerBuilt nestedBuilt
  · exact .push built (.bucket "stages" hitsBuilt)

theorem built_stalledReport : stalledReport.Built := by
  have filterBuilt : Bucket.Built (.filter (Query.boolean stalledJobs).negate) := by
    intro query same
    cases same
    exact .negate (.push .empty (.bool built_stalledJobs) rfl)
  have nestedBuilt := Aggregation.Built.bucket "stalled" filterBuilt
  have edited := Body.Built.editAggregations (fun _ => built_withStages nestedBuilt) .empty
  exact .merge .empty edited

theorem stalledJobs_roles_listed_once :
    stalledReport.Contains stalledJobs ∧ stalledJobs.Reachable ∧
      ∃ entries, stalledJobs.toJson = .ok (.single "bool" (.object entries)) ∧
        Entries.keys entries = ["should", "must_not"] ∧
        (entries.flatMap fun entry => entry.2.elements).length = 3 := by
  have contained : stalledReport.Contains stalledJobs := by
    refine Or.inr ⟨_, List.mem_cons_self, _, .deeper List.mem_cons_self .here, ?_⟩
    exact .deeper List.mem_cons_self List.mem_cons_self .here
  have reachable : stalledJobs.Reachable := .inBody built_stalledReport contained
  obtain ⟨entries, isDocument, shown⟩ := (Reachable.roles_listed_once reachable).shown _ rfl
  refine ⟨contained, reachable, entries, congrArg Except.ok isDocument, ?_, ?_⟩
  · rw [shown.keys]
    decide
  · rw [shown.total]
    decide

end RoleTable

end SearchRequest
