/-
The bool queries, clauses and slots that the operations can build, and what they
have in common: in every bool query at any depth no role is listed twice and the
open role is listed.

Nothing is asked of the leaves. A block that edits a bool query may be anything
that turns a built table into a built table.
-/

import SearchRequest.Proofs.ClauseTree

namespace SearchRequest

mutual

inductive RoleTable.Built : BoolQuery → Prop
  | empty : RoleTable.Built .empty
  | ofRole (role : Role) {clauses : List Clause} :
      (∀ clause ∈ clauses, Clause.Built clause) → RoleTable.Built (.ofRole role clauses)
  | openRole (role : Role) {table : BoolQuery} :
      RoleTable.Built table → RoleTable.Built (table.openRole role)
  | push {table pushed : BoolQuery} {clause : Clause} :
      RoleTable.Built table → Clause.Built clause → table.push clause = .ok pushed →
        RoleTable.Built pushed
  | merge {table : BoolQuery} {clause : Clause} :
      RoleTable.Built table → Clause.Built clause → RoleTable.Built (table.merge clause)
  | union {table other : BoolQuery} :
      RoleTable.Built table → RoleTable.Built other → RoleTable.Built (table.union other)

inductive Clause.Built : Clause → Prop
  | leaf (content : Leaf) : Clause.Built (.leaf content)
  | bool {table : BoolQuery} : RoleTable.Built table → Clause.Built (.bool table)
  | negate {clause : Clause} : Clause.Built clause → Clause.Built clause.negate

end

inductive Query.Built : Query → Prop
  | empty : Query.Built .empty
  | push {query pushed : Query} {clause : Clause} :
      query.Built → clause.Built → query.push clause = .ok pushed → pushed.Built
  | pushRange {query pushed : Query} {field : String} {bounds : RangeBounds} :
      query.Built → query.pushRange field bounds = .ok pushed → pushed.Built
  | editBool {β : Type} {block : BoolQuery → Except RequestError β × BoolQuery} {query : Query} :
      (∀ table, table.Built → (block table).2.Built) → query.Built →
        (query.editBool block).2.Built
  | negate {query : Query} : query.Built → query.negate.Built
  | merge {left right : Query} : left.Built → right.Built → (left.merge right).Built

theorem RoleTable.Built.withRole {β : Type} (role : Role)
    {block : BoolQuery → Except RequestError β × BoolQuery}
    (keeps : ∀ table, table.Built → (block table).2.Built) {table : BoolQuery}
    (built : table.Built) : (RoleTable.withRole role block table).2.Built :=
  keeps (table.openRole role) (.openRole role built)

theorem Query.Built.withBool {β : Type} (role : Role)
    {block : BoolQuery → Except RequestError β × BoolQuery}
    (keeps : ∀ table, table.Built → (block table).2.Built) {query : Query}
    (built : query.Built) : (query.withBool role block).2.Built :=
  .editBool (fun _ present => present.withRole role keeps) built

/-! ### Roles at every depth -/

/-- Every bool query in the clause lists its roles once each, the open one among them. -/
def Clause.WellFormed (clause : Clause) : Prop :=
  ∀ table, clause.Contains table → table.WellFormed

namespace Clause

theorem wellFormed_leaf (content : Leaf) : WellFormed (.leaf content) := by
  intro table impossible
  cases impossible

theorem wellFormed_bool_iff (table : BoolQuery) :
    WellFormed (.bool table) ↔ table.WellFormed ∧ table.AllItems WellFormed := by
  constructor
  · intro all
    refine ⟨all table .here, ?_⟩
    intro group groupMember clause clauseMember inner contained
    exact all inner (.deeper groupMember clauseMember contained)
  · intro both inner contained
    rcases (contains_bool_iff inner table).mp contained with
      same | ⟨group, groupMember, clause, clauseMember, deeper⟩
    · exact same ▸ both.1
    · exact both.2 group groupMember clause clauseMember inner deeper

theorem wellFormed_append {table : BoolQuery} (role : Role) {added : List Clause}
    (present : WellFormed (.bool table)) (new : ∀ clause ∈ added, WellFormed clause) :
    WellFormed (.bool (table.append role added)) := by
  obtain ⟨own, inside⟩ := (wellFormed_bool_iff table).mp present
  exact (wellFormed_bool_iff _).mpr
    ⟨RoleTable.wellFormed_append role added own, RoleTable.allItems_append role inside new⟩

theorem wellFormed_ofRole (role : Role) {clauses : List Clause}
    (each : ∀ clause ∈ clauses, WellFormed clause) :
    WellFormed (.bool (.ofRole role clauses)) := by
  apply (wellFormed_bool_iff _).mpr
  refine ⟨RoleTable.wellFormed_ofRole role clauses, ?_⟩
  intro group member
  cases List.mem_singleton.mp member
  exact each

theorem wellFormed_openRole {table : BoolQuery} (role : Role)
    (present : WellFormed (.bool table)) : WellFormed (.bool (table.openRole role)) := by
  obtain ⟨own, inside⟩ := (wellFormed_bool_iff table).mp present
  apply (wellFormed_bool_iff _).mpr
  refine ⟨RoleTable.wellFormed_openRole role own, ?_⟩
  exact RoleTable.allItems_append role inside fun _ impossible => nomatch impossible

theorem wellFormed_push {table pushed : BoolQuery} {clause : Clause}
    (present : WellFormed (.bool table)) (new : WellFormed clause)
    (accepted : table.push clause = .ok pushed) : WellFormed (.bool pushed) := by
  cases isOpen : table.current with
  | none =>
      rw [RoleTable.push_closed isOpen] at accepted
      cases accepted
  | some role =>
      rw [RoleTable.push_open isOpen] at accepted
      cases accepted
      exact wellFormed_append role present (List.forall_mem_singleton.mpr new)

theorem wellFormed_union {table other : BoolQuery} (present : WellFormed (.bool table))
    (new : WellFormed (.bool other)) : WellFormed (.bool (table.union other)) := by
  obtain ⟨own, inside⟩ := (wellFormed_bool_iff table).mp present
  obtain ⟨_, newInside⟩ := (wellFormed_bool_iff other).mp new
  exact (wellFormed_bool_iff _).mpr
    ⟨RoleTable.wellFormed_union other own, RoleTable.allItems_union inside newInside⟩

theorem wellFormed_merge {table : BoolQuery} {clause : Clause}
    (present : WellFormed (.bool table)) (new : WellFormed clause) :
    WellFormed (.bool (table.merge clause)) := by
  cases clause with
  | leaf content => exact wellFormed_append .must present (List.forall_mem_singleton.mpr new)
  | bool other => exact wellFormed_union present new

theorem wellFormed_negate {clause : Clause} (present : WellFormed clause) :
    WellFormed clause.negate := by
  unfold negate
  split
  · exact wellFormed_leaf .matchNone
  · exact wellFormed_leaf .matchAll
  · exact wellFormed_ofRole .mustNot (List.forall_mem_singleton.mpr present)

end Clause

mutual

theorem RoleTable.Built.wellFormed {table : BoolQuery} :
    table.Built → (Clause.bool table).WellFormed
  | .empty =>
      (Clause.wellFormed_bool_iff .empty).mpr
        ⟨RoleTable.wellFormed_empty, fun _ impossible => nomatch impossible⟩
  | .ofRole role each =>
      Clause.wellFormed_ofRole role fun clause member => (each clause member).wellFormed
  | .openRole role built => Clause.wellFormed_openRole role built.wellFormed
  | .push built new accepted => Clause.wellFormed_push built.wellFormed new.wellFormed accepted
  | .merge built new => Clause.wellFormed_merge built.wellFormed new.wellFormed
  | .union built new => Clause.wellFormed_union built.wellFormed new.wellFormed

theorem Clause.Built.wellFormed {clause : Clause} : clause.Built → clause.WellFormed
  | .leaf content => Clause.wellFormed_leaf content
  | .bool built => built.wellFormed
  | .negate built => Clause.wellFormed_negate built.wellFormed

end

theorem Clause.Built.table {clause : Clause} (built : clause.Built) {table : BoolQuery}
    (isBool : clause = .bool table) : table.Built := by
  cases built with
  | leaf content => cases isBool
  | bool built =>
      cases isBool
      exact built
  | negate built =>
      unfold Clause.negate Clause.underMustNot at isBool
      split at isBool
      · cases isBool
      · cases isBool
      · cases isBool
        exact .ofRole .mustNot (List.forall_mem_singleton.mpr built)

namespace Query

theorem Built.clause_push {query pushed : Query} {clause : Clause}
    (present : query.clause.Built) (new : clause.Built)
    (accepted : query.push clause = .ok pushed) : pushed.clause.Built := by
  cases query with
  | empty =>
      cases accepted
      rw [clause_ofClause]
      exact new
  | single content => cases accepted
  | boolean table =>
      change (table.push clause).map Query.boolean = .ok pushed at accepted
      cases result : table.push clause with
      | error refused =>
          rw [result] at accepted
          cases accepted
      | ok extended =>
          rw [result] at accepted
          cases accepted
          exact .bool (.push (present.table rfl) new result)

theorem Built.clause_editBool {β : Type} {block : BoolQuery → Except RequestError β × BoolQuery}
    (keeps : ∀ table, table.Built → (block table).2.Built) {query : Query}
    (present : query.clause.Built) : (query.editBool block).2.clause.Built := by
  cases query with
  | empty => exact .bool (keeps .empty .empty)
  | single content => exact present
  | boolean table => exact .bool (keeps table (present.table rfl))

theorem Built.clause_merge {left right : Query} (leftBuilt : left.clause.Built)
    (rightBuilt : right.clause.Built) : (left.merge right).clause.Built := by
  have both : (Clause.bool (.ofRole .must [left.clause, right.clause])).Built := by
    apply Clause.Built.bool
    apply RoleTable.Built.ofRole
    intro clause member
    rcases List.mem_cons.mp member with first | later
    · exact first ▸ leftBuilt
    · exact List.mem_singleton.mp later ▸ rightBuilt
  cases left with
  | empty => exact rightBuilt
  | single _ | boolean _ =>
      cases right with
      | empty => exact leftBuilt
      | single _ | boolean _ => exact both

theorem Built.clause {query : Query} (built : query.Built) : query.clause.Built := by
  induction built with
  | empty => exact .leaf .matchAll
  | push _ new accepted ih => exact clause_push ih new accepted
  | @pushRange query pushed field bounds _ accepted ih =>
      change (RangeClause.build field bounds).bind (fun range => query.pushLeaf (.range range)) =
        .ok pushed at accepted
      cases checked : RangeClause.build field bounds with
      | error refused =>
          rw [checked] at accepted
          cases accepted
      | ok range =>
          rw [checked] at accepted
          exact clause_push ih (.leaf (.range range)) accepted
  | editBool keeps _ ih => exact clause_editBool keeps ih
  | negate _ ih =>
      unfold Query.negate
      rw [clause_ofClause]
      exact .negate ih
  | merge _ _ leftIh rightIh => exact clause_merge leftIh rightIh

theorem Built.wellFormed {query : Query} (built : query.Built) : query.clause.WellFormed :=
  built.clause.wellFormed

end Query

end SearchRequest
