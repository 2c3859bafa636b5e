/-
Clauses as trees: how to compute over one, how to argue by induction on one, and
which bool queries and leaves stand in one.

A clause nests through tables, groups and lists. All of that is gone through once,
in the fold below; a function on clauses is then given by what it does to a leaf
and by what it does to a table whose items it has already been applied to.
-/

import SearchRequest.Proofs.RoleGroups
import SearchRequest.Query

namespace SearchRequest.Clause

variable {α : Type}

mutual

/-- Replaces each leaf and, from the inside out, each table by its value. -/
def fold (leaf : Leaf → α) (bool : RoleTable α → α) : Clause → α
  | .leaf content => leaf content
  | .bool table => bool (foldTable leaf bool table)

def foldTable (leaf : Leaf → α) (bool : RoleTable α → α) : BoolQuery → RoleTable α
  | ⟨groups, current⟩ => ⟨foldGroups leaf bool groups, current⟩

def foldGroups (leaf : Leaf → α) (bool : RoleTable α → α) :
    List (Role × List Clause) → List (Role × List α)
  | [] => []
  | (role, clauses) :: groups =>
      (role, foldItems leaf bool clauses) :: foldGroups leaf bool groups

def foldItems (leaf : Leaf → α) (bool : RoleTable α → α) : List Clause → List α
  | [] => []
  | clause :: clauses => fold leaf bool clause :: foldItems leaf bool clauses

end

private theorem foldItems_eq_map (leaf : Leaf → α) (bool : RoleTable α → α)
    (clauses : List Clause) : foldItems leaf bool clauses = clauses.map (fold leaf bool) := by
  induction clauses with
  | nil => rfl
  | cons clause clauses ih => rw [foldItems, ih, List.map_cons]

private theorem foldGroups_eq_map (leaf : Leaf → α) (bool : RoleTable α → α)
    (groups : List (Role × List Clause)) :
    foldGroups leaf bool groups =
      groups.map fun group => (group.1, group.2.map (fold leaf bool)) := by
  induction groups with
  | nil => rfl
  | cons group groups ih =>
      obtain ⟨role, clauses⟩ := group
      rw [foldGroups, foldItems_eq_map, ih, List.map_cons]

theorem fold_bool (leaf : Leaf → α) (bool : RoleTable α → α) (table : BoolQuery) :
    fold leaf bool (.bool table) = bool (table.map (fold leaf bool)) := by
  obtain ⟨groups, current⟩ := table
  rw [fold, foldTable, foldGroups_eq_map]
  rfl

/--
A property of all leaves that passes from the items of a table to the table holds of all. The
motives for tables, groups and lists say that it holds of every clause in them.
-/
@[induction_eliminator]
theorem induction {motive : Clause → Prop} (leaf : ∀ content, motive (.leaf content))
    (bool : ∀ table : BoolQuery,
      (∀ group ∈ table.groups, ∀ clause ∈ group.2, motive clause) → motive (.bool table)) :
    ∀ clause, motive clause :=
  @Clause.rec motive (fun table => ∀ group ∈ table.groups, ∀ clause ∈ group.2, motive clause)
    (fun groups => ∀ group ∈ groups, ∀ clause ∈ group.2, motive clause)
    (fun group => ∀ clause ∈ group.2, motive clause)
    (fun clauses => ∀ clause ∈ clauses, motive clause)
    leaf bool (fun _ _ inside => inside) (fun _ impossible => nomatch impossible)
    (fun _ _ first rest => List.forall_mem_cons.mpr ⟨first, rest⟩)
    (fun _ _ inside => inside) (fun _ impossible => nomatch impossible)
    (fun _ _ first rest => List.forall_mem_cons.mpr ⟨first, rest⟩)

def leaves : Clause → List Leaf :=
  fold (fun content => [content]) fun table =>
    table.groups.flatMap fun group => group.2.flatten

/-- The clause is a bool query or has it at some depth. -/
inductive Contains (inner : BoolQuery) : Clause → Prop
  | here : Contains inner (.bool inner)
  | deeper {table : BoolQuery} {group : Role × List Clause} {clause : Clause} :
      group ∈ table.groups → clause ∈ group.2 → Contains inner clause →
        Contains inner (.bool table)

theorem leaves_bool (table : BoolQuery) :
    leaves (.bool table) = table.groups.flatMap fun group => group.2.flatMap leaves := by
  unfold leaves
  rw [fold_bool]
  simp only [RoleTable.map, List.flatMap_map]
  rfl

theorem contains_bool_iff (inner table : BoolQuery) :
    Contains inner (.bool table) ↔
      inner = table ∨
        ∃ group ∈ table.groups, ∃ clause ∈ group.2, Contains inner clause := by
  constructor
  · intro contained
    cases contained with
    | here => exact Or.inl rfl
    | deeper groupMember clauseMember contained =>
        exact Or.inr ⟨_, groupMember, _, clauseMember, contained⟩
  · intro either
    rcases either with same | ⟨group, groupMember, clause, clauseMember, contained⟩
    · subst same
      exact Contains.here
    · exact Contains.deeper groupMember clauseMember contained

end SearchRequest.Clause

/-! ### Slots -/

namespace SearchRequest.Query

/-- The leaves of the clause that stands in the slot; an empty slot has none. -/
def leaves (query : Query) : List Leaf :=
  query.topLevel?.toList.flatMap Clause.leaves

theorem clause_ofClause (clause : Clause) : (ofClause clause).clause = clause := by
  cases clause <;> rfl

theorem leaves_ofClause (clause : Clause) : (ofClause clause).leaves = clause.leaves := by
  cases clause <;> exact List.append_nil _

theorem leaves_eq_clause_leaves {query : Query} (filled : query ≠ .empty) :
    query.leaves = query.clause.leaves := by
  cases query with
  | empty => exact absurd rfl filled
  | single _ | boolean _ => exact List.append_nil _

theorem push_open {table : BoolQuery} {role : Role} (isOpen : table.current = some role)
    (clause : Clause) :
    (Query.boolean table).push clause = .ok (.boolean (table.append role [clause])) := by
  change (table.push clause).map Query.boolean = _
  rw [RoleTable.push_open isOpen]
  rfl

theorem push_closed {table : BoolQuery} (closed : table.current = none) (clause : Clause) :
    (Query.boolean table).push clause = .error .noOpenRole := by
  change (table.push clause).map Query.boolean = _
  rw [RoleTable.push_closed closed]
  rfl

theorem empty_merge (query : Query) : empty.merge query = query :=
  rfl

theorem merge_empty (query : Query) : query.merge .empty = query := by
  cases query <;> rfl

/-- Two clauses come under `must`, where neither of them is looked into. -/
theorem merge_of_filled {query other : Query} (filled : query ≠ .empty)
    (otherFilled : other ≠ .empty) :
    query.merge other = .boolean (.ofRole .must [query.clause, other.clause]) := by
  cases query with
  | empty => exact absurd rfl filled
  | single _ | boolean _ =>
      cases other with
      | empty => exact absurd rfl otherFilled
      | single _ | boolean _ => rfl

theorem leaves_merge (query other : Query) :
    (query.merge other).leaves = query.leaves ++ other.leaves := by
  by_cases blank : query = .empty
  · subst blank
    rfl
  · by_cases otherBlank : other = .empty
    · subst otherBlank
      rw [merge_empty]
      exact (List.append_nil query.leaves).symm
    · rw [merge_of_filled blank otherBlank, leaves_eq_clause_leaves blank,
        leaves_eq_clause_leaves otherBlank]
      calc
        leaves (.boolean (.ofRole .must [query.clause, other.clause]))
            = Clause.leaves (.bool (.ofRole .must [query.clause, other.clause])) :=
              List.append_nil _
        _ = query.clause.leaves ++ other.clause.leaves := by
              rw [Clause.leaves_bool]
              simp [RoleTable.ofRole]

end SearchRequest.Query
