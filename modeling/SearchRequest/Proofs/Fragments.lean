/-
The fragment that a clause is rendered to. A rendered bool query is its table
with every clause replaced by its fragment: as long as no role is listed twice,
nothing is dropped, moved or written over on the way.
-/

import SearchRequest.Proofs.ClauseTree
import SearchRequest.Proofs.LeafFragments
import SearchRequest.Proofs.Overlay

namespace SearchRequest

namespace RoleTable

def body (fragments : RoleTable Json) : Entries Json :=
  fragments.groups.map fun group => (group.1.key, .array group.2)

theorem groups_eq_of_body_eq {left right : RoleTable Json} (same : left.body = right.body) :
    left.groups = right.groups := by
  obtain ⟨leftGroups, leftCurrent⟩ := left
  obtain ⟨rightGroups, rightCurrent⟩ := right
  change leftGroups.map _ = rightGroups.map _ at same
  apply (List.map_inj_right ?_).mp same
  intro left right equal
  obtain ⟨keys, arrays⟩ := Prod.mk.inj equal
  exact Prod.ext (Role.key_injective keys) (Json.array.inj arrays)

end RoleTable

namespace Clause

theorem listToJson_cons (clause : Clause) (clauses : List Clause) :
    listToJson (clause :: clauses) =
      clause.toJson.bind fun fragment => (listToJson clauses).map (fragment :: ·) := by
  rw [listToJson]
  cases clause.toJson <;> rfl

theorem groupsToJson_cons (written : Entries Json) (role : Role) (clause : Clause)
    (clauses : List Clause) (groups : List (Role × List Clause)) :
    groupsToJson written ((role, clause :: clauses) :: groups) =
      (listToJson (clause :: clauses)).bind fun fragments =>
        groupsToJson (Entries.insert role.key (.array fragments) written) groups := by
  rw [groupsToJson]
  cases listToJson (clause :: clauses) <;> rfl

theorem toJson_of_listToJson {clauses : List Clause} {fragments : List Json}
    (rendered : listToJson clauses = .ok fragments) :
    clauses.map toJson = fragments.map Except.ok := by
  induction clauses generalizing fragments with
  | nil =>
      cases rendered
      rfl
  | cons clause clauses ih =>
      rw [listToJson_cons] at rendered
      cases first : clause.toJson with
      | error found =>
          rw [first] at rendered
          cases rendered
      | ok fragment =>
          cases rest : listToJson clauses with
          | error found =>
              rw [first, rest] at rendered
              cases rendered
          | ok others =>
              rw [first, rest] at rendered
              cases rendered
              rw [List.map_cons, List.map_cons, first, ih rest]

theorem listToJson_congr {left right : List Clause} (same : left.map toJson = right.map toJson) :
    listToJson left = listToJson right := by
  induction left generalizing right with
  | nil =>
      cases right with
      | nil => rfl
      | cons other others => cases same
  | cons clause clauses ih =>
      cases right with
      | nil => cases same
      | cons other others =>
          obtain ⟨sameFirst, sameRest⟩ := List.cons.inj same
          rw [listToJson_cons, listToJson_cons, sameFirst, ih sameRest]

theorem groupsToJson_congr {left right : List (Role × List Clause)}
    (same : (left.map fun group => (group.1, group.2.map toJson)) =
      right.map fun group => (group.1, group.2.map toJson))
    (written : Entries Json) : groupsToJson written left = groupsToJson written right := by
  induction left generalizing right written with
  | nil =>
      cases right with
      | nil => rfl
      | cons other others => cases same
  | cons group groups ih =>
      cases right with
      | nil => cases same
      | cons other others =>
          obtain ⟨role, clauses⟩ := group
          obtain ⟨otherRole, otherClauses⟩ := other
          obtain ⟨sameFirst, sameRest⟩ := List.cons.inj same
          obtain ⟨sameRole, sameItems⟩ := Prod.mk.inj sameFirst
          cases sameRole
          cases clauses with
          | nil =>
              cases otherClauses with
              | nil => rfl
              | cons clause clauses => cases sameItems
          | cons clause clauses =>
              cases otherClauses with
              | nil => cases sameItems
              | cons otherClause otherClauses =>
                  rw [groupsToJson_cons, groupsToJson_cons, listToJson_congr sameItems]
                  congr
                  funext fragments
                  exact ih sameRest _

/-- The fragment of a bool query depends on its roles and the fragments of its clauses only. -/
theorem tableToJson_congr {left right : BoolQuery}
    (same : (left.map toJson).groups = (right.map toJson).groups) :
    tableToJson left = tableToJson right := by
  obtain ⟨leftGroups, leftCurrent⟩ := left
  obtain ⟨rightGroups, rightCurrent⟩ := right
  cases leftGroups with
  | nil =>
      cases rightGroups with
      | nil => rfl
      | cons group groups => cases same
  | cons group groups =>
      cases rightGroups with
      | nil => cases same
      | cons other others =>
          rw [tableToJson, tableToJson, groupsToJson_congr same]

/-- Each new role adds an entry at the end, so the entries stand as the groups do. -/
theorem toJson_of_groupsToJson {groups : List (Role × List Clause)} {written body : Entries Json}
    (distinct : (groups.map Prod.fst).Nodup)
    (fresh : ∀ role ∈ groups.map Prod.fst, role.key ∉ Entries.keys written)
    (rendered : groupsToJson written groups = .ok body) :
    ∃ fragments : List (Role × List Json),
      (groups.map fun group => (group.1, group.2.map toJson)) =
          fragments.map (fun group => (group.1, group.2.map Except.ok)) ∧
        body = written ++ fragments.map fun group => (group.1.key, .array group.2) := by
  induction groups generalizing written with
  | nil =>
      cases rendered
      exact ⟨[], rfl, (List.append_nil _).symm⟩
  | cons group groups ih =>
      obtain ⟨role, clauses⟩ := group
      cases clauses with
      | nil => cases rendered
      | cons clause clauses =>
          rw [groupsToJson_cons] at rendered
          cases first : listToJson (clause :: clauses) with
          | error found =>
              rw [first] at rendered
              cases rendered
          | ok fragments =>
              rw [first] at rendered
              change groupsToJson (Entries.insert role.key (.array fragments) written) groups =
                .ok body at rendered
              obtain ⟨absent, restDistinct⟩ := List.nodup_cons.mp distinct
              obtain ⟨newKey, restFresh⟩ := List.forall_mem_cons.mp fresh
              rw [Entries.insert_new newKey] at rendered
              have stillFresh : ∀ other ∈ groups.map Prod.fst,
                  other.key ∉ Entries.keys (written ++ [(role.key, Json.array fragments)]) := by
                intro other member present
                rw [Entries.keys, List.map_append, List.mem_append] at present
                rcases present with old | new
                · exact restFresh other member old
                · have same := Role.key_injective (List.mem_singleton.mp new)
                  exact absent (same ▸ member)
              obtain ⟨others, sameItems, sameBody⟩ := ih restDistinct stillFresh rendered
              have sameFirst := toJson_of_listToJson first
              refine ⟨(role, fragments) :: others, ?_, ?_⟩
              · change (role, (clause :: clauses).map toJson) :: _ =
                  (role, fragments.map Except.ok) :: _
                rw [sameFirst, sameItems]
              · rw [sameBody, List.append_assoc]
                rfl

theorem tableToJson_ok_iff (table : BoolQuery) (document : Json) :
    tableToJson table = .ok document ↔
      table.groups ≠ [] ∧ ∃ body, groupsToJson [] table.groups = .ok body ∧
        document = .single boolKey (.object body) := by
  obtain ⟨groups, current⟩ := table
  cases groups with
  | nil =>
      constructor
      · intro rendered
        cases rendered
      · intro filled
        exact absurd rfl filled.1
  | cons group groups =>
      rw [tableToJson]
      cases groupsToJson [] (group :: groups) with
      | error found =>
          constructor
          · intro rendered
            cases rendered
          · intro filled
            obtain ⟨_, _, impossible, _⟩ := filled
            cases impossible
      | ok body =>
          constructor
          · intro rendered
            cases rendered
            exact ⟨List.cons_ne_nil group groups, body, rfl, rfl⟩
          · intro filled
            obtain ⟨_, other, sameBody, isDocument⟩ := filled
            cases sameBody
            rw [isDocument]
            rfl

/-- The kind of a clause can be read off its fragment. -/
theorem key_of_toJson {clause : Clause} {document : Json}
    (rendered : clause.toJson = .ok document) :
    ∃ body, document = .single clause.key body := by
  cases clause with
  | leaf content =>
      cases rendered
      exact ⟨content.body, rfl⟩
  | bool table =>
      obtain ⟨_, body, _, isDocument⟩ := (tableToJson_ok_iff table document).mp rendered
      exact ⟨.object body, isDocument⟩

/-- A rendered bool query holds, role by role, the fragments of its clauses. -/
theorem fragments_of_toJson {table : BoolQuery} {document : Json}
    (distinct : table.roles.Nodup) (rendered : (Clause.bool table).toJson = .ok document) :
    ∃ fragments : RoleTable Json, table.map toJson = fragments.map Except.ok ∧
      document = .single boolKey (.object fragments.body) := by
  obtain ⟨_, body, written, isDocument⟩ := (tableToJson_ok_iff table document).mp rendered
  obtain ⟨fragments, sameItems, sameBody⟩ :=
    toJson_of_groupsToJson distinct (fun _ _ => List.not_mem_nil) written
  refine ⟨⟨fragments, table.current⟩, ?_, ?_⟩
  · unfold RoleTable.map
    rw [sameItems]
  · rw [isDocument, sameBody]
    rfl

theorem rendered_of_map_toJson {table : BoolQuery} {fragments : RoleTable Json}
    (same : table.map toJson = fragments.map Except.ok) :
    table.AllItems fun clause => ∃ fragment, clause.toJson = .ok fragment := by
  intro group groupMember clause clauseMember
  have imageMember : (group.1, group.2.map toJson) ∈ (table.map toJson).groups :=
    List.mem_map.mpr ⟨group, groupMember, rfl⟩
  have itemMember : clause.toJson ∈ group.2.map toJson := List.mem_map_of_mem clauseMember
  rw [same] at imageMember
  obtain ⟨source, _, sameImage⟩ := List.mem_map.mp imageMember
  rw [← (Prod.mk.inj sameImage).2] at itemMember
  obtain ⟨fragment, _, isOk⟩ := List.mem_map.mp itemMember
  exact ⟨fragment, isOk.symm⟩

/-- One document for two bool queries means the same roles with the same fragments under them. -/
theorem map_toJson_groups_eq {left right : BoolQuery} {document : Json}
    (leftDistinct : left.roles.Nodup) (rightDistinct : right.roles.Nodup)
    (leftRendered : (Clause.bool left).toJson = .ok document)
    (rightRendered : (Clause.bool right).toJson = .ok document) :
    (left.map toJson).groups = (right.map toJson).groups := by
  obtain ⟨leftFragments, leftItems, isLeft⟩ := fragments_of_toJson leftDistinct leftRendered
  obtain ⟨rightFragments, rightItems, isRight⟩ := fragments_of_toJson rightDistinct rightRendered
  have sameDocument : Json.single boolKey (.object leftFragments.body) =
      .single boolKey (.object rightFragments.body) := isLeft.symm.trans isRight
  cases leftFragments
  cases rightFragments
  have sameBody := Json.object.inj (Json.single_inj sameDocument).2
  have sameGroups := RoleTable.groups_eq_of_body_eq sameBody
  rw [leftItems, rightItems]
  exact congrArg (List.map _) sameGroups

end Clause

end SearchRequest
