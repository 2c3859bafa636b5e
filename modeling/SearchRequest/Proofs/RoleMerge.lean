/-
Merging as an operation on bool queries. A table that lists each role once is told by
its roles, by the items under each of them and by the open role, and merging treats the
three apart: it lists the new roles last, appends the items role by role, and leaves the
open role alone. So the grouping of several merges makes no difference.

The document of a merged bool query is read off those of its parts in the same way, with
keys in the place of roles and arrays in the place of items.
-/

import SearchRequest.Proofs.Fault
import SearchRequest.Proofs.RoleInvariant

namespace SearchRequest

namespace RoleTable

variable {α β : Type}

theorem gathered_cons (role name : Role) (present : List α) (rest : List (Role × List α)) :
    gathered role ((name, present) :: rest) =
      if name = role then present ++ gathered role rest else gathered role rest := by
  by_cases same : name = role
  · simp [gathered, same]
  · simp [gathered, same]

theorem gathered_of_not_mem {role : Role} {groups : List (Role × List α)}
    (absent : role ∉ groups.map Prod.fst) : gathered role groups = [] := by
  induction groups with
  | nil => rfl
  | cons group rest ih =>
      have other : group.1 ≠ role := (List.ne_of_not_mem_cons absent).symm
      rw [gathered_cons, if_neg other, ih (List.not_mem_of_not_mem_cons absent)]

theorem items_cons (role name : Role) (present : List α) (rest : List (Role × List α))
    (current : Option Role) :
    items ⟨(name, present) :: rest, current⟩ role =
      if name = role then present else items ⟨rest, current⟩ role := by
  unfold items
  rw [items?_cons]
  split
  · rfl
  · rfl

/-- Without repeated roles, one group holds all the items of its role. -/
theorem gathered_eq_items {table : RoleTable α} (distinct : table.roles.Nodup) (role : Role) :
    gathered role table.groups = table.items role := by
  obtain ⟨groups, current⟩ := table
  induction groups with
  | nil => rfl
  | cons group rest ih =>
      obtain ⟨name, present⟩ := group
      obtain ⟨absent, restDistinct⟩ := List.nodup_cons.mp distinct
      rw [gathered_cons, items_cons]
      by_cases same : name = role
      · subst same
        rw [if_pos rfl, if_pos rfl, gathered_of_not_mem absent, List.append_nil]
      · rw [if_neg same, if_neg same]
        exact ih restDistinct

theorem groups_eq_map_items {table : RoleTable α} (distinct : table.roles.Nodup) :
    table.groups = table.roles.map fun role => (role, table.items role) := by
  obtain ⟨groups, current⟩ := table
  induction groups with
  | nil => rfl
  | cons group rest ih =>
      obtain ⟨name, present⟩ := group
      obtain ⟨absent, restDistinct⟩ := List.nodup_cons.mp distinct
      have later : rest = (rest.map Prod.fst).map fun role =>
          (role, items ⟨(name, present) :: rest, current⟩ role) := by
        refine (ih restDistinct).trans (List.map_congr_left ?_)
        intro role member
        have different : name ≠ role := fun same => absent (same ▸ member)
        rw [items_cons, if_neg different]
      have first : items ⟨(name, present) :: rest, current⟩ name = present := by
        rw [items_cons, if_pos rfl]
      change (name, present) :: rest = (name, _) :: (rest.map Prod.fst).map _
      rw [first, ← later]

theorem eq_of_items_eq {left right : RoleTable α} (distinct : left.roles.Nodup)
    (sameRoles : left.roles = right.roles)
    (sameItems : ∀ role, left.items role = right.items role)
    (sameCurrent : left.current = right.current) : left = right := by
  have sameGroups : left.groups = right.groups := by
    rw [groups_eq_map_items distinct, groups_eq_map_items (sameRoles ▸ distinct), sameRoles]
    simp only [sameItems]
  cases left
  cases right
  cases sameGroups
  cases sameCurrent
  rfl

theorem nodup_roles_union {table : RoleTable α} (distinct : table.roles.Nodup)
    (other : RoleTable α) : (table.union other).roles.Nodup := by
  have closed : (⟨table.groups, none⟩ : RoleTable α).WellFormed := ⟨distinct, nofun⟩
  have kept := (wellFormed_union other closed).1
  rw [roles, union_groups] at kept ⊢
  exact kept

theorem union_assoc {first second : RoleTable α} (firstDistinct : first.roles.Nodup)
    (secondDistinct : second.roles.Nodup) (third : RoleTable α) :
    (first.union second).union third = first.union (second.union third) := by
  have start : first.roles = first.roles.eraseDups := (eraseDups_eq_self firstDistinct).symm
  have innerStart : second.roles = second.roles.eraseDups :=
    (eraseDups_eq_self secondDistinct).symm
  have innerDistinct := nodup_roles_union secondDistinct third
  apply eq_of_items_eq
  · exact nodup_roles_union (nodup_roles_union firstDistinct second) third
  · rw [roles_union third (roles_union second start), roles_union (second.union third) start,
      roles_union third innerStart, eraseDups_append_eraseDups, List.append_assoc]
  · intro role
    calc
      ((first.union second).union third).items role
          = (first.items role ++ second.items role) ++ gathered role third.groups := by
            rw [items_union, items_union, gathered_eq_items secondDistinct]
      _ = first.items role ++ (second.union third).items role := by
            rw [items_union, List.append_assoc]
      _ = (first.union (second.union third)).items role := by
            rw [items_union first, gathered_eq_items innerDistinct]
  · rw [current_union, current_union, current_union]

theorem empty_union {table : RoleTable α} (distinct : table.roles.Nodup) :
    empty.union table = ⟨table.groups, none⟩ := by
  have unlisted : (empty : RoleTable α).roles = [].eraseDups := rfl
  have emptyDistinct : (empty : RoleTable α).roles.Nodup := List.nodup_nil
  apply eq_of_items_eq
  · exact nodup_roles_union emptyDistinct table
  · exact (roles_union table unlisted).trans (eraseDups_eq_self distinct)
  · intro role
    exact (items_union empty table role).trans (gathered_eq_items distinct role)
  · exact current_union empty table

theorem map_append (transform : α → β) (table : RoleTable α) (role : Role) (added : List α) :
    (table.append role added).map transform =
      (table.map transform).append role (added.map transform) := by
  obtain ⟨groups, current⟩ := table
  simp only [append, map, mk.injEq, and_true]
  induction groups with
  | nil => rfl
  | cons group rest ih =>
      obtain ⟨name, present⟩ := group
      by_cases same : name = role
      · simp [appendGroup, same]
      · simp [appendGroup, same, ih]

theorem map_union (transform : α → β) (table other : RoleTable α) :
    (table.union other).map transform = (table.map transform).union (other.map transform) := by
  obtain ⟨groups, current⟩ := other
  induction groups generalizing table with
  | nil => rfl
  | cons group rest ih =>
      rw [union_cons, ih, map_append]
      rfl

theorem map_injective {transform : α → β}
    (injective : ∀ left right, transform left = transform right → left = right)
    {left right : RoleTable α} (same : left.map transform = right.map transform) :
    left = right := by
  obtain ⟨leftGroups, leftCurrent⟩ := left
  obtain ⟨rightGroups, rightCurrent⟩ := right
  obtain ⟨sameGroups, sameCurrent⟩ := RoleTable.mk.inj same
  have equalGroups : leftGroups = rightGroups := by
    apply (List.map_inj_right ?_).mp sameGroups
    intro left right equal
    obtain ⟨sameRole, sameItems⟩ := Prod.mk.inj equal
    exact Prod.ext sameRole ((List.map_inj_right injective).mp sameItems)
  exact congr (congrArg RoleTable.mk equalGroups) sameCurrent

theorem appendGroup_ne_nil (role : Role) (added : List α) (groups : List (Role × List α)) :
    appendGroup role added groups ≠ [] := by
  cases groups with
  | nil => exact List.cons_ne_nil _ _
  | cons group rest =>
      rw [appendGroup]
      split
      · exact List.cons_ne_nil _ _
      · exact List.cons_ne_nil _ _

theorem filled_appendGroup {role : Role} {added : List α} (nonempty : added ≠ [])
    {groups : List (Role × List α)} (filled : ∀ group ∈ groups, group.2 ≠ []) :
    ∀ group ∈ appendGroup role added groups, group.2 ≠ [] := by
  induction groups with
  | nil => exact List.forall_mem_singleton.mpr nonempty
  | cons group rest ih =>
      obtain ⟨first, later⟩ := List.forall_mem_cons.mp filled
      rw [appendGroup]
      split
      · exact List.forall_mem_cons.mpr ⟨List.append_ne_nil_of_left_ne_nil first added, later⟩
      · exact List.forall_mem_cons.mpr ⟨first, ih later⟩

theorem Filled.union {table other : RoleTable α} (filled : table.Filled)
    (otherFilled : ∀ group ∈ other.groups, group.2 ≠ []) : (table.union other).Filled := by
  obtain ⟨groups, current⟩ := other
  induction groups generalizing table with
  | nil => exact filled
  | cons group rest ih =>
      obtain ⟨first, later⟩ := List.forall_mem_cons.mp otherFilled
      have extended : (table.append group.1 group.2).Filled :=
        ⟨appendGroup_ne_nil _ _ _, filled_appendGroup first filled.2⟩
      rw [union_cons]
      exact ih extended later

end RoleTable

/-! ### Documents -/

namespace Entries

/-- What stands under the key is an array of these items, or no key for want of items. -/
def ShowsArray (entries : Entries Json) (key : String) (items : List Json) : Prop :=
  find? key entries = some (.array items) ∨ find? key entries = none ∧ items = []

/-- The keys of the first entries and then the new ones of the second, with the arrays joined. -/
structure ConcatenatedFrom (first second joined : Entries Json) : Prop where
  keys : Entries.keys joined =
    Entries.keys first ++ (Entries.keys second).filter fun key => key ∉ Entries.keys first
  array : ∀ key ∈ Entries.keys joined, ∃ items others, first.ShowsArray key items ∧
    second.ShowsArray key others ∧ find? key joined = some (.array (items ++ others))

end Entries

namespace RoleTable

theorem showsArray_body (fragments : RoleTable Json) (role : Role) :
    fragments.body.ShowsArray role.key (fragments.items role) := by
  unfold Entries.ShowsArray items
  rw [find?_body]
  cases fragments.items? role with
  | none => exact Or.inr ⟨rfl, rfl⟩
  | some items => exact Or.inl rfl

theorem concatenatedFrom_body {first second : RoleTable Json} (firstDistinct : first.roles.Nodup)
    (secondDistinct : second.roles.Nodup) :
    Entries.ConcatenatedFrom first.body second.body (first.union second).body where
  keys := by
    have joinedRoles : (first.union second).roles =
        first.roles ++ second.roles.filter fun role => role ∉ first.roles := by
      rw [roles_union second (eraseDups_eq_self firstDistinct).symm,
        eraseDups_append_of_nodup firstDistinct secondDistinct]
    have newKeys : (second.roles.map Role.key).filter (fun key => key ∉ first.roles.map Role.key) =
        (second.roles.filter fun role => role ∉ first.roles).map Role.key := by
      rw [List.filter_map]
      congr 1
      apply List.filter_congr
      intro role _
      have sameMembers : role.key ∈ first.roles.map Role.key ↔ role ∈ first.roles :=
        List.mem_map_of_injective fun _ _ => Role.key_injective
      exact decide_eq_decide.mpr (not_congr sameMembers)
    rw [keys_body, keys_body, keys_body, joinedRoles, List.map_append, newKeys]
  array := by
    intro key listed
    rw [keys_body] at listed
    obtain ⟨role, member, isKey⟩ := List.mem_map.mp listed
    subst isKey
    refine ⟨first.items role, second.items role, showsArray_body first role,
      showsArray_body second role, ?_⟩
    rw [find?_body, items?_eq_items, if_pos member, items_union, gathered_eq_items secondDistinct]
    rfl

theorem filled_of_toJson {table : BoolQuery} {document : Json}
    (rendered : table.toJson = .ok document) : table.Filled := by
  have clean := (Clause.bool table).toJson_reports.ok_iff.mp ⟨document, rendered⟩
  exact ((Clause.faults_bool_nil_iff table).mp clean).1

/-- A table without empty roles is rendered as soon as each of its clauses is. -/
theorem toJson_of_fragments {table : BoolQuery} {fragments : RoleTable Json}
    (distinct : table.roles.Nodup) (filled : table.Filled)
    (same : table.map Clause.toJson = fragments.map Except.ok) :
    table.toJson = .ok (.single Clause.boolKey (.object fragments.body)) := by
  have each := Clause.rendered_of_map_toJson same
  have clean : Clause.faults (.bool table) = [] := by
    apply (Clause.faults_bool_nil_iff table).mpr
    refine ⟨filled, fun group groupMember clause clauseMember => ?_⟩
    exact clause.toJson_reports.ok_iff.mp (each group groupMember clause clauseMember)
  obtain ⟨document, rendered⟩ := (Clause.bool table).toJson_reports.ok_iff.mpr clean
  obtain ⟨shown, sameShown, isDocument⟩ := Clause.fragments_of_toJson distinct rendered
  have sameFragments : shown = fragments :=
    map_injective (fun _ _ => Except.ok.inj) (sameShown.symm.trans same)
  rw [← sameFragments, ← isDocument]
  exact rendered

theorem toJson_union {first second : BoolQuery} (firstDistinct : first.roles.Nodup)
    (secondDistinct : second.roles.Nodup) {left right : Json}
    (firstRendered : first.toJson = .ok left) (secondRendered : second.toJson = .ok right) :
    ∃ leftBody rightBody joined, left = .single Clause.boolKey (.object leftBody) ∧
      right = .single Clause.boolKey (.object rightBody) ∧
      (first.union second).toJson = .ok (.single Clause.boolKey (.object joined)) ∧
      Entries.ConcatenatedFrom leftBody rightBody joined := by
  obtain ⟨fragments, sameItems, isLeft⟩ := Clause.fragments_of_toJson firstDistinct firstRendered
  obtain ⟨others, sameOthers, isRight⟩ := Clause.fragments_of_toJson secondDistinct secondRendered
  refine ⟨fragments.body, others.body, (fragments.union others).body, isLeft, isRight, ?_, ?_⟩
  · apply toJson_of_fragments (nodup_roles_union firstDistinct second)
    · exact (filled_of_toJson firstRendered).union (filled_of_toJson secondRendered).2
    · rw [map_union, map_union, sameItems, sameOthers]
  · apply concatenatedFrom_body
    · rw [← roles_map Except.ok fragments, ← sameItems, roles_map]
      exact firstDistinct
    · rw [← roles_map Except.ok others, ← sameOthers, roles_map]
      exact secondDistinct

/--
Bool queries that list each role once form a monoid under merging: the open role is that of the
first, and an empty query adds nothing. A leaf is merged like a bool query with the leaf under
`must`. Parts that can be rendered make a whole that can, with the arrays of each role joined.
-/
theorem merging_joins_roles {first second : BoolQuery} (firstDistinct : first.roles.Nodup)
    (secondDistinct : second.roles.Nodup) (third : BoolQuery) :
    (first.merge (.bool second)).merge (.bool third) =
        first.merge (.bool (second.merge (.bool third))) ∧
      first.merge (.bool .empty) = first ∧
      empty.merge (.bool first) = ⟨first.groups, none⟩ ∧
      (∀ content, first.merge (.leaf content) =
        first.merge (.bool (.ofRole .must [.leaf content]))) ∧
      ∀ left right, first.toJson = .ok left → second.toJson = .ok right →
        ∃ leftBody rightBody joined, left = .single Clause.boolKey (.object leftBody) ∧
          right = .single Clause.boolKey (.object rightBody) ∧
          (first.merge (.bool second)).toJson =
            .ok (.single Clause.boolKey (.object joined)) ∧
          Entries.ConcatenatedFrom leftBody rightBody joined := by
  refine ⟨?_, rfl, ?_, fun _ => rfl, ?_⟩
  · exact union_assoc firstDistinct secondDistinct third
  · exact empty_union firstDistinct
  · intro left right firstRendered secondRendered
    exact toJson_union firstDistinct secondDistinct firstRendered secondRendered

def retriedJobs : BoolQuery :=
  (ofRole .should [.leaf (.exists "retry")]).append .must [.leaf (.exists "stage")]

/-- One role is among those of the retried jobs, the other one is new to them. -/
def deployedJobs : BoolQuery :=
  (ofRole .mustNot [.leaf (.exists "skipped")]).append .must
    [.negate (.leaf .matchNone), .leaf (.wildcard "job" "deploy*")]

theorem merging_joins_retried_and_deployed_jobs :
    retriedJobs.roles.Nodup ∧ deployedJobs.roles.Nodup ∧
      (retriedJobs.merge (.bool deployedJobs)).merge (.bool retriedJobs) =
        retriedJobs.merge (.bool (deployedJobs.merge (.bool retriedJobs))) ∧
      ∃ joined, (retriedJobs.merge (.bool deployedJobs)).toJson =
          .ok (.single "bool" (.object joined)) ∧
        Entries.keys joined = ["should", "must", "must_not"] := by
  have retriedDistinct : retriedJobs.roles.Nodup := by decide
  have deployedDistinct : deployedJobs.roles.Nodup := by decide
  obtain ⟨regrouped, _, _, _, shown⟩ :=
    merging_joins_roles retriedDistinct deployedDistinct retriedJobs
  obtain ⟨leftBody, rightBody, joined, isLeft, isRight, rendered, joinedFrom⟩ := shown _ _ rfl rfl
  cases isLeft
  cases isRight
  exact ⟨retriedDistinct, deployedDistinct, regrouped, joined, rendered, joinedFrom.keys⟩

end RoleTable

end SearchRequest
