/-
What a role table holds after one group or a whole table is added to it, told
role by role: which items a role has, which roles are listed and in which order,
how many items there are, and which role is open.

The laws hold for any table, also for one that lists a role twice. Such a table
is never built, but no law here needs to know that.
-/

import SearchRequest.Proofs.FirstSeen
import SearchRequest.RoleTable

namespace SearchRequest.RoleTable

variable {α β : Type}

def items (table : RoleTable α) (role : Role) : List α :=
  (table.items? role).getD []

/-- The items of all groups, one group after the other. -/
def contents (table : RoleTable α) : List α :=
  table.groups.flatMap Prod.snd

/-- All items that stand under a role in a list of groups, whether or not the role repeats. -/
def gathered (role : Role) (groups : List (Role × List α)) : List α :=
  (groups.filter fun group => group.1 = role).flatMap Prod.snd

def map (transform : α → β) (table : RoleTable α) : RoleTable β :=
  ⟨table.groups.map fun group => (group.1, group.2.map transform), table.current⟩

def AllItems (property : α → Prop) (table : RoleTable α) : Prop :=
  ∀ group ∈ table.groups, ∀ item ∈ group.2, property item

theorem roles_map (transform : α → β) (table : RoleTable α) :
    (table.map transform).roles = table.roles :=
  List.map_map

theorem items?_map (transform : α → β) (table : RoleTable α) (role : Role) :
    (table.map transform).items? role = (table.items? role).map (List.map transform) := by
  obtain ⟨groups, current⟩ := table
  simp only [items?, map]
  induction groups with
  | nil => rfl
  | cons group rest ih =>
      by_cases same : group.1 = role
      · simp [same]
      · simpa [List.find?_cons, same] using ih

theorem items_map (transform : α → β) (table : RoleTable α) (role : Role) :
    (table.map transform).items role = (table.items role).map transform := by
  unfold items
  rw [items?_map]
  cases table.items? role <;> rfl

theorem contents_map (transform : α → β) (table : RoleTable α) :
    (table.map transform).contents = table.contents.map transform := by
  simp only [contents, map, List.flatMap_map, List.map_flatMap]

theorem count_map (transform : α → β) (table : RoleTable α) :
    (table.map transform).count = table.count := by
  have mapped := congrArg List.length (contents_map transform table)
  rw [List.length_map] at mapped
  exact mapped

theorem items?_cons (role name : Role) (present : List α) (rest : List (Role × List α))
    (current : Option Role) :
    items? ⟨(name, present) :: rest, current⟩ role =
      if name = role then some present else items? ⟨rest, current⟩ role := by
  by_cases same : name = role <;> simp [items?, same]

theorem items?_eq_none_iff (table : RoleTable α) (role : Role) :
    table.items? role = none ↔ role ∉ table.roles := by
  simp only [items?, roles, Option.map_eq_none_iff, List.find?_eq_none, decide_eq_true_eq,
    List.mem_map]
  constructor
  · intro absent listed
    obtain ⟨group, member, same⟩ := listed
    exact absent group member same
  · intro absent group member same
    exact absent ⟨group, member, same⟩

theorem items?_eq_items (table : RoleTable α) (role : Role) :
    table.items? role = if role ∈ table.roles then some (table.items role) else none := by
  unfold items
  cases found : table.items? role with
  | none => rw [if_neg ((items?_eq_none_iff table role).mp found)]
  | some present =>
      have listed : role ∈ table.roles := by
        by_cases member : role ∈ table.roles
        · exact member
        · rw [(items?_eq_none_iff table role).mpr member] at found
          cases found
      rw [if_pos listed]
      rfl

theorem items?_append (table : RoleTable α) (role other : Role) (added : List α) :
    (table.append role added).items? other =
      if other = role then some (table.items role ++ added) else table.items? other := by
  obtain ⟨groups, current⟩ := table
  simp only [append, items]
  induction groups with
  | nil =>
      by_cases same : other = role
      · simp [appendGroup, items?, same]
      · simp [appendGroup, items?, same, Ne.symm same]
  | cons group rest ih =>
      obtain ⟨name, present⟩ := group
      by_cases first : name = role
      · subst name
        by_cases same : other = role
        · simp [appendGroup, items?_cons, same]
        · simp [appendGroup, items?_cons, same, Ne.symm same]
      · by_cases here : name = other
        · have different : other ≠ role := fun same => first (here.trans same)
          simp [appendGroup, items?_cons, here, different]
        · simp only [appendGroup, items?_cons, first, here, if_false]
          exact ih

theorem items_append (table : RoleTable α) (role other : Role) (added : List α) :
    (table.append role added).items other =
      if other = role then table.items role ++ added else table.items other := by
  unfold items
  rw [items?_append]
  split
  · rfl
  · rfl

theorem contents_append_perm (table : RoleTable α) (role : Role) (added : List α) :
    (table.append role added).contents.Perm (table.contents ++ added) := by
  obtain ⟨groups, current⟩ := table
  simp only [append, contents]
  induction groups with
  | nil => exact List.Perm.of_eq (List.append_nil added)
  | cons group rest ih =>
      obtain ⟨name, present⟩ := group
      by_cases same : name = role
      · -- The new items overtake those of the groups behind.
        simp only [appendGroup, if_pos same, List.flatMap_cons, List.append_assoc]
        exact List.perm_append_comm.append_left present
      · simp only [appendGroup, if_neg same, List.flatMap_cons, List.append_assoc]
        exact ih.append_left present

theorem allItems_append {property : α → Prop} {table : RoleTable α} (role : Role)
    {added : List α} (present : table.AllItems property)
    (new : ∀ item ∈ added, property item) : (table.append role added).AllItems property := by
  obtain ⟨groups, current⟩ := table
  simp only [AllItems, append] at present ⊢
  induction groups with
  | nil =>
      intro group member
      cases List.mem_singleton.mp member
      exact new
  | cons group rest ih =>
      obtain ⟨first, later⟩ := List.forall_mem_cons.mp present
      rw [appendGroup]
      split
      · refine List.forall_mem_cons.mpr ⟨?_, later⟩
        intro item member
        rcases List.mem_append.mp member with old | fresh
        · exact first item old
        · exact new item fresh
      · exact List.forall_mem_cons.mpr ⟨first, ih later⟩

theorem push_open {table : RoleTable α} {role : Role} (isOpen : table.current = some role)
    (item : α) : table.push item = .ok (table.append role [item]) := by
  unfold push
  rw [isOpen]

theorem push_closed {table : RoleTable α} (closed : table.current = none) (item : α) :
    table.push item = .error .noOpenRole := by
  unfold push
  rw [closed]

/-! ### Adding a whole table -/

theorem union_cons (table : RoleTable α) (group : Role × List α)
    (rest : List (Role × List α)) (current : Option Role) :
    table.union ⟨group :: rest, current⟩ =
      (table.append group.1 group.2).union ⟨rest, current⟩ :=
  rfl

theorem union_groups (table other : RoleTable α) :
    (table.union other).groups =
      other.groups.foldl (fun groups group => appendGroup group.1 group.2 groups)
        table.groups := by
  obtain ⟨groups, current⟩ := other
  induction groups generalizing table with
  | nil => rfl
  | cons group rest ih =>
      rw [union_cons, ih]
      rfl

theorem current_union (table other : RoleTable α) :
    (table.union other).current = table.current := by
  obtain ⟨groups, current⟩ := other
  induction groups generalizing table with
  | nil => rfl
  | cons group rest ih =>
      rw [union_cons, ih]
      rfl

theorem mem_roles_append (table : RoleTable α) (role other : Role) (added : List α) :
    other ∈ (table.append role added).roles ↔ other = role ∨ other ∈ table.roles := by
  rw [roles_append]
  split
  · next listed =>
      constructor
      · exact Or.inr
      · intro either
        rcases either with same | member
        · exact same ▸ listed
        · exact member
  · rw [List.mem_append, List.mem_singleton, or_comm]

theorem mem_roles_union (table other : RoleTable α) (role : Role) :
    role ∈ (table.union other).roles ↔ role ∈ table.roles ∨ role ∈ other.roles := by
  obtain ⟨groups, current⟩ := other
  induction groups generalizing table with
  | nil => simp [union, roles]
  | cons group rest ih =>
      rw [union_cons, ih, mem_roles_append]
      simp only [roles, List.map_cons, List.mem_cons]
      rw [or_comm (a := role = group.1), or_assoc]

theorem items_union (table other : RoleTable α) (role : Role) :
    (table.union other).items role = table.items role ++ gathered role other.groups := by
  obtain ⟨groups, current⟩ := other
  induction groups generalizing table with
  | nil => exact (List.append_nil _).symm
  | cons group rest ih =>
      obtain ⟨name, present⟩ := group
      rw [union_cons, ih, items_append]
      by_cases same : role = name
      · subst name
        simp [gathered]
      · simp [gathered, same, Ne.symm same]

theorem contents_union_perm (table other : RoleTable α) :
    (table.union other).contents.Perm (table.contents ++ other.contents) := by
  obtain ⟨groups, current⟩ := other
  induction groups generalizing table with
  | nil => exact List.Perm.of_eq (List.append_nil _).symm
  | cons group rest ih =>
      rw [union_cons]
      have first := contents_append_perm table group.1 group.2
      have later := ih (table.append group.1 group.2)
      have both := later.trans (first.append_right _)
      rwa [List.append_assoc] at both

theorem count_union (table other : RoleTable α) :
    (table.union other).count = table.count + other.count := by
  have sameLength := (contents_union_perm table other).length_eq
  rw [List.length_append] at sameLength
  exact sameLength

theorem allItems_union {property : α → Prop} {table other : RoleTable α}
    (present : table.AllItems property) (new : other.AllItems property) :
    (table.union other).AllItems property := by
  obtain ⟨groups, current⟩ := other
  induction groups generalizing table with
  | nil => exact present
  | cons group rest ih =>
      obtain ⟨first, later⟩ := List.forall_mem_cons.mp new
      rw [union_cons]
      exact ih (allItems_append group.1 present first) later

/-- The roles are listed in the order in which they first come up. -/
theorem roles_union {table : RoleTable α} {seen : List Role} (other : RoleTable α)
    (listed : table.roles = seen.eraseDups) :
    (table.union other).roles = (seen ++ other.roles).eraseDups := by
  obtain ⟨groups, current⟩ := other
  induction groups generalizing table seen with
  | nil => simpa [union, roles] using listed
  | cons group rest ih =>
      have next : (table.append group.1 group.2).roles = (seen ++ [group.1]).eraseDups := by
        rw [roles_append, eraseDups_snoc, listed]
      rw [union_cons, ih next]
      simp only [roles, List.map_cons, List.append_assoc, List.singleton_append]

end SearchRequest.RoleTable
