/-
The content of a bool query: items grouped by role, the roles in the order in
which they first came up, and the role that is open for new items. The items are
left abstract here, because grouping does not look into them.

Merging another table in may bring up new roles, but it never moves the open one.
-/

import SearchRequest.Error

namespace SearchRequest

structure RoleTable (α : Type) where
  groups : List (Role × List α) := []
  current : Option Role := none

namespace RoleTable

variable {α : Type}

def empty : RoleTable α := {}

def ofRole (role : Role) (items : List α) : RoleTable α :=
  { groups := [(role, items)], current := some role }

/-- Adds items at the end of a role's group; a new role comes last. -/
def appendGroup (role : Role) (items : List α) :
    List (Role × List α) → List (Role × List α)
  | [] => [(role, items)]
  | (name, present) :: rest =>
      if name = role then (name, present ++ items) :: rest
      else (name, present) :: appendGroup role items rest

def append (table : RoleTable α) (role : Role) (items : List α) : RoleTable α :=
  { table with groups := appendGroup role items table.groups }

/-- Opens a role, which is then listed even if it stays without items. -/
def openRole (table : RoleTable α) (role : Role) : RoleTable α :=
  { table.append role [] with current := some role }

def push (table : RoleTable α) (item : α) : Except RequestError (RoleTable α) :=
  match table.current with
  | none => .error .noOpenRole
  | some role => .ok (table.append role [item])

def union (table other : RoleTable α) : RoleTable α :=
  other.groups.foldl (fun merged group => merged.append group.1 group.2) table

/--
Opens a role and runs a block on the table. The block may open other roles, and
what it did before it failed is kept.
-/
def withRole {β : Type} (role : Role) (block : RoleTable α → Except RequestError β × RoleTable α)
    (table : RoleTable α) : Except RequestError β × RoleTable α :=
  block (table.openRole role)

def roles (table : RoleTable α) : List Role :=
  table.groups.map Prod.fst

def items? (table : RoleTable α) (role : Role) : Option (List α) :=
  (table.groups.find? fun group => group.1 = role).map Prod.snd

def isEmpty (table : RoleTable α) : Bool :=
  table.groups.isEmpty

def count (table : RoleTable α) : Nat :=
  (table.groups.flatMap Prod.snd).length

/-- A table as its operations build it: no role is listed twice, and the open one is listed. -/
def WellFormed (table : RoleTable α) : Prop :=
  table.roles.Nodup ∧ ∀ role, table.current = some role → role ∈ table.roles

theorem roles_append (table : RoleTable α) (role : Role) (items : List α) :
    (table.append role items).roles =
      if role ∈ table.roles then table.roles else table.roles ++ [role] := by
  obtain ⟨groups, current⟩ := table
  simp only [append, roles]
  induction groups with
  | nil => simp [appendGroup]
  | cons group rest ih =>
      obtain ⟨name, present⟩ := group
      by_cases same : name = role
      · simp [appendGroup, same]
      · by_cases member : role ∈ rest.map Prod.fst
        · simp only [appendGroup, same, if_false, List.map_cons, ih, member, if_true,
            List.mem_cons, or_true]
        · simp only [appendGroup, same, if_false, List.map_cons, ih, member, List.mem_cons,
            or_false, Ne.symm same, List.cons_append]

theorem wellFormed_empty : (empty : RoleTable α).WellFormed :=
  ⟨List.nodup_nil, fun _ impossible => nomatch impossible⟩

theorem wellFormed_ofRole (role : Role) (items : List α) : (ofRole role items).WellFormed := by
  constructor
  · simp [ofRole, roles]
  · intro other opened
    simp [ofRole, roles] at opened ⊢
    exact opened.symm

theorem wellFormed_append {table : RoleTable α} (role : Role) (items : List α)
    (wellFormed : table.WellFormed) : (table.append role items).WellFormed := by
  constructor
  · rw [roles_append]
    split
    · exact wellFormed.1
    · next absent =>
        rw [List.nodup_append]
        refine ⟨wellFormed.1, List.nodup_cons.mpr ⟨List.not_mem_nil, List.nodup_nil⟩, ?_⟩
        intro left present right single same
        rw [List.mem_singleton] at single
        exact absent (single ▸ same ▸ present)
  · intro opened isOpen
    have listed := wellFormed.2 opened isOpen
    rw [roles_append]
    split
    · exact listed
    · exact List.mem_append_left [role] listed

theorem wellFormed_openRole {table : RoleTable α} (role : Role)
    (wellFormed : table.WellFormed) : (table.openRole role).WellFormed := by
  constructor
  · exact (wellFormed_append role [] wellFormed).1
  · intro opened isOpen
    have same : role = opened := Option.some.inj isOpen
    change opened ∈ (table.append role []).roles
    rw [← same, roles_append]
    split
    · assumption
    · exact List.mem_append_right table.roles (List.mem_singleton.mpr rfl)

theorem wellFormed_push {table pushed : RoleTable α} {item : α} (wellFormed : table.WellFormed)
    (accepted : table.push item = .ok pushed) : pushed.WellFormed := by
  unfold push at accepted
  split at accepted
  · cases accepted
  · next role _ =>
      cases accepted
      exact wellFormed_append role [item] wellFormed

theorem wellFormed_union {table : RoleTable α} (other : RoleTable α)
    (wellFormed : table.WellFormed) : (table.union other).WellFormed := by
  unfold union
  induction other.groups generalizing table with
  | nil => exact wellFormed
  | cons group rest ih => exact ih (wellFormed_append group.1 group.2 wellFormed)

end RoleTable

end SearchRequest
