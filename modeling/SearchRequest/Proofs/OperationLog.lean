/-
Bool queries as the outcome of a run of calls. A run is read into a log: the
groups that its calls hand over, one after the other, where a pushed clause goes
to the role that was opened last. Everything that a bool query shows afterwards
can be read off that log and off the last opening, so the two ways in which a
role comes up, opening and merging, cannot get into each other's way.

Calls that fail stay in the run. They hand nothing over.
-/

import SearchRequest.Clause
import SearchRequest.Proofs.RoleGroups

namespace SearchRequest

inductive BoolOperation where
  | openRole (role : Role)
  | push (clause : Clause)
  | merge (clause : Clause)
  | union (other : BoolQuery)

namespace BoolOperation

def apply (table : BoolQuery) : BoolOperation → Except RequestError Unit × BoolQuery
  | .openRole role => (.ok (), table.openRole role)
  | .push clause =>
      match table.push clause with
      | .error error => (.error error, table)
      | .ok pushed => (.ok (), pushed)
  | .merge clause => (.ok (), table.merge clause)
  | .union other => (.ok (), table.union other)

def opened? : BoolOperation → Option Role
  | .openRole role => some role
  | .push _ | .merge _ | .union _ => none

/-- The groups that a call hands over while the given role is open. -/
def adds (current : Option Role) : BoolOperation → List (Role × List Clause)
  | .openRole role => [(role, [])]
  | .push clause => current.toList.map fun role => (role, [clause])
  | .merge (.leaf content) => [(.must, [.leaf content])]
  | .merge (.bool other) => other.groups
  | .union other => other.groups

/-- The call brings the role up, whether or not it adds a clause there. -/
def Touches (role : Role) : BoolOperation → Prop
  | .openRole opened => opened = role
  | .push _ => False
  | .merge (.leaf _) => role = .must
  | .merge (.bool other) => role ∈ other.roles
  | .union other => role ∈ other.roles

end BoolOperation

namespace BoolRun

open BoolOperation

def execute (table : BoolQuery) (run : List BoolOperation) : BoolQuery :=
  run.foldl (fun reached operation => (operation.apply reached).2) table

def lastOpened (run : List BoolOperation) : Option Role :=
  (run.filterMap opened?).getLast?

/-- The groups that the calls of a run hand over, with the role that is open at its start. -/
def log : Option Role → List BoolOperation → List (Role × List Clause)
  | _, [] => []
  | current, operation :: run =>
      operation.adds current ++ log (operation.opened?.or current) run

/-- The table with some groups added and then some role open, if one is given. -/
def advance (table : BoolQuery) (groups : List (Role × List Clause))
    (opened : Option Role) : BoolQuery :=
  ⟨(table.union ⟨groups, none⟩).groups, opened.or table.current⟩

theorem advance_none (table : BoolQuery) (groups : List (Role × List Clause)) :
    advance table groups none = table.union ⟨groups, none⟩ := by
  have kept := table.current_union ⟨groups, none⟩
  unfold advance
  rw [Option.none_or, ← kept]

theorem advance_advance (table : BoolQuery) (first second : List (Role × List Clause))
    (opened later : Option Role) :
    advance (advance table first opened) second later =
      advance table (first ++ second) (later.or opened) := by
  simp only [advance, RoleTable.union_groups, List.foldl_append, Option.or_assoc]

theorem apply_eq_advance (table : BoolQuery) (operation : BoolOperation) :
    (operation.apply table).2 =
      advance table (operation.adds table.current) operation.opened? := by
  cases operation with
  | openRole role => rfl
  | push clause =>
      cases isOpen : table.current with
      | none =>
          rw [apply, RoleTable.push_closed isOpen, opened?, advance_none]
          rfl
      | some role =>
          rw [apply, RoleTable.push_open isOpen, opened?, advance_none]
          rfl
  | merge clause =>
      cases clause with
      | leaf content => rfl
      | bool other =>
          rw [opened?, advance_none]
          rfl
  | union other =>
      rw [opened?, advance_none]
      rfl

theorem lastOpened_cons (operation : BoolOperation) (run : List BoolOperation) :
    lastOpened (operation :: run) = (lastOpened run).or operation.opened? := by
  unfold lastOpened
  rw [List.filterMap_cons]
  cases operation.opened? with
  | none => exact Option.or_none.symm
  | some role =>
      rw [List.getLast?_cons]
      cases (run.filterMap opened?).getLast? <;> rfl

theorem execute_eq_advance (table : BoolQuery) (run : List BoolOperation) :
    execute table run = advance table (log table.current run) (lastOpened run) := by
  induction run generalizing table with
  | nil => exact (advance_none table []).symm
  | cons operation run ih =>
      let reached := advance table (operation.adds table.current) operation.opened?
      calc
        execute table (operation :: run) = execute (operation.apply table).2 run := rfl
        _ = execute reached run := by rw [apply_eq_advance]
        _ = advance reached (log reached.current run) (lastOpened run) := ih reached
        _ = advance table (log table.current (operation :: run))
              (lastOpened (operation :: run)) := by
            rw [advance_advance, ← lastOpened_cons]
            rfl

/-- Without an opening among the calls, the open role is that of the start. -/
theorem current_execute_from (table : BoolQuery) (run : List BoolOperation) :
    (execute table run).current = (lastOpened run).or table.current := by
  rw [execute_eq_advance]
  rfl

theorem lastOpened_eq_none_iff (run : List BoolOperation) :
    lastOpened run = none ↔ ∀ role, .openRole role ∉ run := by
  unfold lastOpened
  rw [List.getLast?_eq_none_iff, List.filterMap_eq_nil_iff]
  constructor
  · intro none role member
    cases none (.openRole role) member
  · intro absent operation member
    cases operation with
    | openRole role => exact absurd member (absent role)
    | push _ => rfl
    | merge _ => rfl
    | union _ => rfl

/-- A pushed clause touches nothing, since it only goes to a role that is open already. -/
theorem mem_adds_iff {current : Option Role} {role : Role} (unopened : current ≠ some role)
    (operation : BoolOperation) :
    role ∈ (operation.adds current).map Prod.fst ↔ operation.Touches role := by
  cases operation with
  | openRole opened =>
      rw [adds, Touches, List.map_singleton, List.mem_singleton]
      exact eq_comm
  | push clause =>
      cases current with
      | none => simp [adds, Touches]
      | some opened =>
          have different : role ≠ opened := fun same => unopened (same ▸ rfl)
          simp [adds, Touches, different]
  | merge clause =>
      cases clause with
      | leaf content => simp [adds, Touches]
      | bool other => exact Iff.rfl
  | union other => exact Iff.rfl

theorem mem_log_iff {current : Option Role} {role : Role} (unopened : current ≠ some role)
    (run : List BoolOperation) :
    role ∈ (log current run).map Prod.fst ↔ ∃ operation ∈ run, operation.Touches role := by
  induction run generalizing current with
  | nil => simp [log]
  | cons operation run ih =>
      rw [log, List.map_append, List.mem_append, mem_adds_iff unopened]
      simp only [List.mem_cons, exists_eq_or_imp]
      by_cases touched : operation.Touches role
      · exact ⟨fun _ => Or.inl touched, fun _ => Or.inl touched⟩
      · have stillUnopened : operation.opened?.or current ≠ some role := by
          cases operation with
          | openRole opened => exact fun same => touched (Option.some.inj same)
          | push _ | merge _ | union _ => exact unopened
        rw [ih stillUnopened]

/-! ### Runs from an empty bool query -/

theorem execute_empty (run : List BoolOperation) :
    execute .empty run = advance .empty (log none run) (lastOpened run) :=
  execute_eq_advance .empty run

theorem current_execute (run : List BoolOperation) :
    (execute .empty run).current = lastOpened run :=
  (current_execute_from .empty run).trans Option.or_none

theorem mem_roles_execute_iff (run : List BoolOperation) (role : Role) :
    role ∈ (execute .empty run).roles ↔ ∃ operation ∈ run, operation.Touches role := by
  have unopened : none ≠ some role := (Option.some_ne_none role).symm
  have listed := RoleTable.mem_roles_union .empty ⟨log none run, none⟩ role
  have inLog := mem_log_iff unopened run
  rw [execute_empty, ← inLog]
  constructor
  · intro member
    exact (listed.mp member).resolve_left List.not_mem_nil
  · intro member
    exact listed.mpr (Or.inr member)

/-- The clauses of a touched role, in the order in which the run hands them over. -/
theorem items?_execute {run : List BoolOperation} {role : Role}
    (touched : ∃ operation ∈ run, operation.Touches role) :
    (execute .empty run).items? role = some (RoleTable.gathered role (log none run)) := by
  have listed := (mem_roles_execute_iff run role).mpr touched
  have items := RoleTable.items_union .empty ⟨log none run, none⟩ role
  rw [RoleTable.items?_eq_items, if_pos listed, execute_empty]
  exact congrArg some items

theorem items?_execute_eq_none_iff (run : List BoolOperation) (role : Role) :
    (execute .empty run).items? role = none ↔ ∀ operation ∈ run, ¬ operation.Touches role := by
  rw [RoleTable.items?_eq_none_iff, mem_roles_execute_iff]
  constructor
  · intro untouched operation member touches
    exact untouched ⟨operation, member, touches⟩
  · intro untouched touched
    obtain ⟨operation, member, touches⟩ := touched
    exact untouched operation member touches

theorem roles_execute (run : List BoolOperation) :
    (execute .empty run).roles = ((log none run).map Prod.fst).eraseDups := by
  have start : (RoleTable.empty : BoolQuery).roles = ([] : List Role).eraseDups := rfl
  rw [execute_empty]
  exact RoleTable.roles_union ⟨log none run, none⟩ start

theorem count_execute (run : List BoolOperation) :
    (execute .empty run).count = ((log none run).flatMap Prod.snd).length := by
  have total := RoleTable.count_union .empty ⟨log none run, none⟩
  rw [execute_empty]
  exact total.trans (Nat.zero_add _)

theorem push_refused_iff (table : BoolQuery) (clause : Clause) :
    (BoolOperation.push clause).apply table = (.error .noOpenRole, table) ↔
      table.current = none := by
  rw [apply]
  cases isOpen : table.current with
  | none =>
      rw [RoleTable.push_closed isOpen]
      exact ⟨fun _ => rfl, fun _ => rfl⟩
  | some role =>
      rw [RoleTable.push_open isOpen]
      constructor
      · intro refused
        cases congrArg Prod.fst refused
      · intro impossible
        cases impossible

theorem push_accepted_iff (table : BoolQuery) (clause : Clause) :
    ((BoolOperation.push clause).apply table).1 = .ok () ↔ table.current ≠ none := by
  rw [apply]
  cases isOpen : table.current with
  | none =>
      rw [RoleTable.push_closed isOpen]
      constructor
      · intro impossible
        cases impossible
      · intro impossible
        exact absurd rfl impossible
  | some role =>
      rw [RoleTable.push_open isOpen]
      exact ⟨fun _ => Option.some_ne_none role, fun _ => rfl⟩

theorem push_execute_refused_iff (run : List BoolOperation) (clause : Clause) :
    (BoolOperation.push clause).apply (execute .empty run) =
        (.error .noOpenRole, execute .empty run) ↔
      ∀ role, .openRole role ∉ run := by
  rw [push_refused_iff, current_execute, lastOpened_eq_none_iff]

theorem push_execute_accepted_iff (run : List BoolOperation) (clause : Clause) :
    ((BoolOperation.push clause).apply (execute .empty run)).1 = .ok () ↔
      ∃ role, .openRole role ∈ run := by
  rw [push_accepted_iff, current_execute, Ne, lastOpened_eq_none_iff]
  exact Classical.not_forall_not

/-- The bool query shows what the log of the run says, and nothing more. -/
structure FollowsLog (run : List BoolOperation) (table : BoolQuery) : Prop where
  current : table.current = lastOpened run
  refused : ∀ clause, (BoolOperation.push clause).apply table = (.error .noOpenRole, table) ↔
    ∀ role, .openRole role ∉ run
  accepted : ∀ clause, ((BoolOperation.push clause).apply table).1 = .ok () ↔
    ∃ role, .openRole role ∈ run
  items : ∀ role, (∃ operation ∈ run, operation.Touches role) →
    table.items? role = some (RoleTable.gathered role (log none run))
  untouched : ∀ role,
    table.items? role = none ↔ ∀ operation ∈ run, ¬ operation.Touches role
  roles : table.roles = ((log none run).map Prod.fst).eraseDups
  count : table.count = ((log none run).flatMap Prod.snd).length

/-- A push after the run is refused, and changes nothing, exactly when no role was opened. -/
theorem execute_follows_log (run : List BoolOperation) :
    FollowsLog run (execute .empty run) where
  current := current_execute run
  refused := push_execute_refused_iff run
  accepted := push_execute_accepted_iff run
  items _ touched := items?_execute touched
  untouched := items?_execute_eq_none_iff run
  roles := roles_execute run
  count := count_execute run

end BoolRun

end SearchRequest
