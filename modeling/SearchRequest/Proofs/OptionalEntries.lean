/-
Entries for values that may be missing. A value that is missing leaves no entry, so the
entries tell which values are there, and they stand in the order in which the keys are
gone through.
-/

import SearchRequest.Entries

namespace SearchRequest

namespace Entries

variable {α β : Type}

theorem mem_optional_iff (entry : String × α) (key : String) (value : Option α) :
    entry ∈ optional key value ↔ entry.1 = key ∧ value = some entry.2 := by
  cases value with
  | none => simp [optional]
  | some present =>
      simp only [optional, List.mem_singleton, Option.some.injEq, Prod.ext_iff]
      exact and_congr_right fun _ => eq_comm

theorem find?_optional (key name : String) (value : Option α) :
    find? key (optional name value) = if name = key then value else none := by
  cases value with
  | none => exact (ite_self none).symm
  | some present => rfl

theorem find?_optional_append (key name : String) (value : Option α) (entries : Entries α) :
    find? key (optional name value ++ entries) =
      if name = key then value.or (find? key entries) else find? key entries := by
  cases value with
  | none => exact (ite_self _).symm
  | some present => rfl

theorem optional_injective {key : String} {left right : Option α}
    (same : optional key left = optional key right) : left = right := by
  have found := congrArg (find? key) same
  rwa [find?_optional, find?_optional, if_pos rfl, if_pos rfl] at found

theorem optional_map_injective {write : α → β}
    (injective : ∀ {left right}, write left = write right → left = right) {key : String}
    {left right : Option α}
    (same : optional key (left.map write) = optional key (right.map write)) : left = right :=
  (Option.map_inj_right fun _ _ => injective).mp (optional_injective same)

/-- Two optional entries under different keys are told apart by their keys. -/
theorem optional_append_injective {key other : String} (different : key ≠ other)
    {first second firstOther secondOther : Option β}
    (same : optional key first ++ optional other firstOther =
      optional key second ++ optional other secondOther) :
    first = second ∧ firstOther = secondOther := by
  have found (name : String) := congrArg (find? name) same
  simp only [find?_optional_append, find?_optional] at found
  constructor
  · simpa [Ne.symm different] using found key
  · simpa [different] using found other

theorem find?_flatMap_optional {ι : Type} [DecidableEq ι] {key : ι → String}
    (distinct : ∀ {left right}, key left = key right → left = right) (value : ι → Option α)
    (names : List ι) (name : ι) :
    find? (key name) (names.flatMap fun other => optional (key other) (value other)) =
      if name ∈ names then value name else none := by
  induction names with
  | nil => rfl
  | cons other rest ih =>
      rw [List.flatMap_cons, find?_optional_append, ih]
      by_cases same : other = name
      · subst same
        rw [if_pos rfl, if_pos List.mem_cons_self]
        cases value other with
        | none => exact ite_self none
        | some found => rfl
      · have sameMembers : name ∈ other :: rest ↔ name ∈ rest := by
          rw [List.mem_cons, or_iff_right (Ne.symm same)]
        rw [if_neg fun keys => same (distinct keys)]
        simp only [sameMembers]

theorem keys_flatMap_optional {ι : Type} (key : ι → String) (value : ι → Option α)
    (names : List ι) :
    keys (names.flatMap fun name => optional (key name) (value name)) =
      (names.filter fun name => (value name).isSome).map key := by
  induction names with
  | nil => rfl
  | cons name rest ih =>
      rw [keys] at ih
      rw [List.flatMap_cons, keys, List.map_append, ih]
      cases present : value name with
      | none => rw [List.filter_cons_of_neg (by simp [present])]; rfl
      | some given => rw [List.filter_cons_of_pos (by simp [present])]; rfl

theorem keys_optional_sublist {ι : Type} (key : ι → String) (value : ι → Option α)
    (names : List ι) :
    (keys (names.flatMap fun name => optional (key name) (value name))).Sublist
      (names.map key) := by
  rw [keys_flatMap_optional]
  exact List.filter_sublist.map key

end Entries

end SearchRequest
