/-
Lists of entries with text keys, and insertion into them: a key stands where it
was first inserted and carries the value that was inserted last.

The laws below say what insertion does to lookup and to the keys. They do not
assume that the keys of a list are distinct; insertion keeps them so.
-/

namespace SearchRequest

abbrev Entries (α : Type) := List (String × α)

namespace Entries

variable {α : Type}

def keys (entries : Entries α) : List String :=
  entries.map Prod.fst

def find? (key : String) : Entries α → Option α
  | [] => none
  | (name, value) :: rest => if name = key then some value else find? key rest

def insert (key : String) (value : α) : Entries α → Entries α
  | [] => [(key, value)]
  | (name, old) :: rest =>
      if name = key then (name, value) :: rest else (name, old) :: insert key value rest

/-- The upper entries are inserted one after the other, so they win. -/
def overlay (lower upper : Entries α) : Entries α :=
  upper.foldl (fun merged entry => insert entry.1 entry.2 merged) lower

def optional (key : String) (value : Option α) : Entries α :=
  match value with
  | none => []
  | some value => [(key, value)]

theorem find?_of_mem {entries : Entries α} (distinct : (keys entries).Nodup)
    {entry : String × α} (member : entry ∈ entries) : find? entry.1 entries = some entry.2 := by
  induction entries with
  | nil => cases member
  | cons first rest ih =>
      obtain ⟨absent, restDistinct⟩ := List.nodup_cons.mp distinct
      rcases List.mem_cons.mp member with here | later
      · rw [here]
        exact if_pos rfl
      · have other : first.1 ≠ entry.1 := by
          intro same
          exact absent (same ▸ List.mem_map_of_mem later)
        rw [find?, if_neg other, ih restDistinct later]

theorem find?_insert_same (key : String) (value : α) (entries : Entries α) :
    find? key (insert key value entries) = some value := by
  induction entries with
  | nil => simp [insert, find?]
  | cons entry rest ih =>
      obtain ⟨name, old⟩ := entry
      by_cases same : name = key
      · simp [insert, find?, same]
      · simp [insert, find?, same, ih]

theorem find?_insert_other {key other : String} (value : α) (entries : Entries α)
    (different : other ≠ key) :
    find? other (insert key value entries) = find? other entries := by
  induction entries with
  | nil => simp [insert, find?, Ne.symm different]
  | cons entry rest ih =>
      obtain ⟨name, old⟩ := entry
      by_cases same : name = key
      · have unequal : name ≠ other := fun equal => different (equal.symm.trans same)
        simp [insert, find?, same, Ne.symm different]
      · simp [insert, find?, same, ih]

theorem keys_insert (key : String) (value : α) (entries : Entries α) :
    keys (insert key value entries) =
      if key ∈ keys entries then keys entries else keys entries ++ [key] := by
  induction entries with
  | nil => simp [insert, keys]
  | cons entry rest ih =>
      obtain ⟨name, old⟩ := entry
      simp only [keys] at ih
      by_cases same : name = key
      · simp [insert, keys, same]
      · by_cases member : key ∈ rest.map Prod.fst
        · simp only [insert, keys, same, if_false, List.map_cons, ih, member, if_true,
            List.mem_cons, or_true]
        · simp only [insert, keys, same, if_false, List.map_cons, ih, member, List.mem_cons,
            or_false, Ne.symm same, List.cons_append]

theorem nodup_keys_insert (key : String) (value : α) {entries : Entries α}
    (distinct : (keys entries).Nodup) : (keys (insert key value entries)).Nodup := by
  rw [keys_insert]
  by_cases member : key ∈ keys entries
  · rw [if_pos member]
    exact distinct
  · rw [if_neg member, List.nodup_append]
    refine ⟨distinct, List.nodup_cons.mpr ⟨List.not_mem_nil, List.nodup_nil⟩, ?_⟩
    intro left present right single same
    rw [List.mem_singleton] at single
    exact member (single ▸ same ▸ present)

theorem nodup_keys_overlay {lower : Entries α} (upper : Entries α)
    (distinct : (keys lower).Nodup) : (keys (overlay lower upper)).Nodup := by
  induction upper generalizing lower with
  | nil => exact distinct
  | cons entry rest ih => exact ih (nodup_keys_insert entry.1 entry.2 distinct)

end Entries

end SearchRequest
