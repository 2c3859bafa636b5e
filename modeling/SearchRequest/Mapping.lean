/-
Ordered mappings: entries whose keys are distinct. The keys stand in the order of
their first insertion.
-/

import SearchRequest.Entries

namespace SearchRequest

structure Mapping (α : Type) where
  entries : Entries α
  distinct : (Entries.keys entries).Nodup

namespace Mapping

variable {α : Type}

def empty : Mapping α :=
  ⟨[], List.nodup_nil⟩

def keys (mapping : Mapping α) : List String :=
  Entries.keys mapping.entries

def find? (mapping : Mapping α) (key : String) : Option α :=
  Entries.find? key mapping.entries

def isEmpty (mapping : Mapping α) : Bool :=
  mapping.entries.isEmpty

def insert (mapping : Mapping α) (key : String) (value : α) : Mapping α :=
  ⟨Entries.insert key value mapping.entries, Entries.nodup_keys_insert key value mapping.distinct⟩

def overlay (lower upper : Mapping α) : Mapping α :=
  ⟨Entries.overlay lower.entries upper.entries,
    Entries.nodup_keys_overlay upper.entries lower.distinct⟩

/-- Of several pairs with one key the first gives the place and the last the value. -/
def ofPairs (pairs : List (String × α)) : Mapping α :=
  ⟨Entries.overlay [] pairs, Entries.nodup_keys_overlay pairs List.nodup_nil⟩

theorem eq_of_entries {left right : Mapping α} (same : left.entries = right.entries) :
    left = right := by
  cases left
  cases right
  cases same
  rfl

theorem find?_insert_same (mapping : Mapping α) (key : String) (value : α) :
    (mapping.insert key value).find? key = some value :=
  Entries.find?_insert_same key value mapping.entries

theorem find?_insert_other (mapping : Mapping α) {key other : String} (value : α)
    (different : other ≠ key) :
    (mapping.insert key value).find? other = mapping.find? other :=
  Entries.find?_insert_other value mapping.entries different

end Mapping

end SearchRequest
