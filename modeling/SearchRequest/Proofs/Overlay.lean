/-
Entries inserted one after another, and laid over one another: where a key stands
afterwards, and which value it carries. Keys and values together say everything about
a mapping, so two ways of laying the same mappings over one another are compared by
looking them up.
-/

import SearchRequest.Mapping
import SearchRequest.Proofs.FirstSeen

namespace SearchRequest

namespace Entries

variable {α : Type}

theorem insert_new {key : String} {entries : Entries α}
    (absent : key ∉ keys entries) (value : α) :
    insert key value entries = entries ++ [(key, value)] := by
  induction entries with
  | nil => rfl
  | cons entry rest ih =>
      obtain ⟨name, old⟩ := entry
      have other : name ≠ key := fun same => absent (same ▸ List.mem_cons_self)
      have restAbsent : key ∉ keys rest := fun member => absent (List.mem_cons_of_mem name member)
      rw [insert, if_neg other, ih restAbsent]
      rfl

theorem insert_insert_same (key : String) (old new : α) (entries : Entries α) :
    insert key new (insert key old entries) = insert key new entries := by
  induction entries with
  | nil => simp [insert]
  | cons entry rest ih =>
      obtain ⟨name, value⟩ := entry
      by_cases same : name = key
      · simp [insert, same]
      · simp [insert, same, ih]

/-- A key that is there already keeps its position, whatever is inserted beside it. -/
theorem insert_comm_of_mem {key other : String} {entries : Entries α}
    (present : key ∈ keys entries) (different : other ≠ key) (value otherValue : α) :
    insert other otherValue (insert key value entries) =
      insert key value (insert other otherValue entries) := by
  induction entries with
  | nil => cases present
  | cons entry rest ih =>
      obtain ⟨name, old⟩ := entry
      by_cases same : name = key
      · subst same
        simp [insert, different.symm]
      · have later : key ∈ keys rest := (List.mem_cons.mp present).resolve_left (Ne.symm same)
        by_cases sameOther : name = other
        · subst sameOther
          simp [insert, different]
        · simp [insert, same, sameOther, ih later]

theorem mem_keys_insert (key other : String) (value : α) (entries : Entries α) :
    other ∈ keys (insert key value entries) ↔ other = key ∨ other ∈ keys entries := by
  rw [keys_insert]
  by_cases member : key ∈ keys entries
  · rw [if_pos member]
    constructor
    · exact Or.inr
    · intro either
      rcases either with same | old
      · exact same ▸ member
      · exact old
  · rw [if_neg member, List.mem_append, List.mem_singleton, or_comm]

theorem mem_of_mem_insert {key : String} {value : α} {entry : String × α} {entries : Entries α}
    (member : entry ∈ insert key value entries) : entry = (key, value) ∨ entry ∈ entries := by
  induction entries with
  | nil => exact Or.inl (List.mem_singleton.mp member)
  | cons first rest ih =>
      obtain ⟨name, old⟩ := first
      by_cases same : name = key
      · rw [insert, if_pos same, same] at member
        exact (List.mem_cons.mp member).imp_right (List.mem_cons_of_mem _)
      · rw [insert, if_neg same] at member
        rcases List.mem_cons.mp member with here | later
        · exact Or.inr (here ▸ List.mem_cons_self)
        · exact (ih later).imp_right (List.mem_cons_of_mem _)

theorem isEmpty_insert (key : String) (value : α) (entries : Entries α) :
    (insert key value entries).isEmpty = false := by
  cases entries with
  | nil => rfl
  | cons entry rest =>
      obtain ⟨name, old⟩ := entry
      rw [insert]
      split <;> rfl

theorem overlay_cons (lower : Entries α) (entry : String × α) (upper : Entries α) :
    overlay lower (entry :: upper) = overlay (insert entry.1 entry.2 lower) upper :=
  rfl

theorem overlay_append (lower first second : Entries α) :
    overlay lower (first ++ second) = overlay (overlay lower first) second :=
  List.foldl_append

theorem mem_of_mem_overlay {entry : String × α} {lower upper : Entries α}
    (member : entry ∈ overlay lower upper) : entry ∈ lower ∨ entry ∈ upper := by
  induction upper generalizing lower with
  | nil => exact Or.inl member
  | cons first rest ih =>
      rcases ih member with inserted | later
      · rcases mem_of_mem_insert inserted with here | old
        · exact Or.inr (here ▸ List.mem_cons_self)
        · exact Or.inl old
      · exact Or.inr (List.mem_cons_of_mem first later)

theorem isEmpty_overlay (lower upper : Entries α) :
    (overlay lower upper).isEmpty = (lower.isEmpty && upper.isEmpty) := by
  induction upper generalizing lower with
  | nil => exact (Bool.and_true lower.isEmpty).symm
  | cons entry rest ih =>
      rw [overlay_cons, ih, isEmpty_insert]
      exact (Bool.and_false lower.isEmpty).symm

/-- A key keeps the place where it first came up, below or above. -/
theorem keys_overlay {lower : Entries α} {seen : List String} (upper : Entries α)
    (listed : keys lower = seen.eraseDups) :
    keys (overlay lower upper) = (seen ++ keys upper).eraseDups := by
  induction upper generalizing lower seen with
  | nil => simpa [overlay, keys] using listed
  | cons entry rest ih =>
      have next : keys (insert entry.1 entry.2 lower) = (seen ++ [entry.1]).eraseDups := by
        rw [keys_insert, eraseDups_snoc, listed]
      rw [overlay_cons, ih next, List.append_assoc]
      rfl

theorem find?_eq_none_iff (key : String) (entries : Entries α) :
    find? key entries = none ↔ key ∉ keys entries := by
  induction entries with
  | nil => simp [find?, keys]
  | cons entry rest ih =>
      obtain ⟨name, value⟩ := entry
      simp only [keys] at ih
      by_cases same : name = key
      · simp [find?, keys, same]
      · simp [find?, keys, same, Ne.symm same, ih]

/-- A key that does not come up above keeps its value. -/
theorem find?_overlay_absent {key : String} (lower : Entries α) {upper : Entries α}
    (absent : key ∉ keys upper) : find? key (overlay lower upper) = find? key lower := by
  induction upper generalizing lower with
  | nil => rfl
  | cons entry rest ih =>
      have later := List.not_mem_of_not_mem_cons absent
      have other : key ≠ entry.1 := List.ne_of_not_mem_cons absent
      rw [overlay_cons, ih _ later, find?_insert_other entry.2 lower other]

/-- The upper value wins, where there is one. -/
theorem find?_overlay (key : String) (lower : Entries α) {upper : Entries α}
    (distinct : (keys upper).Nodup) :
    find? key (overlay lower upper) = (find? key upper).or (find? key lower) := by
  induction upper generalizing lower with
  | nil => rfl
  | cons entry rest ih =>
      obtain ⟨name, value⟩ := entry
      obtain ⟨absent, restDistinct⟩ := List.nodup_cons.mp distinct
      rw [overlay_cons, ih _ restDistinct, find?]
      by_cases same : name = key
      · subst same
        rw [(find?_eq_none_iff name rest).mpr absent, if_pos rfl, find?_insert_same]
        rfl
      · rw [if_neg same, find?_insert_other value lower (Ne.symm same)]

theorem find?_append (key : String) (first second : Entries α) :
    find? key (first ++ second) = (find? key first).or (find? key second) := by
  induction first with
  | nil => rfl
  | cons entry rest ih =>
      by_cases same : entry.1 = key
      · rw [List.cons_append, find?, find?, if_pos same, if_pos same]
        rfl
      · rw [List.cons_append, find?, find?, if_neg same, if_neg same, ih]

theorem find?_filter_key (key : String) (entries : Entries α) :
    find? key (entries.filter fun entry => entry.1 = key) = find? key entries := by
  induction entries with
  | nil => rfl
  | cons entry rest ih =>
      by_cases here : entry.1 = key
      · rw [List.filter_cons, if_pos (decide_eq_true here), find?, find?,
          if_pos here, if_pos here]
      · rw [List.filter_cons, if_neg (by simp [here]), ih, find?, if_neg here]

/-- The last of the upper entries under a key is the one that stays. -/
theorem find?_overlay_reverse (key : String) (lower upper : Entries α) :
    find? key (overlay lower upper) = (find? key upper.reverse).or (find? key lower) := by
  induction upper generalizing lower with
  | nil => rfl
  | cons entry rest ih =>
      rw [overlay_cons, ih, List.reverse_cons, find?_append, Option.or_assoc]
      congr 1
      by_cases same : entry.1 = key
      · rw [same, find?_insert_same, find?, if_pos same]
        rfl
      · rw [find?_insert_other _ _ (Ne.symm same), find?, if_neg same]
        rfl

/-- Entries that do not touch a key may be laid over before or after its value changes. -/
theorem overlay_insert {key : String} {lower upper : Entries α} (present : key ∈ keys lower)
    (absent : key ∉ keys upper) (value : α) :
    overlay (insert key value lower) upper = insert key value (overlay lower upper) := by
  induction upper generalizing lower with
  | nil => rfl
  | cons entry rest ih =>
      have later := List.not_mem_of_not_mem_cons absent
      have other : key ≠ entry.1 := List.ne_of_not_mem_cons absent
      have stillPresent : key ∈ keys (insert entry.1 entry.2 lower) :=
        (mem_keys_insert entry.1 key entry.2 lower).mpr (Or.inr present)
      rw [overlay_cons, overlay_cons, insert_comm_of_mem present other.symm, ih stillPresent later]

/-- New keys are added at the end, so the upper entries follow as they are. -/
theorem overlay_of_nodup {lower upper : Entries α} (distinct : (keys (lower ++ upper)).Nodup) :
    overlay lower upper = lower ++ upper := by
  induction upper generalizing lower with
  | nil => exact (List.append_nil lower).symm
  | cons entry rest ih =>
      have regrouped : lower ++ entry :: rest = (lower ++ [entry]) ++ rest := by
        rw [List.append_assoc, List.singleton_append]
      rw [regrouped] at distinct ⊢
      have absent : entry.1 ∉ keys lower := by
        rw [keys, List.map_append, List.map_append, List.append_assoc] at distinct
        intro present
        exact (List.nodup_append.mp distinct).2.2 entry.1 present entry.1
          (List.mem_append_left _ (List.mem_singleton.mpr rfl)) rfl
      rw [overlay_cons, insert_new absent, ih distinct]

theorem eq_of_find?_eq {left right : Entries α} (distinct : (keys left).Nodup)
    (sameKeys : keys left = keys right)
    (sameValues : ∀ key, find? key left = find? key right) : left = right := by
  induction left generalizing right with
  | nil => exact (List.map_eq_nil_iff.mp sameKeys.symm).symm
  | cons entry rest ih =>
      cases right with
      | nil => cases sameKeys
      | cons other others =>
          obtain ⟨name, value⟩ := entry
          obtain ⟨otherName, otherValue⟩ := other
          obtain ⟨sameName, sameRest⟩ := List.cons.inj sameKeys
          change name = otherName at sameName
          change keys rest = keys others at sameRest
          subst sameName
          obtain ⟨absent, restDistinct⟩ := List.nodup_cons.mp distinct
          have sameValue := sameValues name
          simp only [find?, if_true, Option.some.injEq] at sameValue
          have restValues : ∀ key, find? key rest = find? key others := by
            intro key
            by_cases same : name = key
            · subst same
              rw [(find?_eq_none_iff name rest).mpr absent,
                (find?_eq_none_iff name others).mpr (sameRest ▸ absent)]
            · have outside := sameValues key
              simpa only [find?, if_neg same] using outside
          rw [sameValue, ih restDistinct sameRest restValues]

/-- Repeated keys of the upper entries may be joined beforehand; places and values are the same. -/
theorem overlay_overlay {lower : Entries α} (distinct : (keys lower).Nodup) (upper : Entries α) :
    overlay lower (overlay [] upper) = overlay lower upper := by
  have start : keys lower = (keys lower).eraseDups := (eraseDups_eq_self distinct).symm
  have unkeyed : keys ([] : Entries α) = [].eraseDups := rfl
  have joinedKeys : keys (overlay [] upper) = (keys upper).eraseDups :=
    keys_overlay upper unkeyed
  have joinedDistinct : (keys (overlay [] upper)).Nodup :=
    nodup_keys_overlay upper List.nodup_nil
  apply eq_of_find?_eq
  · exact nodup_keys_overlay _ distinct
  · rw [keys_overlay _ start, keys_overlay _ start, joinedKeys, eraseDups_append_eraseDups]
  · intro key
    rw [find?_overlay key lower joinedDistinct, find?_overlay_reverse, find?_overlay_reverse]
    exact congrArg (Option.or · (find? key lower)) Option.or_none

/-- Keys of the lower entries keep their places, and new keys follow in the order above. -/
theorem keys_overlay_of_nodup {lower upper : Entries α} (lowerDistinct : (keys lower).Nodup)
    (upperDistinct : (keys upper).Nodup) :
    keys (overlay lower upper) =
      keys lower ++ (keys upper).filter fun key => key ∉ keys lower := by
  rw [keys_overlay upper (eraseDups_eq_self lowerDistinct).symm,
    eraseDups_append_of_nodup lowerDistinct upperDistinct]

end Entries

/-! ### Mappings -/

namespace Mapping

variable {α : Type}

theorem keys_overlay (lower upper : Mapping α) :
    (lower.overlay upper).keys = (lower.keys ++ upper.keys).eraseDups :=
  Entries.keys_overlay upper.entries (eraseDups_eq_self lower.distinct).symm

theorem find?_overlay (lower upper : Mapping α) (key : String) :
    (lower.overlay upper).find? key = (upper.find? key).or (lower.find? key) :=
  Entries.find?_overlay key lower.entries upper.distinct

theorem eq_of_find?_eq {left right : Mapping α} (sameKeys : left.keys = right.keys)
    (sameValues : ∀ key, left.find? key = right.find? key) : left = right :=
  eq_of_entries (Entries.eq_of_find?_eq left.distinct sameKeys sameValues)

theorem overlay_empty (mapping : Mapping α) : mapping.overlay .empty = mapping :=
  rfl

theorem empty_overlay (mapping : Mapping α) : empty.overlay mapping = mapping := by
  apply eq_of_find?_eq
  · rw [keys_overlay]
    exact eraseDups_eq_self mapping.distinct
  · intro key
    rw [find?_overlay]
    exact Option.or_none

end Mapping

end SearchRequest
