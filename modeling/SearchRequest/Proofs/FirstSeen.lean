/-
Lists in which every item stands once, where it first came up. Adding an item at
the end of the list either adds it at the end of the result or changes nothing,
and a part of the list may be freed of its repetitions beforehand. Of two such
lists the first one stays as it is, and what is new in the second one follows.
-/

namespace SearchRequest

variable {α : Type} [DecidableEq α]

theorem eraseDups_snoc (seen : List α) (item : α) :
    (seen ++ [item]).eraseDups =
      if item ∈ seen.eraseDups then seen.eraseDups else seen.eraseDups ++ [item] := by
  rw [List.eraseDups_append]
  by_cases member : item ∈ seen
  · simp [List.mem_eraseDups, List.removeAll, member]
  · simp [List.mem_eraseDups, List.removeAll, member, List.eraseDups_cons]

theorem eraseDups_eq_self {items : List α} (distinct : items.Nodup) : items.eraseDups = items := by
  induction items with
  | nil => rfl
  | cons item rest ih =>
      obtain ⟨absent, restDistinct⟩ := List.nodup_cons.mp distinct
      have unfiltered : rest.filter (fun other => !other == item) = rest := by
        apply List.filter_eq_self.mpr
        intro other member
        have different : other ≠ item := fun same => absent (same ▸ member)
        simpa using different
      rw [List.eraseDups_cons, unfiltered, ih restDistinct]

theorem eraseDups_append_eraseDups (first second : List α) :
    (first ++ second.eraseDups).eraseDups = (first ++ second).eraseDups := by
  rw [← List.reverse_reverse second]
  induction second.reverse with
  | nil => rfl
  | cons item earlier ih =>
      rw [List.reverse_cons, eraseDups_snoc, ← List.append_assoc, eraseDups_snoc]
      split
      · next repeated =>
          have member : item ∈ (first ++ earlier.reverse).eraseDups := by
            rw [List.mem_eraseDups] at repeated ⊢
            exact List.mem_append_right first repeated
          rw [ih, if_pos member]
      · rw [← List.append_assoc, eraseDups_snoc, ih]

/-- A list without repetitions keeps its place before the new items of another one. -/
theorem eraseDups_append_of_nodup {first second : List α} (firstDistinct : first.Nodup)
    (secondDistinct : second.Nodup) :
    (first ++ second).eraseDups = first ++ second.filter fun item => item ∉ first := by
  have newItems : second.removeAll first = second.filter fun item => item ∉ first := by
    apply List.filter_congr
    intro item _
    simp
  rw [List.eraseDups_append, eraseDups_eq_self firstDistinct, newItems,
    eraseDups_eq_self (secondDistinct.filter _)]

end SearchRequest
