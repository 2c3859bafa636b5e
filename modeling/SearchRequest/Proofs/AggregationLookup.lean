/-
Looking up a name in a list of aggregations. A lookup and an edit both search from the
end, so they reach the last aggregation of the name. Rendering goes from the front: a
repeated name keeps its first place among the entries and takes the later fragment. The
two agree, because the last aggregation of a name is the one that is written last.

The list may repeat names in any pattern. An aggregation whose entry is taken over is
still rendered, and its error still counts.
-/

import SearchRequest.Aggregation.Path
import SearchRequest.Proofs.Fault

namespace SearchRequest.Aggregations

/-- The list, cut at the last aggregation of the name. -/
structure CutAtLast (name : String) (items before : Aggregations) (item : Aggregation)
    (after : Aggregations) : Prop where
  whole : items = before ++ item :: after
  named : item.name = name
  last : name ∉ after.names

theorem cutAtLast_of_mem {name : String} {items : Aggregations} (member : name ∈ items.names) :
    ∃ before item after, CutAtLast name items before item after := by
  induction items with
  | nil => cases member
  | cons first rest ih =>
      by_cases later : name ∈ names rest
      · obtain ⟨before, item, after, cut⟩ := ih later
        exact ⟨first :: before, item, after, congrArg (first :: ·) cut.whole, cut.named, cut.last⟩
      · have named : name = first.name := (List.mem_cons.mp member).resolve_right later
        exact ⟨[], first, rest, rfl, named.symm, later⟩

section

variable {β : Type} {name : String} {edit : Aggregation → β × Aggregation} {items : Aggregations}

theorem editLast?_of_not_mem (absent : name ∉ items.names) : editLast? name edit items = none := by
  induction items with
  | nil => rfl
  | cons first rest ih =>
      have other : first.name ≠ name := (List.ne_of_not_mem_cons absent).symm
      rw [editLast?, ih (List.not_mem_of_not_mem_cons absent)]
      exact if_neg other

theorem CutAtLast.editLast? {before after : Aggregations} {item : Aggregation}
    (cut : CutAtLast name items before item after) :
    items.editLast? name edit = some ((edit item).1, before ++ (edit item).2 :: after) := by
  obtain ⟨whole, named, last⟩ := cut
  subst whole
  induction before with
  | nil =>
      change Aggregations.editLast? name edit (item :: after) = _
      rw [Aggregations.editLast?, editLast?_of_not_mem last]
      exact if_pos named
  | cons first rest ih =>
      rw [List.cons_append, Aggregations.editLast?, ih]
      rfl

/-- The last aggregation of the name is changed where it stands, and nothing else is. -/
theorem editLast?_eq_some_iff {result : β} {changed : Aggregations} :
    items.editLast? name edit = some (result, changed) ↔
      ∃ before item after, CutAtLast name items before item after ∧
        (edit item).1 = result ∧ changed = before ++ (edit item).2 :: after := by
  constructor
  · intro edited
    by_cases member : name ∈ items.names
    · obtain ⟨before, item, after, cut⟩ := cutAtLast_of_mem member
      rw [cut.editLast?] at edited
      cases edited
      exact ⟨before, item, after, cut, rfl, rfl⟩
    · rw [editLast?_of_not_mem member] at edited
      cases edited
  · intro split
    obtain ⟨before, item, after, cut, sameResult, sameItems⟩ := split
    rw [cut.editLast?, sameResult, sameItems]

end

/-- What is found is what an edit would change. -/
theorem find?_eq_editLast? (name : String) (items : Aggregations) :
    items.find? name = (items.editLast? name fun item => (item, item)).map Prod.fst := by
  induction items with
  | nil => rfl
  | cons first rest ih =>
      rw [find?, editLast?, ih]
      cases editLast? name (fun item => (item, item)) rest with
      | some later => rfl
      | none => simp only [Option.map_none, apply_ite (Option.map Prod.fst), Option.map_some]

theorem find?_of_not_mem {name : String} {items : Aggregations} (absent : name ∉ items.names) :
    items.find? name = none := by
  rw [find?_eq_editLast?, editLast?_of_not_mem absent]
  rfl

theorem CutAtLast.find? {name : String} {items before after : Aggregations} {item : Aggregation}
    (cut : CutAtLast name items before item after) : items.find? name = some item := by
  rw [find?_eq_editLast?, cut.editLast?]
  rfl

theorem find?_eq_some_iff (name : String) (items : Aggregations) (item : Aggregation) :
    items.find? name = some item ↔ ∃ before after, CutAtLast name items before item after := by
  constructor
  · intro found
    by_cases member : name ∈ items.names
    · obtain ⟨before, last, after, cut⟩ := cutAtLast_of_mem member
      rw [cut.find?] at found
      cases found
      exact ⟨before, after, cut⟩
    · rw [find?_of_not_mem member] at found
      cases found
  · intro split
    obtain ⟨before, after, cut⟩ := split
    exact cut.find?

theorem find?_eq_none_iff (name : String) (items : Aggregations) :
    items.find? name = none ↔ name ∉ items.names := by
  constructor
  · intro missing member
    obtain ⟨before, item, after, cut⟩ := cutAtLast_of_mem member
    rw [cut.find?] at missing
    cases missing
  · exact find?_of_not_mem

section

variable {β : Type} {edit : Aggregations → Except PathError β × Aggregations} {name : String}
  {items before after : Aggregations}

theorem editAt_of_not_mem (absent : name ∉ items.names) (path : List String) :
    items.editAt edit (name :: path) = (.error (.missing name), items) := by
  rw [editAt, editNamed, editLast?_of_not_mem absent]

/-- One step of the walk: the container of the aggregation is there afterwards, and is edited. -/
theorem CutAtLast.editAt_bucket {own : String} {content : Bucket}
    {children : Option (List Aggregation)}
    (cut : CutAtLast name items before (.bucket own content children) after)
    (path : List String) :
    items.editAt edit (name :: path) =
      ((editAt edit path (children.getD [])).1,
        before ++ .bucket own content (some (editAt edit path (children.getD [])).2) :: after) := by
  rw [editAt, editNamed, cut.editLast?]
  rfl

theorem CutAtLast.editAt_metric {own : String} {content : Metric}
    (cut : CutAtLast name items before (.metric own content) after) (path : List String) :
    items.editAt edit (name :: path) =
      (.error (.refused (.notNestable own content.kind)),
        before ++ .metric own content :: after) := by
  rw [editAt, editNamed, cut.editLast?]
  rfl

end

/-! ### The entry of a name -/

theorem RenderedAs.cut {items before after : Aggregations} {item : Aggregation} {name : String}
    {fragments : Entries Json} (rendered : items.RenderedAs fragments)
    (cut : CutAtLast name items before item after) :
    ∃ first fragment rest, before.RenderedAs first ∧ item.toJson = .ok fragment ∧
      after.RenderedAs rest ∧ name ∉ Entries.keys rest ∧
      fragments = first ++ (name, fragment) :: rest := by
  rw [cut.whole] at rendered
  obtain ⟨first, second, firstRendered, secondRendered, same⟩ :=
    (renderedAs_append_iff before (item :: after) fragments).mp rendered
  obtain ⟨fragment, rest, isFragment, restRendered, sameSecond⟩ :=
    (renderedAs_cons_iff item after second).mp secondRendered
  refine ⟨first, fragment, rest, firstRendered, isFragment, restRendered, ?_, ?_⟩
  · rw [restRendered.keys]
    exact cut.last
  · rw [same, sameSecond, cut.named]

/-- The fragment of the last aggregation of a name is laid over those before it. -/
theorem CutAtLast.find?_entries {items before after : Aggregations} {item : Aggregation}
    {name : String} (cut : CutAtLast name items before item after) {entries : Entries Json}
    (rendered : items.toEntries = .ok entries) :
    (Entries.find? name entries).map Except.ok = some item.toJson := by
  obtain ⟨fragments, each, same⟩ := (items.toEntries_ok_iff entries).mp rendered
  obtain ⟨first, fragment, rest, _, isFragment, _, absent, sameFragments⟩ := each.cut cut
  have found : Entries.find? name entries = some fragment := by
    rw [same, sameFragments, Entries.overlay_append, Entries.overlay_cons,
      Entries.find?_overlay_absent _ absent, Entries.find?_insert_same]
  rw [found, isFragment]
  rfl

/-- The entries answer for each name as a lookup in the list does. -/
structure ShowsLookups (items : Aggregations) (entries : Entries Json) : Prop where
  keys : Entries.keys entries = items.names.eraseDups
  distinct : (Entries.keys entries).Nodup
  value : ∀ name,
    (Entries.find? name entries).map Except.ok = (items.find? name).map Aggregation.toJson
  absent : ∀ name, name ∉ Entries.keys entries ↔ items.find? name = none

theorem showsLookups_of_toEntries {items : Aggregations} {entries : Entries Json}
    (rendered : items.toEntries = .ok entries) : items.ShowsLookups entries where
  keys := keys_of_toEntries rendered
  distinct := by
    obtain ⟨fragments, _, same⟩ := (items.toEntries_ok_iff entries).mp rendered
    rw [same]
    exact Entries.nodup_keys_overlay fragments List.nodup_nil
  value name := by
    by_cases member : name ∈ items.names
    · obtain ⟨before, item, after, cut⟩ := cutAtLast_of_mem member
      rw [cut.find?_entries rendered, cut.find?]
      rfl
    · have absent : name ∉ Entries.keys entries := by
        rw [keys_of_toEntries rendered, List.mem_eraseDups]
        exact member
      rw [find?_of_not_mem member, (Entries.find?_eq_none_iff name entries).mpr absent]
      rfl
  absent name := by
    rw [find?_eq_none_iff, keys_of_toEntries rendered, List.mem_eraseDups]

theorem toEntries_succeeds_iff (items : Aggregations) :
    (∃ entries, items.toEntries = .ok entries) ↔
      ∀ item ∈ items, ∃ fragment, item.toJson = .ok fragment := by
  rw [items.toEntries_reports.ok_iff, faults, List.flatMap_eq_nil_iff]
  constructor
  · intro clean item member
    exact item.toJson_reports.ok_iff.mpr (clean item member)
  · intro each item member
    exact item.toJson_reports.ok_iff.mp (each item member)

theorem failure?_toEntries (items : Aggregations) :
    failure? items.toEntries = items.findSome? fun item => failure? item.toJson := by
  have first : ∀ item : Aggregation, failure? item.toJson = item.faults.head? :=
    fun item => item.toJson_reports.failure?_eq
  rw [items.toEntries_reports.failure?_eq, faults, List.head?_flatMap]
  simp only [first]

/--
A list is rendered exactly when each of its items is, and fails with the first error among them
otherwise. The keys are the names in first-seen order, and under each stands the fragment of the
aggregation that a lookup finds. Lookups and edits reach the last aggregation of a name.
-/
theorem rendering_agrees_with_lookup (items : Aggregations) :
    ((∃ entries, items.toEntries = .ok entries) ↔
        ∀ item ∈ items, ∃ fragment, item.toJson = .ok fragment) ∧
      failure? items.toEntries = (items.findSome? fun item => failure? item.toJson) ∧
      (∀ entries, items.toEntries = .ok entries → items.ShowsLookups entries) ∧
      (∀ name item, items.find? name = some item ↔
        ∃ before after, CutAtLast name items before item after) ∧
      ∀ name (β : Type) (edit : Aggregation → β × Aggregation) result changed,
        items.editLast? name edit = some (result, changed) ↔
          ∃ before item after, CutAtLast name items before item after ∧
            (edit item).1 = result ∧ changed = before ++ (edit item).2 :: after := by
  refine ⟨items.toEntries_succeeds_iff, items.failure?_toEntries, ?_, ?_, ?_⟩
  · intro entries rendered
    exact showsLookups_of_toEntries rendered
  · intro name item
    exact find?_eq_some_iff name items item
  · intro name β edit result changed
    exact editLast?_eq_some_iff

end SearchRequest.Aggregations
