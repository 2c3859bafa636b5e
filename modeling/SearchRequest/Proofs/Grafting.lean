/-
An edit deep in a tree of aggregations, seen in the rendered entries. Pushing an
aggregation at the end of a path changes one place: the fragment of each name on the
path is kept but for its nested entries, and the new entry stands in the innermost
ones. Everything beside the path keeps its value and its position.

An aggregation that is found by a name is the last of that name, so it is the one
whose fragment shows. A container that did not exist, or was empty, shows as none.
-/

import SearchRequest.Proofs.AggregationLookup

namespace SearchRequest

namespace Json

/-- What stands under `aggs` in a fragment. -/
def nested : Json → Entries Json
  | .object entries =>
      match Entries.find? "aggs" entries with
      | some (.object inner) => inner
      | _ => []
  | _ => []

/-- A fragment without `aggs` gets it as its last key. -/
def withNested (inner : Entries Json) : Json → Json
  | .object entries => .object (Entries.insert "aggs" (.object inner) entries)
  | document => document

end Json

/--
Descends by the names of a path, each time into the nested entries of the fragment that stands
under the name, and inserts an entry in the innermost ones.
-/
def Entries.graft (key : String) (value : Json) : List String → Entries Json → Entries Json
  | [], entries => insert key value entries
  | name :: path, entries =>
      match find? name entries with
      | none => entries
      | some fragment =>
          insert name (fragment.withNested (graft key value path fragment.nested)) entries

theorem Entries.graft_of_find? {name : String} {entries : Entries Json} {fragment : Json}
    (found : find? name entries = some fragment) (key : String) (value : Json)
    (path : List String) :
    graft key value (name :: path) entries =
      insert name (fragment.withNested (graft key value path fragment.nested)) entries := by
  rw [graft, found]

theorem AggregationKind.key_ne_aggs (kind : AggregationKind) : kind.key ≠ "aggs" := by
  cases kind <;> decide

namespace Aggregation

theorem nested_fragment (kind : AggregationKind) (body : Json) (inner : Entries Json) :
    (fragment kind body inner).nested = inner := by
  cases inner with
  | nil => simp [fragment, Json.nested, Entries.find?, kind.key_ne_aggs]
  | cons entry rest => simp [fragment, Json.nested, Entries.find?, kind.key_ne_aggs]

theorem withNested_fragment (kind : AggregationKind) (body : Json) (inner : Entries Json)
    {more : Entries Json} (filled : more ≠ []) :
    (fragment kind body inner).withNested more = fragment kind body more := by
  have shown : more.isEmpty = false := List.isEmpty_eq_false_iff.mpr filled
  cases inner with
  | nil => simp [fragment, Json.withNested, Entries.insert, kind.key_ne_aggs, shown]
  | cons entry rest => simp [fragment, Json.withNested, Entries.insert, kind.key_ne_aggs, shown]

end Aggregation

/-! ### Pushing at the end of a path -/

namespace Aggregations

/-- Each name of the path finds an aggregation that can hold nested ones. -/
inductive Reaches : Aggregations → List String → Prop
  | here (items : Aggregations) : Reaches items []
  | into {items : Aggregations} {name : String} {path : List String} {item : Aggregation} :
      items.find? name = some item → item.isNestable = true →
        Reaches (item.children?.getD []) path → Reaches items (name :: path)

def pushAt (added : Aggregation) (path : List String) (items : Aggregations) :
    Except PathError Unit × Aggregations :=
  editAt (fun inner => (.ok (), inner.push added)) path items

theorem toEntries_push {items : Aggregations} {added : Aggregation} {fragment : Json}
    {entries : Entries Json} (isFragment : added.toJson = .ok fragment)
    (rendered : items.toEntries = .ok entries) :
    (items.push added).toEntries = .ok (Entries.insert added.name fragment entries) := by
  obtain ⟨fragments, each, same⟩ := (items.toEntries_ok_iff entries).mp rendered
  have last : RenderedAs [added] [(added.name, fragment)] :=
    (renderedAs_cons_iff added [] _).mpr ⟨fragment, [], isFragment, rfl, rfl⟩
  apply (toEntries_ok_iff _ _).mpr
  refine ⟨fragments ++ [(added.name, fragment)], ?_, ?_⟩
  · exact (renderedAs_append_iff items [added] _).mpr ⟨fragments, _, each, last, rfl⟩
  · rw [Entries.overlay_append, ← same]
    rfl

/-- What replaces the last aggregation of a name replaces the fragment under the name. -/
theorem CutAtLast.toEntries_replace {items before after : Aggregations}
    {item changed : Aggregation} {name : String} (cut : CutAtLast name items before item after)
    {entries : Entries Json} {fragment : Json} (rendered : items.toEntries = .ok entries)
    (sameName : changed.name = name) (isFragment : changed.toJson = .ok fragment) :
    toEntries (before ++ changed :: after) = .ok (Entries.insert name fragment entries) := by
  obtain ⟨fragments, each, same⟩ := (items.toEntries_ok_iff entries).mp rendered
  obtain ⟨first, old, rest, firstRendered, _, restRendered, absent, sameFragments⟩ := each.cut cut
  apply (toEntries_ok_iff _ _).mpr
  refine ⟨first ++ (name, fragment) :: rest, ?_, ?_⟩
  · have fromChanged : RenderedAs (changed :: after) ((name, fragment) :: rest) :=
      (renderedAs_cons_iff changed after _).mpr
        ⟨fragment, rest, isFragment, restRendered, by rw [sameName]⟩
    exact (renderedAs_append_iff before (changed :: after) _).mpr
      ⟨first, _, firstRendered, fromChanged, rfl⟩
  · have present : name ∈ Entries.keys (Entries.insert name old (Entries.overlay [] first)) :=
      (Entries.mem_keys_insert name name old _).mpr (Or.inl rfl)
    rw [same, sameFragments]
    simp only [Entries.overlay_append, Entries.overlay_cons]
    rw [← Entries.overlay_insert present absent, Entries.insert_insert_same]

theorem CutAtLast.pushAt {items before after : Aggregations} {name own : String}
    {content : Bucket} {children : Option (List Aggregation)}
    (cut : CutAtLast name items before (.bucket own content children) after)
    (added : Aggregation) (path : List String) :
    Aggregations.pushAt added (name :: path) items =
      ((Aggregations.pushAt added path (children.getD [])).1,
        before ++
          .bucket own content (some (Aggregations.pushAt added path (children.getD [])).2) ::
            after) :=
  cut.editAt_bucket path

theorem pushAt_ne_nil {items : Aggregations} {path : List String} (reaches : items.Reaches path)
    (added : Aggregation) : (pushAt added path items).2 ≠ [] := by
  cases reaches with
  | here items => exact List.append_ne_nil_of_right_ne_nil items (List.cons_ne_nil added [])
  | @into _ name path item found nestable deeper =>
      obtain ⟨before, after, cut⟩ := (find?_eq_some_iff name items item).mp found
      cases item with
      | metric own content => cases nestable
      | bucket own content children =>
          rw [cut.pushAt added path]
          exact List.append_ne_nil_of_right_ne_nil before (List.cons_ne_nil _ after)

/-- An edit is only made where the path can be gone to its end. -/
theorem reaches_of_editAt {β : Type} {edit : Aggregations → Except PathError β × Aggregations}
    {items : Aggregations} {path : List String} {result : β}
    (succeeds : (items.editAt edit path).1 = .ok result) : items.Reaches path := by
  induction path generalizing items with
  | nil => exact .here items
  | cons name path ih =>
      by_cases member : name ∈ items.names
      · obtain ⟨before, item, after, cut⟩ := cutAtLast_of_mem member
        cases item with
        | metric own content =>
            rw [cut.editAt_metric path] at succeeds
            cases succeeds
        | bucket own content children =>
            rw [cut.editAt_bucket path] at succeeds
            exact .into cut.find? rfl (ih succeeds)
      · rw [editAt_of_not_mem member path] at succeeds
        cases succeeds

theorem reaches_of_pushAt {items : Aggregations} {path : List String} {added : Aggregation}
    (succeeds : (pushAt added path items).1 = .ok ()) : items.Reaches path :=
  reaches_of_editAt succeeds

theorem Reaches.pushAt {items : Aggregations} {path : List String} {added : Aggregation}
    {fragment : Json} {entries : Entries Json} (reaches : items.Reaches path)
    (isFragment : added.toJson = .ok fragment) (rendered : items.toEntries = .ok entries) :
    (Aggregations.pushAt added path items).1 = .ok () ∧
      (Aggregations.pushAt added path items).2.toEntries =
        .ok (Entries.graft added.name fragment path entries) := by
  induction reaches generalizing entries with
  | here items => exact ⟨rfl, toEntries_push isFragment rendered⟩
  | @into items name path item found nestable deeper ih =>
      obtain ⟨before, after, cut⟩ := (find?_eq_some_iff name items item).mp found
      cases item with
      | metric own content => cases nestable
      | bucket own content children =>
          obtain ⟨shown, isShown, itemShown⟩ :=
            Option.map_eq_some_iff.mp (cut.find?_entries rendered)
          obtain ⟨body, nested, isBody, nestedRendered, sameShown⟩ :=
            (Aggregation.toJson_bucket_ok_iff own content children shown).mp itemShown.symm
          obtain ⟨succeeds, changedRendered⟩ := ih nestedRendered
          have filled : Entries.graft added.name fragment path nested ≠ [] := by
            intro blank
            have empty := isEmpty_of_toEntries changedRendered
            rw [blank] at empty
            exact pushAt_ne_nil deeper added (List.isEmpty_iff.mp empty.symm)
          have changedShown :=
            (Aggregation.toJson_bucket_ok_iff own content
              (some (Aggregations.pushAt added path (children.getD [])).2) _).mpr
              ⟨body, _, isBody, changedRendered, rfl⟩
          have sameName : Aggregation.name (.bucket own content
              (some (Aggregations.pushAt added path (children.getD [])).2)) = name := cut.named
          rw [cut.pushAt added path]
          refine ⟨succeeds, ?_⟩
          rw [cut.toEntries_replace rendered sameName changedShown,
            Entries.graft_of_find? isShown, sameShown, Aggregation.nested_fragment,
            Aggregation.withNested_fragment _ _ _ filled]

/--
The push is made exactly when every step of the path finds an aggregation that can hold nested
ones. The tree is then rendered as before but for the new fragment, which is grafted into the
entries at the same path.
-/
theorem toEntries_pushAt {items : Aggregations} {added : Aggregation} {fragment : Json}
    {entries : Entries Json} (isFragment : added.toJson = .ok fragment)
    (rendered : items.toEntries = .ok entries) (path : List String) :
    ((pushAt added path items).1 = .ok () ↔ items.Reaches path) ∧
      (items.Reaches path →
        (pushAt added path items).2.toEntries =
          .ok (Entries.graft added.name fragment path entries)) := by
  refine ⟨⟨reaches_of_pushAt, ?_⟩, ?_⟩
  · intro reaches
    exact (reaches.pushAt isFragment rendered).1
  · intro reaches
    exact (reaches.pushAt isFragment rendered).2

/-- Two aggregations share a name. The second one shows, and the first in it has no container. -/
def jobReport : Aggregations :=
  [.bucket "jobs" (.terms { source := .field "old" }) (some [.metric "oldest" (.max "age")]),
    .metric "runs" (.valueCount "id"),
    .bucket "jobs" (.filter .empty)
      (some [.bucket "recent" (.topHits 3) none, .metric "cost" (.sum "cost" (some .null))])]

theorem toEntries_pushAt_jobReport :
    (∃ entries, jobReport.toEntries = .ok entries ∧ Entries.keys entries = ["jobs", "runs"]) ∧
      jobReport.Reaches ["jobs", "recent"] ∧
      (pushAt (.metric "runtime" (.max "duration")) ["jobs", "recent"] jobReport).2.toEntries =
        .ok [
          ("jobs", .object [
            ("filter", .single "match_all" (.object [])),
            ("aggs", .object [
              ("recent", .object [
                ("top_hits", .single "size" (.ofUInt64 3)),
                ("aggs", .single "runtime"
                  (.single "max" (.single "field" (.string "duration"))))]),
              ("cost", .single "sum" (.object [("field", .string "cost"), ("missing", .null)]))])]),
          ("runs", .single "value_count" (.single "field" (.string "id")))] := by
  have reaches : jobReport.Reaches ["jobs", "recent"] := .into rfl rfl (.into rfl rfl (.here []))
  exact ⟨⟨_, rfl, rfl⟩, reaches, (toEntries_pushAt rfl rfl ["jobs", "recent"]).2 reaches⟩

end Aggregations

end SearchRequest
