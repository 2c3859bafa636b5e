/-
Aggregations rendered in steps. An aggregation becomes a fragment: its own body under
its kind, and then the entries of the nested ones, if there are any. A list is
rendered item by item first, and the fragments are then laid over one another under
their names.

A missing container is rendered as an empty one is, so the two are not told apart.
-/

import SearchRequest.Proofs.AggregationTree
import SearchRequest.Proofs.Overlay

namespace SearchRequest

section

variable {ε α β : Type} {outcome : Except ε α} {value : β}

theorem bind_eq_ok_iff {next : α → Except ε β} :
    outcome.bind next = .ok value ↔ ∃ first, outcome = .ok first ∧ next first = .ok value := by
  cases outcome with
  | error found => simp [Except.bind]
  | ok first => simp [Except.bind]

theorem map_eq_ok_iff {transform : α → β} :
    outcome.map transform = .ok value ↔ ∃ first, outcome = .ok first ∧ value = transform first := by
  cases outcome with
  | error found => simp [Except.map]
  | ok first => simp [Except.map, eq_comm]

end

namespace Aggregations

/-- The entries hold the name and the fragment of each aggregation, in the order of the list. -/
def RenderedAs (items : Aggregations) (fragments : Entries Json) : Prop :=
  (items.map fun item => (item.name, item.toJson)) =
    fragments.map fun entry => (entry.1, .ok entry.2)

theorem RenderedAs.keys {items : Aggregations} {fragments : Entries Json}
    (rendered : items.RenderedAs fragments) : Entries.keys fragments = items.names := by
  have sameNames := congrArg (List.map Prod.fst) rendered
  rw [List.map_map, List.map_map] at sameNames
  exact sameNames.symm

theorem renderedAs_cons_iff (item : Aggregation) (items : Aggregations)
    (fragments : Entries Json) :
    RenderedAs (item :: items) fragments ↔
      ∃ fragment rest, item.toJson = .ok fragment ∧ RenderedAs items rest ∧
        fragments = (item.name, fragment) :: rest := by
  constructor
  · intro rendered
    cases fragments with
    | nil => cases rendered
    | cons entry rest =>
        obtain ⟨name, fragment⟩ := entry
        obtain ⟨sameEntry, sameRest⟩ := List.cons.inj rendered
        obtain ⟨sameName, isFragment⟩ := Prod.mk.inj sameEntry
        subst sameName
        exact ⟨fragment, rest, isFragment, sameRest, rfl⟩
  · intro parts
    obtain ⟨fragment, rest, isFragment, restRendered, same⟩ := parts
    subst same
    change (item.name, item.toJson) :: _ = (item.name, Except.ok fragment) :: _
    rw [isFragment, show items.map _ = rest.map _ from restRendered]

theorem renderedAs_append_iff (before after : Aggregations) (fragments : Entries Json) :
    RenderedAs (before ++ after) fragments ↔
      ∃ first second, RenderedAs before first ∧ RenderedAs after second ∧
        fragments = first ++ second := by
  unfold RenderedAs
  rw [List.map_append, List.append_eq_map_iff]
  constructor
  · intro parts
    obtain ⟨first, second, same, sameFirst, sameSecond⟩ := parts
    exact ⟨first, second, sameFirst.symm, sameSecond.symm, same⟩
  · intro parts
    obtain ⟨first, second, firstRendered, secondRendered, same⟩ := parts
    exact ⟨first, second, same, firstRendered.symm, secondRendered.symm⟩

end Aggregations

namespace Aggregation

theorem listToEntries_cons (written : Entries Json) (item : Aggregation)
    (items : List Aggregation) :
    listToEntries written (item :: items) =
      item.toJson.bind fun fragment =>
        listToEntries (Entries.insert item.name fragment written) items := by
  rw [listToEntries]
  cases item.toJson <;> rfl

theorem listToEntries_append (written : Entries Json) (first second : List Aggregation) :
    listToEntries written (first ++ second) =
      (listToEntries written first).bind fun entries => listToEntries entries second := by
  induction first generalizing written with
  | nil => rfl
  | cons item rest ih =>
      rw [List.cons_append, listToEntries_cons, listToEntries_cons]
      cases item.toJson with
      | error found => rfl
      | ok fragment => exact ih _

theorem listToEntries_ok_iff (items : Aggregations) (written entries : Entries Json) :
    listToEntries written items = .ok entries ↔
      ∃ fragments, items.RenderedAs fragments ∧ entries = Entries.overlay written fragments := by
  induction items generalizing written with
  | nil =>
      constructor
      · intro rendered
        cases rendered
        exact ⟨[], rfl, rfl⟩
      · intro parts
        obtain ⟨fragments, none, same⟩ := parts
        cases fragments with
        | nil => exact congrArg Except.ok same.symm
        | cons entry rest => cases none
  | cons item items ih =>
      rw [listToEntries_cons, bind_eq_ok_iff]
      constructor
      · intro parts
        obtain ⟨fragment, isFragment, restWritten⟩ := parts
        obtain ⟨rest, restRendered, same⟩ := (ih _).mp restWritten
        refine ⟨(item.name, fragment) :: rest, ?_, same⟩
        exact (Aggregations.renderedAs_cons_iff item items _).mpr
          ⟨fragment, rest, isFragment, restRendered, rfl⟩
      · intro parts
        obtain ⟨fragments, rendered, same⟩ := parts
        obtain ⟨fragment, rest, isFragment, restRendered, sameFragments⟩ :=
          (Aggregations.renderedAs_cons_iff item items fragments).mp rendered
        subst sameFragments
        exact ⟨fragment, isFragment, (ih _).mpr ⟨rest, restRendered, same⟩⟩

end Aggregation

theorem Aggregations.toEntries_ok_iff (items : Aggregations) (entries : Entries Json) :
    items.toEntries = .ok entries ↔
      ∃ fragments, items.RenderedAs fragments ∧ entries = Entries.overlay [] fragments :=
  Aggregation.listToEntries_ok_iff items [] entries

/-- Each name is a key once, where it first stands in the list. -/
theorem Aggregations.keys_of_toEntries {items : Aggregations} {entries : Entries Json}
    (rendered : items.toEntries = .ok entries) :
    Entries.keys entries = items.names.eraseDups := by
  obtain ⟨fragments, each, same⟩ := (items.toEntries_ok_iff entries).mp rendered
  have laid : Entries.keys (Entries.overlay [] fragments) =
      ([] ++ Entries.keys fragments).eraseDups :=
    Entries.keys_overlay fragments rfl
  rw [same, laid, each.keys, List.nil_append]

theorem Aggregations.isEmpty_of_toEntries {items : Aggregations} {entries : Entries Json}
    (rendered : items.toEntries = .ok entries) : entries.isEmpty = items.isEmpty := by
  have sameKeys := keys_of_toEntries rendered
  cases items with
  | nil =>
      cases rendered
      rfl
  | cons item items =>
      cases entries with
      | nil =>
          rw [names, List.map_cons, List.eraseDups_cons] at sameKeys
          cases sameKeys
      | cons entry rest => rfl

namespace Aggregation

/-- The nested entries come last, and they are left out if there are none. -/
def fragment (kind : AggregationKind) (body : Json) (nested : Entries Json) : Json :=
  .object ((kind.key, body) :: if nested.isEmpty then [] else [("aggs", .object nested)])

theorem toJson_metric (name : String) (content : Metric) :
    toJson (.metric name content) = .ok (fragment content.kind content.body []) :=
  rfl

theorem toJson_bucket (name : String) (content : Bucket) (children : Option (List Aggregation)) :
    toJson (.bucket name content children) =
      content.body.bind fun body =>
        (Aggregations.toEntries (children.getD [])).map (fragment content.kind body) := by
  match children with
  | none | some [] =>
      rw [toJson]
      cases content.body <;> rfl
  | some (child :: children) =>
      rw [toJson]
      cases content.body with
      | error found => rfl
      | ok body =>
          change (Aggregations.toEntries (child :: children)).map _ =
            (Aggregations.toEntries (child :: children)).map _
          cases rendered : Aggregations.toEntries (child :: children) with
          | error found => rfl
          | ok nested =>
              have filled := Aggregations.isEmpty_of_toEntries rendered
              simp only [Except.map, fragment, filled, List.isEmpty_cons, Bool.false_eq_true,
                if_false]

theorem toJson_bucket_ok_iff (name : String) (content : Bucket)
    (children : Option (List Aggregation)) (document : Json) :
    toJson (.bucket name content children) = .ok document ↔
      ∃ body nested, content.body = .ok body ∧
        Aggregations.toEntries (children.getD []) = .ok nested ∧
        document = fragment content.kind body nested := by
  rw [toJson_bucket, bind_eq_ok_iff]
  constructor
  · intro parts
    obtain ⟨body, isBody, rest⟩ := parts
    obtain ⟨nested, nestedRendered, same⟩ := map_eq_ok_iff.mp rest
    exact ⟨body, nested, isBody, nestedRendered, same⟩
  · intro parts
    obtain ⟨body, nested, isBody, nestedRendered, same⟩ := parts
    exact ⟨body, isBody, map_eq_ok_iff.mpr ⟨nested, nestedRendered, same⟩⟩

end Aggregation

end SearchRequest
