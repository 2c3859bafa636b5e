/-
Two lists of aggregations joined to one. Every aggregation of both lists is kept, also
where names repeat, but in a request the entries of the second list are laid over those
of the first: a name that both lists have keeps its first place and shows the second
list's aggregation, and the other names of the second list come last, in its order.

The entries of the second list have lost its repetitions by then, while the joined list
still has them. That this makes no difference is what `Entries.overlay_overlay` says.
-/

import SearchRequest.Proofs.AggregationLookup
import SearchRequest.Proofs.FaultPreservation

namespace SearchRequest.Aggregations

theorem RenderedAs.merge {items others : Aggregations} {first second : Entries Json}
    (rendered : items.RenderedAs first) (othersRendered : others.RenderedAs second) :
    (items.merge others).RenderedAs (first ++ second) :=
  (renderedAs_append_iff items others _).mpr ⟨first, second, rendered, othersRendered, rfl⟩

theorem toEntries_merge {items others : Aggregations} {lower upper : Entries Json}
    (rendered : items.toEntries = .ok lower) (othersRendered : others.toEntries = .ok upper) :
    (items.merge others).toEntries = .ok (Entries.overlay lower upper) := by
  obtain ⟨first, firstRendered, isLower⟩ := (items.toEntries_ok_iff lower).mp rendered
  obtain ⟨second, secondRendered, isUpper⟩ := (others.toEntries_ok_iff upper).mp othersRendered
  have distinct := (showsLookups_of_toEntries rendered).distinct
  apply ((items.merge others).toEntries_ok_iff _).mpr
  refine ⟨first ++ second, firstRendered.merge secondRendered, ?_⟩
  calc
    Entries.overlay lower upper
        = Entries.overlay lower (Entries.overlay [] second) := by rw [isUpper]
    _ = Entries.overlay lower second := Entries.overlay_overlay distinct second
    _ = Entries.overlay [] (first ++ second) := by rw [isLower, Entries.overlay_append]

theorem failure?_merge (items others : Aggregations) :
    failure? (items.merge others).toEntries =
      (failure? items.toEntries).or (failure? others.toEntries) := by
  rw [(items.merge others).toEntries_reports.failure?_eq, items.toEntries_reports.failure?_eq,
    others.toEntries_reports.failure?_eq, faults_merge, List.head?_append]

theorem find?_merge (name : String) (items others : Aggregations) :
    (items.merge others).find? name = (others.find? name).or (items.find? name) := by
  induction items with
  | nil => exact Option.or_none.symm
  | cons item rest ih =>
      change find? name (item :: merge rest others) = _
      rw [find?, ih, find?]
      cases others.find? name with
      | some later => rfl
      | none => rfl

/--
The entries of a joined list are those of its first part with those of the second laid over them,
whatever names repeat within the parts or across them. It is rendered when both parts are, and
fails as the first part does, or else as the second one does. A lookup prefers the second part.
-/
theorem merge_overlays_entries (items others : Aggregations) :
    (∀ lower upper, items.toEntries = .ok lower → others.toEntries = .ok upper →
      (items.merge others).toEntries = .ok (Entries.overlay lower upper) ∧
        Entries.keys (Entries.overlay lower upper) =
          Entries.keys lower ++
            (Entries.keys upper).filter (fun name => name ∉ Entries.keys lower) ∧
        ∀ name, Entries.find? name (Entries.overlay lower upper) =
          (Entries.find? name upper).or (Entries.find? name lower)) ∧
      failure? (items.merge others).toEntries =
        (failure? items.toEntries).or (failure? others.toEntries) ∧
      ∀ name, (items.merge others).find? name =
        (others.find? name).or (items.find? name) := by
  refine ⟨?_, items.failure?_merge others, fun name => find?_merge name items others⟩
  intro lower upper rendered othersRendered
  have lowerDistinct := (showsLookups_of_toEntries rendered).distinct
  have upperDistinct := (showsLookups_of_toEntries othersRendered).distinct
  refine ⟨toEntries_merge rendered othersRendered, ?_, ?_⟩
  · exact Entries.keys_overlay_of_nodup lowerDistinct upperDistinct
  · intro name
    exact Entries.find?_overlay name lower upperDistinct

/-- A name of both lists shows the last aggregation of all at the place of the first one. -/
example :
    (merge [.metric "stat" (.avg "load" none), .metric "jobs" (.valueCount "job")]
        [.metric "peak" (.max "heap"), .metric "stat" (.max "load"),
          .metric "stat" (.sum "load" none)]).toEntries =
      .ok [
        ("stat", .single "sum" (.object [("field", .string "load")])),
        ("jobs", .single "value_count" (.object [("field", .string "job")])),
        ("peak", .single "max" (.object [("field", .string "heap")]))] :=
  rfl

end SearchRequest.Aggregations
