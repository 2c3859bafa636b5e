/-
What the rendered entries of a tree of aggregations tell about the tree: all of it, up
to containers that are empty and to the queries of filters, of which only the fragments
are told. This holds where no name comes twice in one list, since the fragment of an
earlier aggregation would be written over, and where all intervals are finite.

A kind is never taken for the key of the nested entries, and the kinds that hold
nested aggregations differ from those that do not. So the keys of a fragment say which
aggregation it is from.
-/

import SearchRequest.Proofs.AggregationBodies
import SearchRequest.Proofs.AggregationFragments

namespace SearchRequest

/-- The same aggregation at every depth, where a missing container counts as an empty one. -/
inductive Aggregation.Alike : Aggregation → Aggregation → Prop
  | metric (name : String) (content : Metric) :
      Alike (.metric name content) (.metric name content)
  | bucket (name : String) {content other : Bucket} {children others : Option (List Aggregation)} :
      content.Alike other → List.Forall₂ Alike (children.getD []) (others.getD []) →
        Alike (.bucket name content children) (.bucket name other others)

namespace Aggregations

/-- The list stands in the tree: it is the whole, or nested in an aggregation at some depth. -/
inductive Level : Aggregations → Aggregations → Prop
  | here (items : Aggregations) : Level items items
  | deeper {items level : Aggregations} {item : Aggregation} :
      item ∈ items → Level (item.children?.getD []) level → Level items level

end Aggregations

def Aggregation.HasFiniteIntervals : Aggregation → Prop
  | .metric _ _ => True
  | .bucket _ content _ => content.HasFiniteIntervals

/-- Nothing is lost in writing: no name comes twice at a level, and all intervals are finite. -/
structure Aggregations.Writable (items : Aggregations) : Prop where
  distinct : ∀ level, items.Level level → level.names.Nodup
  finite : ∀ level, items.Level level → ∀ item ∈ level, item.HasFiniteIntervals

theorem Aggregations.writable_of_items {items : Aggregations} (distinct : items.names.Nodup)
    (each : ∀ item ∈ items,
      item.HasFiniteIntervals ∧ Aggregations.Writable (item.children?.getD [])) :
    items.Writable where
  distinct level inside := by
    cases inside with
    | here => exact distinct
    | deeper member nested => exact (each _ member).2.distinct level nested
  finite level inside := by
    cases inside with
    | here => exact fun item member => (each item member).1
    | deeper member nested => exact (each _ member).2.finite level nested

theorem Aggregations.Writable.children {items : Aggregations} (writable : items.Writable)
    {item : Aggregation} (member : item ∈ items) :
    Aggregations.Writable (item.children?.getD []) where
  distinct level inside := writable.distinct level (.deeper member inside)
  finite level inside := writable.finite level (.deeper member inside)

namespace Aggregations

/-- With distinct names nothing is written over: the entries are the names with the fragments. -/
theorem renderedAs_of_toEntries {items : Aggregations} (distinct : items.names.Nodup)
    {entries : Entries Json} (rendered : items.toEntries = .ok entries) :
    items.RenderedAs entries := by
  obtain ⟨fragments, each, same⟩ := (items.toEntries_ok_iff entries).mp rendered
  have fresh : (Entries.keys ([] ++ fragments)).Nodup := by
    rw [List.nil_append, each.keys]
    exact distinct
  rw [same, Entries.overlay_of_nodup fresh]
  exact each

theorem RenderedAs.toJson {items : Aggregations} {fragments : Entries Json}
    (rendered : items.RenderedAs fragments) {item : Aggregation} (member : item ∈ items) :
    ∃ fragment, item.toJson = .ok fragment := by
  have imageMember : (item.name, item.toJson) ∈ items.map fun item => (item.name, item.toJson) :=
    List.mem_map_of_mem member
  rw [show items.map _ = fragments.map _ from rendered] at imageMember
  obtain ⟨entry, _, sameEntry⟩ := List.mem_map.mp imageMember
  exact ⟨entry.2, (Prod.mk.inj sameEntry).2.symm⟩

/-- Two lists with one result correspond item by item, in name and in fragment. -/
theorem forall₂_of_toEntries_eq {left right : Aggregations} {entries : Entries Json}
    (leftDistinct : left.names.Nodup) (rightDistinct : right.names.Nodup)
    (leftRendered : left.toEntries = .ok entries) (rightRendered : right.toEntries = .ok entries)
    {relation : Aggregation → Aggregation → Prop}
    (transfer : ∀ item ∈ left, ∀ other ∈ right, ∀ document, item.name = other.name →
      item.toJson = .ok document → other.toJson = .ok document → relation item other) :
    List.Forall₂ relation left right := by
  have leftEach := renderedAs_of_toEntries leftDistinct leftRendered
  have rightEach := renderedAs_of_toEntries rightDistinct rightRendered
  apply forall₂_of_map_eq_map (leftEach.trans rightEach.symm)
  intro item member other otherMember same
  obtain ⟨sameName, sameOutcome⟩ := Prod.mk.inj same
  obtain ⟨document, isDocument⟩ := leftEach.toJson member
  exact transfer item member other otherMember document sameName isDocument
    (sameOutcome ▸ isDocument)

end Aggregations

namespace Aggregation

theorem fragment_injective {kind other : AggregationKind} {body otherBody : Json}
    {nested others : Entries Json}
    (same : fragment kind body nested = fragment other otherBody others) :
    kind = other ∧ body = otherBody ∧ nested = others := by
  obtain ⟨sameEntry, sameRest⟩ := List.cons.inj (Json.object.inj same)
  obtain ⟨sameKey, sameBody⟩ := Prod.mk.inj sameEntry
  refine ⟨AggregationKind.key_injective sameKey, sameBody, ?_⟩
  cases nested with
  | nil =>
      cases others with
      | nil => rfl
      | cons entry rest => cases sameRest
  | cons entry rest =>
      cases others with
      | nil => cases sameRest
      | cons otherEntry otherRest =>
          exact Json.object.inj (Prod.mk.inj (List.cons.inj sameRest).1).2

theorem kind_metric_ne_kind_bucket (content : Metric) (other : Bucket) :
    content.kind ≠ other.kind := by
  cases content <;> cases other <;> exact nofun

/-- By induction on the left tree; the kinds leave one constructor only for the right one. -/
theorem alike_of_toJson_eq {left right : Aggregation} {document : Json}
    (sameName : left.name = right.name)
    (leftWritable : Aggregations.Writable (left.children?.getD []))
    (rightWritable : Aggregations.Writable (right.children?.getD []))
    (leftFinite : left.HasFiniteIntervals) (rightFinite : right.HasFiniteIntervals)
    (leftRendered : left.toJson = .ok document) (rightRendered : right.toJson = .ok document) :
    left.Alike right := by
  induction left generalizing right document with
  | metric name content =>
      rw [toJson_metric] at leftRendered
      cases leftRendered
      cases right with
      | metric otherName other =>
          rw [toJson_metric] at rightRendered
          obtain ⟨sameKind, sameBody, _⟩ := fragment_injective (Except.ok.inj rightRendered)
          have sameContent := Metric.body_injective sameKind sameBody
          cases sameName
          cases sameContent
          exact .metric _ _
      | bucket otherName other others =>
          obtain ⟨body, nested, _, _, same⟩ :=
            (toJson_bucket_ok_iff otherName other others _).mp rightRendered
          exact absurd (fragment_injective same).1 (kind_metric_ne_kind_bucket content other)
  | bucket name content children ih =>
      obtain ⟨body, nested, isBody, nestedRendered, isFragment⟩ :=
        (toJson_bucket_ok_iff name content children document).mp leftRendered
      cases right with
      | metric otherName other =>
          rw [toJson_metric, isFragment] at rightRendered
          have same := fragment_injective (Except.ok.inj rightRendered)
          exact absurd same.1 (kind_metric_ne_kind_bucket other content)
      | bucket otherName other others =>
          obtain ⟨otherBody, otherNested, isOtherBody, othersRendered, isOther⟩ :=
            (toJson_bucket_ok_iff otherName other others document).mp rightRendered
          obtain ⟨sameKind, sameBody, sameNested⟩ :=
            fragment_injective (isFragment.symm.trans isOther)
          cases sameName
          subst sameBody
          subst sameNested
          apply Alike.bucket
          · exact Bucket.alike_of_body_eq sameKind leftFinite rightFinite
              (isBody.trans isOtherBody.symm)
          · apply Aggregations.forall₂_of_toEntries_eq
              (leftWritable.distinct _ (.here _)) (rightWritable.distinct _ (.here _))
              nestedRendered othersRendered
            intro item member otherItem otherMember fragment itemName itemRendered otherRendered
            exact ih item member itemName (leftWritable.children member)
              (rightWritable.children otherMember)
              (leftWritable.finite _ (.here _) item member)
              (rightWritable.finite _ (.here _) otherItem otherMember)
              itemRendered otherRendered

theorem Alike.name {left right : Aggregation} (alike : left.Alike right) :
    left.name = right.name := by
  cases alike with
  | metric name content => rfl
  | bucket name content children => rfl

theorem listToEntries_congr {left right : List Aggregation}
    (same : List.Forall₂ (fun item other => item.name = other.name ∧ item.toJson = other.toJson)
      left right) (written : Entries Json) :
    listToEntries written left = listToEntries written right := by
  induction same generalizing written with
  | nil => rfl
  | cons head tail ih =>
      obtain ⟨sameName, sameOutcome⟩ := head
      rw [listToEntries_cons, listToEntries_cons, sameName, sameOutcome]
      congr
      funext fragment
      exact ih _

theorem Alike.toJson {left right : Aggregation} (alike : left.Alike right) :
    left.toJson = right.toJson := by
  induction left generalizing right with
  | metric name content =>
      cases alike
      rfl
  | bucket name content children ih =>
      cases alike with
      | @bucket _ _ other _ others sameContent nested =>
          have each := (List.forall₂_and_left _ _).mpr ⟨ih, nested⟩
          have sameEntries := listToEntries_congr
            (each.imp fun item other both => ⟨both.2.name, both.1 both.2⟩) []
          rw [toJson_bucket, toJson_bucket, sameContent.kind, sameContent.body]
          unfold Aggregations.toEntries
          rw [sameEntries]

end Aggregation

/-! ### Trees and their entries -/

namespace Aggregations

/--
Of two trees that can be written without loss, the rendered entries are the same exactly when the
trees are: item by item the same name, kind and parameters, and alike below.
-/
theorem entries_eq_iff_alike {left right : Aggregations} {leftEntries rightEntries : Entries Json}
    (leftWritable : left.Writable) (rightWritable : right.Writable)
    (leftRendered : left.toEntries = .ok leftEntries)
    (rightRendered : right.toEntries = .ok rightEntries) :
    leftEntries = rightEntries ↔ List.Forall₂ Aggregation.Alike left right := by
  constructor
  · intro same
    subst same
    apply forall₂_of_toEntries_eq (leftWritable.distinct _ (.here _))
      (rightWritable.distinct _ (.here _)) leftRendered rightRendered
    intro item member other otherMember document sameName itemRendered otherRendered
    exact Aggregation.alike_of_toJson_eq sameName (leftWritable.children member)
      (rightWritable.children otherMember) (leftWritable.finite _ (.here _) item member)
      (rightWritable.finite _ (.here _) other otherMember) itemRendered otherRendered
  · intro alike
    have sameEntries := Aggregation.listToEntries_congr
      (alike.imp fun item other both => ⟨both.name, both.toJson⟩) []
    exact Except.ok.inj (leftRendered.symm.trans (sameEntries.trans rightRendered))

/-- A filter two levels down, with a container or without one. -/
def weeklyReport (query : Query) (container : Option (List Aggregation)) : Aggregations :=
  [.bucket "weeks"
    (.composite
      { sources := [⟨"week", .histogram "day" (Binary64.ofInt 7)⟩]
        sourcesNotEmpty := List.cons_ne_nil _ _ })
    (some [.bucket "kept" (.filter query) container, .metric "cost" (.sum "cost" (some .null))])]

theorem writable_weeklyReport (query : Query) {container : Option (List Aggregation)}
    (blank : container.getD [] = []) : (weeklyReport query container).Writable := by
  have nothing : Writable [] :=
    writable_of_items List.nodup_nil fun _ impossible => nomatch impossible
  refine writable_of_items ?_ ?_
  · change ["weeks"].Nodup
    decide
  · intro weeks member
    cases List.mem_singleton.mp member
    refine ⟨?_, writable_of_items ?_ ?_⟩
    · intro source sourceMember
      cases List.mem_singleton.mp sourceMember
      change (Binary64.ofInt 7).isFinite = true
      decide
    · change ["kept", "cost"].Nodup
      decide
    · intro item itemMember
      rcases List.mem_cons.mp itemMember with kept | cost
      · subst kept
        refine ⟨True.intro, ?_⟩
        rw [← blank] at nothing
        exact nothing
      · cases List.mem_singleton.mp cost
        exact ⟨True.intro, nothing⟩

/-- Neither the empty container nor the clause that an empty query stands for shows. -/
theorem weeklyReport_entries_eq :
    ∃ entries, (weeklyReport .empty none).toEntries = .ok entries ∧
      (weeklyReport (.single .matchAll) (some [])).toEntries = .ok entries ∧
      List.Forall₂ Aggregation.Alike (weeklyReport .empty none)
        (weeklyReport (.single .matchAll) (some [])) := by
  refine ⟨_, rfl, rfl, ?_⟩
  exact (entries_eq_iff_alike (writable_weeklyReport .empty rfl)
    (writable_weeklyReport (.single .matchAll) rfl) rfl rfl).mp rfl

end Aggregations

end SearchRequest
