/-
The body of an aggregation tells its parameters. Within one kind every parameter has a
key of its own, one that is not set has no entry, and one that is set to null has an
entry with null.

Two things are not in a body. Of the query of a filter it holds the fragment, and an
interval that is not finite is written as null, so the laws below ask for finite ones.
-/

import SearchRequest.Aggregation.Bucket
import SearchRequest.Aggregation.Metric
import SearchRequest.Proofs.LeafFragments

namespace SearchRequest

theorem Json.ofUInt64_injective {left right : UInt64} (same : ofUInt64 left = ofUInt64 right) :
    left = right := by
  have values := Number.integer.inj (Json.number.inj same)
  exact UInt64.toNat_inj.mp (Int.ofNat.inj values)

theorem Mapping.eq_of_written_eq {α β : Type} {write : α → β}
    (injective : ∀ {left right}, write left = write right → left = right)
    {left right : Mapping α}
    (same : (left.entries.map fun entry => (entry.1, write entry.2)) =
      right.entries.map fun entry => (entry.1, write entry.2)) : left = right := by
  apply Mapping.eq_of_entries
  apply (List.map_inj_right ?_).mp same
  intro entry other equal
  obtain ⟨sameKey, sameValue⟩ := Prod.mk.inj equal
  exact Prod.ext sameKey (injective sameValue)

theorem SortOrder.toJson_injective {left right : SortOrder} (same : left.toJson = right.toJson) :
    left = right := by
  have sameKey : left.key = right.key := Json.string.inj same
  revert sameKey
  cases left <;> cases right <;> decide

theorem GapPolicy.key_injective {left right : GapPolicy} (same : left.key = right.key) :
    left = right := by
  revert same
  cases left <;> cases right <;> decide

theorem AggregationKind.key_injective {left right : AggregationKind}
    (same : left.key = right.key) : left = right := by
  revert same
  cases left <;> cases right <;> decide

theorem Script.toJson_injective {left right : Script} (same : left.toJson = right.toJson) :
    left = right := by
  obtain ⟨sameSource, sameRest⟩ := List.cons.inj (Json.object.inj same)
  obtain ⟨sameLanguage, sameOptional⟩ := List.cons.inj sameRest
  have source := Json.string.inj (Prod.mk.inj sameSource).2
  have language := Json.string.inj (Prod.mk.inj sameLanguage).2
  have params := Entries.optional_map_injective Json.object.inj sameOptional
  cases left
  cases right
  cases source
  cases language
  cases params
  rfl

theorem ScriptedMetric.body_injective {left right : ScriptedMetric}
    (same : left.body = right.body) : left = right := by
  obtain ⟨sameOptional, sameStages⟩ := List.append_inj' (Json.object.inj same) rfl
  obtain ⟨sameMap, sameRest⟩ := List.cons.inj sameStages
  obtain ⟨sameCombine, sameLast⟩ := List.cons.inj sameRest
  have init := Entries.optional_map_injective Script.toJson_injective sameOptional
  have map := Script.toJson_injective (Prod.mk.inj sameMap).2
  have combine := Script.toJson_injective (Prod.mk.inj sameCombine).2
  have reduce := Script.toJson_injective (Prod.mk.inj (List.cons.inj sameLast).1).2
  cases left
  cases right
  cases init
  cases map
  cases combine
  cases reduce
  rfl

theorem BucketSelector.body_injective {left right : BucketSelector}
    (same : left.body = right.body) : left = right := by
  obtain ⟨samePaths, sameRest⟩ := List.cons.inj (Json.object.inj same)
  obtain ⟨sameScript, sameOptional⟩ := List.cons.inj sameRest
  have paths : left.bucketsPath = right.bucketsPath :=
    Mapping.eq_of_written_eq Json.string.inj (Json.object.inj (Prod.mk.inj samePaths).2)
  have script := Script.toJson_injective (Prod.mk.inj sameScript).2
  have policy := Entries.optional_map_injective
    (fun keys => GapPolicy.key_injective (Json.string.inj keys)) sameOptional
  cases left
  cases right
  cases paths
  cases script
  cases policy
  rfl

namespace Metric

theorem fieldBody_injective {left right : String} {leftMissing rightMissing : Option Json}
    (same : fieldBody left leftMissing = fieldBody right rightMissing) :
    left = right ∧ leftMissing = rightMissing := by
  obtain ⟨sameField, sameOptional⟩ := List.cons.inj (Json.object.inj same)
  exact ⟨Json.string.inj (Prod.mk.inj sameField).2, Entries.optional_injective sameOptional⟩

theorem body_injective {left right : Metric} (sameKind : left.kind = right.kind)
    (same : left.body = right.body) : left = right := by
  cases left with
  | avg field missing =>
      cases right with
      | avg other otherMissing =>
          obtain ⟨sameField, sameMissing⟩ := fieldBody_injective same
          rw [sameField, sameMissing]
      | _ => cases sameKind
  | sum field missing =>
      cases right with
      | sum other otherMissing =>
          obtain ⟨sameField, sameMissing⟩ := fieldBody_injective same
          rw [sameField, sameMissing]
      | _ => cases sameKind
  | max field =>
      cases right with
      | max other => rw [(fieldBody_injective same).1]
      | _ => cases sameKind
  | valueCount field =>
      cases right with
      | valueCount other => rw [(fieldBody_injective same).1]
      | _ => cases sameKind
  | cardinality field =>
      cases right with
      | cardinality other => rw [(fieldBody_injective same).1]
      | _ => cases sameKind
  | scriptedMetric content =>
      cases right with
      | scriptedMetric other => rw [ScriptedMetric.body_injective same]
      | _ => cases sameKind
  | bucketSelector content =>
      cases right with
      | bucketSelector other => rw [BucketSelector.body_injective same]
      | _ => cases sameKind

end Metric

/-- A date histogram has the same parameters as a bucket and as a source of composite buckets. -/
theorem Json.dateHistogram_injective {field other calendarInterval otherInterval : String}
    {format otherFormat : Option String}
    (same : Json.object ([("field", .string field),
          ("calendar_interval", .string calendarInterval)] ++
        Entries.optional "format" (format.map Json.string)) =
      .object ([("field", .string other), ("calendar_interval", .string otherInterval)] ++
        Entries.optional "format" (otherFormat.map Json.string))) :
    field = other ∧ calendarInterval = otherInterval ∧ format = otherFormat := by
  obtain ⟨sameField, sameRest⟩ := List.cons.inj (Json.object.inj same)
  obtain ⟨sameInterval, sameOptional⟩ := List.cons.inj sameRest
  exact ⟨Json.string.inj (Prod.mk.inj sameField).2, Json.string.inj (Prod.mk.inj sameInterval).2,
    Entries.optional_map_injective Json.string.inj sameOptional⟩

namespace SourceOrigin

def HasFiniteInterval : SourceOrigin → Prop
  | .histogram _ interval => interval.isFinite = true
  | _ => True

theorem body_injective {left right : SourceOrigin} (sameKey : left.key = right.key)
    (leftFinite : left.HasFiniteInterval) (rightFinite : right.HasFiniteInterval)
    (same : left.body = right.body) : left = right := by
  cases left with
  | terms field order =>
      cases right with
      | terms other otherOrder =>
          obtain ⟨sameField, sameOptional⟩ := List.cons.inj (Json.object.inj same)
          rw [Json.string.inj (Prod.mk.inj sameField).2,
            Entries.optional_map_injective SortOrder.toJson_injective sameOptional]
      | _ => exact absurd sameKey (by simp [key])
  | histogram field interval =>
      cases right with
      | histogram other otherInterval =>
          obtain ⟨sameField, sameRest⟩ := List.cons.inj (Json.object.inj same)
          have sameInterval := (Prod.mk.inj (List.cons.inj sameRest).1).2
          rw [Json.ofBinary64_finite leftFinite, Json.ofBinary64_finite rightFinite]
            at sameInterval
          rw [Json.string.inj (Prod.mk.inj sameField).2,
            Json.Number.float.inj (Json.number.inj sameInterval)]
      | _ => exact absurd sameKey (by simp [key])
  | dateHistogram field calendarInterval format =>
      cases right with
      | dateHistogram other otherInterval otherFormat =>
          obtain ⟨sameField, sameInterval, sameFormat⟩ := Json.dateHistogram_injective same
          rw [sameField, sameInterval, sameFormat]
      | _ => exact absurd sameKey (by simp [key])

end SourceOrigin

theorem CompositeSource.toJson_injective {left right : CompositeSource}
    (leftFinite : left.origin.HasFiniteInterval) (rightFinite : right.origin.HasFiniteInterval)
    (same : left.toJson = right.toJson) : left = right := by
  obtain ⟨sameName, sameInner⟩ := Json.single_inj same
  obtain ⟨sameKey, sameBody⟩ := Json.single_inj sameInner
  have sameOrigin := SourceOrigin.body_injective sameKey leftFinite rightFinite sameBody
  cases left
  cases right
  cases sameName
  cases sameOrigin
  rfl

theorem Composite.body_injective {left right : Composite}
    (leftFinite : ∀ source ∈ left.sources, source.origin.HasFiniteInterval)
    (rightFinite : ∀ source ∈ right.sources, source.origin.HasFiniteInterval)
    (same : left.body = right.body) : left = right := by
  obtain ⟨sameArray, sameOptional⟩ := List.cons.inj (Json.object.inj same)
  have sameImages := Json.array.inj (Prod.mk.inj sameArray).2
  have paired : List.Forall₂ (fun source other => source = other) left.sources right.sources :=
    forall₂_of_map_eq_map sameImages fun source member other otherMember =>
      CompositeSource.toJson_injective (leftFinite source member) (rightFinite other otherMember)
  have sources : left.sources = right.sources := by
    rwa [List.forall₂_eq_eq_eq] at paired
  have size := Entries.optional_map_injective Json.ofUInt64_injective sameOptional
  cases left
  cases right
  cases sources
  cases size
  rfl

/-! ### Buckets -/

namespace TermsBuckets

theorem orderJson?_injective {left right : TermsBuckets}
    (same : left.orderJson? = right.orderJson?) : left.order = right.order := by
  unfold orderJson? at same
  split at same
  · next leftEmpty =>
      split at same
      · next rightEmpty =>
          apply Mapping.eq_of_entries
          rw [List.isEmpty_iff.mp leftEmpty, List.isEmpty_iff.mp rightEmpty]
      · cases same
  · split at same
    · cases same
    · exact Mapping.eq_of_written_eq SortOrder.toJson_injective
        (Json.object.inj (Option.some.inj same))

theorem source_eq_of_entry_eq {left right : TermsSource} (same : left.entry = right.entry) :
    left = right := by
  obtain ⟨sameKey, sameValue⟩ := Prod.mk.inj same
  cases left with
  | field name =>
      cases right with
      | field other => rw [Json.string.inj sameValue]
      | script content => cases sameValue
  | script content =>
      cases right with
      | field name => cases sameValue
      | script other => rw [Script.toJson_injective sameValue]

theorem body_injective {left right : TermsBuckets} (same : left.body = right.body) :
    left = right := by
  obtain ⟨sameEntry, sameOptional⟩ := List.cons.inj (Json.object.inj same)
  have source := source_eq_of_entry_eq sameEntry
  obtain ⟨sameSize, sameOrder⟩ := Entries.optional_append_injective (by decide) sameOptional
  have size := (Option.map_inj_right fun _ _ => Json.ofUInt64_injective).mp sameSize
  have order := orderJson?_injective sameOrder
  cases left
  cases right
  cases source
  cases size
  cases order
  rfl

end TermsBuckets

namespace Bucket

def HasFiniteIntervals : Bucket → Prop
  | .composite content => ∀ source ∈ content.sources, source.origin.HasFiniteInterval
  | _ => True

/-- The same parameters, where two filters are compared by the outcomes of their queries. -/
inductive Alike : Bucket → Bucket → Prop
  | same (content : Bucket) : Alike content content
  | filter {query other : Query} :
      query.toJson = other.toJson → Alike (.filter query) (.filter other)

theorem alike_of_body_eq {left right : Bucket} (sameKind : left.kind = right.kind)
    (leftFinite : left.HasFiniteIntervals) (rightFinite : right.HasFiniteIntervals)
    (sameBody : left.body = right.body) : left.Alike right := by
  cases left with
  | terms content =>
      cases right with
      | terms other =>
          rw [TermsBuckets.body_injective (Except.ok.inj sameBody)]
          exact .same _
      | _ => cases sameKind
  | topHits size =>
      cases right with
      | topHits other =>
          have sameSize := (Json.single_inj (Except.ok.inj sameBody)).2
          rw [Json.ofUInt64_injective sameSize]
          exact .same _
      | _ => cases sameKind
  | filter query =>
      cases right with
      | filter other => exact .filter sameBody
      | _ => cases sameKind
  | composite content =>
      cases right with
      | composite other =>
          rw [Composite.body_injective leftFinite rightFinite (Except.ok.inj sameBody)]
          exact .same _
      | _ => cases sameKind
  | dateHistogram field calendarInterval format =>
      cases right with
      | dateHistogram other otherInterval otherFormat =>
          obtain ⟨sameField, sameInterval, sameFormat⟩ :=
            Json.dateHistogram_injective (Except.ok.inj sameBody)
          rw [sameField, sameInterval, sameFormat]
          exact .same _
      | _ => cases sameKind

theorem Alike.kind {left right : Bucket} (alike : left.Alike right) : left.kind = right.kind := by
  cases alike with
  | same content => rfl
  | filter sameOutcome => rfl

theorem Alike.body {left right : Bucket} (alike : left.Alike right) : left.body = right.body := by
  cases alike with
  | same content => rfl
  | filter sameOutcome => exact sameOutcome

end Bucket

end SearchRequest
