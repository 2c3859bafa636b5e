/-
The grammar of rendered aggregations, and that every tree which calls can build keeps
to it. A fragment has the kind of the aggregation as its first key. It may have a second
one, for the nested entries, only if the kind is one of the five that nest and there is
something to show; those entries keep to the grammar again.

Of the bodies it says what the constructors have checked: one source of terms and not
two, at least one source of composite buckets, and a fragment of the query of a filter.
-/

import SearchRequest.Proofs.AggregationRun
import SearchRequest.Proofs.ClauseGrammar

namespace SearchRequest

/-- The kinds that can hold nested aggregations. The other seven cannot. -/
def AggregationKind.nesting : List AggregationKind :=
  [.terms, .topHits, .filter, .composite, .dateHistogram]

inductive Bucket.Describes : Bucket → Json → Prop
  | terms {content : TermsBuckets} {entries : Entries Json} :
      ((Entries.keys entries).countP fun key => key = "field" ∨ key = "script") = 1 →
        Describes (.terms content) (.object entries)
  | topHits (size : UInt64) (entries : Entries Json) : Describes (.topHits size) (.object entries)
  | filter {query : Query} {body : Json} :
      query.clause.Conforms Leaf.Reassigned body → Describes (.filter query) body
  | composite {content : Composite} {entries : Entries Json} {sources : List Json} :
      Entries.find? "sources" entries = some (.array sources) → sources ≠ [] →
        (∀ source ∈ sources, ∃ name origin, source = .single name origin) →
          Describes (.composite content) (.object entries)
  | dateHistogram (field calendarInterval : String) (format : Option String)
      (entries : Entries Json) :
      Describes (.dateHistogram field calendarInterval format) (.object entries)

namespace Aggregation

/-- The body of a bucket has the shape of its kind, that of a metric is any object. -/
def Describes : Aggregation → Json → Prop
  | .metric _ _, body => ∃ entries, body = .object entries
  | .bucket _ content _, body => content.Describes body

inductive Conforms : Aggregation → Json → Prop
  | bare {aggregation : Aggregation} {body : Json} :
      aggregation.Describes body → Conforms aggregation (.single aggregation.kind.key body)
  | around {aggregation : Aggregation} {body : Json} {nested : Entries Json} :
      aggregation.Describes body → aggregation.kind ∈ AggregationKind.nesting → nested ≠ [] →
        Entries.keys nested = (Aggregations.names (aggregation.children?.getD [])).eraseDups →
          (∀ entry ∈ nested, ∀ item,
            Aggregations.find? entry.1 (aggregation.children?.getD []) = some item →
              Conforms item entry.2) →
            Conforms aggregation
              (.object [(aggregation.kind.key, body), ("aggs", .object nested)])

/-- Only the kinds that nest give access to nested aggregations; the others refuse and stay. -/
structure NestsByKind (aggregation : Aggregation) : Prop where
  refused_iff : ∀ error, aggregation.reachChildren.1 = .error error ↔
    aggregation.kind ∉ AggregationKind.nesting ∧
      error = .notNestable aggregation.name aggregation.kind
  unchanged : ∀ error, aggregation.reachChildren.1 = .error error →
    aggregation.reachChildren.2 = aggregation
  /-- A block on the nested aggregations is not run then. -/
  notRun : ∀ (β : Type) (edit : Aggregations → Except RequestError β × Aggregations),
    aggregation.kind ∉ AggregationKind.nesting →
      aggregation.editChildren id edit =
        (.error (.notNestable aggregation.name aggregation.kind), aggregation)

end Aggregation

/-- There is one entry for each name, with a fragment of the last aggregation of the name. -/
structure Aggregations.ConformTo (items : Aggregations) (entries : Entries Json) : Prop where
  keys : Entries.keys entries = items.names.eraseDups
  each : ∀ entry ∈ entries,
    ∃ item, items.find? entry.1 = some item ∧ item.Conforms entry.2

/-- The option settings of terms are under keys of their own. -/
theorem TermsBuckets.not_source_key (content : TermsBuckets) :
    ∀ key ∈ Entries.keys (Entries.optional "size" (content.size.map Json.ofUInt64) ++
        Entries.optional "order" content.orderJson?),
      ¬ (key = "field" ∨ key = "script") := by
  intro key member
  obtain ⟨entry, listed, same⟩ := List.mem_map.mp member
  subst same
  rcases List.mem_append.mp listed with isSize | isOrder
  · rw [((Entries.mem_optional_iff entry _ _).mp isSize).1]
    decide
  · rw [((Entries.mem_optional_iff entry _ _).mp isOrder).1]
    decide

theorem TermsBuckets.describes_body (content : TermsBuckets) :
    (Bucket.terms content).Describes content.body := by
  have noneLater : (Entries.keys (Entries.optional "size" (content.size.map Json.ofUInt64) ++
      Entries.optional "order" content.orderJson?)).countP
        (fun key => key = "field" ∨ key = "script") = 0 := by
    apply List.countP_eq_zero.mpr
    intro key member isSource
    exact content.not_source_key key member (of_decide_eq_true isSource)
  have sourceFirst : content.source.entry.1 = "field" ∨ content.source.entry.1 = "script" := by
    cases content.source with
    | field name => exact .inl rfl
    | script content => exact .inr rfl
  apply Bucket.Describes.terms
  change List.countP _ (content.source.entry.1 :: Entries.keys _) = 1
  rw [List.countP_cons_of_pos (p := fun key => key = "field" ∨ key = "script")
    (decide_eq_true sourceFirst), noneLater]

theorem Composite.describes_body (content : Composite) :
    (Bucket.composite content).Describes content.body := by
  apply Bucket.Describes.composite rfl
  · intro blank
    exact content.sourcesNotEmpty (List.map_eq_nil_iff.mp blank)
  · intro source member
    obtain ⟨origin, _, same⟩ := List.mem_map.mp member
    exact ⟨origin.name, _, same.symm⟩

theorem Bucket.describes_of_body {content : Bucket} (built : content.Built) {body : Json}
    (rendered : content.body = .ok body) : content.Describes body := by
  cases content with
  | terms content =>
      cases rendered
      exact content.describes_body
  | topHits size =>
      cases rendered
      exact .topHits size _
  | filter query =>
      exact .filter (Clause.conforms_but_reassigned (built query rfl).wellFormed rendered)
  | composite content =>
      cases rendered
      exact content.describes_body
  | dateHistogram field calendarInterval format =>
      cases rendered
      exact .dateHistogram field calendarInterval format _

theorem Metric.body_object (content : Metric) : ∃ entries, content.body = .object entries := by
  cases content <;> exact ⟨_, rfl⟩

theorem Metric.kind_not_mem_nesting (content : Metric) :
    content.kind ∉ AggregationKind.nesting := by
  cases content <;> simp [kind, AggregationKind.nesting]

theorem Bucket.kind_mem_nesting (content : Bucket) : content.kind ∈ AggregationKind.nesting := by
  cases content <;> simp [kind, AggregationKind.nesting]

theorem Aggregation.nestsByKind (aggregation : Aggregation) : aggregation.NestsByKind := by
  cases aggregation with
  | metric name content =>
      have outside := content.kind_not_mem_nesting
      refine ⟨?_, fun _ _ => rfl, fun _ _ _ => rfl⟩
      intro error
      constructor
      · intro refused
        cases refused
        exact ⟨outside, rfl⟩
      · intro both
        rw [both.2]
        rfl
  | bucket name content children =>
      have inside := content.kind_mem_nesting
      refine ⟨?_, ?_, ?_⟩
      · intro error
        constructor
        · intro impossible
          cases impossible
        · intro both
          exact absurd inside both.1
      · intro error impossible
        cases impossible
      · intro _ _ outside
        exact absurd inside outside

/-! ### Trees -/

/-- What an entry shows is the fragment of the last aggregation of its name. -/
theorem Aggregations.find?_of_mem_entries {items : Aggregations} {entries : Entries Json}
    (rendered : items.toEntries = .ok entries) {entry : String × Json} (member : entry ∈ entries) :
    ∃ item, items.find? entry.1 = some item ∧ item.toJson = .ok entry.2 ∧ item ∈ items := by
  have shows := showsLookups_of_toEntries rendered
  have value := shows.value entry.1
  rw [Entries.find?_of_mem shows.distinct member] at value
  obtain ⟨item, found, isFragment⟩ := Option.map_eq_some_iff.mp value.symm
  obtain ⟨before, after, cut⟩ := (find?_eq_some_iff entry.1 items item).mp found
  refine ⟨item, found, isFragment, ?_⟩
  rw [cut.whole]
  exact List.mem_append_right before List.mem_cons_self

theorem Aggregation.conforms_of_toJson {aggregation : Aggregation} (built : aggregation.Built)
    {document : Json} (rendered : aggregation.toJson = .ok document) :
    aggregation.Conforms document := by
  induction aggregation generalizing document with
  | metric name content =>
      cases rendered
      exact .bare content.body_object
  | bucket name content children ih =>
      obtain ⟨body, nested, isBody, nestedRendered, isFragment⟩ :=
        (toJson_bucket_ok_iff name content children document).mp rendered
      have describes : (Aggregation.bucket name content children).Describes body :=
        Bucket.describes_of_body built.content isBody
      subst isFragment
      cases nested with
      | nil => exact .bare describes
      | cons entry rest =>
          refine .around describes content.kind_mem_nesting (List.cons_ne_nil entry rest)
            (Aggregations.keys_of_toEntries nestedRendered) ?_
          intro shown member item found
          obtain ⟨last, foundLast, isShown, itemMember⟩ :=
            Aggregations.find?_of_mem_entries nestedRendered member
          have same : last = item := Option.some.inj (foundLast.symm.trans found)
          subst same
          exact ih last itemMember (built.children.item last itemMember) isShown

theorem Aggregations.conformTo_of_toEntries {items : Aggregations} (built : Built items)
    {entries : Entries Json} (rendered : items.toEntries = .ok entries) :
    items.ConformTo entries where
  keys := keys_of_toEntries rendered
  each entry member := by
    obtain ⟨item, found, isFragment, itemMember⟩ := find?_of_mem_entries rendered member
    exact ⟨item, found, Aggregation.conforms_of_toJson (built.item item itemMember) isFragment⟩

namespace AggregationRun

/--
Whatever calls have built, it is rendered by the grammar. The kind of an aggregation alone says
whether it gives access to nested ones, and a constructor whose block fails adds nothing.
-/
theorem entries_conform_to_grammar {run : List AggregationCall}
    (operands : ∀ call ∈ run, call.operation.OperandsBuilt) :
    (∀ entries, (execute [] run).toEntries = .ok entries →
        (execute [] run).ConformTo entries) ∧
      (∀ aggregation : Aggregation, aggregation.NestsByKind) ∧
      (∀ items name block error,
        ((Aggregations.addFilter items name block).1 = .error error ↔
            (block .empty).1 = .error error) ∧
          ((items.addFilter name block).1 = .error error →
            (items.addFilter name block).2 = items)) ∧
      ∀ items name block error,
        ((Aggregations.addComposite items name block).1 = .error error ↔
            (block []).1 = .error error ∨
              block [] = (.ok (), []) ∧ error = .invalidArgument (.noCompositeSource name)) ∧
          ((items.addComposite name block).1 = .error error →
            (items.addComposite name block).2 = items) := by
  refine ⟨?_, Aggregation.nestsByKind, ?_, ?_⟩
  · intro entries rendered
    exact Aggregations.conformTo_of_toEntries (built_execute .empty operands) rendered
  · intro items name block error
    exact ⟨items.addFilter_failed_iff name block error, Aggregations.pushBuilt_unchanged⟩
  · intro items name block error
    exact ⟨items.addComposite_failed_iff name block error, Aggregations.pushBuilt_unchanged⟩

/-- Four calls are refused: two without a source, and two that ask a metric to nest. -/
def nightlyRun : List AggregationCall :=
  [⟨[], .push (.metric "cost" (.avg "cost" none))⟩,
    ⟨[], .addFilter "failed" [.push (.leaf (.exists "error")), .negate] (.ok ())⟩,
    ⟨[], .addComposite "pairs" [] (.ok ())⟩,
    ⟨["failed"], .addComposite "pairs" [] (.ok ())⟩,
    ⟨[], .nest "cost"⟩,
    ⟨["cost"], .push (.metric "low" (.max "cost"))⟩,
    ⟨["failed"], .addComposite "pairs" [⟨"queue", .terms "queue" none⟩] (.ok ())⟩,
    ⟨["failed"], .configure "pairs" (.size 5)⟩,
    ⟨["failed", "pairs"], .merge [.bucket "jobs" (.terms { source := .field "job" }) none]⟩,
    ⟨[], .push (.metric "cost" (.sum "cost" (some .null)))⟩]

theorem nightlyRun_entries_conform :
    (execute [] nightlyRun).ConformTo [
      ("cost", .single "sum" (.object [("field", .string "cost"), ("missing", .null)])),
      ("failed", .object [
        ("filter", .single "bool" (.single "must_not" (.array [
          .single "exists" (.single "field" (.string "error"))]))),
        ("aggs", .single "pairs" (.object [
          ("composite", .object [
            ("sources", .array [
              .single "queue" (.single "terms" (.single "field" (.string "queue")))]),
            ("size", .ofUInt64 5)]),
          ("aggs", .single "jobs" (.single "terms" (.single "field" (.string "job"))))]))])] := by
  have operands : ∀ call ∈ nightlyRun, call.operation.OperandsBuilt := by
    simp only [nightlyRun, AggregationOperation.OperandsBuilt, QueryOperation.OperandsBuilt,
      List.forall_mem_cons, List.not_mem_nil, false_implies, implies_true, true_and, and_true]
    have jobs : Bucket.Built (.terms { source := .field "job" }) := by
      intro query impossible
      cases impossible
    exact ⟨.metric _ _, .leaf _, .metric _ _, .push .empty (.bucket _ jobs), .metric _ _⟩
  exact (entries_conform_to_grammar operands).1 _ rfl

end AggregationRun

end SearchRequest
