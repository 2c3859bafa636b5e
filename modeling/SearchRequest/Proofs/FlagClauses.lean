/-
From the flags of a command to the query and the aggregations of its request. Each filter
flag is read as one leaf, and the leaves go under the filter role of one bool query, which
is made only if there is a flag. So a call on the query has no way to fail, and no flag is
lost: what can go wrong is the reading of a flag.
-/

import SearchRequest.Proofs.BodyDocument
import SearchRequest.Proofs.FlagReading

namespace SearchRequest.CommandLine

inductive FilterFlag where
  | term (raw : String)
  | range (raw : String)
  | exists (field : String)
  | queryString (text : String)

namespace FilterFlag

/-- The fragment that a flag asks for. -/
inductive AsksFor : FilterFlag → Json → Prop
  | term {raw field text : String} :
      PairKind.term.Reads raw field text →
        AsksFor (.term raw) (.single "term" (.single field (.single "value" (scalar text))))
  | range {raw field : String} {bounds : RangeBounds} :
      RangeReads raw field bounds →
        AsksFor (.range raw) (.single "range" (.single field (.object bounds.entries)))
  | exists (field : String) :
      AsksFor (.exists field) (.single "exists" (.single "field" (.string field)))
  | queryString (text : String) :
      AsksFor (.queryString text) (.single "query_string" (.single "query" (.string text)))

def leaf : FilterFlag → Except Failure Leaf
  | .term raw => (splitPair .term raw).map fun (field, text) => .term field (scalar text)
  | .range raw =>
      (parseRange raw).bind fun (field, bounds) =>
        ((RangeClause.build field bounds).mapError .request).map .range
  | .exists field => .ok (.exists field)
  | .queryString text => .ok (.queryString text none)

def push (query : Query) (flag : FilterFlag) : Except Failure Query :=
  flag.leaf.bind (pushLeaf query)

theorem leaf_neverStructural (flag : FilterFlag) : NeverStructural flag.leaf := by
  cases flag with
  | term raw => exact (splitPair_neverStructural .term raw).map _
  | range raw =>
      apply (parseRange_neverStructural raw).bind
      intro parts
      exact .map (.mapError (fun _ => rfl) (rangeClause_failsPlainly parts.1 parts.2)) _
  | «exists» field => exact .ok _
  | queryString text => exact .ok _

theorem asksFor_of_leaf {flag : FilterFlag} {leaf : Leaf} (read : flag.leaf = .ok leaf) :
    flag.AsksFor leaf.toJson := by
  cases flag with
  | term raw =>
      obtain ⟨⟨field, text⟩, split, same⟩ := map_eq_ok_iff.mp read
      subst same
      exact .term (splitPair_eq_ok_iff.mp split)
  | range raw =>
      obtain ⟨⟨field, bounds⟩, parsed, built⟩ := bind_eq_ok_iff.mp read
      obtain ⟨range, isRange, same⟩ := map_eq_ok_iff.mp built
      obtain ⟨_, sameField, sameBounds⟩ :=
        RangeClause.build_eq_ok_iff.mp (mapError_eq_ok_iff.mp isRange)
      subst same sameField sameBounds
      exact .range (rangeReads_of_parseRange parsed)
  | «exists» field =>
      cases read
      exact .exists field
  | queryString text =>
      cases read
      exact .queryString text

end FilterFlag

/-- The filter flags, in the order in which they are taken. -/
def Arguments.filterFlags (arguments : Arguments) : List FilterFlag :=
  arguments.terms.map .term ++ arguments.ranges.map .range ++
    arguments.existsFields.map .exists ++ arguments.queryString.toList.map .queryString

theorem filterCount_eq_length (arguments : Arguments) :
    filterCount arguments = arguments.filterFlags.length := by
  simp only [filterCount, Arguments.filterFlags, List.length_append, List.length_map]

/-- The slot with a bool query that has the filter role open, and clauses in no other role. -/
def filtering (clauses : List Clause) : Query :=
  .boolean (.ofRole .filter clauses)

theorem pushTerm_eq (query : Query) (raw : String) :
    pushTerm query raw = FilterFlag.push query (.term raw) := by
  change pushTerm query raw =
    ((splitPair .term raw).map fun parts => Leaf.term parts.1 (scalar parts.2)).bind
      (pushLeaf query)
  unfold pushTerm
  cases splitPair .term raw <;> rfl

theorem pushRange_eq (query : Query) (raw : String) :
    pushRange query raw = FilterFlag.push query (.range raw) := by
  change pushRange query raw =
    ((parseRange raw).bind fun parts =>
      ((RangeClause.build parts.1 parts.2).mapError .request).map Leaf.range).bind (pushLeaf query)
  unfold pushRange
  cases parseRange raw with
  | error found => rfl
  | ok parts =>
      change (query.pushRange parts.1 parts.2).mapError .request =
        (((RangeClause.build parts.1 parts.2).mapError .request).map Leaf.range).bind
          (pushLeaf query)
      unfold Query.pushRange
      cases RangeClause.build parts.1 parts.2 <;> rfl

theorem filters_eq_foldlM (arguments : Arguments) :
    filters arguments = arguments.filterFlags.foldlM FilterFlag.push (filtering []) := by
  have asFlags : filters arguments = (do
      let query ← arguments.terms.foldlM
        (fun query raw => FilterFlag.push query (.term raw)) (filtering [])
      let query ← arguments.ranges.foldlM
        (fun query raw => FilterFlag.push query (.range raw)) query
      let query ← arguments.existsFields.foldlM
        (fun query field => FilterFlag.push query (.exists field)) query
      arguments.queryString.toList.foldlM
        (fun query text => FilterFlag.push query (.queryString text)) query) := by
    have terms : pushTerm = fun query raw => FilterFlag.push query (.term raw) :=
      funext fun query => funext fun raw => pushTerm_eq query raw
    have ranges : pushRange = fun query raw => FilterFlag.push query (.range raw) :=
      funext fun query => funext fun raw => pushRange_eq query raw
    unfold filters
    rw [terms, ranges]
    refine (pure_bind (filtering []) _).trans ?_
    refine bind_congr fun query => bind_congr fun query => bind_congr fun query => ?_
    cases arguments.queryString with
    | none => rfl
    | some text => exact (bind_pure (pushLeaf query (.queryString text none))).symm
  rw [asFlags]
  simp only [Arguments.filterFlags, List.foldlM_append, List.foldlM_map, bind_assoc]

theorem push_filtering (clauses : List Clause) (flag : FilterFlag) :
    FilterFlag.push (filtering clauses) flag =
      flag.leaf.map fun leaf => filtering (clauses ++ [.leaf leaf]) := by
  unfold FilterFlag.push
  cases flag.leaf <;> rfl

/-- The calls on the query never fail, so there is a clause for each leaf that is read. -/
theorem foldlM_push_filtering (flags : List FilterFlag) (clauses : List Clause) :
    flags.foldlM FilterFlag.push (filtering clauses) =
      (flags.mapM FilterFlag.leaf).map fun leaves => filtering (clauses ++ leaves.map .leaf) := by
  induction flags generalizing clauses with
  | nil => exact congrArg (fun all => Except.ok (filtering all)) (List.append_nil clauses).symm
  | cons flag flags ih =>
      rw [List.foldlM_cons, List.mapM_cons, push_filtering]
      cases flag.leaf with
      | error found => rfl
      | ok leaf =>
          refine (ih (clauses ++ [.leaf leaf])).trans ?_
          simp only [List.append_assoc]
          cases flags.mapM FilterFlag.leaf <;> rfl

/-- What the query becomes, once all flags are read. -/
def queryFor (negate : Bool) (leaves : List Leaf) : Query :=
  let query := if leaves.isEmpty then .empty else filtering (leaves.map .leaf)
  if negate then query.negate else query

theorem queryOf_eq (arguments : Arguments) :
    queryOf arguments =
      (arguments.filterFlags.mapM FilterFlag.leaf).map (queryFor arguments.negate) := by
  unfold queryOf
  rw [filterCount_eq_length, filters_eq_foldlM, foldlM_push_filtering]
  cases arguments.filterFlags with
  | nil => rfl
  | cons flag flags =>
      have filled : 0 < (flag :: flags).length := Nat.zero_lt_succ flags.length
      simp only [if_pos filled]
      cases read : (flag :: flags).mapM FilterFlag.leaf with
      | error found => rfl
      | ok leaves =>
          cases leaves with
          | nil => cases mapM_eq_ok_iff.mp read
          | cons leaf leaves => rfl

def filterDocument (fragments : List Json) : Json :=
  .single "bool" (.single "filter" (.array fragments))

def queryDocument : Bool → List Json → Json
  | false, [] => .single "match_all" (.object [])
  | true, [] => .single "match_none" (.object [])
  | false, fragments => filterDocument fragments
  | true, fragments => .single "bool" (.single "must_not" (.array [filterDocument fragments]))

theorem listToJson_leaves (leaves : List Leaf) :
    Clause.listToJson (leaves.map .leaf) = .ok (leaves.map Leaf.toJson) := by
  induction leaves with
  | nil => rfl
  | cons leaf leaves ih =>
      rw [List.map_cons, Clause.listToJson, ih]
      rfl

theorem toJson_filtering {leaves : List Leaf} (filled : leaves ≠ []) :
    Clause.toJson (.bool (.ofRole .filter (leaves.map .leaf))) =
      .ok (filterDocument (leaves.map Leaf.toJson)) := by
  cases leaves with
  | nil => exact absurd rfl filled
  | cons leaf leaves =>
      have rendered := listToJson_leaves (leaf :: leaves)
      rw [List.map_cons] at rendered
      change (Clause.groupsToJson [] [(.filter, .leaf leaf :: leaves.map .leaf)]).map _ = _
      rw [Clause.groupsToJson, rendered]
      rfl

theorem toJson_queryFor (negate : Bool) (leaves : List Leaf) :
    (queryFor negate leaves).toJson = .ok (queryDocument negate (leaves.map Leaf.toJson)) := by
  cases leaves with
  | nil => cases negate <;> rfl
  | cons leaf leaves =>
      have rendered := toJson_filtering (List.cons_ne_nil leaf leaves)
      cases negate with
      | false => exact rendered
      | true =>
          change (Clause.groupsToJson [] [(.mustNot,
            [.bool (.ofRole .filter ((leaf :: leaves).map .leaf))])]).map _ = _
          rw [Clause.groupsToJson, Clause.listToJson, rendered]
          rfl

inductive AggregationFlag where
  | terms (raw : String)
  | avg (raw : String)

namespace AggregationFlag

/-- The name and the fragment that a flag asks for. -/
inductive AsksFor : AggregationFlag → String × Json → Prop
  | terms {raw name field : String} :
      PairKind.termsAggregation.Reads raw name field →
        AsksFor (.terms raw) (name, .single "terms" (.single "field" (.string field)))
  | avg {raw name field : String} :
      PairKind.avgAggregation.Reads raw name field →
        AsksFor (.avg raw) (name, .single "avg" (.single "field" (.string field)))

def aggregation : AggregationFlag → Except Failure Aggregation
  | .terms raw => termsAggregation raw
  | .avg raw => avgAggregation raw

theorem aggregation_neverStructural (flag : AggregationFlag) :
    NeverStructural flag.aggregation := by
  cases flag with
  | terms raw => exact (splitPair_neverStructural .termsAggregation raw).bind fun _ => .ok _
  | avg raw => exact (splitPair_neverStructural .avgAggregation raw).bind fun _ => .ok _

theorem asksFor_of_aggregation {flag : AggregationFlag} {item : Aggregation}
    (read : flag.aggregation = .ok item) :
    ∃ fragment, item.toJson = .ok fragment ∧ flag.AsksFor (item.name, fragment) := by
  cases flag with
  | terms raw =>
      obtain ⟨⟨name, field⟩, split, same⟩ := bind_eq_ok_iff.mp read
      cases same
      exact ⟨_, rfl, .terms (splitPair_eq_ok_iff.mp split)⟩
  | avg raw =>
      obtain ⟨⟨name, field⟩, split, same⟩ := bind_eq_ok_iff.mp read
      cases same
      exact ⟨_, rfl, .avg (splitPair_eq_ok_iff.mp split)⟩

end AggregationFlag

/-- The aggregation flags, in the order in which they are taken. -/
def Arguments.aggregationFlags (arguments : Arguments) : List AggregationFlag :=
  arguments.termsAggregations.map .terms ++ arguments.avgAggregations.map .avg

theorem mapM_aggregationFlags (arguments : Arguments) :
    arguments.aggregationFlags.mapM AggregationFlag.aggregation = do
      let terms ← arguments.termsAggregations.mapM termsAggregation
      let averages ← arguments.avgAggregations.mapM avgAggregation
      return terms ++ averages := by
  rw [Arguments.aggregationFlags, List.mapM_append, List.mapM_map, List.mapM_map]
  rfl

/-- Each flag shows as one entry before the entries of one name are laid over each other. -/
theorem named_of_forall₂ {flags : List AggregationFlag} {items : Aggregations}
    (read : List.Forall₂ (fun flag item => AggregationFlag.aggregation flag = .ok item)
      flags items) :
    ∃ named, items.RenderedAs named ∧ List.Forall₂ AggregationFlag.AsksFor flags named := by
  induction read with
  | nil => exact ⟨[], rfl, .nil⟩
  | cons first later ih =>
      obtain ⟨fragment, isFragment, asked⟩ := AggregationFlag.asksFor_of_aggregation first
      obtain ⟨named, rendered, allAsked⟩ := ih
      exact ⟨_, (Aggregations.renderedAs_cons_iff _ _ _).mpr
        ⟨fragment, named, isFragment, rendered, rfl⟩, .cons asked allAsked⟩

/-! ### The whole request -/

/-- The query and the aggregations of the document are just those that the flags ask for. -/
structure Arguments.ShownIn (arguments : Arguments) (entries : Entries Json) : Prop where
  distinct : (Entries.keys entries).Nodup
  query : ∃ fragments, List.Forall₂ FilterFlag.AsksFor arguments.filterFlags fragments ∧
    Entries.find? "query" entries = some (queryDocument arguments.negate fragments)
  /-- Of several aggregations of one name the last one is shown, in the place of the first. -/
  aggregations : ∃ named shown,
    List.Forall₂ AggregationFlag.AsksFor arguments.aggregationFlags named ∧
      Entries.keys shown = (Entries.keys named).eraseDups ∧
      (∀ name, Entries.find? name shown = Entries.find? name named.reverse) ∧
      Entries.find? "aggs" entries = if shown.isEmpty then none else some (.object shown)

theorem assemble_eq (arguments : Arguments) (settings : Settings) :
    assemble arguments settings =
      (sortBy arguments).bind fun sorting =>
        (queryOf arguments).bind fun query =>
          (arguments.aggregationFlags.mapM AggregationFlag.aggregation).map fun aggregations =>
            { offset := arguments.offset
              pageSize := arguments.pageSize <|> settings.defaultSize
              source := sourceFilter? arguments.source
              collapse := arguments.collapse
              sorting
              query
              aggregations } := by
  rw [mapM_aggregationFlags]
  unfold assemble
  cases sortBy arguments with
  | error found => rfl
  | ok sorting =>
      cases queryOf arguments with
      | error found => rfl
      | ok query =>
          cases arguments.termsAggregations.mapM termsAggregation with
          | error found => rfl
          | ok terms => cases arguments.avgAggregations.mapM avgAggregation <;> rfl

/--
No flags, however many, make a request fail over the shape of its clauses or aggregations, and
a body that is put together can be rendered.
-/
theorem assemble_shows_every_flag (arguments : Arguments) (settings : Settings) :
    NeverStructural (assemble arguments settings) ∧
      ∀ body, assemble arguments settings = .ok body →
        ∃ entries, body.toJson = .ok (.object entries) ∧ arguments.ShownIn entries := by
  rw [assemble_eq, queryOf_eq]
  constructor
  · apply (sortBy_neverStructural arguments).bind
    intro sorting
    apply ((NeverStructural.mapM FilterFlag.leaf_neverStructural _).map _).bind
    intro query
    exact (NeverStructural.mapM AggregationFlag.aggregation_neverStructural _).map _
  · intro body assembled
    obtain ⟨sorting, _, afterSorting⟩ := bind_eq_ok_iff.mp assembled
    obtain ⟨query, isQuery, afterQuery⟩ := bind_eq_ok_iff.mp afterSorting
    obtain ⟨leaves, leavesRead, sameQuery⟩ := map_eq_ok_iff.mp isQuery
    obtain ⟨items, itemsRead, sameBody⟩ := map_eq_ok_iff.mp afterQuery
    obtain ⟨named, rendered, namedAsked⟩ := named_of_forall₂ (mapM_eq_ok_iff.mp itemsRead)
    have isNested : Aggregations.toEntries items = .ok (Entries.overlay [] named) :=
      (Aggregations.toEntries_ok_iff items _).mpr ⟨named, rendered, rfl⟩
    have isDocument := toJson_queryFor arguments.negate leaves
    subst sameBody sameQuery
    refine ⟨_, (Body.toJson_ok_iff _ _).mpr ⟨_, _, isDocument, isNested, rfl⟩, ?_⟩
    refine ⟨Body.nodup_keys_shown _ _ _, ?_, ?_⟩
    · refine ⟨leaves.map Leaf.toJson, ?_, Body.find?_shown _ _ _ "query"⟩
      rw [List.forall₂_map_right_iff]
      exact (mapM_eq_ok_iff.mp leavesRead).imp fun flag leaf => FilterFlag.asksFor_of_leaf
    · refine ⟨named, Entries.overlay [] named, namedAsked, ?_, ?_, Body.find?_shown _ _ _ "aggs"⟩
      · have laid : Entries.keys (Entries.overlay [] named) =
            ([] ++ Entries.keys named).eraseDups := Entries.keys_overlay named rfl
        exact laid
      · intro name
        rw [Entries.find?_overlay_reverse]
        exact Option.or_none

example :
    ((assemble
      { terms := ["retries=3"]
        ranges := ["age:gte=10,lt=now"]
        queryString := some "late"
        negate := true
        termsAggregations := ["jobs=queue", "low=age"]
        avgAggregations := ["jobs=cost"] } {}).bind fun body => body.toJson.mapError .request) =
      .ok (.object [
        ("query", .single "bool" (.single "must_not" (.array [
          .single "bool" (.single "filter" (.array [
            .single "term" (.single "retries" (.single "value" (.ofInt64 3))),
            .single "range" (.single "age" (.object [("gte", .ofInt64 10), ("lt", .string "now")])),
            .single "query_string" (.single "query" (.string "late"))]))]))),
        ("aggs", .object [
          ("jobs", .single "avg" (.single "field" (.string "cost"))),
          ("low", .single "terms" (.single "field" (.string "age")))])]) := by
  cbv

end SearchRequest.CommandLine
