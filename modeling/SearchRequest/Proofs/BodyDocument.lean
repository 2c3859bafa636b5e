/-
The document of a body by its entries. Each setting is under a key of its own and is left
out if the body does not have it, while the query is always there.
-/

import SearchRequest.Body
import SearchRequest.Proofs.AggregationFragments
import SearchRequest.Proofs.OptionalEntries

namespace SearchRequest.Body

def keyOrder : List String :=
  ["from", "size", "_source", "query", "sort", "collapse", "aggs"]

/-- What stands under a key, given what the query and the aggregations are rendered as. -/
def entry? (body : Body) (query : Json) (nested : Entries Json) : String → Option Json
  | "from" => body.offset.map Json.ofUInt64
  | "size" => body.pageSize.map Json.ofUInt64
  | "_source" => body.source.map SourceFilter.toJson
  | "query" => some query
  | "sort" => Sorting.toJson? body.sorting
  | "collapse" => body.collapse.map fun field => .single "field" (.string field)
  | "aggs" => if nested.isEmpty then none else some (.object nested)
  | _ => none

def shown (body : Body) (query : Json) (nested : Entries Json) : Entries Json :=
  keyOrder.flatMap fun key => Entries.optional key (body.entry? query nested key)

theorem shown_eq_append (body : Body) (query : Json) (nested : Entries Json) :
    body.shown query nested =
      Entries.optional "from" (body.offset.map Json.ofUInt64) ++
      Entries.optional "size" (body.pageSize.map Json.ofUInt64) ++
      Entries.optional "_source" (body.source.map SourceFilter.toJson) ++
      [("query", query)] ++
      Entries.optional "sort" (Sorting.toJson? body.sorting) ++
      Entries.optional "collapse"
        (body.collapse.map fun field => .single "field" (.string field)) ++
      (if nested.isEmpty then [] else [("aggs", .object nested)]) := by
  simp only [shown, keyOrder, List.flatMap_cons, List.flatMap_nil, List.append_nil,
    List.append_assoc]
  cases nested <;> rfl

theorem toJson_eq (body : Body) :
    body.toJson =
      body.query.toJson.bind fun query =>
        body.aggregations.toEntries.map fun nested => .object (body.shown query nested) := by
  simp only [shown_eq_append]
  unfold toJson
  cases body.query.toJson with
  | error found => rfl
  | ok query => cases body.aggregations.toEntries <;> rfl

theorem toJson_ok_iff (body : Body) (document : Json) :
    body.toJson = .ok document ↔
      ∃ query nested, body.query.toJson = .ok query ∧ body.aggregations.toEntries = .ok nested ∧
        document = .object (body.shown query nested) := by
  rw [toJson_eq, bind_eq_ok_iff]
  simp only [map_eq_ok_iff]
  constructor
  · intro parts
    obtain ⟨query, isQuery, nested, isNested, same⟩ := parts
    exact ⟨query, nested, isQuery, isNested, same⟩
  · intro parts
    obtain ⟨query, nested, isQuery, isNested, same⟩ := parts
    exact ⟨query, isQuery, nested, isNested, same⟩

section

variable (body : Body) (query : Json) (nested : Entries Json)

theorem find?_shown (key : String) :
    Entries.find? key (body.shown query nested) = body.entry? query nested key := by
  have found : Entries.find? (id key) (body.shown query nested) =
      if key ∈ keyOrder then body.entry? query nested key else none :=
    Entries.find?_flatMap_optional (fun same => same) (body.entry? query nested) keyOrder key
  refine found.trans ?_
  split
  · rfl
  · next absent =>
      unfold entry?
      split
      case h_8 => rfl
      all_goals exact absurd (by decide) absent

theorem nodup_keys_shown : (Entries.keys (body.shown query nested)).Nodup := by
  have sublist := Entries.keys_optional_sublist id (body.entry? query nested) keyOrder
  rw [List.map_id] at sublist
  exact sublist.nodup (by decide)

end

/-- Whether a document of the body has an entry under the key. -/
def shows (body : Body) : String → Bool
  | "from" => body.offset.isSome
  | "size" => body.pageSize.isSome
  | "_source" => body.source.isSome
  | "query" => true
  | "sort" => !body.sorting.isEmpty
  | "collapse" => body.collapse.isSome
  | "aggs" => !body.aggregations.isEmpty
  | _ => false

theorem isSome_entry? {body : Body} {nested : Entries Json}
    (rendered : body.aggregations.toEntries = .ok nested) (query : Json) {key : String}
    (listed : key ∈ keyOrder) : (body.entry? query nested key).isSome = body.shows key := by
  simp only [keyOrder, List.mem_cons, List.not_mem_nil, or_false] at listed
  rcases listed with same | same | same | same | same | same | same
  all_goals subst same
  · exact Option.isSome_map
  · exact Option.isSome_map
  · exact Option.isSome_map
  · rfl
  · simp only [shows, entry?, Sorting.toJson?]
    cases body.sorting.isEmpty <;> rfl
  · exact Option.isSome_map
  · simp only [shows, entry?, ← Aggregations.isEmpty_of_toEntries rendered]
    cases nested.isEmpty <;> rfl

/-- The keys keep the one order, however the body came by its settings. -/
theorem keys_of_toJson {body : Body} {document : Json} (rendered : body.toJson = .ok document) :
    ∃ entries, document = .object entries ∧
      Entries.keys entries = keyOrder.filter body.shows := by
  obtain ⟨query, nested, _, isNested, same⟩ := (toJson_ok_iff body document).mp rendered
  refine ⟨body.shown query nested, same, ?_⟩
  calc
    Entries.keys (body.shown query nested)
        = (keyOrder.filter fun key => (body.entry? query nested key).isSome).map id :=
          Entries.keys_flatMap_optional id (body.entry? query nested) keyOrder
    _ = keyOrder.filter fun key => (body.entry? query nested key).isSome := List.map_id _
    _ = keyOrder.filter body.shows :=
          List.filter_congr fun _ listed => isSome_entry? isNested query listed

end SearchRequest.Body
