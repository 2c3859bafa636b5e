/-
The sort clauses of a body as the outcome of a run of calls and merges. Each step comes
to a list of writes: fields, with what is stored for them. A call that fails has written
what stands in front of the entry that it fails on, and a merge writes the clauses of
the other body.

The writes of a run, one after the other, are all that counts. A field stands where it
was first written and carries what was written last, whoever wrote it.
-/

import SearchRequest.Proofs.BodyParts

namespace SearchRequest

def Json.IsObject (value : Json) : Prop :=
  ∃ entries, value = .object entries

namespace Sorting

/-- Null and lists stand neither for an order nor for options. -/
def isRefused : Json → Bool
  | .null | .array _ => true
  | .bool _ | .number _ | .string _ | .object _ => false

/-- Options are kept as they are; a scalar is the order. -/
def stored : Json → Json
  | .object options => .object options
  | scalar => .single orderKey scalar

/-- The entries in front of the first refused one. -/
def accepted (entries : Entries Json) : Entries Json :=
  (entries.takeWhile fun entry => !isRefused entry.2).map fun entry => (entry.1, stored entry.2)

/-- The first refused entry decides, whatever comes after it. -/
def verdict (entries : Entries Json) : Except RequestError Unit :=
  match List.find? (fun entry => isRefused entry.2) entries with
  | none => .ok ()
  | some (field, value) => .error (.invalidArgument (.sortEntry field value))

theorem clause?_eq (value : Json) :
    clause? value = if isRefused value then none else some (stored value) := by
  cases value <;> rfl

theorem isObject_stored (value : Json) : (stored value).IsObject := by
  cases value <;> exact ⟨_, rfl⟩

theorem writeAll_eq (entries : Entries Json) (sorting : Sorting) :
    (writeAll entries sorting).1 = verdict entries ∧
      (writeAll entries sorting).2.entries =
        Entries.overlay sorting.entries (accepted entries) := by
  induction entries generalizing sorting with
  | nil => exact ⟨rfl, rfl⟩
  | cons entry rest ih =>
      obtain ⟨field, value⟩ := entry
      rw [writeAll, clause?_eq, verdict, accepted, List.find?_cons, List.takeWhile_cons]
      cases refused : isRefused value with
      | true => exact ⟨rfl, rfl⟩
      | false => exact ih (sorting.insert field (stored value))

end Sorting

variable {ρ : Type}

/-- A call on a body, or the merge with another body, which comes second. -/
inductive BodyStep (ρ : Type) where
  | call (operation : BodyOperation ρ)
  | merge (other : Body)

namespace BodyStep

def apply (body : Body) : BodyStep ρ → Body
  | .call operation => (operation.apply body).2
  | .merge other => body.merge other

/-- The fields that a step writes, each with what is stored for it. -/
def sortWrites : BodyStep ρ → Entries Json
  | .call (.sort (.object entries)) => Sorting.accepted entries
  | .call (.sortField field order) => [(field, .single Sorting.orderKey order.toJson)]
  | .call _ => []
  | .merge other => other.sorting.entries

theorem sortWrites_other {operation : BodyOperation ρ} (other : operation.part ≠ .sorting) :
    (call operation).sortWrites = [] := by
  cases operation with
  | sort _ | sortField _ _ => exact absurd rfl other
  | offset _ | pageSize _ | source _ | sourceJson _ | collapse _ | query _ | aggregations _ => rfl

theorem sorting_apply (step : BodyStep ρ) (body : Body) :
    (step.apply body).sorting.entries =
      Entries.overlay body.sorting.entries step.sortWrites := by
  cases step with
  | merge other => rfl
  | call operation =>
      by_cases addressed : operation.part = .sorting
      · cases operation with
        | sort fields =>
            cases fields with
            | object entries => exact (Sorting.writeAll_eq entries body.sorting).2
            | null | bool _ | number _ | string _ | array _ => rfl
        | sortField field order => rfl
        | offset _ | pageSize _ | source _ | sourceJson _ | collapse _ | query _
          | aggregations _ => cases addressed
      · have kept := BodyOperation.only_apply_other addressed body
        rw [sortWrites_other addressed]
        exact (congrArg (fun part : Body => part.sorting.entries) kept :)

def execute (start : Body) (run : List (BodyStep ρ)) : Body :=
  run.foldl apply start

/-- All writes up to the end of a run. What the body had before counts as written first. -/
def written (start : Body) (run : List (BodyStep ρ)) : Entries Json :=
  start.sorting.entries ++ run.flatMap sortWrites

theorem overlay_execute (start : Body) (run : List (BodyStep ρ)) :
    (execute start run).sorting.entries =
      Entries.overlay start.sorting.entries (run.flatMap sortWrites) := by
  induction run generalizing start with
  | nil => rfl
  | cons step run ih =>
      rw [List.flatMap_cons, Entries.overlay_append, ← sorting_apply]
      exact ih (step.apply start)

theorem sorting_execute (start : Body) (run : List (BodyStep ρ)) :
    (execute start run).sorting.entries = Entries.overlay [] (written start run) := by
  have alone : Entries.overlay [] start.sorting.entries = start.sorting.entries :=
    Entries.overlay_of_nodup start.sorting.distinct
  rw [written, Entries.overlay_append, alone, overlay_execute]

theorem keys_execute (start : Body) (run : List (BodyStep ρ)) :
    (execute start run).sorting.keys = (Entries.keys (written start run)).eraseDups := by
  have unkeyed : Entries.keys ([] : Entries Json) = [].eraseDups := rfl
  rw [Mapping.keys, sorting_execute]
  exact Entries.keys_overlay (written start run) unkeyed

theorem find?_execute (start : Body) (run : List (BodyStep ρ)) (field : String) :
    (execute start run).sorting.find? field =
      Entries.find? field (written start run).reverse := by
  rw [Mapping.find?, sorting_execute, Entries.find?_overlay_reverse]
  exact Option.or_none

theorem isEmpty_execute (start : Body) (run : List (BodyStep ρ)) :
    (execute start run).sorting.isEmpty = (written start run).isEmpty := by
  rw [Mapping.isEmpty, sorting_execute]
  exact Entries.isEmpty_overlay [] (written start run)

end BodyStep

/-! ### Bodies as they come about -/

/-- The body has been made by calls and merges; what is done to it may vary from call to call. -/
inductive Body.Assembled : Body → Prop
  | empty : Body.Assembled .empty
  | ofSettings (settings : Settings) : Body.Assembled (.ofSettings settings)
  | call {ρ : Type} (operation : BodyOperation ρ) {body : Body} :
      body.Assembled → (operation.apply body).2.Assembled
  | merge {body other : Body} : body.Assembled → other.Assembled → (body.merge other).Assembled

theorem BodyStep.isObject_of_mem_sortWrites {operation : BodyOperation ρ} {entry : String × Json}
    (member : entry ∈ (call operation).sortWrites) : entry.2.IsObject := by
  cases operation with
  | sort fields =>
      cases fields with
      | object entries =>
          obtain ⟨given, _, same⟩ := List.mem_map.mp member
          exact same ▸ Sorting.isObject_stored given.2
      | null | bool _ | number _ | string _ | array _ => cases member
  | sortField field order => exact ⟨_, congrArg Prod.snd (List.mem_singleton.mp member)⟩
  | offset _ | pageSize _ | source _ | sourceJson _ | collapse _ | query _ | aggregations _ =>
      cases member

theorem Body.Assembled.isObject {body : Body} (assembled : body.Assembled) :
    ∀ entry ∈ body.sorting.entries, entry.2.IsObject := by
  induction assembled with
  | empty | ofSettings _ => exact fun _ impossible => nomatch impossible
  | call operation _ ih =>
      intro entry member
      have written := BodyStep.sorting_apply (.call operation) _ ▸ member
      rcases Entries.mem_of_mem_overlay written with old | new
      · exact ih entry old
      · exact BodyStep.isObject_of_mem_sortWrites new
  | merge _ _ ih otherIh =>
      intro entry member
      rcases Entries.mem_of_mem_overlay member with left | right
      · exact ih entry left
      · exact otherIh entry right

theorem BodyStep.assembled_execute {start : Body} (assembled : start.Assembled)
    {run : List (BodyStep ρ)} (others : ∀ other, .merge other ∈ run → other.Assembled) :
    (execute start run).Assembled := by
  apply List.foldlRecOn run _ assembled
  intro reached reachedAssembled step member
  cases step with
  | call operation => exact .call operation reachedAssembled
  | merge other => exact .merge reachedAssembled (others other member)

namespace Body

/-- What a call that sorts reports and leaves behind: it writes up to the first refused entry. -/
structure SortCalls (body : Body) : Prop where
  misshapen : ∀ value : Json, ¬ value.IsObject →
    body.sort value = (.error (.invalidArgument .sortShape), body)
  mapping : ∀ entries, ∃ sorting : Sorting,
    body.sort (.object entries) = (Sorting.verdict entries, { body with sorting }) ∧
      sorting.entries = Entries.overlay body.sorting.entries (Sorting.accepted entries)

/-- The sort clauses show the writes, each field once, and so does every document of the body. -/
structure SortsAsWritten (written : Entries Json) (body : Body) : Prop where
  fields : body.sorting.keys = (Entries.keys written).eraseDups
  last : ∀ field, body.sorting.find? field = Entries.find? field written.reverse
  objects : ∀ entry ∈ body.sorting.entries, entry.2.IsObject
  shown : ∀ document, body.toJson = .ok document → ∃ entries, document = .object entries ∧
    (Entries.keys entries).Nodup ∧
      Entries.find? "sort" entries =
        if written.isEmpty then none
        else some (.array (body.sorting.entries.map fun entry => .single entry.1 entry.2))

theorem sort_misshapen {value : Json} (misshapen : ¬ value.IsObject) (body : Body) :
    body.sort value = (.error (.invalidArgument .sortShape), body) := by
  cases value with
  | object entries => exact absurd ⟨entries, rfl⟩ misshapen
  | null | bool _ | number _ | string _ | array _ => rfl

theorem sortCalls (body : Body) : SortCalls body where
  misshapen _ misshapen := sort_misshapen misshapen body
  mapping entries := by
    obtain ⟨reported, kept⟩ := Sorting.writeAll_eq entries body.sorting
    refine ⟨(Sorting.writeAll entries body.sorting).2, ?_, kept⟩
    rw [← reported]
    rfl

theorem find?_sort_of_toJson {body : Body} {document : Json}
    (rendered : body.toJson = .ok document) : ∃ entries, document = .object entries ∧
      (Entries.keys entries).Nodup ∧
        Entries.find? "sort" entries = Sorting.toJson? body.sorting := by
  obtain ⟨query, nested, _, _, same⟩ := (toJson_ok_iff body document).mp rendered
  exact ⟨body.shown query nested, same, body.nodup_keys_shown query nested,
    body.find?_shown query nested "sort"⟩

end Body

namespace BodyStep

/--
Wherever a run has got to, the sort clauses are its writes so far: fields in the order of
their first write, each with its last one. The next call that sorts adds what stands in front
of its first refused entry.
-/
theorem sorting_follows_writes {start : Body} (assembled : start.Assembled)
    {run : List (BodyStep ρ)} (others : ∀ other, .merge other ∈ run → other.Assembled) :
    (execute start run).SortsAsWritten (written start run) ∧ (execute start run).SortCalls := by
  refine ⟨⟨keys_execute start run, find?_execute start run, ?_, ?_⟩,
    (execute start run).sortCalls⟩
  · exact (assembled_execute assembled others).isObject
  · intro document rendered
    obtain ⟨entries, same, distinct, found⟩ := Body.find?_sort_of_toJson rendered
    refine ⟨entries, same, distinct, ?_⟩
    rw [found, Sorting.toJson?, isEmpty_execute]

def costFirst : Body :=
  let options : Json := .object [("id", .object []), ("cost", .string "desc")]
  ((.sort options : BodyOperation Unit).apply .empty).2

/-- Two calls fail here, the first of them after it has written; other writers come in between. -/
def dashboardSteps : List (BodyStep Unit) :=
  [.call (.sort (.object [("age", .string "asc"), ("id", .bool true), ("owner", .null),
      ("late", .string "desc")])),
    .call (.collapse "job"), .call (.sortField "name" .asc), .merge costFirst,
    .call (.sort (.array [])), .call (.sortField "age" .desc)]

theorem sorting_follows_writes_dashboard :
    Body.empty.Assembled ∧ (∀ other, .merge other ∈ dashboardSteps → other.Assembled) ∧
      (execute .empty dashboardSteps).sorting.entries =
        [("age", .single "order" (.string "desc")), ("id", .object []),
          ("name", .single "order" (.string "asc")),
          ("cost", .single "order" (.string "desc"))] ∧
      (execute .empty dashboardSteps).SortsAsWritten (written .empty dashboardSteps) ∧
      (execute .empty dashboardSteps).SortCalls := by
  have others : ∀ other, .merge other ∈ dashboardSteps → other.Assembled := by
    intro other member
    have merged : other = costFirst := by simpa [dashboardSteps] using member
    exact merged ▸ .call _ .empty
  exact ⟨.empty, others, rfl, sorting_follows_writes .empty others⟩

end BodyStep

end SearchRequest
