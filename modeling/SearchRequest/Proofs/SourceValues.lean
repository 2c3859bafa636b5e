/-
Source filters and the values that express them. Each filter is read from the one value
that it is written as, and every other value is refused, a list for its first item that is
no text.

A body holds on to the filter that was given last. Whatever else is done with the body, it
is shown as the value that it was read from.
-/

import Mathlib.Data.Set.List
import SearchRequest.Proofs.SortWrites

namespace SearchRequest

def Json.IsText (value : Json) : Prop :=
  ∃ text, value = .string text

/-- The value may stand for a source filter. -/
inductive Json.IsSource : Json → Prop
  | disabled : IsSource (.bool false)
  | text (pattern : String) : IsSource (.string pattern)
  | texts {items : List Json} : (∀ item ∈ items, item.IsText) → IsSource (.array items)
  | options (entries : Entries Json) : IsSource (.object entries)

namespace SourceFilter

/-- Why a value is refused. -/
inductive Refuses : Json → ArgumentFault → Prop
  | entry {before after : List Json} {item : Json} :
      (∀ earlier ∈ before, earlier.IsText) → ¬ item.IsText →
        Refuses (.array (before ++ item :: after)) (.sourceEntry item)
  | null : Refuses .null (.sourceShape .null)
  | enabled : Refuses (.bool true) (.sourceShape (.bool true))
  | number (value : Json.Number) : Refuses (.number value) (.sourceShape (.number value))

theorem readPatterns_eq_ok_iff {items : List Json} {patterns : List String} :
    readPatterns items = .ok patterns ↔ patterns.map .string = items := by
  induction items generalizing patterns with
  | nil =>
      rw [List.map_eq_nil_iff]
      constructor
      · intro read
        cases read
        rfl
      · intro none
        exact none ▸ rfl
  | cons item items ih =>
      cases item with
      | string pattern =>
          rw [readPatterns, map_eq_ok_iff, List.map_eq_cons_iff]
          constructor
          · intro read
            obtain ⟨rest, isRest, same⟩ := read
            exact ⟨pattern, rest, same, rfl, ih.mp isRest⟩
          · intro written
            obtain ⟨first, rest, same, isFirst, isRest⟩ := written
            cases isFirst
            exact ⟨rest, ih.mpr isRest, same⟩
      | null | bool _ | number _ | array _ | object _ =>
          constructor
          · intro read
            cases read
          · intro written
            obtain ⟨first, rest, _, impossible, _⟩ := List.map_eq_cons_iff.mp written
            cases impossible

/-- Reading and writing are inverse to each other: a value is read as the filter it expresses. -/
theorem ofJson_eq_ok_iff {value : Json} {filter : SourceFilter} :
    ofJson value = .ok filter ↔ filter.toJson = value := by
  cases value with
  | null => cases filter <;> exact ⟨nofun, nofun⟩
  | number _ => cases filter <;> exact ⟨nofun, nofun⟩
  | bool flag =>
      cases flag with
      | true => cases filter <;> exact ⟨nofun, nofun⟩
      | false =>
          constructor
          · intro read
            cases read
            rfl
          · intro written
            cases filter <;> cases written
            rfl
  | string pattern =>
      constructor
      · intro read
        cases read
        rfl
      · intro written
        cases filter <;> cases written
        rfl
  | array items =>
      rw [ofJson, map_eq_ok_iff]
      constructor
      · intro read
        obtain ⟨patterns, isPatterns, same⟩ := read
        rw [same, toJson, Json.strings, readPatterns_eq_ok_iff.mp isPatterns]
      · intro written
        cases filter with
        | fields patterns =>
            exact ⟨patterns, readPatterns_eq_ok_iff.mpr (Json.array.inj written), rfl⟩
        | disabled | field _ | spec _ => cases written
  | object entries =>
      constructor
      · intro read
        cases read
        rfl
      · intro written
        cases filter <;> cases written
        rfl

theorem isSource_toJson (filter : SourceFilter) : filter.toJson.IsSource := by
  cases filter with
  | disabled => exact .disabled
  | field pattern => exact .text pattern
  | fields patterns =>
      exact .texts (List.forall_mem_map.mpr fun pattern _ => ⟨pattern, rfl⟩)
  | spec options => exact .options options

theorem readPatterns_of_refused {before after : List Json} {item : Json}
    (texts : ∀ earlier ∈ before, earlier.IsText) (noText : ¬ item.IsText) :
    readPatterns (before ++ item :: after) = .error (.invalidArgument (.sourceEntry item)) := by
  induction before with
  | nil =>
      cases item with
      | string pattern => exact absurd ⟨pattern, rfl⟩ noText
      | null | bool _ | number _ | array _ | object _ => rfl
  | cons earlier before ih =>
      obtain ⟨⟨pattern, isPattern⟩, later⟩ := List.forall_mem_cons.mp texts
      subst isPattern
      rw [List.cons_append, readPatterns, ih later]
      rfl

theorem ofJson_of_refuses {value : Json} {fault : ArgumentFault} (refuses : Refuses value fault) :
    ofJson value = .error (.invalidArgument fault) := by
  cases refuses with
  | entry texts noText =>
      rw [ofJson, readPatterns_of_refused texts noText]
      rfl
  | null | enabled | number _ => rfl

/-- There is nothing between the values that are accepted and those that are refused. -/
theorem isSource_or_refuses (value : Json) : value.IsSource ∨ ∃ fault, Refuses value fault := by
  cases value with
  | null => exact Or.inr ⟨_, .null⟩
  | number value => exact Or.inr ⟨_, .number value⟩
  | string pattern => exact Or.inl (.text pattern)
  | object entries => exact Or.inl (.options entries)
  | bool flag =>
      cases flag with
      | true => exact Or.inr ⟨_, .enabled⟩
      | false => exact Or.inl .disabled
  | array items =>
      rcases forall_or_first_not Json.IsText items with texts | found
      · exact Or.inl (.texts texts)
      · obtain ⟨before, item, after, parts, texts, noText⟩ := found
        subst parts
        exact Or.inr ⟨_, .entry texts noText⟩

theorem exists_of_isSource {value : Json} (source : value.IsSource) :
    ∃ filter : SourceFilter, filter.toJson = value := by
  cases source with
  | disabled => exact ⟨.disabled, rfl⟩
  | text pattern => exact ⟨.field pattern, rfl⟩
  | options entries => exact ⟨.spec entries, rfl⟩
  | @texts items texts =>
      have written : items ∈ Set.range (List.map Json.string) := by
        rw [Set.range_list_map]
        intro item member
        obtain ⟨pattern, isPattern⟩ := texts item member
        exact ⟨pattern, isPattern.symm⟩
      obtain ⟨patterns, same⟩ := written
      exact ⟨.fields patterns, congrArg Json.array same⟩

theorem exists_ofJson_iff {value : Json} :
    (∃ filter, ofJson value = .ok filter) ↔ value.IsSource := by
  constructor
  · intro read
    obtain ⟨filter, isFilter⟩ := read
    exact ofJson_eq_ok_iff.mp isFilter ▸ filter.isSource_toJson
  · intro source
    obtain ⟨filter, written⟩ := exists_of_isSource source
    exact ⟨filter, ofJson_eq_ok_iff.mpr written⟩

theorem ofJson_eq_error_iff {value : Json} {error : RequestError} :
    ofJson value = .error error ↔
      ∃ fault, Refuses value fault ∧ error = .invalidArgument fault := by
  constructor
  · intro failed
    rcases isSource_or_refuses value with source | refused
    · obtain ⟨filter, read⟩ := exists_ofJson_iff.mpr source
      rw [read] at failed
      cases failed
    · obtain ⟨fault, refuses⟩ := refused
      rw [ofJson_of_refuses refuses] at failed
      exact ⟨fault, refuses, (Except.error.inj failed).symm⟩
  · intro refused
    obtain ⟨fault, refuses, same⟩ := refused
    exact same ▸ ofJson_of_refuses refuses

end SourceFilter

/-! ### Bodies -/

variable {ρ : Type}

theorem BodyOperation.apply_sourceJson_refused {value : Json} {error : RequestError}
    (refused : SourceFilter.ofJson value = .error error) (body : Body) :
    (sourceJson value : BodyOperation ρ).apply body = (.settled (.error error), body) := by
  rw [apply, Body.withSourceJson, refused]
  rfl

theorem BodyOperation.apply_sourceJson_accepted {value : Json} {filter : SourceFilter}
    (accepted : SourceFilter.ofJson value = .ok filter) (body : Body) :
    (sourceJson value : BodyOperation ρ).apply body =
      (.settled (.ok ()), { body with source := some filter }) := by
  rw [apply, Body.withSourceJson, accepted]
  rfl

/-- What a body goes through: a step of its own, or a merge in which it comes second. -/
inductive BodyChange (ρ : Type) where
  | step (taken : BodyStep ρ)
  | mergeInto (earlier : Body)

namespace BodyChange

def apply (body : Body) : BodyChange ρ → Body
  | .step taken => taken.apply body
  | .mergeInto earlier => earlier.merge body

def execute (start : Body) (run : List (BodyChange ρ)) : Body :=
  run.foldl apply start

/-- The filter that replaces the one of the body. A refused value gives none. -/
def givenSource? : BodyChange ρ → Option SourceFilter
  | .step (.call (.source filter)) => some filter
  | .step (.call (.sourceJson value)) => (SourceFilter.ofJson value).toOption
  | .step (.call _) => none
  | .step (.merge other) => other.source
  | .mergeInto _ => none

/-- The filter that counts only if the body has none. -/
def spareSource? : BodyChange ρ → Option SourceFilter
  | .step _ => none
  | .mergeInto earlier => earlier.source

theorem givenSource?_other {operation : BodyOperation ρ} (other : operation.part ≠ .source) :
    (step (.call operation)).givenSource? = none := by
  cases operation with
  | source _ | sourceJson _ => exact absurd rfl other
  | offset _ | pageSize _ | collapse _ | sort _ | sortField _ _ | query _ | aggregations _ => rfl

theorem source_call (operation : BodyOperation ρ) (body : Body) :
    (operation.apply body).2.source =
      (step (.call operation)).givenSource?.or body.source := by
  by_cases addressed : operation.part = .source
  · cases operation with
    | source filter => rfl
    | sourceJson value =>
        cases read : SourceFilter.ofJson value with
        | error refused =>
            rw [BodyOperation.apply_sourceJson_refused read, givenSource?, read]
            rfl
        | ok filter =>
            rw [BodyOperation.apply_sourceJson_accepted read, givenSource?, read]
            rfl
    | offset _ | pageSize _ | collapse _ | sort _ | sortField _ _ | query _ | aggregations _ =>
        cases addressed
  · have kept := BodyOperation.only_apply_other addressed body
    rw [givenSource?_other addressed]
    exact (congrArg Body.source kept :)

theorem source_apply (change : BodyChange ρ) (body : Body) :
    (change.apply body).source =
      (change.givenSource?.or body.source).or change.spareSource? := by
  cases change with
  | mergeInto earlier => exact Option.orElse_eq_or
  | step taken =>
      cases taken with
      | call operation => exact (source_call operation body).trans Option.or_none.symm
      | merge other => exact Option.orElse_eq_or.trans Option.or_none.symm

/-- As long as no other filter is given, the body holds on to the one it has. -/
theorem source_execute {body : Body} {filter : SourceFilter} (held : body.source = some filter)
    {run : List (BodyChange ρ)} (noOther : ∀ change ∈ run, change.givenSource? = none) :
    (execute body run).source = some filter := by
  apply List.foldlRecOn (motive := fun reached : Body => reached.source = some filter) run _ held
  intro reached stillHeld change member
  rw [source_apply, noOther change member, stillHeld]
  rfl

theorem source_of_given {change : BodyChange ρ} {filter : SourceFilter}
    (given : change.givenSource? = some filter) (start : Body) {before later : List (BodyChange ρ)}
    (noOther : ∀ change ∈ later, change.givenSource? = none) :
    (execute start (before ++ change :: later)).source = some filter := by
  have held : (change.apply (execute start before)).source = some filter := by
    rw [source_apply, given]
    rfl
  rw [execute, List.foldl_append]
  exact source_execute held noOther

end BodyChange

theorem Body.find?_source_of_toJson {body : Body} {filter : SourceFilter} {document : Json}
    (held : body.source = some filter) (rendered : body.toJson = .ok document) :
    ∃ entries, document = .object entries ∧ (Entries.keys entries).Nodup ∧
      Entries.find? "_source" entries = some filter.toJson := by
  obtain ⟨query, nested, _, _, same⟩ := (toJson_ok_iff body document).mp rendered
  refine ⟨body.shown query nested, same, body.nodup_keys_shown query nested, ?_⟩
  rw [body.find?_shown query nested "_source"]
  exact congrArg (Option.map SourceFilter.toJson) held

namespace SourceFilter

/--
A value is read as the filter that is written as it, so none is read in two ways; the values
that express no filter are refused and leave a body as it was. The filter given last to a body
is shown under its key as the value it came from, until another filter is given.
-/
theorem values_and_filters_correspond :
    (∀ value filter, ofJson value = .ok filter ↔ filter.toJson = value) ∧
      (∀ filter, ofJson filter.toJson = .ok filter) ∧
      (∀ value, (∃ filter, ofJson value = .ok filter) ↔ value.IsSource) ∧
      (∀ value error, ofJson value = .error error ↔
        ∃ fault, Refuses value fault ∧ error = .invalidArgument fault) ∧
      (∀ (body : Body) value error, ofJson value = .error error →
        (BodyOperation.sourceJson value : BodyOperation ρ).apply body =
          (.settled (.error error), body)) ∧
      ∀ (start : Body) (before later : List (BodyChange ρ)),
        (∀ change ∈ later, change.givenSource? = none) →
          (∀ value, value.IsSource → ∀ document,
            (BodyChange.execute start
                (before ++ .step (.call (.sourceJson value)) :: later)).toJson = .ok document →
              ∃ entries, document = .object entries ∧ (Entries.keys entries).Nodup ∧
                Entries.find? "_source" entries = some value) ∧
            ∀ change filter, change.givenSource? = some filter → ∀ document,
              (BodyChange.execute start (before ++ change :: later)).toJson = .ok document →
                ∃ entries, document = .object entries ∧ (Entries.keys entries).Nodup ∧
                  Entries.find? "_source" entries = some filter.toJson := by
  refine ⟨fun _ _ => ofJson_eq_ok_iff, fun _ => ofJson_eq_ok_iff.mpr rfl,
    fun _ => exists_ofJson_iff, fun _ _ => ofJson_eq_error_iff,
    fun body _ _ refused => BodyOperation.apply_sourceJson_refused refused body, ?_⟩
  intro start before later noOther
  have shown : ∀ change filter, change.givenSource? = some filter → ∀ document,
      (BodyChange.execute start (before ++ change :: later)).toJson = .ok document →
        ∃ entries, document = .object entries ∧ (Entries.keys entries).Nodup ∧
          Entries.find? "_source" entries = some filter.toJson := by
    intro change filter given document rendered
    exact Body.find?_source_of_toJson (BodyChange.source_of_given given start noOther) rendered
  refine ⟨?_, shown⟩
  intro value source document rendered
  obtain ⟨filter, read⟩ := exists_ofJson_iff.mpr source
  have given : (BodyChange.step (.call (.sourceJson value)) : BodyChange ρ).givenSource? =
      some filter := by
    rw [BodyChange.givenSource?, read]
    rfl
  rw [← ofJson_eq_ok_iff.mp read]
  exact shown _ filter given document rendered

/-- A list of one item stays a list. The value refused after it changes nothing. -/
example :
    (BodyChange.execute .empty
      ([.step (.call (.sourceJson (.array [.string "id"]))),
        .step (.call (.sourceJson (.array [.string "id", .null, .bool true]))),
        .step (.merge .empty), .mergeInto (Body.empty.withSource .disabled)] :
          List (BodyChange Unit))).source = some (.fields ["id"]) :=
  rfl

end SourceFilter

end SearchRequest
