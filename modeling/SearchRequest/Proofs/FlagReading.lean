/-
How the flags of a command are read, and how that fails. A failure is one of the command
itself, or it passes on an error about one argument; errors about the shape of clauses or
aggregations do not come up in reading.
-/

import SearchRequest.CommandLine.Assembly
import SearchRequest.Proofs.AggregationFragments
import SearchRequest.Proofs.LeafFragments

namespace SearchRequest

theorem mapError_eq_ok_iff {α ε δ : Type} {outcome : Except ε α} {wrap : ε → δ} {value : α} :
    outcome.mapError wrap = .ok value ↔ outcome = .ok value := by
  cases outcome with
  | error found => exact ⟨nofun, nofun⟩
  | ok found =>
      constructor
      · intro same
        cases same
        rfl
      · intro same
        cases same
        rfl

theorem mapM_eq_ok_iff {ε α β : Type} {read : α → Except ε β} {items : List α} {values : List β} :
    items.mapM read = .ok values ↔
      List.Forall₂ (fun item value => read item = .ok value) items values := by
  induction items generalizing values with
  | nil =>
      rw [List.forall₂_nil_left_iff]
      constructor
      · intro same
        cases same
        rfl
      · intro same
        cases same
        rfl
  | cons item items ih =>
      rw [List.mapM_cons, List.forall₂_cons_left_iff]
      constructor
      · intro read
        obtain ⟨value, isValue, laterRead⟩ := bind_eq_ok_iff.mp read
        obtain ⟨later, isLater, same⟩ := bind_eq_ok_iff.mp laterRead
        cases same
        exact ⟨value, later, isValue, ih.mp isLater, rfl⟩
      · intro parts
        obtain ⟨value, later, isValue, isLater, same⟩ := parts
        subst same
        exact bind_eq_ok_iff.mpr ⟨value, isValue, bind_eq_ok_iff.mpr ⟨later, ih.mpr isLater, rfl⟩⟩

namespace CommandLine

/-- The error of the request that the failure reports, unless it is one of the command itself. -/
def Failure.error? : Failure → Option RequestError
  | .invalidRange _ error | .windowExceeded error | .request error => some error
  | .blankScriptLanguage | .malformedPair _ _ => none

/-- No error of the outcome concerns the shape of clauses or aggregations. -/
def FailsPlainly {α : Type} (outcome : Except RequestError α) : Prop :=
  ∀ error, outcome = .error error → error.isStructural = false

/-- A failure that passes on an error passes on a plain one. -/
def NeverStructural {α : Type} (outcome : Except Failure α) : Prop :=
  ∀ failure error, outcome = .error failure → failure.error? = some error →
    error.isStructural = false

namespace NeverStructural

variable {α β : Type}

theorem ok (value : α) : NeverStructural (.ok value) := by
  intro failure error impossible
  cases impossible

theorem bind {outcome : Except Failure α} {next : α → Except Failure β}
    (first : NeverStructural outcome) (later : ∀ value, NeverStructural (next value)) :
    NeverStructural (outcome.bind next) := by
  cases outcome with
  | error found =>
      intro failure error same
      cases same
      exact first found error rfl
  | ok value => exact later value

theorem map {outcome : Except Failure α} (first : NeverStructural outcome) (transform : α → β) :
    NeverStructural (outcome.map transform) := by
  cases outcome with
  | error found =>
      intro failure error same
      cases same
      exact first found error rfl
  | ok value => exact ok _

theorem mapError {outcome : Except RequestError α} {wrap : RequestError → Failure}
    (wraps : ∀ error, (wrap error).error? = some error)
    (plain : FailsPlainly outcome) : NeverStructural (outcome.mapError wrap) := by
  cases outcome with
  | error found =>
      intro failure error same reported
      cases same
      rw [wraps found] at reported
      cases reported
      exact plain found rfl
  | ok value => exact ok value

theorem mapM {read : α → Except Failure β} (each : ∀ item, NeverStructural (read item))
    (items : List α) : NeverStructural (items.mapM read) := by
  induction items with
  | nil => exact ok []
  | cons item items ih =>
      rw [List.mapM_cons]
      exact bind (each item) fun value => bind ih fun values => ok (value :: values)

theorem foldlM {step : β → α → Except Failure β}
    (each : ∀ reached item, NeverStructural (step reached item)) (items : List α) (start : β) :
    NeverStructural (items.foldlM step start) := by
  induction items generalizing start with
  | nil => exact ok start
  | cons item items ih =>
      rw [List.foldlM_cons]
      exact bind (each start item) fun reached => ih reached

end NeverStructural

theorem splitPair_neverStructural (kind : PairKind) (raw : String) :
    NeverStructural (splitPair kind raw) := by
  unfold splitPair
  split
  · exact .ok _
  · intro failure error same reported
    cases same
    cases reported

theorem rangeValue_failsPlainly (value : Json) : FailsPlainly (RangeValue.ofJson value) := by
  intro error failed
  unfold RangeValue.ofJson at failed
  split at failed <;> cases failed
  rfl

theorem rangeBounds_failsPlainly (pairs : List (String × RangeValue)) :
    FailsPlainly (RangeBounds.ofPairs pairs) := by
  intro error failed
  unfold RangeBounds.ofPairs at failed
  generalize RangeBounds.unbounded = bounds at failed
  induction pairs generalizing bounds with
  | nil => cases failed
  | cons pair pairs ih =>
      obtain ⟨key, value⟩ := pair
      rw [List.foldlM_cons] at failed
      change (RangeBounds.setKey bounds key value).bind _ = .error error at failed
      cases set : RangeBounds.setKey bounds key value with
      | ok next =>
          rw [set] at failed
          exact ih next failed
      | error found =>
          rw [set] at failed
          cases failed
          unfold RangeBounds.setKey at set
          split at set <;> cases set
          rfl

theorem rangeClause_failsPlainly (field : String) (bounds : RangeBounds) :
    FailsPlainly (RangeClause.build field bounds) := by
  intro error failed
  unfold RangeClause.build at failed
  split at failed
  · cases failed
    rfl
  · split at failed <;> cases failed
    rfl

theorem sortOrder_failsPlainly (text : String) : FailsPlainly (SortOrder.parse text) := by
  intro error failed
  simp only [SortOrder.parse] at failed
  split at failed <;> cases failed
  rfl

theorem parseRange_neverStructural (raw : String) : NeverStructural (parseRange raw) := by
  apply NeverStructural.bind (splitPair_neverStructural .range raw)
  intro parts
  apply NeverStructural.bind
  · apply NeverStructural.mapM
    intro part
    apply NeverStructural.bind (splitPair_neverStructural .rangeBound _)
    intro bound
    exact .bind (.mapError (fun _ => rfl) (rangeValue_failsPlainly _)) fun _ => .ok _
  · intro pairs
    exact .bind (.mapError (fun _ => rfl) (rangeBounds_failsPlainly pairs)) fun _ => .ok _

theorem sortBy_neverStructural (arguments : Arguments) : NeverStructural (sortBy arguments) := by
  apply NeverStructural.foldlM
  intro sorting raw
  refine .bind ?_ fun _ => .ok _
  unfold parseSort
  split
  · exact .ok _
  · exact .bind (.mapError (fun _ => rfl) (sortOrder_failsPlainly _)) fun _ => .ok _

/-- How a text is read as a key and a value: the first separator is the one that counts. -/
structure PairKind.Reads (kind : PairKind) (raw key value : String) : Prop where
  whole : raw.toList = key.toList ++ kind.separator :: value.toList
  first : kind.separator ∉ key.toList
  named : key ≠ ""

theorem splitPair_eq_ok_iff {kind : PairKind} {raw key value : String} :
    splitPair kind raw = .ok (key, value) ↔ kind.Reads raw key value := by
  constructor
  · intro split
    unfold splitPair at split
    split at split
    · next char start rest found =>
        cases split
        obtain ⟨whole, first⟩ := Text.splitOnce?_eq_some_iff.mp found
        refine ⟨?_, ?_, ?_⟩
        · rw [String.toList_ofList, String.toList_ofList]
          exact whole
        · rw [String.toList_ofList]
          exact first
        · intro blank
          have noChars := congrArg String.toList blank
          rw [String.toList_ofList] at noChars
          cases noChars
    · cases split
  · intro reads
    have found := Text.splitOnce?_eq_some_iff.mpr ⟨reads.whole, reads.first⟩
    unfold splitPair
    rw [found]
    cases chars : key.toList with
    | nil => exact absurd (String.toList_eq_nil_iff.mp chars) reads.named
    | cons char start =>
        change Except.ok (String.ofList (char :: start), String.ofList value.toList) = _
        rw [← chars, String.ofList_toList, String.ofList_toList]

/-- How one bound of a range is read: its value is a number if its text is one. -/
def BoundReads (part : List Char) (pair : String × RangeValue) : Prop :=
  ∃ text, PairKind.rangeBound.Reads (String.ofList part) pair.1 text ∧
    RangeValue.ofJson (scalar text) = .ok pair.2

/-- How a text is read as a field and its bounds, one for each part between commas. -/
def RangeReads (raw field : String) (bounds : RangeBounds) : Prop :=
  ∃ spec pairs, PairKind.range.Reads raw field spec ∧
    List.Forall₂ BoundReads (Text.splitAll ',' spec.toList) pairs ∧
      RangeBounds.ofPairs pairs = .ok bounds

theorem boundReads_of_parseBound {part : List Char} {pair : String × RangeValue}
    (parsed : parseBound (String.ofList part) = .ok pair) : BoundReads part pair := by
  obtain ⟨⟨key, text⟩, split, valued⟩ := bind_eq_ok_iff.mp parsed
  obtain ⟨value, isValue, same⟩ := bind_eq_ok_iff.mp valued
  cases same
  exact ⟨text, splitPair_eq_ok_iff.mp split, mapError_eq_ok_iff.mp isValue⟩

theorem rangeReads_of_parseRange {raw field : String} {bounds : RangeBounds}
    (parsed : parseRange raw = .ok (field, bounds)) : RangeReads raw field bounds := by
  obtain ⟨⟨name, spec⟩, split, afterSplit⟩ := bind_eq_ok_iff.mp parsed
  obtain ⟨pairs, isPairs, afterPairs⟩ := bind_eq_ok_iff.mp afterSplit
  obtain ⟨found, isFound, same⟩ := bind_eq_ok_iff.mp afterPairs
  cases same
  refine ⟨spec, pairs, splitPair_eq_ok_iff.mp split, ?_, mapError_eq_ok_iff.mp isFound⟩
  exact (mapM_eq_ok_iff.mp isPairs).imp fun part pair => boundReads_of_parseBound

end CommandLine

end SearchRequest
