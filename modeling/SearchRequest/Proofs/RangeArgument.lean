/-
The argument that asks for a range. It is a field and, after the first colon, bounds
between commas; a bound is an operator and, after the first equals sign, the text of its
value. A value may hold colons and equals signs of its own, as the time of a day does.

The grammar is given on texts, without the functions that split them, and with it every
way in which an argument may fail to keep to it. All bounds are read before an operator
is looked at, so the first bound that cannot be read comes before all unknown operators.
-/

import SearchRequest.Proofs.FlagReading
import SearchRequest.Proofs.RangeConstruction
import SearchRequest.Proofs.ScalarText

namespace SearchRequest

namespace Text

theorem not_mem_of_mem_splitAll {separator : Char} {text part : List Char}
    (member : part ∈ splitAll separator text) : separator ∉ part := by
  induction text generalizing part with
  | nil =>
      rw [splitAll, List.mem_singleton] at member
      subst member
      exact List.not_mem_nil
  | cons char rest ih =>
      rw [splitAll] at member
      split at member
      · rcases List.mem_cons.mp member with first | later
        · subst first
          exact List.not_mem_nil
        · exact ih later
      · next other =>
          split at member
          · rw [List.mem_singleton] at member
            subst member
            exact fun here => other (List.mem_singleton.mp here).symm
          · next start parts isSplit =>
              rw [isSplit] at ih
              rcases List.mem_cons.mp member with first | later
              · subst first
                intro here
                rcases List.mem_cons.mp here with same | inside
                · exact other same.symm
                · exact ih List.mem_cons_self inside
              · exact ih (List.mem_cons_of_mem start later)

theorem splitAll_of_not_mem {separator : Char} {part : List Char} (absent : separator ∉ part) :
    splitAll separator part = [part] := by
  induction part with
  | nil => rfl
  | cons char rest ih =>
      rw [splitAll, if_neg (List.ne_of_not_mem_cons absent).symm,
        ih (List.not_mem_of_not_mem_cons absent)]

theorem splitAll_append_separator {separator : Char} {part : List Char}
    (absent : separator ∉ part) (rest : List Char) :
    splitAll separator (part ++ separator :: rest) = part :: splitAll separator rest := by
  induction part with
  | nil => exact if_pos rfl
  | cons char start ih =>
      rw [List.cons_append, splitAll, if_neg (List.ne_of_not_mem_cons absent).symm,
        ih (List.not_mem_of_not_mem_cons absent)]

/-- Parts without separators are what their own joining is split into. -/
theorem splitAll_intercalate {separator : Char} {parts : List (List Char)} (filled : parts ≠ [])
    (separated : ∀ part ∈ parts, separator ∉ part) :
    splitAll separator ([separator].intercalate parts) = parts := by
  induction parts with
  | nil => exact absurd rfl filled
  | cons part others ih =>
      obtain ⟨absent, othersSeparated⟩ := List.forall_mem_cons.mp separated
      cases others with
      | nil =>
          rw [List.intercalate_singleton]
          exact splitAll_of_not_mem absent
      | cons next others =>
          rw [List.intercalate_cons_cons, List.append_assoc, List.singleton_append,
            splitAll_append_separator absent, ih (List.cons_ne_nil _ _) othersSeparated]

end Text

namespace CommandLine

/-! ### The grammar -/

/-- The argument is a field and, after the first colon, the texts of bounds between commas. -/
structure DividesInto (raw field : String) (texts : List String) : Prop where
  whole : raw.toList = field.toList ++ ':' :: [','].intercalate (texts.map String.toList)
  first : ':' ∉ field.toList
  named : field ≠ ""
  filled : texts ≠ []
  separated : ∀ text ∈ texts, ',' ∉ text.toList

def IsTruthValue (text : String) (value : Bool) : Prop :=
  Json.SpacedAround (Json.boolText value) text.toList

def IsNumber (text : String) (value : Json.Number) : Prop :=
  ∃ literal, Json.Number.read? literal = some value ∧ Json.SpacedAround literal text.toList

/-- The value that a text stands for: a number if it is one, and otherwise the text itself. -/
inductive Bounds (text : String) : RangeValue → Prop
  | number {value : Json.Number} : IsNumber text value → Bounds text (.ofNumber value)
  | text : (∀ value, ¬ IsNumber text value) → (∀ value, ¬ IsTruthValue text value) →
      Bounds text (.text text)

/-- What comes of a single bound. A truth value bounds nothing. -/
inductive BoundComesOf (raw : String) : Except Failure (String × RangeValue) → Prop
  | malformed :
      (∀ operator text, ¬ PairKind.rangeBound.Reads raw operator text) →
        BoundComesOf raw (.error (.malformedPair .rangeBound raw))
  | truthValue {operator text : String} {value : Bool} :
      PairKind.rangeBound.Reads raw operator text → IsTruthValue text value →
        BoundComesOf raw (.error (.request (.invalidArgument (.rangeValue (.bool value)))))
  | bound {operator text : String} {value : RangeValue} :
      PairKind.rangeBound.Reads raw operator text → Bounds text value →
        BoundComesOf raw (.ok (operator, value))

/-- What comes of a whole argument. An unknown operator counts only where all bounds are read. -/
inductive RangeComesOf (raw : String) : Except Failure (String × RangeBounds) → Prop
  | malformed :
      (∀ field texts, ¬ DividesInto raw field texts) →
        RangeComesOf raw (.error (.malformedPair .range raw))
  | faultyBound {field text : String} {before after : List String} {failure : Failure} :
      DividesInto raw field (before ++ text :: after) →
        (∀ earlier ∈ before, ∃ pair, BoundComesOf earlier (.ok pair)) →
          BoundComesOf text (.error failure) → RangeComesOf raw (.error failure)
  | unknownOperator {field operator : String} {value : RangeValue} {texts : List String}
      {before after : List (String × RangeValue)} :
      DividesInto raw field texts →
        List.Forall₂ (fun text pair => BoundComesOf text (.ok pair)) texts
            (before ++ (operator, value) :: after) →
          (∀ earlier ∈ Entries.keys before, Comparison.IsKey earlier) →
            ¬ Comparison.IsKey operator →
              RangeComesOf raw
                (.error (.invalidRange field (.invalidArgument (.unknownComparison operator))))
  | range {field : String} {bounds : RangeBounds} {texts : List String}
      {pairs : List (String × RangeValue)} :
      DividesInto raw field texts →
        List.Forall₂ (fun text pair => BoundComesOf text (.ok pair)) texts pairs →
          (∀ key ∈ Entries.keys pairs, Comparison.IsKey key) →
            (∀ comparison, bounds.get? comparison =
              Entries.find? comparison.key pairs.reverse) →
                RangeComesOf raw (.ok (field, bounds))

theorem splitPair_eq_error_iff {kind : PairKind} {raw : String} {failure : Failure} :
    splitPair kind raw = .error failure ↔
      failure = .malformedPair kind raw ∧ ∀ key value, ¬ kind.Reads raw key value := by
  constructor
  · intro failed
    constructor
    · unfold splitPair at failed
      split at failed <;> cases failed
      rfl
    · intro key value reads
      rw [splitPair_eq_ok_iff.mpr reads] at failed
      cases failed
  · intro unread
    obtain ⟨same, noReading⟩ := unread
    subst same
    cases outcome : splitPair kind raw with
    | ok pair => exact absurd (splitPair_eq_ok_iff.mp outcome) (noReading pair.1 pair.2)
    | error other =>
        unfold splitPair at outcome
        split at outcome <;> cases outcome
        rfl

theorem scalar_of_isNumber {text : String} {value : Json.Number} (number : IsNumber text value) :
    scalar text = .number value := by
  rw [scalar, Json.ofText?_eq_number_iff.mpr number]

theorem scalar_of_isTruthValue {text : String} {value : Bool} (truth : IsTruthValue text value) :
    scalar text = .bool value := by
  rw [scalar, Json.ofText?_eq_bool_iff.mpr truth]

theorem scalar_of_neither {text : String} (noNumber : ∀ value, ¬ IsNumber text value)
    (noTruth : ∀ value, ¬ IsTruthValue text value) : scalar text = .string text := by
  unfold scalar
  split
  · next value found => exact absurd (Json.ofText?_eq_number_iff.mp found) (noNumber value)
  · next value found => exact absurd (Json.ofText?_eq_bool_iff.mp found) (noTruth value)
  · rfl

theorem parseBound_of_reads {raw operator text : String}
    (reads : PairKind.rangeBound.Reads raw operator text) :
    parseBound raw = ((RangeValue.ofJson (scalar text)).mapError Failure.request).bind
      fun value => .ok (operator, value) := by
  change (splitPair .rangeBound raw).bind _ = _
  rw [splitPair_eq_ok_iff.mpr reads]
  rfl

theorem parseBound_of_comesOf {raw : String} {outcome : Except Failure (String × RangeValue)}
    (comes : BoundComesOf raw outcome) : parseBound raw = outcome := by
  cases comes with
  | malformed unread =>
      change (splitPair .rangeBound raw).bind _ = _
      rw [splitPair_eq_error_iff.mpr ⟨rfl, unread⟩]
      rfl
  | truthValue reads truth =>
      rw [parseBound_of_reads reads, scalar_of_isTruthValue truth]
      rfl
  | bound reads bounds =>
      rw [parseBound_of_reads reads]
      cases bounds with
      | number number =>
          rw [scalar_of_isNumber number]
          rfl
      | text noNumber noTruth =>
          rw [scalar_of_neither noNumber noTruth]
          rfl

theorem exists_boundComesOf (raw : String) : ∃ outcome, BoundComesOf raw outcome := by
  cases split : splitPair .rangeBound raw with
  | error failure => exact ⟨_, .malformed (splitPair_eq_error_iff.mp split).2⟩
  | ok pair =>
      have reads := splitPair_eq_ok_iff.mp split
      by_cases number : ∃ value, IsNumber pair.2 value
      · obtain ⟨value, isNumber⟩ := number
        exact ⟨_, .bound reads (.number isNumber)⟩
      · by_cases truth : ∃ value, IsTruthValue pair.2 value
        · obtain ⟨value, isTruth⟩ := truth
          exact ⟨_, .truthValue reads isTruth⟩
        · exact ⟨_, .bound reads (.text (not_exists.mp number) (not_exists.mp truth))⟩

/-! ### Reading an argument -/

theorem mapM_of_first_error {ε α β : Type} {read : α → Except ε β} {before after : List α}
    {item : α} {error : ε} (each : ∀ earlier ∈ before, ∃ value, read earlier = .ok value)
    (fails : read item = .error error) : (before ++ item :: after).mapM read = .error error := by
  induction before with
  | nil =>
      rw [List.nil_append, List.mapM_cons, fails]
      rfl
  | cons earlier before ih =>
      obtain ⟨⟨value, isValue⟩, later⟩ := List.forall_mem_cons.mp each
      rw [List.cons_append, List.mapM_cons, isValue, ih later]
      rfl

/-- Items have partners of a kind one by one just when they have them as a list. -/
theorem exists_forall₂_iff {α β : Type} {relation : α → β → Prop} {holds : β → Prop}
    {items : List α} :
    (∃ others, List.Forall₂ relation items others ∧ ∀ other ∈ others, holds other) ↔
      ∀ item ∈ items, ∃ other, relation item other ∧ holds other := by
  induction items with
  | nil =>
      constructor
      · exact fun _ _ impossible => nomatch impossible
      · exact fun _ => ⟨[], .nil, fun _ impossible => nomatch impossible⟩
  | cons item items ih =>
      rw [List.forall_mem_cons, ← ih]
      constructor
      · intro found
        obtain ⟨others, related, all⟩ := found
        obtain ⟨other, rest, first, later, same⟩ := List.forall₂_cons_left_iff.mp related
        subst same
        obtain ⟨holdsFirst, holdsLater⟩ := List.forall_mem_cons.mp all
        exact ⟨⟨other, first, holdsFirst⟩, rest, later, holdsLater⟩
      · intro found
        obtain ⟨⟨other, first, holdsFirst⟩, others, later, holdsLater⟩ := found
        refine ⟨other :: others, .cons first later, ?_⟩
        exact List.forall_mem_cons.mpr ⟨holdsFirst, holdsLater⟩

/-- Reading the argument splits it as the grammar says. -/
theorem dividesInto_iff {raw field : String} {texts : List String} :
    DividesInto raw field texts ↔ ∃ spec, splitPair .range raw = .ok (field, spec) ∧
      texts = (Text.splitAll ',' spec.toList).map String.ofList := by
  constructor
  · intro divides
    have isSplit : Text.splitAll ',' ([','].intercalate (texts.map String.toList)) =
        texts.map String.toList := by
      apply Text.splitAll_intercalate
      · exact fun none => divides.filled (List.map_eq_nil_iff.mp none)
      · exact List.forall_mem_map.mpr divides.separated
    refine ⟨String.ofList ([','].intercalate (texts.map String.toList)), ?_, ?_⟩
    · apply splitPair_eq_ok_iff.mpr
      refine ⟨?_, divides.first, divides.named⟩
      rw [String.toList_ofList]
      exact divides.whole
    · rw [String.toList_ofList, isSplit, List.map_map]
      exact (List.map_id'' (fun _ => String.ofList_toList) texts).symm
  · intro found
    obtain ⟨spec, split, same⟩ := found
    have reads := splitPair_eq_ok_iff.mp split
    have unwrapped : texts.map String.toList = Text.splitAll ',' spec.toList := by
      rw [same, List.map_map]
      exact List.map_id'' (fun _ => String.toList_ofList) _
    constructor
    · rw [unwrapped, Text.intercalate_splitAll]
      exact reads.whole
    · exact reads.first
    · exact reads.named
    · intro none
      rw [none] at unwrapped
      exact Text.splitAll_ne_nil ',' spec.toList unwrapped.symm
    · intro text member
      have isPart : text.toList ∈ Text.splitAll ',' spec.toList :=
        unwrapped ▸ List.mem_map_of_mem member
      exact Text.not_mem_of_mem_splitAll isPart

theorem parseRange_of_dividesInto {raw field : String} {texts : List String}
    (divides : DividesInto raw field texts) :
    parseRange raw = (texts.mapM parseBound).bind fun pairs =>
      ((RangeBounds.ofPairs pairs).mapError (Failure.invalidRange field)).bind fun bounds =>
        .ok (field, bounds) := by
  obtain ⟨spec, split, same⟩ := dividesInto_iff.mp divides
  change (splitPair .range raw).bind _ = _
  rw [split, same, List.mapM_map]
  rfl

theorem parseRange_of_comesOf {raw : String} {outcome : Except Failure (String × RangeBounds)}
    (comes : RangeComesOf raw outcome) : parseRange raw = outcome := by
  cases comes with
  | malformed undivided =>
      have unread : ∀ field spec, ¬ PairKind.range.Reads raw field spec := by
        intro field spec reads
        exact undivided field _ (dividesInto_iff.mpr ⟨spec, splitPair_eq_ok_iff.mpr reads, rfl⟩)
      change (splitPair .range raw).bind _ = _
      rw [splitPair_eq_error_iff.mpr ⟨rfl, unread⟩]
      rfl
  | @faultyBound field text before after failure divides each fails =>
      have earlierRead : ∀ earlier ∈ before, ∃ pair, parseBound earlier = .ok pair := by
        intro earlier member
        obtain ⟨pair, comes⟩ := each earlier member
        exact ⟨pair, parseBound_of_comesOf comes⟩
      rw [parseRange_of_dividesInto divides,
        mapM_of_first_error earlierRead (parseBound_of_comesOf fails)]
      rfl
  | unknownOperator divides read known unknown =>
      have pairs := mapM_eq_ok_iff.mpr (read.imp fun _ _ => parseBound_of_comesOf)
      rw [parseRange_of_dividesInto divides, pairs]
      change ((RangeBounds.ofPairs _).mapError _).bind _ = _
      rw [RangeBounds.ofPairs_unknown known unknown]
      rfl
  | range divides read known last =>
      have pairs := mapM_eq_ok_iff.mpr (read.imp fun _ _ => parseBound_of_comesOf)
      rw [parseRange_of_dividesInto divides, pairs]
      change ((RangeBounds.ofPairs _).mapError _).bind _ = _
      rw [RangeBounds.ofPairs_of_last known last]
      rfl

theorem exists_rangeComesOf (raw : String) : ∃ outcome, RangeComesOf raw outcome := by
  by_cases divided : ∃ field texts, DividesInto raw field texts
  · obtain ⟨field, texts, divides⟩ := divided
    rcases forall_or_first_not (fun text => ∃ pair, BoundComesOf text (.ok pair)) texts with
      allRead | failed
    · have partners : ∀ text ∈ texts, ∃ pair, BoundComesOf text (.ok pair) ∧ True :=
        fun text member => (allRead text member).imp fun _ comes => ⟨comes, trivial⟩
      obtain ⟨pairs, read, _⟩ := exists_forall₂_iff.mpr partners
      rcases forall_or_first_not (fun pair => Comparison.IsKey pair.1) pairs with known | found
      · have knownKeys : ∀ key ∈ Entries.keys pairs, Comparison.IsKey key :=
          List.forall_mem_map.mpr known
        obtain ⟨bounds, _, _, last⟩ := RangeBounds.get?_ofPairs knownKeys
        exact ⟨_, .range divides read knownKeys last⟩
      · obtain ⟨before, pair, after, parts, passed, unknown⟩ := found
        rw [parts] at read
        exact ⟨_, .unknownOperator divides read (List.forall_mem_map.mpr passed) unknown⟩
    · obtain ⟨before, text, after, parts, passed, unread⟩ := failed
      obtain ⟨outcome, comes⟩ := exists_boundComesOf text
      cases outcome with
      | ok pair => exact absurd ⟨pair, comes⟩ unread
      | error failure => exact ⟨_, .faultyBound (parts ▸ divides) passed comes⟩
  · exact ⟨_, .malformed fun field texts divides => divided ⟨field, texts, divides⟩⟩

theorem parseRange_eq_iff {raw : String} {outcome : Except Failure (String × RangeBounds)} :
    parseRange raw = outcome ↔ RangeComesOf raw outcome := by
  constructor
  · intro same
    obtain ⟨found, comes⟩ := exists_rangeComesOf raw
    rwa [← same, parseRange_of_comesOf comes]
  · exact parseRange_of_comesOf

theorem not_isTruthValue_of_bounds {text : String} {value : RangeValue}
    (bounds : Bounds text value) (flag : Bool) : ¬ IsTruthValue text flag := by
  cases bounds with
  | number number =>
      intro truth
      have both := (scalar_of_isNumber number).symm.trans (scalar_of_isTruthValue truth)
      cases both
  | text _ noTruth => exact noTruth flag

theorem exists_known_bound_iff {raw : String} :
    (∃ pair, BoundComesOf raw (.ok pair) ∧ Comparison.IsKey pair.1) ↔
      ∃ operator text, PairKind.rangeBound.Reads raw operator text ∧
        Comparison.IsKey operator ∧ ∀ flag, ¬ IsTruthValue text flag := by
  constructor
  · intro found
    obtain ⟨pair, comes, known⟩ := found
    cases comes with
    | bound reads bounds => exact ⟨_, _, reads, known, not_isTruthValue_of_bounds bounds⟩
  · intro found
    obtain ⟨operator, text, reads, known, noTruth⟩ := found
    by_cases number : ∃ value, IsNumber text value
    · obtain ⟨value, isNumber⟩ := number
      exact ⟨_, .bound reads (.number isNumber), known⟩
    · exact ⟨_, .bound reads (.text (not_exists.mp number) noTruth), known⟩

theorem exists_range_iff {raw : String} :
    (∃ field bounds, parseRange raw = .ok (field, bounds)) ↔
      ∃ field texts, DividesInto raw field texts ∧
        ∀ text ∈ texts, ∃ operator value, PairKind.rangeBound.Reads text operator value ∧
          Comparison.IsKey operator ∧ ∀ flag, ¬ IsTruthValue value flag := by
  simp only [← exists_known_bound_iff, ← exists_forall₂_iff, parseRange_eq_iff]
  constructor
  · intro found
    obtain ⟨field, bounds, comes⟩ := found
    cases comes with
    | range divides read known _ =>
        exact ⟨field, _, divides, _, read, List.forall_mem_map.mp known⟩
  · intro found
    obtain ⟨field, texts, divides, pairs, read, known⟩ := found
    have knownKeys : ∀ key ∈ Entries.keys pairs, Comparison.IsKey key :=
      List.forall_mem_map.mpr known
    obtain ⟨bounds, _, _, last⟩ := RangeBounds.get?_ofPairs knownKeys
    exact ⟨field, bounds, .range divides read knownKeys last⟩

/-- An argument has at least one bound, so some bound is always set. -/
theorem isEmpty_of_parseRange {raw field : String} {bounds : RangeBounds}
    (parsed : parseRange raw = .ok (field, bounds)) : bounds.isEmpty = false := by
  cases parseRange_eq_iff.mp parsed with
  | range divides read known last =>
      obtain ⟨collected, isCollected, filled, _⟩ := RangeBounds.get?_ofPairs known
      cases isCollected.symm.trans (RangeBounds.ofPairs_of_last known last)
      apply filled
      intro none
      rw [none, List.forall₂_nil_right_iff] at read
      exact divides.filled read

/--
An argument is accepted just when it keeps to the grammar, with known operators and without
truth values, and each bound is then the last value of its operator. What is refused fails by
the first fault in it. An accepted range can only be refused later for a blank field.
-/
theorem parseRange_keeps_to_grammar (raw : String) :
    ((∃ field bounds, parseRange raw = .ok (field, bounds)) ↔
        ∃ field texts, DividesInto raw field texts ∧
          ∀ text ∈ texts, ∃ operator value, PairKind.rangeBound.Reads text operator value ∧
            Comparison.IsKey operator ∧ ∀ flag, ¬ IsTruthValue value flag) ∧
      (∀ outcome, parseRange raw = outcome ↔ RangeComesOf raw outcome) ∧
      ∀ field bounds, parseRange raw = .ok (field, bounds) →
        bounds.isEmpty = false ∧
          ∀ error, RangeClause.build field bounds = .error error ↔
            Text.trim field = "" ∧ error = .invalidArgument .blankRangeField := by
  refine ⟨exists_range_iff, fun _ => parseRange_eq_iff, ?_⟩
  intro field bounds parsed
  have filled := isEmpty_of_parseRange parsed
  refine ⟨filled, ?_⟩
  intro error
  by_cases blank : Text.trim field = ""
  · rw [RangeClause.build_trimmed blank, Except.error.injEq, and_iff_right blank]
    exact eq_comm
  · rw [RangeClause.build_eq_ok (RangeClause.isBlank_of_trim blank) filled]
    constructor
    · intro failed
      cases failed
    · intro refused
      exact absurd refused.1 blank

/-- The value of a bound may hold separators; its operator may be given again. -/
example :
    parseRange "at:gte=2026-03-01T08:30,lt= 7,lt=a=b" =
      .ok ("at", { gte := some (.text "2026-03-01T08:30"), lt := some (.text "a=b") }) :=
  rfl

end CommandLine

end SearchRequest
