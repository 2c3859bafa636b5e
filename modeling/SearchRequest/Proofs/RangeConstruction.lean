/-
How a range comes of a field and of values under keys. The keys are looked at first,
then the field, then whether there is any value; the first check that fails is the
error. A range that passes has the last value of each key as its bound.

Values under different keys never meet. Only the order under each key counts, and the
bounds come out in their own order, whatever the order of the keys was.
-/

import Mathlib.Data.List.DropRight
import Mathlib.Data.List.TakeWhile
import Mathlib.Data.Set.List
import SearchRequest.Proofs.BoundValues

namespace SearchRequest

namespace Text

/-- The text without the white space at both of its ends. -/
def trim (text : String) : String :=
  String.ofList ((text.toList.dropWhile isWhiteSpace).rdropWhile isWhiteSpace)

theorem isBlank_iff_trim (text : String) : isBlank text = true ↔ trim text = "" := by
  have whole : text.toList.takeWhile isWhiteSpace ++ text.toList.dropWhile isWhiteSpace =
      text.toList := List.takeWhile_append_dropWhile
  rw [isBlank, List.all_eq_true, trim, String.ofList_eq_empty_iff, List.rdropWhile_eq_nil_iff]
  constructor
  · intro white char member
    exact white char ((List.dropWhile_sublist isWhiteSpace).subset member)
  · intro white char member
    rw [← whole] at member
    rcases List.mem_append.mp member with start | rest
    · exact List.mem_takeWhile_imp start
    · exact white char rest

end Text

def Comparison.IsKey (key : String) : Prop :=
  ∃ comparison : Comparison, comparison.key = key

namespace RangeBounds

theorem setKey_of_not_isKey {key : String} (unknown : ¬ Comparison.IsKey key)
    (bounds : RangeBounds) (value : RangeValue) :
    setKey bounds key value = .error (.invalidArgument (.unknownComparison key)) := by
  have noComparison : Comparison.ofKey? key = none := by
    apply List.find?_eq_none.mpr
    intro comparison _ isKey
    exact unknown ⟨comparison, eq_of_beq isKey⟩
  rw [setKey, noComparison]

/-- The first unknown key is the error, whatever comes after it. -/
theorem ofPairs_unknown {before after : List (String × RangeValue)} {key : String}
    (known : ∀ earlier ∈ Entries.keys before, Comparison.IsKey earlier)
    (unknown : ¬ Comparison.IsKey key) (value : RangeValue) :
    ofPairs (before ++ (key, value) :: after) =
      .error (.invalidArgument (.unknownComparison key)) := by
  obtain ⟨bounds, collected, _⟩ := foldlM_setKey known unbounded
  rw [ofPairs, List.foldlM_append, collected]
  change ((setKey bounds key value).bind fun bounds => _) = _
  rw [setKey_of_not_isKey unknown]
  rfl

/-- Pairs with known keys are settings of the bounds that the keys stand for. -/
theorem exists_settings {pairs : List (String × RangeValue)}
    (known : ∀ key ∈ Entries.keys pairs, Comparison.IsKey key) :
    ∃ settings : List (Comparison × RangeValue),
      settings.map (fun setting => (setting.1.key, setting.2)) = pairs := by
  change pairs ∈ Set.range (List.map _)
  rw [Set.range_list_map]
  intro pair member
  obtain ⟨comparison, isKey⟩ := known pair.1 (List.mem_map_of_mem member)
  exact ⟨(comparison, pair.2), Prod.ext isKey rfl⟩

theorem ofPairs_settings (settings : List (Comparison × RangeValue)) :
    ofPairs (settings.map fun setting => (setting.1.key, setting.2)) =
      .ok (settings.foldl (fun bounds setting => bounds.set setting.1 setting.2) unbounded) := by
  unfold ofPairs
  generalize unbounded = start
  induction settings generalizing start with
  | nil => rfl
  | cons setting settings ih =>
      have set : setKey start setting.1.key setting.2 = .ok (start.set setting.1 setting.2) := by
        rw [setKey, Comparison.ofKey?_key]
      rw [List.map_cons, List.foldlM_cons, List.foldl_cons]
      change (setKey start setting.1.key setting.2).bind _ = _
      rw [set]
      exact ih (start.set setting.1 setting.2)

/-- Bounds that are the last values of their keys are what the pairs are collected to. -/
theorem ofPairs_of_last {bounds : RangeBounds} {pairs : List (String × RangeValue)}
    (known : ∀ key ∈ Entries.keys pairs, Comparison.IsKey key)
    (last : ∀ comparison, bounds.get? comparison = Entries.find? comparison.key pairs.reverse) :
    ofPairs pairs = .ok bounds := by
  obtain ⟨collected, isCollected, _, collectedLast⟩ := get?_ofPairs known
  have sameBounds : collected = bounds := by
    apply eq_of_get?_eq
    intro comparison
    rw [collectedLast, last]
  rw [isCollected, sameBounds]

theorem isSome_get?_iff {bounds : RangeBounds} {pairs : List (String × RangeValue)}
    (last : ∀ comparison, bounds.get? comparison = Entries.find? comparison.key pairs.reverse)
    (comparison : Comparison) :
    (bounds.get? comparison).isSome = true ↔ comparison.key ∈ Entries.keys pairs := by
  have absent := Entries.find?_eq_none_iff comparison.key pairs.reverse
  rw [Entries.keys, List.map_reverse, List.mem_reverse, ← last] at absent
  rw [Option.isSome_iff_ne_none, ne_eq, absent, not_not]
  rfl

/-- The bounds are written in their own order. -/
theorem keys_entries {bounds : RangeBounds} {pairs : List (String × RangeValue)}
    (last : ∀ comparison, bounds.get? comparison = Entries.find? comparison.key pairs.reverse) :
    Entries.keys bounds.entries =
      ["gt", "gte", "lt", "lte"].filter fun key => key ∈ Entries.keys pairs := by
  have sameChoice : ∀ comparison ∈ Comparison.all,
      ((bounds.get? comparison).map RangeValue.toJson).isSome =
        decide (comparison.key ∈ Entries.keys pairs) := by
    intro comparison _
    rw [Option.isSome_map, Bool.eq_iff_iff, isSome_get?_iff last, decide_eq_true_iff]
  calc
    Entries.keys bounds.entries
        = (Comparison.all.filter fun comparison =>
            ((bounds.get? comparison).map RangeValue.toJson).isSome).map Comparison.key :=
          Entries.keys_flatMap_optional Comparison.key _ Comparison.all
    _ = (Comparison.all.filter fun comparison =>
            decide (comparison.key ∈ Entries.keys pairs)).map Comparison.key := by
          rw [List.filter_congr sameChoice]
    _ = (Comparison.all.map Comparison.key).filter fun key => key ∈ Entries.keys pairs := by
          rw [List.filter_map]
          rfl

end RangeBounds

/-- The pairs under each key are the same, and in the same order. -/
def InSameOrderByKey {α : Type} (pairs others : List (String × α)) : Prop :=
  ∀ key, (pairs.filter fun pair => pair.1 = key) = others.filter fun pair => pair.1 = key

namespace InSameOrderByKey

variable {α : Type} {pairs others : List (String × α)}

theorem mem_iff (same : InSameOrderByKey pairs others) (pair : String × α) :
    pair ∈ pairs ↔ pair ∈ others := by
  have underKey := congrArg (pair ∈ ·) (same pair.1)
  simpa only [List.mem_filter, decide_true, and_true, eq_iff_iff] using underKey

theorem mem_keys_iff (same : InSameOrderByKey pairs others) (key : String) :
    key ∈ Entries.keys pairs ↔ key ∈ Entries.keys others := by
  simp only [Entries.keys, List.mem_map, same.mem_iff]

theorem find?_reverse (same : InSameOrderByKey pairs others) (key : String) :
    Entries.find? key pairs.reverse = Entries.find? key others.reverse := by
  rw [← Entries.find?_filter_key key pairs.reverse, ← Entries.find?_filter_key key others.reverse,
    List.filter_reverse, List.filter_reverse, same key]

end InSameOrderByKey

/-! ### Ranges -/

namespace RangeClause

theorem ofPairs_eq_bind (field : String) (pairs : List (String × RangeValue)) :
    ofPairs field pairs = (RangeBounds.ofPairs pairs).bind (build field) :=
  rfl

/-- What comes of a field and of values under keys, each check coming after the ones above it. -/
inductive ComesOf (field : String) (pairs : List (String × RangeValue)) :
    Except RequestError RangeClause → Prop
  | unknownKey {before after : List (String × RangeValue)} {key : String} {value : RangeValue} :
      pairs = before ++ (key, value) :: after →
        (∀ earlier ∈ Entries.keys before, Comparison.IsKey earlier) → ¬ Comparison.IsKey key →
          ComesOf field pairs (.error (.invalidArgument (.unknownComparison key)))
  | blankField :
      (∀ key ∈ Entries.keys pairs, Comparison.IsKey key) → Text.trim field = "" →
        ComesOf field pairs (.error (.invalidArgument .blankRangeField))
  | noBound :
      pairs = [] → Text.trim field ≠ "" →
        ComesOf field pairs (.error (.invalidArgument .noRangeBound))
  | range {range : RangeClause} :
      (∀ key ∈ Entries.keys pairs, Comparison.IsKey key) → Text.trim field ≠ "" → pairs ≠ [] →
        range.field = field →
          (∀ comparison, range.bounds.get? comparison =
            Entries.find? comparison.key pairs.reverse) →
              ComesOf field pairs (.ok range)

theorem build_trimmed {field : String} (blank : Text.trim field = "") (bounds : RangeBounds) :
    build field bounds = .error (.invalidArgument .blankRangeField) :=
  build_blank ((Text.isBlank_iff_trim field).mpr blank) bounds

theorem isBlank_of_trim {field : String} (notBlank : Text.trim field ≠ "") :
    Text.isBlank field = false :=
  Bool.eq_false_iff.mpr fun blank => notBlank ((Text.isBlank_iff_trim field).mp blank)

theorem comesOf_ofPairs (field : String) (pairs : List (String × RangeValue)) :
    ComesOf field pairs (ofPairs field pairs) := by
  rw [ofPairs_eq_bind]
  rcases forall_or_first_not (fun pair => Comparison.IsKey pair.1) pairs with known | found
  · have knownKeys : ∀ key ∈ Entries.keys pairs, Comparison.IsKey key :=
      List.forall_mem_map.mpr known
    obtain ⟨bounds, collected, filled, last⟩ := RangeBounds.get?_ofPairs knownKeys
    rw [collected]
    change ComesOf field pairs (build field bounds)
    by_cases blank : Text.trim field = ""
    · rw [build_trimmed blank]
      exact .blankField knownKeys blank
    · have notBlank := isBlank_of_trim blank
      by_cases none : pairs = []
      · subst none
        cases collected
        rw [build_unbounded notBlank rfl]
        exact .noBound rfl blank
      · rw [build_eq_ok notBlank (filled none)]
        exact .range knownKeys blank none rfl last
  · obtain ⟨before, pair, after, parts, passed, unknown⟩ := found
    have known : ∀ earlier ∈ Entries.keys before, Comparison.IsKey earlier :=
      List.forall_mem_map.mpr passed
    have failed : RangeBounds.ofPairs pairs =
        .error (.invalidArgument (.unknownComparison pair.1)) := by
      rw [parts]
      exact RangeBounds.ofPairs_unknown known unknown pair.2
    rw [failed]
    exact .unknownKey parts known unknown

theorem ofPairs_of_comesOf {field : String} {pairs : List (String × RangeValue)}
    {outcome : Except RequestError RangeClause} (comes : ComesOf field pairs outcome) :
    ofPairs field pairs = outcome := by
  rw [ofPairs_eq_bind]
  cases comes with
  | unknownKey parts known unknown =>
      rw [parts, RangeBounds.ofPairs_unknown known unknown]
      rfl
  | blankField known blank =>
      obtain ⟨bounds, collected, _⟩ := RangeBounds.get?_ofPairs known
      rw [collected]
      exact build_trimmed blank bounds
  | noBound none notBlank =>
      subst none
      exact build_unbounded (isBlank_of_trim notBlank) rfl
  | @range range known notBlank _ sameField last =>
      rw [RangeBounds.ofPairs_of_last known last]
      exact build_eq_ok_iff.mpr ⟨isBlank_of_trim notBlank, sameField, rfl⟩

theorem ofPairs_reordered {pairs others : List (String × RangeValue)}
    (known : ∀ key ∈ Entries.keys pairs, Comparison.IsKey key)
    (same : InSameOrderByKey pairs others) (field : String) :
    ofPairs field others = ofPairs field pairs := by
  have othersKnown : ∀ key ∈ Entries.keys others, Comparison.IsKey key :=
    fun key member => known key ((same.mem_keys_iff key).mpr member)
  obtain ⟨bounds, collected, _, last⟩ := RangeBounds.get?_ofPairs known
  have lastOfOthers : ∀ comparison,
      bounds.get? comparison = Entries.find? comparison.key others.reverse := by
    intro comparison
    rw [last, same.find?_reverse]
  rw [ofPairs_eq_bind, ofPairs_eq_bind, collected,
    RangeBounds.ofPairs_of_last othersKnown lastOfOthers]

theorem toJson_of_comesOf {field : String} {pairs : List (String × RangeValue)}
    {range : RangeClause} (comes : ComesOf field pairs (.ok range)) :
    (Leaf.range range).toJson =
        .single "range" (.single field (.object range.bounds.entries)) ∧
      Entries.keys range.bounds.entries =
        ["gt", "gte", "lt", "lte"].filter fun key => key ∈ Entries.keys pairs := by
  cases comes with
  | range _ _ _ sameField last =>
      subst sameField
      exact ⟨rfl, RangeBounds.keys_entries last⟩

/--
An unknown key comes first among the errors, then a blank field, then a lack of bounds. Known
keys may be reordered as long as each keeps the order of its own values; the outcome is that of
setting the bounds one after the other, and it is written in the fixed order of the bounds.
-/
theorem ofPairs_checks_in_order (field : String) (pairs : List (String × RangeValue)) :
    (∀ outcome, ofPairs field pairs = outcome ↔ ComesOf field pairs outcome) ∧
      (∀ range, ofPairs field pairs = .ok range →
        (Leaf.range range).toJson =
            .single "range" (.single field (.object range.bounds.entries)) ∧
          Entries.keys range.bounds.entries =
            ["gt", "gte", "lt", "lte"].filter fun key => key ∈ Entries.keys pairs) ∧
      ((∀ key ∈ Entries.keys pairs, Comparison.IsKey key) →
        (∀ others, InSameOrderByKey pairs others → ofPairs field others = ofPairs field pairs) ∧
          ∃ settings : List (Comparison × RangeValue),
            settings.map (fun setting => (setting.1.key, setting.2)) = pairs ∧
              ofPairs field pairs = build field
                (settings.foldl (fun bounds setting => bounds.set setting.1 setting.2)
                  .unbounded)) := by
  refine ⟨?_, ?_, ?_⟩
  · intro outcome
    constructor
    · intro same
      exact same ▸ comesOf_ofPairs field pairs
    · exact ofPairs_of_comesOf
  · intro range made
    exact toJson_of_comesOf (made ▸ comesOf_ofPairs field pairs)
  · intro known
    refine ⟨fun others same => ofPairs_reordered known same field, ?_⟩
    obtain ⟨settings, same⟩ := RangeBounds.exists_settings known
    refine ⟨settings, same, ?_⟩
    rw [ofPairs_eq_bind, ← same, RangeBounds.ofPairs_settings]
    rfl

/-- The upper limit is given twice. -/
def workingAge : List (String × RangeValue) :=
  [("lte", .long 65), ("gte", .long 18), ("lte", .text "now")]

def workingAgeFromBelow : List (String × RangeValue) :=
  [("gte", .long 18), ("lte", .long 65), ("lte", .text "now")]

theorem ofPairs_checks_in_order_workingAge :
    InSameOrderByKey workingAge workingAgeFromBelow ∧
      ofPairs " age" workingAgeFromBelow = ofPairs " age" workingAge ∧
      (∃ range, ofPairs " age" workingAge = .ok range ∧
        range.bounds.get? .lte = some (.text "now") ∧
        Entries.keys range.bounds.entries = ["gte", "lte"]) ∧
      ofPairs "\t" (workingAge ++ [("from", .long 0), ("to", .long 1)]) =
        .error (.invalidArgument (.unknownComparison "from")) := by
  have known : ∀ key ∈ Entries.keys workingAge, Comparison.IsKey key := by
    intro key member
    change key ∈ ["lte", "gte", "lte"] at member
    simp only [List.mem_cons, List.not_mem_nil, or_false] at member
    rcases member with same | same | same
    · exact ⟨.lte, same.symm⟩
    · exact ⟨.gte, same.symm⟩
    · exact ⟨.lte, same.symm⟩
  have reordered : InSameOrderByKey workingAge workingAgeFromBelow := by
    intro key
    by_cases upper : "lte" = key
    · subst upper
      rfl
    · by_cases lower : "gte" = key
      · subst lower
        rfl
      · simp [workingAge, workingAgeFromBelow, upper, lower]
  obtain ⟨_, fragment, fixedOrder⟩ := ofPairs_checks_in_order " age" workingAge
  have made : ∃ range, ofPairs " age" workingAge = .ok range ∧
      range.bounds.get? .lte = some (.text "now") := ⟨_, rfl, rfl⟩
  obtain ⟨range, isRange, upper⟩ := made
  have unknown : ¬ Comparison.IsKey "from" := by
    intro isKey
    obtain ⟨comparison, same⟩ := isKey
    cases comparison <;> exact absurd same (by decide)
  refine ⟨reordered, (fixedOrder known).1 _ reordered,
    ⟨range, isRange, upper, (fragment range isRange).2⟩, ?_⟩
  exact ((ofPairs_checks_in_order "\t" _).1 _).mpr (.unknownKey rfl known unknown)

end RangeClause

end SearchRequest
