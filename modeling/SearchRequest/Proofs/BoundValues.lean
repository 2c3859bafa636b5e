/-
The values of range bounds on their way from a document into a request. A bound is read
from a JSON value and written back when the range is rendered. Strings, doubles and the
integers of a long come out as they went in, and of several values for one bound the
last one is shown.

The integers that need all 64 bits do not. No long holds them, so they are read as the
nearest double, and the request then shows a float where an integer was given.
-/

import SearchRequest.Proofs.LeafFragments
import SearchRequest.Proofs.Overlay

namespace SearchRequest

namespace Binary64

theorem roundQuotient_le (numerator denominator : Nat) :
    roundQuotient numerator denominator ≤ numerator / denominator + 1 := by
  simp only [roundQuotient]
  split
  · exact Nat.le_refl _
  · split
    · omega
    · omega

theorem floorLog2_of_bounds {size : Nat} (lower : 0x8000000000000000 ≤ size)
    (upper : size < 0x10000000000000000) : floorLog2 size 1 = 63 := by
  have leading : size.log2 = 63 := (Nat.log2_eq_iff (by omega)).mpr ⟨lower, upper⟩
  have unit : Nat.log2 1 = 0 := by decide
  simp only [floorLog2, leading, unit]
  exact if_pos lower

theorem nearestMagnitude_lt {size : Nat} (lower : 0x8000000000000000 ≤ size)
    (upper : size < 0x10000000000000000) : nearestMagnitude size 1 < infiniteMagnitude := by
  have rounded := roundQuotient_le size 2048
  have magnitude : nearestMagnitude size 1 =
      min (1085 * leadingBit + roundQuotient size 2048) infiniteMagnitude := by
    simp only [nearestMagnitude, floorLog2_of_bounds lower upper]
    rfl
  rw [magnitude]
  simp only [leadingBit, infiniteMagnitude]
  omega

theorem isFinite_ofMagnitude {magnitude : Nat} (bounded : magnitude < infiniteMagnitude) :
    (ofMagnitude false magnitude).isFinite = true := by
  simp only [infiniteMagnitude, leadingBit] at bounded
  have bits : (UInt64.ofNat magnitude).toNat = magnitude :=
    UInt64.toNat_ofNat_of_lt (Nat.lt_trans bounded (by decide))
  simp only [isFinite, exponentField, ofMagnitude, Bool.false_eq_true, if_false, bits,
    leadingBit, bne_iff_ne]
  omega

theorem isFinite_ofInt {value : Int} (lower : 0x8000000000000000 ≤ value)
    (upper : value < 0x10000000000000000) : (ofInt value).isFinite = true := by
  have positive : decide (value < 0) = false := decide_eq_false (by omega)
  have nonzero : value.natAbs ≠ 0 := by omega
  unfold ofInt ofQuotient
  rw [positive, if_neg nonzero]
  exact isFinite_ofMagnitude (nearestMagnitude_lt (by omega) (by omega))

end Binary64

/-- An integer that no long holds, since it needs all 64 bits. -/
def Json.BeyondLong : Json → Prop
  | .number (.integer value _) => 0x8000000000000000 ≤ value
  | _ => False

namespace RangeValue

theorem toJson_ofNumber_integer {value : Int} (inRange : Json.IntegerRange value)
    (fits : value < 0x8000000000000000) :
    (ofNumber (.integer value inRange)).toJson = .number (.integer value inRange) := by
  have same : (Int64.ofInt value).toInt = value := Int64.toInt_ofInt_of_le inRange.1 fits
  rw [ofNumber, if_pos fits, toJson, Json.ofInt64]
  simp only [same]

theorem toJson_ofNumber_beyond {value : Int} (inRange : Json.IntegerRange value)
    (beyond : 0x8000000000000000 ≤ value) :
    ∃ finite, (ofNumber (.integer value inRange)).toJson =
      .number (.float (Binary64.ofInt value) finite) := by
  have finite := Binary64.isFinite_ofInt beyond inRange.2
  refine ⟨finite, ?_⟩
  rw [ofNumber, if_neg (Int.not_lt.mpr beyond), toJson, Json.ofBinary64_finite finite]

/-- Writing takes back what reading made of a value, unless the value is beyond a long. -/
theorem toJson_eq_iff_of_ofJson {value : Json} {bound : RangeValue}
    (read : ofJson value = .ok bound) : bound.toJson = value ↔ ¬ value.BeyondLong := by
  cases value with
  | null => cases read
  | bool flag => cases read
  | array items => cases read
  | object entries => cases read
  | string text =>
      cases read
      exact ⟨fun _ => id, fun _ => rfl⟩
  | number number =>
      cases read
      cases number with
      | float value finite =>
          exact ⟨fun _ => id, fun _ => Json.ofBinary64_finite finite⟩
      | integer value inRange =>
          by_cases fits : value < 0x8000000000000000
          · exact ⟨fun _ => Int.not_le.mpr fits, fun _ => toJson_ofNumber_integer inRange fits⟩
          · have beyond := Int.not_lt.mp fits
            obtain ⟨finite, written⟩ := toJson_ofNumber_beyond inRange beyond
            constructor
            · intro same
              rw [written] at same
              cases same
            · intro within
              exact absurd beyond within

end RangeValue

/-! ### Bounds in pairs -/

theorem Comparison.ofKey?_key (comparison : Comparison) :
    ofKey? comparison.key = some comparison := by
  cases comparison <;> decide

namespace RangeBounds

/-- Pairs with known keys are written one over the other, each over the bound of its key. -/
theorem foldlM_setKey {pairs : List (String × RangeValue)}
    (known : ∀ key ∈ Entries.keys pairs, ∃ comparison : Comparison, comparison.key = key)
    (start : RangeBounds) :
    ∃ bounds, pairs.foldlM (fun bounds (key, value) => setKey bounds key value) start =
        .ok bounds ∧
      ∀ comparison, bounds.get? comparison =
        (Entries.find? comparison.key pairs.reverse).or (start.get? comparison) := by
  induction pairs generalizing start with
  | nil => exact ⟨start, rfl, fun _ => rfl⟩
  | cons pair rest ih =>
      obtain ⟨key, value⟩ := pair
      obtain ⟨⟨written, isKey⟩, restKnown⟩ := List.forall_mem_cons.mp known
      change written.key = key at isKey
      subst isKey
      obtain ⟨bounds, folded, shown⟩ := ih restKnown (start.set written value)
      refine ⟨bounds, ?_, ?_⟩
      · have set : setKey start written.key value = .ok (start.set written value) := by
          rw [setKey, Comparison.ofKey?_key]
        rw [List.foldlM_cons]
        change (setKey start written.key value).bind _ = _
        rw [set]
        exact folded
      · intro comparison
        rw [shown, List.reverse_cons, Entries.find?_append, Option.or_assoc]
        congr 1
        by_cases same : comparison = written
        · subst same
          rw [get?_set_same, Entries.find?, if_pos rfl]
          rfl
        · have otherKey : written.key ≠ comparison.key :=
            fun keys => same (Comparison.key_injective keys).symm
          rw [get?_set_other start value same, Entries.find?, if_neg otherKey]
          rfl

theorem isEmpty_of_get? {bounds : RangeBounds} {comparison : Comparison} {value : RangeValue}
    (found : bounds.get? comparison = some value) : bounds.isEmpty = false := by
  cases blank : bounds.isEmpty with
  | false => rfl
  | true =>
      have unset := List.all_eq_true.mp blank comparison comparison.mem_all
      rw [found] at unset
      cases unset

theorem find?_entries_unknown (bounds : RangeBounds) {key : String}
    (unknown : ∀ comparison : Comparison, comparison.key ≠ key) :
    Entries.find? key bounds.entries = none := by
  apply (Entries.find?_eq_none_iff key bounds.entries).mpr
  intro listed
  obtain ⟨entry, member, isKey⟩ := List.mem_map.mp listed
  obtain ⟨comparison, value, _, same⟩ := (bounds.mem_entries_iff entry).mp member
  subst same
  exact unknown comparison isKey

/-- Of several values under one key the last one is the bound. -/
theorem get?_ofPairs {pairs : List (String × RangeValue)}
    (known : ∀ key ∈ Entries.keys pairs, ∃ comparison : Comparison, comparison.key = key) :
    ∃ bounds, ofPairs pairs = .ok bounds ∧ (pairs ≠ [] → bounds.isEmpty = false) ∧
      ∀ comparison, bounds.get? comparison = Entries.find? comparison.key pairs.reverse := by
  obtain ⟨bounds, folded, shown⟩ := foldlM_setKey known unbounded
  have lastSet : ∀ comparison, bounds.get? comparison =
      Entries.find? comparison.key pairs.reverse := by
    intro comparison
    rw [shown]
    cases comparison <;> exact Option.or_none
  refine ⟨bounds, folded, ?_, lastSet⟩
  intro filled
  obtain ⟨pair, member⟩ := List.exists_mem_of_ne_nil pairs filled
  obtain ⟨comparison, isKey⟩ := known pair.1 (List.mem_map_of_mem member)
  have listed : comparison.key ∈ Entries.keys pairs.reverse := by
    rw [isKey]
    exact List.mem_map_of_mem (List.mem_reverse.mpr member)
  cases found : bounds.get? comparison with
  | some value => exact isEmpty_of_get? found
  | none =>
      rw [lastSet] at found
      exact absurd listed ((Entries.find?_eq_none_iff _ _).mp found)

/-- Of several values under one key the last one is written, under whatever key is asked for. -/
theorem find?_entries_ofPairs {pairs : List (String × RangeValue)}
    (known : ∀ key ∈ Entries.keys pairs, ∃ comparison : Comparison, comparison.key = key) :
    ∃ bounds, ofPairs pairs = .ok bounds ∧ (pairs ≠ [] → bounds.isEmpty = false) ∧
      ∀ key, Entries.find? key bounds.entries =
        (Entries.find? key pairs.reverse).map RangeValue.toJson := by
  obtain ⟨bounds, collected, filled, lastSet⟩ := get?_ofPairs known
  refine ⟨bounds, collected, filled, ?_⟩
  intro key
  by_cases isComparison : ∃ comparison : Comparison, comparison.key = key
  · obtain ⟨comparison, isKey⟩ := isComparison
    subst isKey
    rw [find?_entries, lastSet]
  · have absent : key ∉ Entries.keys pairs.reverse := by
      intro listed
      rw [Entries.keys, List.map_reverse, List.mem_reverse] at listed
      exact isComparison (known key listed)
    rw [(Entries.find?_eq_none_iff key _).mpr absent]
    exact find?_entries_unknown bounds fun comparison isKey => isComparison ⟨comparison, isKey⟩

end RangeBounds

/-- The bound has been read from the value that was given, under the same key. -/
def ReadAs (given : String × Json) (pair : String × RangeValue) : Prop :=
  given.1 = pair.1 ∧ RangeValue.ofJson given.2 = .ok pair.2

/-- Each key shows the value that was given last for it, as far as a bound can hold the value. -/
structure ShowsLastGiven (given : List (String × Json)) (entries : Entries Json) : Prop where
  keys : ∀ key, key ∈ Entries.keys entries ↔ key ∈ Entries.keys given
  distinct : (Entries.keys entries).Nodup
  unaltered : ∀ key value, Entries.find? key given.reverse = some value →
    (Entries.find? key entries = some value ↔ ¬ value.BeyondLong)
  rounded : ∀ key value inRange,
    Entries.find? key given.reverse = some (.number (.integer value inRange)) →
      0x8000000000000000 ≤ value → ∃ finite,
        Entries.find? key entries = some (.number (.float (Binary64.ofInt value) finite))

theorem keys_of_readAs {given : List (String × Json)} {pairs : List (String × RangeValue)}
    (read : List.Forall₂ ReadAs given pairs) : Entries.keys pairs = Entries.keys given := by
  induction read with
  | nil => rfl
  | cons first _ ih => exact congr (congrArg List.cons first.1.symm) ih

theorem find?_of_readAs {given : List (String × Json)} {pairs : List (String × RangeValue)}
    (read : List.Forall₂ ReadAs given pairs) {key : String} {value : Json}
    (found : Entries.find? key given = some value) :
    ∃ bound, Entries.find? key pairs = some bound ∧ RangeValue.ofJson value = .ok bound := by
  induction read with
  | nil => cases found
  | @cons first pair given pairs readFirst _ ih =>
      rw [Entries.find?] at found ⊢
      by_cases same : first.1 = key
      · rw [if_pos same] at found
        cases found
        rw [if_pos (readFirst.1.symm.trans same)]
        exact ⟨pair.2, rfl, readFirst.2⟩
      · rw [if_neg same] at found
        rw [if_neg (readFirst.1 ▸ same)]
        exact ih found

theorem showsLastGiven_of_readAs {given : List (String × Json)}
    {pairs : List (String × RangeValue)} (read : List.Forall₂ ReadAs given pairs)
    {bounds : RangeBounds}
    (shown : ∀ key, Entries.find? key bounds.entries =
      (Entries.find? key pairs.reverse).map RangeValue.toJson) :
    ShowsLastGiven given bounds.entries := by
  have lastRead : ∀ key value, Entries.find? key given.reverse = some value →
      ∃ bound, Entries.find? key bounds.entries = some bound.toJson ∧
        RangeValue.ofJson value = .ok bound := by
    intro key value found
    obtain ⟨bound, isBound, readValue⟩ :=
      find?_of_readAs (List.forall₂_reverse_iff.mpr read) found
    rw [shown, isBound]
    exact ⟨bound, rfl, readValue⟩
  constructor
  · intro key
    have sameKeys : Entries.keys pairs.reverse = (Entries.keys given).reverse := by
      rw [← keys_of_readAs read]
      exact List.map_reverse
    have absent := Entries.find?_eq_none_iff key bounds.entries
    rw [shown, Option.map_eq_none_iff, Entries.find?_eq_none_iff, sameKeys,
      List.mem_reverse] at absent
    exact (not_iff_not.mp absent).symm
  · have sublist := Entries.keys_optional_sublist Comparison.key
      (fun comparison => (bounds.get? comparison).map RangeValue.toJson) Comparison.all
    exact sublist.nodup (by decide)
  · intro key value found
    obtain ⟨bound, isShown, readValue⟩ := lastRead key value found
    rw [isShown, Option.some.injEq]
    exact RangeValue.toJson_eq_iff_of_ofJson readValue
  · intro key value inRange found beyond
    obtain ⟨bound, isShown, readValue⟩ := lastRead key _ found
    cases readValue
    obtain ⟨finite, written⟩ := RangeValue.toJson_ofNumber_beyond inRange beyond
    exact ⟨finite, isShown.trans (congrArg some written)⟩

/--
A range with a field that is not blank, made of values that have been read from a document under
known keys, shows under each of the keys the value that was given last for it, and nothing else.
An integer that needs all 64 bits is the one exception: the nearest double stands in its place.
-/
theorem last_given_bound_shown {field : String} {given : List (String × Json)}
    {pairs : List (String × RangeValue)} (notBlank : Text.isBlank field = false)
    (nonempty : given ≠ [])
    (known : ∀ key ∈ Entries.keys given, ∃ comparison : Comparison, comparison.key = key)
    (read : List.Forall₂ ReadAs given pairs) :
    (∀ value bound, RangeValue.ofJson value = .ok bound →
      (bound.toJson = value ↔ ¬ value.BeyondLong)) ∧
      ∃ range entries, RangeClause.ofPairs field pairs = .ok range ∧
        (Leaf.range range).toJson = .single "range" (.single field (.object entries)) ∧
        ShowsLastGiven given entries := by
  refine ⟨fun _ _ => RangeValue.toJson_eq_iff_of_ofJson, ?_⟩
  have pairsKnown : ∀ key ∈ Entries.keys pairs,
      ∃ comparison : Comparison, comparison.key = key := by
    rw [keys_of_readAs read]
    exact known
  obtain ⟨bounds, collected, filled, shown⟩ := RangeBounds.find?_entries_ofPairs pairsKnown
  have notEmpty : bounds.isEmpty = false := by
    apply filled
    intro blank
    rw [blank, List.forall₂_nil_right_iff] at read
    exact nonempty read
  refine ⟨⟨field, bounds, notEmpty⟩, bounds.entries, ?_, rfl, ?_⟩
  · change (RangeBounds.ofPairs pairs).bind (RangeClause.build field) = _
    rw [collected]
    exact RangeClause.build_eq_ok notBlank notEmpty
  · exact showsLastGiven_of_readAs read shown

def greatestLong : Json :=
  .number (.integer 9223372036854775807 (by decide))

/-- The lower bound is given twice, and what is given first for it is beyond a long. -/
def sequenceBounds : List (String × Json) :=
  [("gte", .number (.integer 18446744073709551615 (by decide))), ("lt", .string "now"),
    ("gte", greatestLong)]

def sequenceValues : List (String × RangeValue) :=
  [("gte", .double ⟨0x43F0000000000000⟩), ("lt", .text "now"),
    ("gte", .long 9223372036854775807)]

theorem last_given_bound_shown_greatestLong :
    Text.isBlank "sequence" = false ∧ List.Forall₂ ReadAs sequenceBounds sequenceValues ∧
      ∃ range entries, RangeClause.ofPairs "sequence" sequenceValues = .ok range ∧
        (Leaf.range range).toJson = .single "range" (.single "sequence" (.object entries)) ∧
        Entries.find? "gte" entries = some greatestLong ∧
        Entries.find? "lt" entries = some (.string "now") := by
  have notBlank : Text.isBlank "sequence" = false := by decide
  have known : ∀ key ∈ Entries.keys sequenceBounds,
      ∃ comparison : Comparison, comparison.key = key := by
    intro key member
    change key ∈ ["gte", "lt", "gte"] at member
    simp only [List.mem_cons, List.not_mem_nil, or_false] at member
    rcases member with same | same | same
    · exact ⟨.gte, same.symm⟩
    · exact ⟨.lt, same.symm⟩
    · exact ⟨.gte, same.symm⟩
  have read : List.Forall₂ ReadAs sequenceBounds sequenceValues :=
    .cons ⟨rfl, rfl⟩ (.cons ⟨rfl, rfl⟩ (.cons ⟨rfl, rfl⟩ .nil))
  obtain ⟨_, range, entries, built, rendered, shows⟩ :=
    last_given_bound_shown notBlank (List.cons_ne_nil _ _) known read
  refine ⟨notBlank, read, range, entries, built, rendered, ?_, ?_⟩
  · exact (shows.unaltered "gte" greatestLong rfl).mpr (by simp [greatestLong, Json.BeyondLong])
  · exact (shows.unaltered "lt" (.string "now") rfl).mpr id

/-- The least integer beyond a long. -/
def firstBeyondLong : Json :=
  .number (.integer 9223372036854775808 (by decide))

/-- It is a power of two, so the double has its value; still the request shows another number. -/
theorem firstBeyondLong_not_shown :
    ∃ bound range entries, RangeValue.ofJson firstBeyondLong = .ok bound ∧
      RangeClause.ofPairs "sequence" [("gte", bound)] = .ok range ∧
      (Leaf.range range).toJson = .single "range" (.single "sequence" (.object entries)) ∧
      Entries.find? "gte" entries =
        some (.number (.float ⟨0x43E0000000000000⟩ (by decide))) ∧
      Entries.find? "gte" entries ≠ some firstBeyondLong := by
  let bound : RangeValue := .double ⟨0x43E0000000000000⟩
  let range : RangeClause := ⟨"sequence", { gte := some bound }, by decide⟩
  exact ⟨bound, range, range.bounds.entries, rfl, rfl, rfl, rfl, nofun⟩

end SearchRequest
