/-
The fragment of a leaf tells the leaf. Its only key is the kind, and the body
holds every part of the leaf in a place of its own: the bounds of a range stand
under four different keys, and a bound that is not set has no entry.

One thing a document cannot hold is a double that is not finite. All such bounds
are written as null, so the laws below ask for finite bounds.
-/

import Mathlib.Data.List.Forall2
import SearchRequest.Leaf
import SearchRequest.Proofs.OptionalEntries

namespace SearchRequest

/-- Two lists with the same images correspond item by item, as far as each image tells. -/
theorem forall₂_of_map_eq_map {α β γ : Type} {first : α → γ} {second : β → γ}
    {relation : α → β → Prop} {left : List α} {right : List β}
    (same : left.map first = right.map second)
    (transfer : ∀ item ∈ left, ∀ other ∈ right, first item = second other →
      relation item other) :
    List.Forall₂ relation left right := by
  induction left generalizing right with
  | nil =>
      cases right with
      | nil => exact .nil
      | cons other others => cases same
  | cons item items ih =>
      cases right with
      | nil => cases same
      | cons other others =>
          obtain ⟨sameHead, sameTail⟩ := List.cons.inj same
          refine .cons (transfer item List.mem_cons_self other List.mem_cons_self sameHead) ?_
          exact ih sameTail fun inner member outer outerMember =>
            transfer inner (List.mem_cons_of_mem item member) outer
              (List.mem_cons_of_mem other outerMember)

/-- A list passes a check everywhere, or it has a first item that does not. -/
theorem forall_or_first_not {α : Type} (holds : α → Prop) (items : List α) :
    (∀ item ∈ items, holds item) ∨ ∃ before item after, items = before ++ item :: after ∧
      (∀ earlier ∈ before, holds earlier) ∧ ¬ holds item := by
  induction items with
  | nil => exact Or.inl fun _ impossible => nomatch impossible
  | cons item items ih =>
      by_cases first : holds item
      · rcases ih with all | found
        · exact Or.inl (List.forall_mem_cons.mpr ⟨first, all⟩)
        · obtain ⟨before, failing, after, parts, passed, fails⟩ := found
          refine Or.inr ⟨item :: before, failing, after, congrArg (item :: ·) parts, ?_, fails⟩
          exact List.forall_mem_cons.mpr ⟨first, passed⟩
      · exact Or.inr ⟨[], item, items, rfl, fun _ impossible => (nomatch impossible), first⟩

theorem Json.single_inj {leftKey rightKey : String} {left right : Json}
    (same : single leftKey left = single rightKey right) : leftKey = rightKey ∧ left = right := by
  cases same
  exact ⟨rfl, rfl⟩

theorem Json.strings_injective {left right : List String} (same : strings left = strings right) :
    left = right := by
  apply (List.map_inj_right ?_).mp (Json.array.inj same)
  intro left right equal
  exact Json.string.inj equal

theorem Json.ofBinary64_finite {value : Binary64} (finite : value.isFinite = true) :
    ofBinary64 value = .number (.float value finite) := by
  unfold ofBinary64 Number.ofBinary64?
  rw [dif_pos finite]

def RangeValue.IsFinite : RangeValue → Prop
  | .double value => value.isFinite = true
  | .long _ | .text _ => True

/-- Reading takes back what writing made of a value, the kind of number included. -/
theorem RangeValue.ofJson_toJson {value : RangeValue} (finite : value.IsFinite) :
    ofJson value.toJson = .ok value := by
  cases value with
  | long value =>
      have fits : value.toInt < 0x8000000000000000 := value.toInt_lt
      change Except.ok (if value.toInt < 0x8000000000000000
          then RangeValue.long (Int64.ofInt value.toInt)
          else .double (Binary64.ofInt value.toInt)) = .ok (.long value)
      rw [if_pos fits, Int64.ofInt_toInt]
  | double value =>
      change ofJson (Json.ofBinary64 value) = .ok (.double value)
      rw [Json.ofBinary64_finite finite]
      rfl
  | text value => rfl

theorem RangeValue.toJson_injective {left right : RangeValue} (leftFinite : left.IsFinite)
    (rightFinite : right.IsFinite) (same : left.toJson = right.toJson) : left = right := by
  have readings := congrArg ofJson same
  rw [ofJson_toJson leftFinite, ofJson_toJson rightFinite] at readings
  exact Except.ok.inj readings

theorem Comparison.key_injective {left right : Comparison} (same : left.key = right.key) :
    left = right := by
  revert same
  cases left <;> cases right <;> decide

theorem Comparison.mem_all (comparison : Comparison) : comparison ∈ all := by
  cases comparison <;> decide

namespace RangeBounds

def Finite (bounds : RangeBounds) : Prop :=
  ∀ comparison value, bounds.get? comparison = some value → value.IsFinite

theorem find?_entries (bounds : RangeBounds) (comparison : Comparison) :
    Entries.find? comparison.key bounds.entries =
      (bounds.get? comparison).map RangeValue.toJson := by
  unfold entries
  rw [Entries.find?_flatMap_optional Comparison.key_injective, if_pos comparison.mem_all]

theorem mem_entries_iff (bounds : RangeBounds) (entry : String × Json) :
    entry ∈ bounds.entries ↔
      ∃ comparison value, bounds.get? comparison = some value ∧
        entry = (comparison.key, value.toJson) := by
  unfold entries
  simp only [List.mem_flatMap, Entries.mem_optional_iff, Option.map_eq_some_iff]
  constructor
  · intro listed
    obtain ⟨comparison, _, sameKey, value, isBound, written⟩ := listed
    exact ⟨comparison, value, isBound, Prod.ext sameKey written.symm⟩
  · intro found
    obtain ⟨comparison, value, isBound, same⟩ := found
    subst same
    exact ⟨comparison, comparison.mem_all, rfl, value, isBound, rfl⟩

theorem entries_ne_nil {bounds : RangeBounds} (filled : bounds.isEmpty = false) :
    bounds.entries ≠ [] := by
  intro blank
  have unbounded : ∀ comparison, bounds.get? comparison = none := by
    intro comparison
    cases found : bounds.get? comparison with
    | none => rfl
    | some value =>
        have listed := (bounds.mem_entries_iff _).mpr ⟨comparison, value, found, rfl⟩
        rw [blank] at listed
        cases listed
  have isEmpty : bounds.isEmpty = true := by
    simp only [RangeBounds.isEmpty, unbounded, Option.isNone_none, List.all_eq_true, implies_true]
  rw [isEmpty] at filled
  cases filled

theorem eq_of_get?_eq {left right : RangeBounds}
    (same : ∀ comparison, left.get? comparison = right.get? comparison) : left = right := by
  have gt := same .gt
  have gte := same .gte
  have lt := same .lt
  have lte := same .lte
  cases left
  cases right
  cases gt
  cases gte
  cases lt
  cases lte
  rfl

theorem entries_injective {left right : RangeBounds} (leftFinite : left.Finite)
    (rightFinite : right.Finite) (same : left.entries = right.entries) : left = right := by
  apply eq_of_get?_eq
  intro comparison
  have found := congrArg (Entries.find? comparison.key) same
  rw [find?_entries, find?_entries] at found
  cases leftBound : left.get? comparison with
  | none =>
      rw [leftBound] at found
      exact (Option.map_eq_none_iff.mp found.symm).symm
  | some value =>
      rw [leftBound] at found
      obtain ⟨other, rightBound, sameJson⟩ := Option.map_eq_some_iff.mp found.symm
      have sameValue := RangeValue.toJson_injective (leftFinite comparison value leftBound)
        (rightFinite comparison other rightBound) sameJson.symm
      rw [rightBound, sameValue]

end RangeBounds

theorem RangeClause.body_injective {left right : RangeClause} (leftFinite : left.bounds.Finite)
    (rightFinite : right.bounds.Finite) (same : left.body = right.body) : left = right := by
  obtain ⟨sameField, sameObject⟩ := Json.single_inj same
  have sameBounds := RangeBounds.entries_injective leftFinite rightFinite
    (Json.object.inj sameObject)
  cases left
  cases right
  cases sameField
  cases sameBounds
  rfl

/-! ### Leaves -/

theorem LeafKind.key_injective {left right : LeafKind} (same : left.key = right.key) :
    left = right := by
  revert same
  cases left <;> cases right <;> decide

namespace Leaf

def FiniteBounds : Leaf → Prop
  | .range clause => clause.bounds.Finite
  | _ => True

/-- Within one kind, the body has a place for every part of the leaf. -/
theorem body_injective {left right : Leaf} (sameKind : left.kind = right.kind)
    (leftFinite : left.FiniteBounds) (rightFinite : right.FiniteBounds)
    (same : left.body = right.body) : left = right := by
  cases left with
  | matchAll =>
      cases right with
      | matchAll => rfl
      | _ => cases sameKind
  | matchNone =>
      cases right with
      | matchNone => rfl
      | _ => cases sameKind
  | term field value =>
      cases right with
      | term other otherValue =>
          obtain ⟨sameField, sameInner⟩ := Json.single_inj same
          rw [sameField, (Json.single_inj sameInner).2]
      | _ => cases sameKind
  | terms field values =>
      cases right with
      | terms other otherValues =>
          obtain ⟨sameField, sameArray⟩ := Json.single_inj same
          rw [sameField, Json.array.inj sameArray]
      | _ => cases sameKind
  | range clause =>
      cases right with
      | range other => rw [RangeClause.body_injective leftFinite rightFinite same]
      | _ => cases sameKind
  | regexp field pattern =>
      cases right with
      | regexp other otherPattern =>
          obtain ⟨sameField, sameInner⟩ := Json.single_inj same
          rw [sameField, Json.string.inj (Json.single_inj sameInner).2]
      | _ => cases sameKind
  | wildcard field pattern =>
      cases right with
      | wildcard other otherPattern =>
          obtain ⟨sameField, sameInner⟩ := Json.single_inj same
          rw [sameField, Json.string.inj (Json.single_inj sameInner).2]
      | _ => cases sameKind
  | «exists» field =>
      cases right with
      | «exists» other => rw [Json.string.inj (Json.single_inj same).2]
      | _ => cases sameKind
  | matchPhrase field phrase =>
      cases right with
      | matchPhrase other otherPhrase =>
          obtain ⟨sameField, samePhrase⟩ := Json.single_inj same
          rw [sameField, Json.string.inj samePhrase]
      | _ => cases sameKind
  | queryString query fields =>
      cases right with
      | queryString other otherFields =>
          obtain ⟨sameFirst, sameRest⟩ := List.cons.inj (Json.object.inj same)
          have sameQuery := Json.string.inj (Prod.mk.inj sameFirst).2
          have sameFields := Entries.optional_injective sameRest
          rw [sameQuery, Option.map_inj_right (fun _ _ => Json.strings_injective) |>.mp sameFields]
      | _ => cases sameKind

theorem toJson_injective {left right : Leaf} (leftFinite : left.FiniteBounds)
    (rightFinite : right.FiniteBounds) (same : left.toJson = right.toJson) : left = right := by
  obtain ⟨sameKey, sameBody⟩ := Json.single_inj same
  exact body_injective (LeafKind.key_injective sameKey) leftFinite rightFinite sameBody

end Leaf

end SearchRequest
