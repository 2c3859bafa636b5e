/-
Negation done many times. Only `match_all` and `match_none` change places. Any other
clause gets one bool query more around it each time, so it comes to stand at a depth
that is the number of negations, and it is never given back.

The depth can be read off the document as well, even up to what `Json.same` leaves open.
So no two numbers of negations give one document.
-/

import Mathlib.Logic.Function.Iterate
import Mathlib.Order.Monotone.Basic
import SearchRequest.Proofs.Fragments
import SearchRequest.Proofs.SlotRun

namespace SearchRequest

namespace Json

/-- The document inside so many bool queries, of which each has it alone under `must_not`. -/
def insideMustNots (document : Json) : Nat → Json
  | 0 => document
  | depth + 1 => .single "bool" (.single "must_not" (.array [document.insideMustNots depth]))

/-- How many such bool queries stand around what is in the innermost one. -/
def mustNotDepth : Json → Nat
  | .object [(outer, .object [(role, .array [document])])] =>
      if outer = "bool" ∧ role = "must_not" then document.mustNotDepth + 1 else 0
  | _ => 0

theorem mustNotDepth_insideMustNots (document : Json) (depth : Nat) :
    (document.insideMustNots depth).mustNotDepth = depth + document.mustNotDepth := by
  induction depth with
  | zero => exact (Nat.zero_add _).symm
  | succ depth ih =>
      simp only [insideMustNots, single, mustNotDepth, and_self, if_true, ih]
      omega

theorem length_of_sameItems {lefts rights : List Json} (alike : sameItems lefts rights = true) :
    lefts.length = rights.length := by
  induction lefts generalizing rights with
  | nil =>
      cases rights with
      | nil => rfl
      | cons _ _ => simp [sameItems] at alike
  | cons left lefts ih =>
      cases rights with
      | nil => simp [sameItems] at alike
      | cons right rights =>
          simp only [sameItems, Bool.and_eq_true] at alike
          exact congrArg (· + 1) (ih alike.2)

section

variable {left right : Json}

/-- If one of two objects alike has a single entry, so has the other, under the same key. -/
theorem one_entry_of_same (alike : same left right = true)
    (one : ∃ entry, object [entry] ∈ [left, right]) :
    ∃ key value other, left = object [(key, value)] ∧ right = object [(key, other)] ∧
      same value other = true := by
  fun_cases same left right with
  | case6 lefts rights =>
      simp only [same, Bool.and_eq_true, beq_iff_eq] at alike
      obtain ⟨sameLength, entriesAlike⟩ := alike
      have lengthOne : lefts.length = 1 := by
        obtain ⟨entry, member⟩ := one
        grind
      obtain ⟨⟨key, value⟩, rfl⟩ := List.length_eq_one_iff.mp lengthOne
      obtain ⟨⟨name, other⟩, rfl⟩ := List.length_eq_one_iff.mp sameLength.symm
      by_cases sameKey : name = key
      · subst sameKey
        simp only [sameEntries, Entries.find?, if_true, Bool.and_true] at entriesAlike
        exact ⟨name, value, other, rfl, rfl, entriesAlike⟩
      · simp [sameEntries, Entries.find?, sameKey] at entriesAlike
  | case7 => simp [same] at alike
  | _ => simp at one

theorem one_item_of_same (alike : same left right = true)
    (one : ∃ item, array [item] ∈ [left, right]) :
    ∃ item other, left = array [item] ∧ right = array [other] ∧ same item other = true := by
  fun_cases same left right with
  | case5 lefts rights =>
      rw [same] at alike
      have sameLength := length_of_sameItems alike
      have lengthOne : lefts.length = 1 := by
        obtain ⟨item, member⟩ := one
        grind
      obtain ⟨item, rfl⟩ := List.length_eq_one_iff.mp lengthOne
      obtain ⟨other, rfl⟩ := List.length_eq_one_iff.mp sameLength.symm
      simp only [sameItems, Bool.and_true] at alike
      exact ⟨item, other, rfl, rfl, alike⟩
  | case7 => simp [same] at alike
  | _ => simp at one

/-- If one of two documents alike looks like a bool query of one clause, so does the other. -/
theorem one_clause_of_same (alike : same left right = true)
    (one : ∃ outer role document, object [(outer, object [(role, array [document])])] ∈
      [left, right]) :
    ∃ outer role document other, left = object [(outer, object [(role, array [document])])] ∧
      right = object [(outer, object [(role, array [other])])] ∧ same document other = true := by
  obtain ⟨key, name, item, member⟩ := one
  obtain ⟨outer, body, otherBody, rfl, rfl, bodyAlike⟩ := one_entry_of_same alike ⟨_, member⟩
  have bodyOne : object [(name, array [item])] ∈ [body, otherBody] := by grind
  obtain ⟨role, items, otherItems, rfl, rfl, itemsAlike⟩ := one_entry_of_same bodyAlike ⟨_, bodyOne⟩
  have itemsOne : array [item] ∈ [items, otherItems] := by grind
  obtain ⟨document, other, rfl, rfl, inner⟩ := one_item_of_same itemsAlike ⟨item, itemsOne⟩
  exact ⟨outer, role, document, other, rfl, rfl, inner⟩

/-- The order of keys and the sign of zero do not matter for the depth. -/
theorem mustNotDepth_of_same (alike : same left right = true) :
    left.mustNotDepth = right.mustNotDepth := by
  fun_induction mustNotDepth left generalizing right with
  | case1 outer role document shape ih =>
      obtain ⟨_, _, _, other, same, rfl, inner⟩ :=
        one_clause_of_same alike ⟨outer, role, document, List.mem_cons_self⟩
      cases same
      rw [mustNotDepth, if_pos shape, ih inner]
  | case2 outer role document otherKeys =>
      obtain ⟨_, _, _, other, same, rfl, _⟩ :=
        one_clause_of_same alike ⟨outer, role, document, List.mem_cons_self⟩
      cases same
      rw [mustNotDepth, if_neg otherKeys]
  | case3 left otherShape =>
      unfold mustNotDepth
      split
      · obtain ⟨outer, role, document, _, isLeft, _⟩ :=
          one_clause_of_same alike ⟨_, _, _, List.mem_cons_of_mem left List.mem_cons_self⟩
        exact absurd isLeft (otherShape outer role document)
      · rfl

end

theorem same_insideMustNots_false (document : Json) {depth other : Nat}
    (different : depth ≠ other) :
    same (document.insideMustNots depth) (document.insideMustNots other) = false := by
  apply Bool.eq_false_iff.mpr
  intro alike
  have sameDepth := mustNotDepth_of_same alike
  rw [mustNotDepth_insideMustNots, mustNotDepth_insideMustNots] at sameDepth
  omega

theorem insideMustNots_injective {document : Json} {depth other : Nat}
    (same : document.insideMustNots depth = document.insideMustNots other) : depth = other := by
  have sameDepth := congrArg mustNotDepth same
  rw [mustNotDepth_insideMustNots, mustNotDepth_insideMustNots] at sameDepth
  omega

end Json

/-! ### Clauses -/

namespace Clause

/-- The clause inside so many bool queries. Each has one role, which is open, and one clause. -/
def insideMustNots (clause : Clause) : Nat → Clause
  | 0 => clause
  | depth + 1 =>
      .bool { groups := [(.mustNot, [clause.insideMustNots depth])], current := some .mustNot }

theorem insideMustNots_strictMono (clause : Clause) :
    StrictMono fun depth => sizeOf (clause.insideMustNots depth) := by
  apply strictMono_nat_of_lt_succ
  intro depth
  simp only [insideMustNots, bool.sizeOf_spec, RoleTable.mk.sizeOf_spec, List.cons.sizeOf_spec,
    Prod.mk.sizeOf_spec]
  omega

theorem toJson_insideMustNots (clause : Clause) (depth : Nat) :
    (clause.insideMustNots depth).toJson =
      clause.toJson.map fun document => document.insideMustNots depth := by
  induction depth with
  | zero =>
      change clause.toJson = clause.toJson.map id
      cases clause.toJson <;> rfl
  | succ depth ih =>
      rw [insideMustNots, toJson, tableToJson, groupsToJson_cons, listToJson_cons, ih]
      cases clause.toJson <;> rfl

theorem negate_of_neither {clause : Clause} (notAll : clause.isMatchAll = false)
    (notNone : clause.isMatchNone = false) :
    clause.negate = .bool { groups := [(.mustNot, [clause])], current := some .mustNot } := by
  unfold negate
  split
  · cases notAll
  · cases notNone
  · rfl

theorem iterate_negate_of_neither {clause : Clause} (notAll : clause.isMatchAll = false)
    (notNone : clause.isMatchNone = false) (times : Nat) :
    negate^[times] clause = clause.insideMustNots times := by
  induction times with
  | zero => rfl
  | succ times ih =>
      rw [Function.iterate_succ_apply', ih]
      cases times with
      | zero => exact negate_of_neither notAll notNone
      | succ times => rfl

/-- Two clauses that negation turns into each other alternate. -/
theorem iterate_negate_of_swapped {clause other : Clause} (there : clause.negate = other)
    (back : other.negate = clause) (times : Nat) :
    negate^[times] clause = if times % 2 = 0 then clause else other := by
  induction times with
  | zero => rfl
  | succ times ih =>
      rw [Function.iterate_succ_apply', ih]
      by_cases even : times % 2 = 0
      · have odd : (times + 1) % 2 ≠ 0 := by omega
        rw [if_pos even, if_neg odd, there]
      · have nextEven : (times + 1) % 2 = 0 := by omega
        rw [if_neg even, if_pos nextEven, back]

/-- Each number of negations leaves the clause at a depth of its own, also in documents. -/
structure NestsByNegation (clause : Clause) : Prop where
  inside : ∀ times, negate^[times] clause = clause.insideMustNots times
  rendered : ∀ times, (negate^[times] clause).toJson =
    clause.toJson.map fun document => document.insideMustNots times
  distinct : ∀ times others, times ≠ others → negate^[times] clause ≠ negate^[others] clause
  told : ∀ times others document other, times ≠ others →
    (negate^[times] clause).toJson = .ok document → (negate^[others] clause).toJson = .ok other →
      document ≠ other ∧ Json.same document other = false

theorem nestsByNegation {clause : Clause} (notAll : clause.isMatchAll = false)
    (notNone : clause.isMatchNone = false) : clause.NestsByNegation := by
  have inside := iterate_negate_of_neither notAll notNone
  refine ⟨inside, ?_, ?_, ?_⟩
  · intro times
    rw [inside, toJson_insideMustNots]
  · intro times others different same
    rw [inside, inside] at same
    exact different (clause.insideMustNots_strictMono.injective (congrArg sizeOf same))
  · intro times others document other different isDocument isOther
    rw [inside, toJson_insideMustNots] at isDocument isOther
    cases rendered : clause.toJson with
    | error found =>
        rw [rendered] at isDocument
        cases isDocument
    | ok innermost =>
        rw [rendered] at isDocument isOther
        cases isDocument
        cases isOther
        exact ⟨fun equal => different (Json.insideMustNots_injective equal),
          Json.same_insideMustNots_false innermost different⟩

end Clause

namespace Query

theorem clause_iterate_negate (query : Query) (times : Nat) :
    (negate^[times] query).clause = Clause.negate^[times] query.clause := by
  induction times with
  | zero => rfl
  | succ times ih =>
      rw [Function.iterate_succ_apply', Function.iterate_succ_apply', negate, clause_ofClause, ih]

theorem iterate_negate_succ (query : Query) (times : Nat) :
    negate^[times + 1] query = ofClause (Clause.negate^[times + 1] query.clause) := by
  rw [Function.iterate_succ_apply', negate, clause_iterate_negate, Function.iterate_succ_apply']

theorem execute_replicate_negate (query : Query) (times : Nat) :
    QueryRun.execute query (List.replicate times .negate) = negate^[times] query := by
  induction times generalizing query with
  | zero => rfl
  | succ times ih =>
      rw [List.replicate_succ, QueryRun.execute_cons, Function.iterate_succ_apply]
      exact ih query.negate

/-- Negating a slot is negating the clause that it stands for, as often as it is done. -/
structure NegatesItsClause (query : Query) : Prop where
  held : ∀ times, negate^[times + 1] query = ofClause (Clause.negate^[times + 1] query.clause)
  kept : query ≠ .empty → ∀ times,
    negate^[times] query = ofClause (Clause.negate^[times] query.clause)
  filled : ∀ times, negate^[times + 1] query ≠ .empty
  inPlace : ∀ times,
    QueryRun.execute query (List.replicate times .negate) = negate^[times] query

theorem negatesItsClause (query : Query) : query.NegatesItsClause where
  held := query.iterate_negate_succ
  kept present times := by
    cases times with
    | zero =>
        cases query with
        | empty => exact absurd rfl present
        | single _ | boolean _ => rfl
    | succ times => exact query.iterate_negate_succ times
  filled times := by
    rw [iterate_negate_succ]
    cases Clause.negate^[times + 1] query.clause <;> exact nofun
  inPlace := query.execute_replicate_negate

end Query

/--
A clause that is neither `match_all` nor `match_none` comes to stand at a depth that tells how
often it was negated, in its document too, and keeps its error if it has one. The two others take
turns. A slot is negated as its clause is, in place or copy by copy, and is filled from then on.
-/
theorem repeated_negation (clause : Clause) (query : Query) :
    (clause.isMatchAll = false → clause.isMatchNone = false → clause.NestsByNegation) ∧
      (∀ times, Clause.negate^[times] (.leaf .matchAll) =
        if times % 2 = 0 then .leaf .matchAll else .leaf .matchNone) ∧
      (∀ times, Clause.negate^[times] (.leaf .matchNone) =
        if times % 2 = 0 then .leaf .matchNone else .leaf .matchAll) ∧
      query.NegatesItsClause ∧
      ∀ times, Query.negate^[times + 1] .empty = Query.negate^[times + 1] (.single .matchAll) := by
  refine ⟨Clause.nestsByNegation, Clause.iterate_negate_of_swapped rfl rfl,
    Clause.iterate_negate_of_swapped rfl rfl, query.negatesItsClause, ?_⟩
  intro times
  rw [Query.iterate_negate_succ, Query.iterate_negate_succ]
  rfl

/-- The document is that of a negation already, while the role is not open. -/
def absentOwner : Clause :=
  .bool ⟨[(.mustNot, [.leaf (.exists "owner")])], none⟩

theorem repeated_negation_absentOwner :
    absentOwner.isMatchAll = false ∧ absentOwner.isMatchNone = false ∧
      Clause.negate^[2] absentOwner =
        .bool (.ofRole .mustNot [.bool (.ofRole .mustNot [absentOwner])]) ∧
      ∀ document other, (Clause.negate^[2] absentOwner).toJson = .ok document →
        absentOwner.toJson = .ok other → Json.same document other = false := by
  obtain ⟨nests, _⟩ := repeated_negation absentOwner .empty
  have nested := nests rfl rfl
  refine ⟨rfl, rfl, nested.inside 2, ?_⟩
  intro document other isDocument isOther
  exact (nested.told 2 0 document other (by decide) isDocument isOther).2

end SearchRequest
