/-
What the fragment of a query tells about the query: everything but the roles that
are open. Two queries that were built by the operations, with finite bounds, have
the same fragment exactly when they hold the same tree of clauses.

That no role is listed twice is what makes this true. Under a role that came
twice, the second list would be written over the first.
-/

import SearchRequest.Proofs.Construction
import SearchRequest.Proofs.Fragments

namespace SearchRequest

theorem map_eq_map_of_map_eq_map {α β γ : Type} {first : α → β} {second : α → γ}
    {left right : List α} (same : left.map first = right.map first)
    (transfer : ∀ item ∈ left, ∀ other ∈ right, first item = first other →
      second item = second other) :
    left.map second = right.map second := by
  rw [← List.forall₂_eq_eq_eq, List.forall₂_map_left_iff, List.forall₂_map_right_iff]
  exact forall₂_of_map_eq_map same transfer

namespace Clause

/-- The clause with no role open in any bool query, at any depth. -/
def closeRoles : Clause → Clause :=
  fold .leaf fun table => .bool ⟨table.groups, none⟩

theorem closeRoles_bool (table : BoolQuery) :
    closeRoles (.bool table) = .bool ⟨(table.map closeRoles).groups, none⟩ :=
  fold_bool _ _ table

theorem toJson_closeRoles (clause : Clause) : clause.closeRoles.toJson = clause.toJson := by
  induction clause with
  | leaf content => rfl
  | bool table ih =>
      rw [closeRoles_bool, toJson, toJson]
      apply tableToJson_congr
      simp only [RoleTable.map, List.map_map]
      apply List.map_congr_left
      intro group groupMember
      apply Prod.ext
      · rfl
      · exact (List.map_map ..).trans (List.map_congr_left (ih group groupMember))

theorem key_leaf_ne_key_bool (content : Leaf) (table : BoolQuery) :
    key (.leaf content) ≠ key (.bool table) := by
  change content.kind.key ≠ boolKey
  cases content.kind <;> decide

theorem key_eq_of_toJson_eq {left right : Clause} {document : Json}
    (leftRendered : left.toJson = .ok document) (rightRendered : right.toJson = .ok document) :
    left.key = right.key := by
  obtain ⟨leftBody, isLeft⟩ := key_of_toJson leftRendered
  obtain ⟨rightBody, isRight⟩ := key_of_toJson rightRendered
  exact (Json.single_inj (isLeft.symm.trans isRight)).1

theorem finite_of_bool {table : BoolQuery}
    (finite : ∀ content ∈ (Clause.bool table).leaves, content.FiniteBounds) :
    table.AllItems fun clause => ∀ content ∈ clause.leaves, content.FiniteBounds := by
  intro group groupMember clause clauseMember content member
  apply finite content
  rw [leaves_bool]
  exact List.mem_flatMap_of_mem groupMember (List.mem_flatMap_of_mem clauseMember member)

theorem closeRoles_eq_of_toJson_eq {left right : Clause} {document : Json}
    (leftWell : left.WellFormed) (rightWell : right.WellFormed)
    (leftFinite : ∀ content ∈ left.leaves, content.FiniteBounds)
    (rightFinite : ∀ content ∈ right.leaves, content.FiniteBounds)
    (leftRendered : left.toJson = .ok document) (rightRendered : right.toJson = .ok document) :
    left.closeRoles = right.closeRoles := by
  induction left generalizing right document with
  | leaf content =>
      cases right with
      | leaf other =>
          have sameDocument : content.toJson = other.toJson :=
            Except.ok.inj (leftRendered.trans rightRendered.symm)
          have sameLeaf := Leaf.toJson_injective (leftFinite content List.mem_cons_self)
            (rightFinite other List.mem_cons_self) sameDocument
          rw [sameLeaf]
      | bool table =>
          have sameKey := key_eq_of_toJson_eq leftRendered rightRendered
          exact absurd sameKey (key_leaf_ne_key_bool content table)
  | bool table ih =>
      cases right with
      | leaf other =>
          have sameKey := key_eq_of_toJson_eq rightRendered leftRendered
          exact absurd sameKey (key_leaf_ne_key_bool other table)
      | bool other =>
          obtain ⟨⟨distinct, _⟩, inside⟩ := (wellFormed_bool_iff table).mp leftWell
          obtain ⟨⟨otherDistinct, _⟩, otherInside⟩ := (wellFormed_bool_iff other).mp rightWell
          have sameImages := map_toJson_groups_eq distinct otherDistinct leftRendered rightRendered
          obtain ⟨_, sameItems, _⟩ := fragments_of_toJson distinct leftRendered
          have itemsRendered := rendered_of_map_toJson sameItems
          rw [closeRoles_bool, closeRoles_bool]
          congr 2
          apply map_eq_map_of_map_eq_map sameImages
          intro group groupMember otherGroup otherMember sameGroup
          obtain ⟨sameRole, sameClauses⟩ := Prod.mk.inj sameGroup
          refine Prod.ext sameRole ?_
          apply map_eq_map_of_map_eq_map sameClauses
          intro clause clauseMember otherClause otherClauseMember sameOutcome
          obtain ⟨fragment, rendered⟩ := itemsRendered group groupMember clause clauseMember
          have otherRendered : otherClause.toJson = .ok fragment := sameOutcome ▸ rendered
          exact ih group groupMember clause clauseMember
            (inside group groupMember clause clauseMember)
            (otherInside otherGroup otherMember otherClause otherClauseMember)
            (finite_of_bool leftFinite group groupMember clause clauseMember)
            (finite_of_bool rightFinite otherGroup otherMember otherClause otherClauseMember)
            rendered otherRendered

end Clause

namespace Query

/--
Of two built queries with finite bounds, the fragments are the same exactly when the trees of
clauses are the same up to the open roles. An empty slot counts as the leaf that it stands for.
-/
theorem wire_format_unambiguous {left right : Query} {leftDocument rightDocument : Json}
    (leftBuilt : left.Built) (rightBuilt : right.Built)
    (leftFinite : ∀ content ∈ left.clause.leaves, content.FiniteBounds)
    (rightFinite : ∀ content ∈ right.clause.leaves, content.FiniteBounds)
    (leftRendered : left.toJson = .ok leftDocument)
    (rightRendered : right.toJson = .ok rightDocument) :
    leftDocument = rightDocument ↔ left.clause.closeRoles = right.clause.closeRoles := by
  constructor
  · intro same
    exact Clause.closeRoles_eq_of_toJson_eq leftBuilt.wellFormed rightBuilt.wellFormed leftFinite
      rightFinite leftRendered (same ▸ rightRendered)
  · intro same
    have rendered : left.clause.toJson = right.clause.toJson := by
      rw [← Clause.toJson_closeRoles left.clause, same, Clause.toJson_closeRoles]
    exact Except.ok.inj (leftRendered.symm.trans (rendered.trans rightRendered))

/-- A range under `must_not` of an inner bool query, and a second role beside that query. -/
def excludedPrices : BoolQuery :=
  RoleTable.union (.ofRole .must [.underMustNot (.leaf (.range
      { field := "price"
        bounds := { gte := some (.long 1), lt := some (.double (Binary64.ofInt 2)) }
        boundsNotEmpty := by decide }))])
    (.ofRole .should [.leaf (.exists "stock")])

theorem built_excludedPrices : RoleTable.Built excludedPrices := by
  apply RoleTable.Built.union
  · apply RoleTable.Built.ofRole
    intro clause member
    cases List.mem_singleton.mp member
    exact .bool (.ofRole .mustNot (List.forall_mem_singleton.mpr (.leaf _)))
  · exact .ofRole .should (List.forall_mem_singleton.mpr (.leaf _))

theorem finite_excludedPrices :
    ∀ content ∈ (Clause.bool excludedPrices).leaves, content.FiniteBounds := by
  intro content member
  change content ∈ [_, _] at member
  rcases List.mem_cons.mp member with range | stock
  · subst range
    intro comparison value isBound
    cases comparison with
    | gt | lte => cases isBound
    | gte =>
        cases isBound
        exact True.intro
    | lt =>
        cases isBound
        change (Binary64.ofInt 2).isFinite = true
        decide
  · cases List.mem_singleton.mp stock
    exact True.intro

/-- Moving the open role to one that is listed does not show in the document. -/
theorem wire_format_of_reopened :
    ∃ document, (Query.boolean excludedPrices).toJson = .ok document ∧
      (Query.boolean (excludedPrices.openRole .should)).toJson = .ok document ∧
      (Query.boolean excludedPrices).clause.closeRoles =
        (Query.boolean (excludedPrices.openRole .should)).clause.closeRoles := by
  have reopenedBuilt := RoleTable.Built.openRole .should built_excludedPrices
  refine ⟨_, rfl, rfl, ?_⟩
  apply (wire_format_unambiguous (.push .empty (.bool built_excludedPrices) rfl)
    (.push .empty (.bool reopenedBuilt) rfl) finite_excludedPrices finite_excludedPrices
    rfl rfl).mp
  rfl

end Query

end SearchRequest
