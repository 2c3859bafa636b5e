/-
What a clause says about a document. A valuation decides the leaves; a bool query
then holds when all its `must` and `filter` clauses hold, no `must_not` clause
does, and, if there is any `should` clause, at least one of them does.

Merging two slots is conjunction and negating one is negation, for every
valuation and whatever the slots hold, although neither operation looks into the
clauses that it wraps. This is about which documents match; scores are not part
of it.
-/

import SearchRequest.Proofs.ClauseTree

namespace SearchRequest

/-- Which leaves hold for one document. -/
structure Valuation where
  truth : Leaf → Bool
  matchAll : truth .matchAll = true
  matchNone : truth .matchNone = false

namespace RoleTable

variable {α : Type}

/-- What the four roles ask for, when the truth of every item is known. -/
structure Satisfied (truth : α → Prop) (table : RoleTable α) : Prop where
  must : ∀ item ∈ table.items .must, truth item
  filter : ∀ item ∈ table.items .filter, truth item
  should : table.items .should ≠ [] → ∃ item ∈ table.items .should, truth item
  mustNot : ∀ item ∈ table.items .mustNot, ¬ truth item

def verdict (table : RoleTable Bool) : Bool :=
  (table.items .must).all id && (table.items .filter).all id &&
    ((table.items .should).isEmpty || (table.items .should).any id) &&
    !(table.items .mustNot).any id

theorem verdict_map_eq_true_iff (truth : α → Bool) (table : RoleTable α) :
    (table.map truth).verdict = true ↔ table.Satisfied (fun item => truth item = true) := by
  simp only [verdict, items_map, Bool.and_eq_true, Bool.or_eq_true, Bool.not_eq_true',
    List.all_map, List.any_map, List.isEmpty_map, List.all_eq_true, List.any_eq_true,
    List.any_eq_false, List.isEmpty_iff, Function.comp_apply, id_eq]
  constructor
  · intro all
    obtain ⟨⟨⟨must, filter⟩, should⟩, mustNot⟩ := all
    exact ⟨must, filter, should.resolve_left, mustNot⟩
  · intro satisfied
    obtain ⟨must, filter, should, mustNot⟩ := satisfied
    refine ⟨⟨⟨must, filter⟩, ?_⟩, mustNot⟩
    by_cases none : table.items .should = []
    · exact Or.inl none
    · exact Or.inr (should none)

end RoleTable

namespace Clause

def holds (valuation : Valuation) : Clause → Bool :=
  fold valuation.truth RoleTable.verdict

theorem holds_leaf (valuation : Valuation) (content : Leaf) :
    holds valuation (.leaf content) = valuation.truth content :=
  rfl

theorem holds_bool (valuation : Valuation) (table : BoolQuery) :
    holds valuation (.bool table) = (table.map (holds valuation)).verdict :=
  fold_bool valuation.truth RoleTable.verdict table

theorem holds_bool_iff (valuation : Valuation) (table : BoolQuery) :
    holds valuation (.bool table) = true ↔
      table.Satisfied fun clause => holds valuation clause = true := by
  rw [holds_bool, RoleTable.verdict_map_eq_true_iff]

theorem holds_underMustNot (valuation : Valuation) (clause : Clause) :
    holds valuation clause.underMustNot = !holds valuation clause := by
  rw [underMustNot, holds_bool]
  simp [RoleTable.ofRole, RoleTable.map, RoleTable.verdict, RoleTable.items, RoleTable.items?]

theorem holds_negate (valuation : Valuation) (clause : Clause) :
    holds valuation clause.negate = !holds valuation clause := by
  unfold negate
  split
  · rw [holds_leaf, holds_leaf, valuation.matchAll, valuation.matchNone]
    rfl
  · rw [holds_leaf, holds_leaf, valuation.matchAll, valuation.matchNone]
    rfl
  · exact holds_underMustNot valuation clause

theorem holds_append_required (valuation : Valuation) (table : BoolQuery) (clause : Clause)
    {role : Role} (required : role = .must ∨ role = .filter) :
    holds valuation (.bool (table.append role [clause])) =
      (holds valuation (.bool table) && holds valuation clause) := by
  rw [holds_bool, holds_bool]
  rcases required with same | same
  all_goals
    subst same
    simp only [RoleTable.verdict, RoleTable.items_map, RoleTable.items_append, reduceCtorEq,
      if_true, if_false, List.map_append, List.all_append, List.map_cons, List.map_nil,
      List.all_cons, List.all_nil, id_eq, Bool.and_true]
    ac_rfl

theorem holds_append_mustNot (valuation : Valuation) (table : BoolQuery) (clause : Clause) :
    holds valuation (.bool (table.append .mustNot [clause])) =
      (holds valuation (.bool table) && !holds valuation clause) := by
  rw [holds_bool, holds_bool]
  simp only [RoleTable.verdict, RoleTable.items_map, RoleTable.items_append, reduceCtorEq,
    if_true, if_false, List.map_append, List.any_append, List.map_cons, List.map_nil,
    List.any_cons, List.any_nil, id_eq, Bool.or_false, Bool.not_or]
  ac_rfl

end Clause

namespace Query

def holds (valuation : Valuation) (query : Query) : Bool :=
  query.clause.holds valuation

theorem holds_empty (valuation : Valuation) : holds valuation .empty = true :=
  valuation.matchAll

theorem holds_negate (valuation : Valuation) (query : Query) :
    holds valuation query.negate = !holds valuation query := by
  unfold holds negate
  rw [clause_ofClause, Clause.holds_negate]

theorem holds_bothUnderMust (valuation : Valuation) (left right : Clause) :
    holds valuation (.boolean (.ofRole .must [left, right])) =
      (left.holds valuation && right.holds valuation) := by
  change Clause.holds valuation (.bool (.ofRole .must [left, right])) = _
  rw [Clause.holds_bool]
  simp [RoleTable.ofRole, RoleTable.map, RoleTable.verdict, RoleTable.items, RoleTable.items?]

theorem holds_merge (valuation : Valuation) (left right : Query) :
    holds valuation (left.merge right) = (holds valuation left && holds valuation right) := by
  cases right with
  | empty =>
      rw [holds_empty, Bool.and_true]
      cases left <;> rfl
  | single _ | boolean _ =>
      cases left with
      | empty =>
          rw [holds_empty, Bool.true_and]
          rfl
      | single _ | boolean _ => exact holds_bothUnderMust valuation _ _

end Query

/-- Slots put together by merging and negating, in any nesting. -/
inductive Expression where
  | slot (query : Query)
  | merge (left right : Expression)
  | negate (operand : Expression)

namespace Expression

def assemble : Expression → Query
  | .slot query => query
  | .merge left right => left.assemble.merge right.assemble
  | .negate operand => operand.assemble.negate

def truth (valuation : Valuation) : Expression → Bool
  | .slot query => query.holds valuation
  | .merge left right => left.truth valuation && right.truth valuation
  | .negate operand => !operand.truth valuation

theorem holds_assemble (valuation : Valuation) (expression : Expression) :
    expression.assemble.holds valuation = expression.truth valuation := by
  induction expression with
  | slot query => rfl
  | merge left right ihLeft ihRight =>
      rw [assemble, Query.holds_merge, ihLeft, ihRight, truth]
  | negate operand ih => rw [assemble, Query.holds_negate, ih, truth]

end Expression

/--
For every valuation: a bool query means what its roles ask for, an empty slot is true, merging
is conjunction, negating is negation, both through any nesting, and a clause that is pushed
narrows an open slot by itself or, under `must_not`, by its opposite.
-/
theorem merge_and_negate_meaning (valuation : Valuation) :
    (∀ table : BoolQuery, (Clause.bool table).holds valuation = true ↔
        table.Satisfied fun clause => clause.holds valuation = true) ∧
      Query.empty.holds valuation = true ∧
      (∀ left right : Query, (left.merge right).holds valuation =
        (left.holds valuation && right.holds valuation)) ∧
      (∀ query : Query, query.negate.holds valuation = !query.holds valuation) ∧
      (∀ clause : Clause, clause.negate.holds valuation = !clause.holds valuation) ∧
      (∀ expression : Expression,
        expression.assemble.holds valuation = expression.truth valuation) ∧
      (∀ (table : BoolQuery) (clause : Clause) (role : Role),
        table.current = some role → role = .must ∨ role = .filter →
          ∃ pushed, (Query.boolean table).push clause = .ok pushed ∧
            pushed.holds valuation =
              ((Query.boolean table).holds valuation && clause.holds valuation)) ∧
      ∀ (table : BoolQuery) (clause : Clause), table.current = some .mustNot →
        ∃ pushed, (Query.boolean table).push clause = .ok pushed ∧
          pushed.holds valuation =
            ((Query.boolean table).holds valuation && !clause.holds valuation) := by
  refine ⟨Clause.holds_bool_iff valuation, Query.holds_empty valuation,
    Query.holds_merge valuation, Query.holds_negate valuation, Clause.holds_negate valuation,
    Expression.holds_assemble valuation, ?_, ?_⟩
  · intro table clause role isOpen required
    exact ⟨_, Query.push_open isOpen clause,
      Clause.holds_append_required valuation table clause required⟩
  · intro table clause isOpen
    exact ⟨_, Query.push_open isOpen clause,
      Clause.holds_append_mustNot valuation table clause⟩

/-- A document that has every field and no known value in any of them. -/
def presence : Valuation where
  truth content := content.kind == .matchAll || content.kind == .exists
  matchAll := rfl
  matchNone := rfl

/-- The same negated clause refutes a filter and passes under `must_not`. -/
theorem pushed_absence_meaning :
    (∃ pushed,
        (Query.boolean (.ofRole .filter [.leaf (.exists "stock")])).push
            (.underMustNot (.leaf (.exists "price"))) = .ok pushed ∧
          pushed.holds presence = false) ∧
      ∃ pushed,
        (Query.boolean (.ofRole .mustNot [.leaf .matchNone])).push
            (.underMustNot (.leaf (.exists "price"))) = .ok pushed ∧
          pushed.holds presence = true := by
  obtain ⟨_, _, _, _, _, _, required, excluded⟩ := merge_and_negate_meaning presence
  constructor
  · obtain ⟨pushed, accepted, meaning⟩ :=
      required (.ofRole .filter [.leaf (.exists "stock")])
        (.underMustNot (.leaf (.exists "price"))) .filter rfl (Or.inr rfl)
    exact ⟨pushed, accepted, meaning⟩
  · obtain ⟨pushed, accepted, meaning⟩ :=
      excluded (.ofRole .mustNot [.leaf .matchNone])
        (.underMustNot (.leaf (.exists "price"))) rfl
    exact ⟨pushed, accepted, meaning⟩

end SearchRequest
