/-
The states of the slot for the top-level clause, over any run of calls. An empty
slot is filled once and for all, and a bool query stays one. A leaf makes way only
for its negation or for a merge. What a slot answers to a clause is decided by its
state: it refuses a second clause beside a leaf, and every clause while its bool
query has no role open.

The last of these passes for good. A role is opened by a call on the bool query, by
a block under a role, by a clause that comes with an open role, by a negation that
wraps and by a merge that wraps, and no call closes it again.
-/

import SearchRequest.Proofs.SlotRun

namespace SearchRequest

namespace Query

def HasOpenRole (query : Query) : Prop :=
  ∃ table role, query = .boolean table ∧ table.current = some role

/-- The outcome for a clause that is handed over is decided by the state of the slot. -/
structure Answers (query : Query) (outcome : Except RequestError Query) : Prop where
  accepted : (∃ pushed, outcome = .ok pushed) ↔ query = .empty ∨ query.HasOpenRole
  besideLeaf : outcome = .error .multipleTopLevelClauses ↔ ∃ content, query = .single content
  closed : outcome = .error .noOpenRole ↔ ∃ table, query = .boolean table ∧ table.current = none

theorem hasOpenRole_boolean_iff (table : BoolQuery) :
    (boolean table).HasOpenRole ↔ table.current ≠ none := by
  constructor
  · intro isOpen closed
    obtain ⟨other, role, same, opened⟩ := isOpen
    cases same
    rw [closed] at opened
    cases opened
  · intro isOpen
    obtain ⟨role, opened⟩ := Option.ne_none_iff_exists'.mp isOpen
    exact ⟨table, role, rfl, opened⟩

theorem not_hasOpenRole_empty : ¬ empty.HasOpenRole := by
  intro isOpen
  obtain ⟨_, _, impossible, _⟩ := isOpen
  cases impossible

theorem not_hasOpenRole_single (content : Leaf) : ¬ (single content).HasOpenRole := by
  intro isOpen
  obtain ⟨_, _, impossible, _⟩ := isOpen
  cases impossible

theorem isBoolean_iff (query : Query) :
    query.isBoolean = true ↔ ∃ table, query = .boolean table := by
  cases query <;> simp [isBoolean]

theorem answers_push (query : Query) (clause : Clause) : Answers query (query.push clause) := by
  cases query with
  | empty => constructor <;> simp [push, HasOpenRole]
  | single content => constructor <;> simp [push, HasOpenRole]
  | boolean table =>
      cases isOpen : table.current with
      | none =>
          rw [push_closed isOpen]
          constructor <;> simp [hasOpenRole_boolean_iff, isOpen]
      | some role =>
          rw [push_open isOpen]
          constructor <;> simp [hasOpenRole_boolean_iff, isOpen]

theorem pushRange_blank {field : String} (blank : Text.isBlank field = true) (query : Query)
    (bounds : RangeBounds) :
    query.pushRange field bounds = .error (.invalidArgument .blankRangeField) := by
  rw [pushRange_eq, RangeClause.build_blank blank]

theorem pushRange_unbounded {field : String} (notBlank : Text.isBlank field = false)
    {bounds : RangeBounds} (unbounded : bounds.isEmpty = true) (query : Query) :
    query.pushRange field bounds = .error (.invalidArgument .noRangeBound) := by
  rw [pushRange_eq, RangeClause.build_unbounded notBlank unbounded]

theorem answers_pushRange {field : String} (notBlank : Text.isBlank field = false)
    {bounds : RangeBounds} (bounded : bounds.isEmpty = false) (query : Query) :
    Answers query (query.pushRange field bounds) := by
  rw [pushRange_eq, RangeClause.build_eq_ok notBlank bounded]
  exact answers_push query _

theorem closed_of_pushRange {query : Query} {field : String} {bounds : RangeBounds}
    (refused : query.pushRange field bounds = .error .noOpenRole) :
    ∃ table, query = .boolean table ∧ table.current = none := by
  cases blank : Text.isBlank field with
  | true =>
      rw [pushRange_blank blank] at refused
      cases refused
  | false =>
      cases unbounded : bounds.isEmpty with
      | true =>
          rw [pushRange_unbounded blank unbounded] at refused
          cases refused
      | false => exact (answers_pushRange blank unbounded query).closed.mp refused

theorem closed_iff (query : Query) :
    (∃ table, query = .boolean table ∧ table.current = none) ↔
      query.isBoolean = true ∧ ¬ query.HasOpenRole := by
  cases query with
  | empty => simp [isBoolean]
  | single content => simp [isBoolean]
  | boolean table => simp [isBoolean, hasOpenRole_boolean_iff]

/-- A negation that wraps comes with the role of its wrapper open. -/
theorem hasOpenRole_ofClause_negate_iff (clause : Clause) :
    (ofClause clause.negate).HasOpenRole ↔ (ofClause clause.negate).isBoolean = true := by
  unfold Clause.negate
  split
  · simp [ofClause, isBoolean, not_hasOpenRole_single]
  · simp [ofClause, isBoolean, not_hasOpenRole_single]
  · exact ⟨fun _ => rfl, fun _ => ⟨_, .mustNot, rfl, rfl⟩⟩

theorem hasOpenRole_negate_iff (query : Query) :
    query.negate.HasOpenRole ↔ query.HasOpenRole ∨ query.negate.isBoolean = true := by
  have wrapped : query.negate.HasOpenRole ↔ query.negate.isBoolean = true :=
    hasOpenRole_ofClause_negate_iff query.clause
  rw [wrapped, iff_or_self]
  intro isOpen
  obtain ⟨table, _, same, _⟩ := isOpen
  rw [same]
  rfl

theorem hasOpenRole_merge_iff (query other : Query) :
    (query.merge other).HasOpenRole ↔
      (query ≠ .empty ∧ other ≠ .empty) ∨ query.HasOpenRole ∨ other.HasOpenRole := by
  by_cases blank : query = .empty
  · subst blank
    simp [empty_merge, not_hasOpenRole_empty]
  · by_cases otherBlank : other = .empty
    · subst otherBlank
      simp [merge_empty, not_hasOpenRole_empty]
    · have wrapped : (query.merge other).HasOpenRole := by
        rw [merge_of_filled blank otherBlank]
        exact ⟨_, .must, rfl, rfl⟩
      simp [wrapped, blank, otherBlank]

end Query

/-! ### One call -/

namespace QueryOperation

/-- The calls that leave a leaf in the slot alone; any other call puts something else there. -/
def KeepsLeaf : QueryOperation → Prop
  | .push _ | .pushRange _ _ | .editBool _ | .withBool _ _ _ => True
  | .negate => False
  | .merge other | .mergeInto other => other = .empty

/-- The call opens a role of the top-level bool query, or brings in one with an open role. -/
def Opens (query : Query) : QueryOperation → Prop
  | .push clause => query = .empty ∧ (Query.ofClause clause).HasOpenRole
  | .pushRange _ _ => False
  | .editBool calls => (∀ content, query ≠ .single content) ∧ ∃ role, .openRole role ∈ calls
  | .withBool _ _ _ => ∀ content, query ≠ .single content
  | .negate => query.negate.isBoolean = true
  | .merge other | .mergeInto other => query ≠ .empty ∧ other ≠ .empty ∨ other.HasOpenRole

theorem isBoolean_apply {query : Query} (isBoolean : query.isBoolean = true)
    (operation : QueryOperation) : (operation.apply query).2.isBoolean = true := by
  obtain ⟨table, same⟩ := (Query.isBoolean_iff query).mp isBoolean
  subst same
  have pushed : ∀ clause, (apply (.boolean table) (.push clause)).2.isBoolean = true := by
    intro clause
    change (settle (.boolean table) ((table.push clause).map .boolean)).2.isBoolean = true
    cases table.push clause <;> rfl
  cases operation with
  | push clause => exact pushed clause
  | pushRange field bounds =>
      rcases apply_pushRange (.boolean table) field bounds with ⟨_, same⟩ | ⟨range, same⟩
      · rw [same]
        rfl
      · rw [same]
        exact pushed (.leaf (.range range))
  | editBool calls => rfl
  | withBool role calls result => rfl
  | negate => rfl
  | merge other => cases other <;> rfl
  | mergeInto other => cases other <;> rfl

theorem apply_single_iff (content : Leaf) (operation : QueryOperation) :
    (operation.apply (.single content)).2 = .single content ↔ operation.KeepsLeaf := by
  cases operation with
  | push clause => exact ⟨fun _ => True.intro, fun _ => rfl⟩
  | pushRange field bounds =>
      refine ⟨fun _ => True.intro, fun _ => ?_⟩
      rcases apply_pushRange (.single content) field bounds with ⟨_, same⟩ | ⟨_, same⟩
      · rw [same]
      · rw [same]
        rfl
  | editBool calls => exact ⟨fun _ => True.intro, fun _ => rfl⟩
  | withBool role calls result => exact ⟨fun _ => True.intro, fun _ => rfl⟩
  | negate =>
      refine ⟨fun same => ?_, False.elim⟩
      cases content <;> cases same
  | merge other => cases other <;> simp [apply, KeepsLeaf, Query.merge, Query.topLevel?]
  | mergeInto other => cases other <;> simp [apply, KeepsLeaf, Query.merge, Query.topLevel?]

theorem apply_ne_empty {query : Query} (filled : query ≠ .empty) (operation : QueryOperation) :
    (operation.apply query).2 ≠ .empty := by
  cases query with
  | empty => exact absurd rfl filled
  | single content =>
      by_cases keeps : operation.KeepsLeaf
      · rw [(apply_single_iff content operation).mpr keeps]
        exact filled
      · cases operation with
        | push _ | pushRange _ _ | editBool _ | withBool _ _ _ => exact absurd True.intro keeps
        | negate => cases content <;> exact nofun
        | merge other | mergeInto other =>
            cases other with
            | empty => exact absurd rfl keeps
            | single _ | boolean _ => exact nofun
  | boolean table =>
      intro blank
      have isBoolean := @isBoolean_apply (.boolean table) rfl operation
      rw [blank] at isBoolean
      cases isBoolean

theorem hasOpenRole_push_iff (query : Query) (clause : Clause) :
    (apply query (.push clause)).2.HasOpenRole ↔
      query.HasOpenRole ∨ Opens query (.push clause) := by
  cases query with
  | empty => simp [apply, Query.push, settle, Opens, Query.not_hasOpenRole_empty]
  | single content => simp [apply, Query.push, settle, Opens]
  | boolean table =>
      cases isOpen : table.current with
      | none =>
          rw [apply, Query.push_closed isOpen]
          simp [settle, Opens]
      | some role =>
          rw [apply, Query.push_open isOpen]
          simp [settle, Opens, Query.hasOpenRole_boolean_iff, RoleTable.append]

theorem hasOpenRole_editBool_iff (query : Query) (calls : List BoolOperation) :
    (apply query (.editBool calls)).2.HasOpenRole ↔
      query.HasOpenRole ∨ Opens query (.editBool calls) := by
  have opening : (∃ role, .openRole role ∈ calls) ↔ BoolRun.lastOpened calls ≠ none := by
    rw [Ne, BoolRun.lastOpened_eq_none_iff]
    exact Classical.not_forall_not.symm
  cases query with
  | empty =>
      simp only [apply, Query.editBool, Query.hasOpenRole_boolean_iff, BoolRun.current_execute]
      simp [Opens, opening, Query.not_hasOpenRole_empty]
  | single content => simp [apply, Query.editBool, Opens]
  | boolean table =>
      simp only [apply, Query.editBool, Query.hasOpenRole_boolean_iff,
        BoolRun.current_execute_from, Opens, opening]
      cases BoolRun.lastOpened calls <;> simp

/-- A call opens a role for good, whatever it is that brings the role in. -/
theorem hasOpenRole_apply_iff (query : Query) (operation : QueryOperation) :
    (operation.apply query).2.HasOpenRole ↔ query.HasOpenRole ∨ operation.Opens query := by
  cases operation with
  | push clause => exact hasOpenRole_push_iff query clause
  | pushRange field bounds =>
      rw [Opens, or_false]
      rcases apply_pushRange query field bounds with ⟨_, same⟩ | ⟨range, same⟩
      · rw [same]
      · have leafCloses : ¬ Opens query (.push (.leaf (.range range))) :=
          fun opens => Query.not_hasOpenRole_single _ opens.2
        rw [same, hasOpenRole_push_iff, or_iff_left leafCloses]
  | editBool calls => exact hasOpenRole_editBool_iff query calls
  | withBool role calls result =>
      have opening : ∃ opened, .openRole opened ∈ BoolOperation.openRole role :: calls :=
        ⟨role, List.mem_cons_self⟩
      rw [apply_withBool, hasOpenRole_editBool_iff]
      simp only [Opens, opening, and_true]
  | negate => exact Query.hasOpenRole_negate_iff query
  | merge other => exact (Query.hasOpenRole_merge_iff query other).trans or_left_comm
  | mergeInto other =>
      have merged := Query.hasOpenRole_merge_iff other query
      rw [and_comm, ← or_assoc, or_comm] at merged
      exact merged

end QueryOperation

/-! ### A whole run -/

namespace QueryRun

open QueryOperation

/-- Some call of the run opens a role where it stands. -/
def Opened (query : Query) (run : List QueryOperation) : Prop :=
  ∃ before operation after, run = before ++ operation :: after ∧
    operation.Opens (execute query before)

theorem opened_cons_iff (query : Query) (operation : QueryOperation) (run : List QueryOperation) :
    Opened query (operation :: run) ↔
      operation.Opens query ∨ Opened (operation.apply query).2 run := by
  constructor
  · intro opened
    obtain ⟨before, opening, after, split, opens⟩ := opened
    cases before with
    | nil =>
        cases split
        exact Or.inl opens
    | cons first before =>
        cases split
        exact Or.inr ⟨before, opening, after, rfl, opens⟩
  · intro either
    rcases either with here | ⟨before, opening, after, split, opens⟩
    · exact ⟨[], operation, run, rfl, here⟩
    · exact ⟨operation :: before, opening, after, congrArg (operation :: ·) split, opens⟩

theorem hasOpenRole_execute_iff (query : Query) (run : List QueryOperation) :
    (execute query run).HasOpenRole ↔ query.HasOpenRole ∨ Opened query run := by
  induction run generalizing query with
  | nil => simp [execute, Opened]
  | cons operation run ih =>
      rw [execute_cons, ih, hasOpenRole_apply_iff, opened_cons_iff, or_assoc]

theorem execute_ne_empty {query : Query} (filled : query ≠ .empty) (run : List QueryOperation) :
    execute query run ≠ .empty := by
  apply List.foldlRecOn (motive := fun reached : Query => reached ≠ .empty) run _ filled
  intro reached stillFilled operation _
  exact apply_ne_empty stillFilled operation

theorem isBoolean_execute {query : Query} (isBoolean : query.isBoolean = true)
    (run : List QueryOperation) : (execute query run).isBoolean = true := by
  apply List.foldlRecOn (motive := fun reached : Query => reached.isBoolean = true) run _ isBoolean
  intro reached stillBoolean operation _
  exact isBoolean_apply stillBoolean operation

theorem execute_single (content : Leaf) {run : List QueryOperation}
    (keeps : ∀ operation ∈ run, operation.KeepsLeaf) :
    execute (.single content) run = .single content := by
  apply List.foldlRecOn (motive := fun reached => reached = Query.single content) run _ rfl
  intro reached unchanged operation member
  rw [unchanged]
  exact (apply_single_iff content operation).mpr (keeps operation member)

/-- How the slot changes with whatever is called next. -/
structure StateLaws (query : Query) : Prop where
  filled : query ≠ .empty → ∀ later, execute query later ≠ .empty
  boolean : query.isBoolean = true → ∀ later, (execute query later).isBoolean = true
  leafKept : ∀ content, query = .single content → ∀ later,
    (∀ operation ∈ later, operation.KeepsLeaf) → execute query later = query
  matchAllNegated : query = .single .matchAll → query.negate = .single .matchNone
  matchNoneNegated : query = .single .matchNone → query.negate = .single .matchAll
  leafNegated : ∀ content, query = .single content → content ≠ .matchAll →
    content ≠ .matchNone → query.negate = .boolean (.ofRole .mustNot [.leaf content])

/-- What the slot answers to a clause, to a range and to an edit of its bool query. -/
structure AnswerLaws (query : Query) : Prop where
  push : ∀ clause, query.Answers (query.push clause)
  blankRange : ∀ field bounds, Text.isBlank field = true →
    query.pushRange field bounds = .error (.invalidArgument .blankRangeField)
  unboundedRange : ∀ field bounds, Text.isBlank field = false → bounds.isEmpty = true →
    query.pushRange field bounds = .error (.invalidArgument .noRangeBound)
  range : ∀ field bounds, Text.isBlank field = false → bounds.isEmpty = false →
    query.Answers (query.pushRange field bounds)
  pushRefused : ∀ clause error, ((QueryOperation.push clause).apply query).1 = .error error →
    ((QueryOperation.push clause).apply query).2 = query
  rangeRefused : ∀ field bounds error,
    ((QueryOperation.pushRange field bounds).apply query).1 = .error error →
      ((QueryOperation.pushRange field bounds).apply query).2 = query
  boolRefused : ∀ content, query = .single content → ∀ {β : Type}
    (block : BoolQuery → Except RequestError β × BoolQuery),
      query.editBool block = (.error .multipleTopLevelClauses, query)
  boolGiven : (∀ content, query ≠ .single content) →
    ∃ table, (query = .empty ∧ table = .empty ∨ query = .boolean table) ∧ ∀ {β : Type}
      (block : BoolQuery → Except RequestError β × BoolQuery),
        query.editBool block = ((block table).1, .boolean (block table).2)

/-- A clause is only refused for want of an open role while none has ever been opened. -/
structure OpeningLaws (run : List QueryOperation) (query : Query) : Prop where
  neverOpened : ∀ clause, query.push clause = .error .noOpenRole ↔
    query.isBoolean = true ∧ ¬ Opened .empty run
  rangeNeverOpened : ∀ field bounds, query.pushRange field bounds = .error .noOpenRole →
    query.isBoolean = true ∧ ¬ Opened .empty run
  opened : Opened .empty run → ∀ later clause,
    ∃ pushed, (execute query later).push clause = .ok pushed
  rangeOpened : Opened .empty run → ∀ later field bounds,
    (execute query later).pushRange field bounds ≠ .error .noOpenRole

theorem stateLaws (query : Query) : StateLaws query where
  filled := execute_ne_empty
  boolean := isBoolean_execute
  leafKept content isLeaf later keeps := by
    subst isLeaf
    exact execute_single content keeps
  matchAllNegated isLeaf := by rw [isLeaf]; rfl
  matchNoneNegated isLeaf := by rw [isLeaf]; rfl
  leafNegated content isLeaf notAll notNone := by
    subst isLeaf
    cases content with
    | matchAll => exact absurd rfl notAll
    | matchNone => exact absurd rfl notNone
    | _ => rfl

theorem answerLaws (query : Query) : AnswerLaws query where
  push := query.answers_push
  blankRange _ bounds blank := Query.pushRange_blank blank query bounds
  unboundedRange _ _ notBlank unbounded := Query.pushRange_unbounded notBlank unbounded query
  range _ _ notBlank bounded := Query.answers_pushRange notBlank bounded query
  pushRefused _ _ refused := settle_error refused
  rangeRefused _ _ _ refused := settle_error refused
  boolRefused content isLeaf := by
    intro β block
    rw [isLeaf]
    rfl
  boolGiven notLeaf := by
    cases query with
    | empty => exact ⟨.empty, Or.inl ⟨rfl, rfl⟩, fun _ => rfl⟩
    | single content => exact absurd rfl (notLeaf content)
    | boolean table => exact ⟨table, Or.inr rfl, fun _ => rfl⟩

theorem openingLaws (run : List QueryOperation) : OpeningLaws run (execute .empty run) := by
  have isOpen : (execute .empty run).HasOpenRole ↔ Opened .empty run := by
    rw [hasOpenRole_execute_iff, or_iff_right Query.not_hasOpenRole_empty]
  have closed := Query.closed_iff (execute .empty run)
  rw [isOpen] at closed
  have openLater : Opened .empty run → ∀ later,
      (execute (execute .empty run) later).HasOpenRole := by
    intro opened later
    exact (hasOpenRole_execute_iff _ later).mpr (Or.inl (isOpen.mpr opened))
  exact {
    neverOpened := fun clause => (Query.answers_push _ clause).closed.trans closed
    rangeNeverOpened := fun _ _ refused => closed.mp (Query.closed_of_pushRange refused)
    opened := fun opened later clause =>
      (Query.answers_push _ clause).accepted.mpr (Or.inr (openLater opened later))
    rangeOpened := by
      intro opened later field bounds refused
      have notOpen := (Query.closed_iff _).mp (Query.closed_of_pushRange refused)
      exact notOpen.2 (openLater opened later) }

/--
Whatever has been called so far, refused or not: the state of the slot decides its answers, and
a bool query that refuses a clause has had no role open since the slot was first called.
-/
theorem execute_obeys_slot_laws (run : List QueryOperation) :
    StateLaws (execute .empty run) ∧ AnswerLaws (execute .empty run) ∧
      OpeningLaws run (execute .empty run) :=
  ⟨stateLaws _, answerLaws _, openingLaws run⟩

end QueryRun

end SearchRequest
