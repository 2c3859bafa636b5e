/-
Bodies merged one after the other. What a merged body shows is told by the list of
its parts: of a parameter the last value that any part gives, of the sort clauses
every field where it first comes up with the clause that comes last, and of the
aggregations and the leaves of the query all of them, part by part.

The list does not know how the merges were grouped. So two groupings of the same
parts agree in everything that it tells, which is all but the nesting of the query.
-/

import SearchRequest.Body
import SearchRequest.Proofs.ClauseTree
import SearchRequest.Proofs.Overlay

namespace SearchRequest

namespace Query

/-- With an empty slot among three, at most two clauses come under one `must`. -/
theorem merge_assoc_of_empty {first second third : Query}
    (blank : first = .empty ∨ second = .empty ∨ third = .empty) :
    (first.merge second).merge third = first.merge (second.merge third) := by
  rcases blank with same | same | same
  · subst same
    rfl
  · subst same
    rw [merge_empty, empty_merge]
  · subst same
    rw [merge_empty, merge_empty]

end Query

namespace Body

structure MergedFrom (parts : List Body) (merged : Body) : Prop where
  offset : merged.offset = (parts.filterMap Body.offset).getLast?
  pageSize : merged.pageSize = (parts.filterMap Body.pageSize).getLast?
  source : merged.source = (parts.filterMap Body.source).getLast?
  collapse : merged.collapse = (parts.filterMap Body.collapse).getLast?
  sortFields :
    merged.sorting.keys = (parts.flatMap fun part => part.sorting.keys).eraseDups
  sortClause : ∀ field, merged.sorting.find? field =
    (parts.filterMap fun part => part.sorting.find? field).getLast?
  leaves : merged.query.leaves = parts.flatMap fun part => part.query.leaves
  aggregations : merged.aggregations = parts.flatMap Body.aggregations

/-- Everything but the query, whose clauses may be nested in another way. -/
structure AgreesBesideQuery (left right : Body) : Prop where
  offset : left.offset = right.offset
  pageSize : left.pageSize = right.pageSize
  source : left.source = right.source
  collapse : left.collapse = right.collapse
  sorting : left.sorting = right.sorting
  aggregations : left.aggregations = right.aggregations

section

variable {α : Type}

private theorem last_given_single (given? : Body → Option α) (part : Body) :
    given? part = ([part].filterMap given?).getLast? := by
  cases given : given? part with
  | none => simp [given]
  | some value => simp [given]

private theorem last_given_merge {given? : Body → Option α} {parts others : List Body}
    {left right : Option α} (fromParts : left = (parts.filterMap given?).getLast?)
    (fromOthers : right = (others.filterMap given?).getLast?) :
    right.or left = ((parts ++ others).filterMap given?).getLast? := by
  rw [List.filterMap_append, List.getLast?_append, fromParts, fromOthers]

end

theorem mergedFrom_single (part : Body) : MergedFrom [part] part where
  offset := last_given_single Body.offset part
  pageSize := last_given_single Body.pageSize part
  source := last_given_single Body.source part
  collapse := last_given_single Body.collapse part
  sortFields := by
    have distinct := eraseDups_eq_self part.sorting.distinct
    rw [List.flatMap_singleton]
    exact distinct.symm
  sortClause field := last_given_single (fun part => part.sorting.find? field) part
  leaves := by rw [List.flatMap_singleton]
  aggregations := by rw [List.flatMap_singleton]

theorem MergedFrom.merge {parts others : List Body} {left right : Body}
    (fromParts : MergedFrom parts left) (fromOthers : MergedFrom others right) :
    MergedFrom (parts ++ others) (left.merge right) where
  offset := Option.orElse_eq_or.trans (last_given_merge fromParts.offset fromOthers.offset)
  pageSize := Option.orElse_eq_or.trans (last_given_merge fromParts.pageSize fromOthers.pageSize)
  source := Option.orElse_eq_or.trans (last_given_merge fromParts.source fromOthers.source)
  collapse := Option.orElse_eq_or.trans (last_given_merge fromParts.collapse fromOthers.collapse)
  sortFields := by
    have fields := Entries.keys_overlay right.sorting.entries fromParts.sortFields
    have rightFields : Entries.keys right.sorting.entries = _ := fromOthers.sortFields
    rw [rightFields, eraseDups_append_eraseDups] at fields
    rw [List.flatMap_append]
    exact fields
  sortClause field := by
    have clause := left.sorting.find?_overlay right.sorting field
    exact clause.trans (last_given_merge (fromParts.sortClause field) (fromOthers.sortClause field))
  leaves := by
    rw [List.flatMap_append, ← fromParts.leaves, ← fromOthers.leaves]
    exact left.query.leaves_merge right.query
  aggregations := by
    rw [List.flatMap_append, ← fromParts.aggregations, ← fromOthers.aggregations]
    rfl

/-- The parts decide everything beside the query. -/
theorem MergedFrom.agree {parts : List Body} {left right : Body}
    (isLeft : MergedFrom parts left) (isRight : MergedFrom parts right) :
    AgreesBesideQuery left right where
  offset := isLeft.offset.trans isRight.offset.symm
  pageSize := isLeft.pageSize.trans isRight.pageSize.symm
  source := isLeft.source.trans isRight.source.symm
  collapse := isLeft.collapse.trans isRight.collapse.symm
  sorting := by
    apply Mapping.eq_of_find?_eq
    · exact isLeft.sortFields.trans isRight.sortFields.symm
    · intro field
      exact (isLeft.sortClause field).trans (isRight.sortClause field).symm
  aggregations := isLeft.aggregations.trans isRight.aggregations.symm

theorem eq_of_agree {left right : Body} (agree : AgreesBesideQuery left right)
    (sameQuery : left.query = right.query) : left = right := by
  obtain ⟨offset, pageSize, source, collapse, sorting, aggregations⟩ := agree
  cases left
  cases right
  cases offset
  cases pageSize
  cases source
  cases collapse
  cases sorting
  cases sameQuery
  cases aggregations
  rfl

theorem empty_merge (body : Body) : empty.merge body = body := by
  apply eq_of_agree
  · exact {
      offset := Option.orElse_eq_or.trans Option.or_none
      pageSize := Option.orElse_eq_or.trans Option.or_none
      source := Option.orElse_eq_or.trans Option.or_none
      collapse := Option.orElse_eq_or.trans Option.or_none
      sorting := body.sorting.empty_overlay
      aggregations := rfl }
  · exact body.query.empty_merge

theorem merge_empty (body : Body) : body.merge .empty = body := by
  apply eq_of_agree
  · exact {
      offset := rfl
      pageSize := rfl
      source := rfl
      collapse := rfl
      sorting := body.sorting.overlay_empty
      aggregations := List.append_nil body.aggregations }
  · exact body.query.merge_empty

/--
The empty body changes nothing on either side. How three bodies are grouped shows in the nesting
of the query at most, and only when all three have one; the leaves stand in the same order even
then. Every grouping takes from its parts what comes last, and sort fields in first-seen order.
-/
theorem merge_monoid_up_to_nesting (first second third : Body) :
    empty.merge first = first ∧ first.merge .empty = first ∧
      AgreesBesideQuery ((first.merge second).merge third)
        (first.merge (second.merge third)) ∧
      (first.query = .empty ∨ second.query = .empty ∨ third.query = .empty →
        ((first.merge second).merge third).query = (first.merge (second.merge third)).query) ∧
      ((first.merge second).merge third).query.leaves =
        (first.merge (second.merge third)).query.leaves ∧
      MergedFrom [first, second] (first.merge second) ∧
      MergedFrom [first, second, third] ((first.merge second).merge third) ∧
      MergedFrom [first, second, third] (first.merge (second.merge third)) := by
  have two := (mergedFrom_single first).merge (mergedFrom_single second)
  have leftGrouped := two.merge (mergedFrom_single third)
  have rightGrouped :=
    (mergedFrom_single first).merge ((mergedFrom_single second).merge (mergedFrom_single third))
  refine ⟨empty_merge first, merge_empty first, leftGrouped.agree rightGrouped, ?_, ?_,
    two, leftGrouped, rightGrouped⟩
  · exact Query.merge_assoc_of_empty
  · exact leftGrouped.leaves.trans rightGrouped.leaves.symm

end Body

end SearchRequest
