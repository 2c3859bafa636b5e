/-
Merging and negating keep the faults of their parts. A negated query has the faults
of the query, since the clause that is put around it lists one role with one clause. A
merged query has those of both sides, and a merged body those of both queries before
those of both lists of aggregations.

So a rendering that fails after merging fails with an error of one of the parts, and
a part that fails is not hidden by the other.
-/

import SearchRequest.Proofs.Fault

namespace SearchRequest

namespace Clause

/-- A bool query with clauses under its only role adds no fault to theirs. -/
theorem faults_ofRole (role : Role) (clause : Clause) (clauses : List Clause) :
    faults (.bool (.ofRole role (clause :: clauses))) = (clause :: clauses).flatMap faults := by
  rw [faults_bool]
  exact List.append_nil _

theorem faults_negate (clause : Clause) : clause.negate.faults = clause.faults := by
  unfold negate
  split
  · rfl
  · rfl
  · next other _ _ =>
      rw [underMustNot, faults_ofRole, List.flatMap_singleton]

end Clause

namespace Query

theorem faults_negate (query : Query) : query.negate.faults = query.faults := by
  unfold faults negate
  rw [clause_ofClause, Clause.faults_negate]

theorem faults_merge (query other : Query) :
    (query.merge other).faults = query.faults ++ other.faults := by
  by_cases blank : query = .empty
  · subst blank
    rfl
  · by_cases otherBlank : other = .empty
    · subst otherBlank
      rw [merge_empty]
      exact (List.append_nil query.faults).symm
    · rw [merge_of_filled blank otherBlank]
      calc
        faults (.boolean (.ofRole .must [query.clause, other.clause]))
            = [query.clause, other.clause].flatMap Clause.faults := Clause.faults_ofRole ..
        _ = query.faults ++ other.faults := by
              rw [List.flatMap_cons, List.flatMap_singleton, faults, faults]

end Query

theorem Aggregations.faults_merge (items others : Aggregations) :
    (items.merge others).faults = items.faults ++ others.faults :=
  List.flatMap_append

/-- The parts of the two bodies come in pairs, the queries first. -/
theorem Body.faults_merge (body other : Body) :
    (body.merge other).faults =
      (body.query.faults ++ other.query.faults) ++
        (body.aggregations.faults ++ other.aggregations.faults) := by
  rw [← Query.faults_merge, ← Aggregations.faults_merge]
  rfl

theorem Body.faults_merge_nil_iff (body other : Body) :
    (body.merge other).faults = [] ↔ body.faults = [] ∧ other.faults = [] := by
  rw [faults_merge, faults, faults]
  simp only [List.append_eq_nil_iff]
  exact and_and_and_comm

/--
A negated query fails as the query does. A merged query fails as its left side does, or else as
its right side does, and it is rendered when both are. A merged body is rendered when both bodies
are, and otherwise fails with the first failure of the two queries and the two lists of
aggregations, in this order.
-/
theorem merge_and_negate_keep_failures (query other : Query) (body extra : Body) :
    ((∃ document, query.negate.toJson = .ok document) ↔
        ∃ document, query.toJson = .ok document) ∧
      failure? query.negate.toJson = failure? query.toJson ∧
      ((∃ document, (query.merge other).toJson = .ok document) ↔
        (∃ document, query.toJson = .ok document) ∧ ∃ document, other.toJson = .ok document) ∧
      failure? (query.merge other).toJson =
        (failure? query.toJson).or (failure? other.toJson) ∧
      ((∃ document, (body.merge extra).toJson = .ok document) ↔
        (∃ document, body.toJson = .ok document) ∧ ∃ document, extra.toJson = .ok document) ∧
      failure? (body.merge extra).toJson =
        ((failure? body.query.toJson).or (failure? extra.query.toJson)).or
          ((failure? body.aggregations.toEntries).or
            (failure? extra.aggregations.toEntries)) := by
  have merged := (query.merge other).toJson_reports
  have mergedBody := (body.merge extra).toJson_reports
  refine ⟨?_, ?_, ?_, ?_, ?_, ?_⟩
  · rw [query.negate.toJson_reports.ok_iff, query.toJson_reports.ok_iff, Query.faults_negate]
  · rw [query.negate.toJson_reports.failure?_eq, query.toJson_reports.failure?_eq,
      Query.faults_negate]
  · rw [merged.ok_iff, query.toJson_reports.ok_iff, other.toJson_reports.ok_iff,
      Query.faults_merge, List.append_eq_nil_iff]
  · rw [merged.failure?_eq, query.toJson_reports.failure?_eq, other.toJson_reports.failure?_eq,
      Query.faults_merge, List.head?_append]
  · rw [mergedBody.ok_iff, body.toJson_reports.ok_iff, extra.toJson_reports.ok_iff,
      Body.faults_merge_nil_iff]
  · rw [mergedBody.failure?_eq, Body.faults_merge]
    simp only [List.head?_append, body.query.toJson_reports.failure?_eq,
      extra.query.toJson_reports.failure?_eq, body.aggregations.toEntries_reports.failure?_eq,
      extra.aggregations.toEntries_reports.failure?_eq]

end SearchRequest
