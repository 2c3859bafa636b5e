/-
Aggregations as trees: how to argue by induction on one, and which filter queries
stand in one. A missing container and an empty one have the same nothing inside,
so both are met as the list of the nested aggregations.
-/

import SearchRequest.Body

namespace SearchRequest

/-- A property that passes from the nested aggregations to the one around them holds of all. -/
@[induction_eliminator]
theorem Aggregation.induction {motive : Aggregation → Prop}
    (metric : ∀ name content, motive (.metric name content))
    (bucket : ∀ name content (children : Option (List Aggregation)),
      (∀ item ∈ children.getD [], motive item) → motive (.bucket name content children)) :
    ∀ aggregation, motive aggregation :=
  @Aggregation.rec motive (fun children => ∀ item ∈ children.getD [], motive item)
    (fun items => ∀ item ∈ items, motive item)
    metric bucket (fun _ impossible => nomatch impossible) (fun _ inside => inside)
    (fun _ impossible => nomatch impossible)
    (fun _ _ first rest => List.forall_mem_cons.mpr ⟨first, rest⟩)

/-- The aggregation is a filter with this query or has one at some depth. -/
inductive Aggregation.HasFilter (query : Query) : Aggregation → Prop
  | here {name : String} {children : Option (List Aggregation)} :
      HasFilter query (.bucket name (.filter query) children)
  | deeper {name : String} {content : Bucket} {children : List Aggregation}
      {item : Aggregation} :
      item ∈ children → HasFilter query item →
        HasFilter query (.bucket name content (some children))

theorem Aggregation.hasFilter_bucket_iff (query : Query) (name : String) (content : Bucket)
    (children : Option (List Aggregation)) :
    HasFilter query (.bucket name content children) ↔
      content = .filter query ∨ ∃ item ∈ children.getD [], HasFilter query item := by
  constructor
  · intro found
    cases found with
    | here => exact Or.inl rfl
    | deeper member nested => exact Or.inr ⟨_, member, nested⟩
  · intro either
    rcases either with same | ⟨item, member, nested⟩
    · subst same
      exact HasFilter.here
    · cases children with
      | none => cases member
      | some children => exact HasFilter.deeper member nested

end SearchRequest
