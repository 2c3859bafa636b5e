/-
Where the leaves in the slot come from. A call that is not refused hands over the
leaves of its operands, and after any run the slot holds just the leaves that its
calls have handed over. None is dropped and none comes in twice, whichever role is
open and however often the tree is wrapped on the way. `match_all` and `match_none`
stay out of the account, since a negation puts the one in the place of the other.

In the document, a clause stands at the top and in the array of each role. Read from
there, it shows every leaf once again, in the order of the tree.
-/

import SearchRequest.Proofs.Construction
import SearchRequest.Proofs.Fragments
import SearchRequest.Proofs.SlotRun

namespace SearchRequest

def Leaf.isConstant : Leaf → Bool
  | .matchAll | .matchNone => true
  | _ => false

/-- The leaves that no negation replaces. -/
def Leaf.lasting (leaves : List Leaf) : List Leaf :=
  leaves.filter fun content => !content.isConstant

theorem Leaf.lasting_append (left right : List Leaf) :
    lasting (left ++ right) = lasting left ++ lasting right :=
  List.filter_append left right

/-- A refused call hands nothing over. -/
def handedOver (outcome : Except RequestError (List Leaf)) : List Leaf :=
  outcome.toOption.getD []

def BoolOperation.contributes (table : BoolQuery) : BoolOperation → List Leaf
  | .openRole _ => []
  | .push clause => handedOver ((table.push clause).map fun _ => clause.leaves)
  | .merge clause => clause.leaves
  | .union other => (Clause.bool other).leaves

def BoolRun.contributed : BoolQuery → List BoolOperation → List Leaf
  | _, [] => []
  | table, operation :: run =>
      operation.contributes table ++ contributed (operation.apply table).2 run

/-- Beside a leaf, the calls on a bool query are not made at all. -/
def QueryOperation.contributes (query : Query) : QueryOperation → List Leaf
  | .push clause => handedOver ((query.push clause).map fun _ => clause.leaves)
  | .pushRange field bounds => handedOver do
      let range ← RangeClause.build field bounds
      (query.pushLeaf (.range range)).map fun _ => [.range range]
  | .editBool calls => handedOver
      (query.editBool fun table => (.ok (BoolRun.contributed table calls), table)).1
  | .withBool role calls _ => handedOver
      (query.withBool role fun table => (.ok (BoolRun.contributed table calls), table)).1
  | .negate => []
  | .merge other | .mergeInto other => other.leaves

def QueryRun.contributed : Query → List QueryOperation → List Leaf
  | _, [] => []
  | query, operation :: run =>
      operation.contributes query ++ contributed (operation.apply query).2 run

namespace Clause

theorem leaves_bool_contents (table : BoolQuery) :
    leaves (.bool table) = table.contents.flatMap leaves := by
  rw [leaves_bool, RoleTable.contents, List.flatMap_assoc]

theorem leaves_append_perm (table : BoolQuery) (role : Role) (clauses : List Clause) :
    (leaves (.bool (table.append role clauses))).Perm
      (leaves (.bool table) ++ clauses.flatMap leaves) := by
  simp only [leaves_bool_contents, ← List.flatMap_append]
  exact (table.contents_append_perm role clauses).flatMap_right leaves

theorem leaves_union_perm (table other : BoolQuery) :
    (leaves (.bool (table.union other))).Perm
      (leaves (.bool table) ++ leaves (.bool other)) := by
  simp only [leaves_bool_contents, ← List.flatMap_append]
  exact (table.contents_union_perm other).flatMap_right leaves

theorem lasting_leaves_negate (clause : Clause) :
    Leaf.lasting clause.negate.leaves = Leaf.lasting clause.leaves := by
  unfold negate
  split
  · rfl
  · rfl
  · rw [underMustNot, leaves_bool]
    simp [RoleTable.ofRole]

end Clause

theorem BoolOperation.leaves_apply_perm (table : BoolQuery) (operation : BoolOperation) :
    (Clause.bool (operation.apply table).2).leaves.Perm
      ((Clause.bool table).leaves ++ operation.contributes table) := by
  cases operation with
  | openRole role => exact Clause.leaves_append_perm table role []
  | push clause =>
      cases isOpen : table.current with
      | none =>
          rw [apply, contributes, RoleTable.push_closed isOpen]
          exact List.Perm.of_eq (List.append_nil _).symm
      | some role =>
          have added := Clause.leaves_append_perm table role [clause]
          rw [List.flatMap_singleton] at added
          rw [apply, contributes, RoleTable.push_open isOpen]
          exact added
  | merge clause =>
      cases clause with
      | leaf content => exact Clause.leaves_append_perm table .must [.leaf content]
      | bool other => exact Clause.leaves_union_perm table other
  | union other => exact Clause.leaves_union_perm table other

theorem BoolRun.leaves_execute_perm (table : BoolQuery) (run : List BoolOperation) :
    (Clause.bool (execute table run)).leaves.Perm
      ((Clause.bool table).leaves ++ contributed table run) := by
  induction run generalizing table with
  | nil => exact List.Perm.of_eq (List.append_nil _).symm
  | cons operation run ih =>
      have first := BoolOperation.leaves_apply_perm table operation
      have rest := ih (operation.apply table).2
      rw [contributed, ← List.append_assoc]
      exact rest.trans (first.append_right _)

namespace Query

theorem leaves_boolean (table : BoolQuery) :
    (Query.boolean table).leaves = (Clause.bool table).leaves :=
  List.append_nil _

theorem leaves_push_perm (query : Query) (clause : Clause) :
    ((QueryOperation.push clause).apply query).2.leaves.Perm
      (query.leaves ++ (QueryOperation.push clause).contributes query) := by
  cases query with
  | empty => exact List.Perm.of_eq (leaves_ofClause clause)
  | single content => exact List.Perm.refl _
  | boolean table =>
      have called := BoolOperation.leaves_apply_perm table (.push clause)
      rw [BoolOperation.apply, BoolOperation.contributes] at called
      rw [QueryOperation.apply, QueryOperation.contributes]
      cases isOpen : table.current with
      | none =>
          rw [push_closed isOpen]
          exact List.Perm.of_eq (List.append_nil _).symm
      | some role =>
          rw [RoleTable.push_open isOpen] at called
          rw [push_open isOpen, QueryOperation.settle, leaves_boolean, leaves_boolean]
          exact called

theorem leaves_editBool_perm (query : Query) (calls : List BoolOperation) :
    ((QueryOperation.editBool calls).apply query).2.leaves.Perm
      (query.leaves ++ (QueryOperation.editBool calls).contributes query) := by
  cases query with
  | empty =>
      have called := BoolRun.leaves_execute_perm .empty calls
      rw [← leaves_boolean] at called
      exact called
  | single content => exact List.Perm.refl _
  | boolean table =>
      have called := BoolRun.leaves_execute_perm table calls
      rw [← leaves_boolean, ← leaves_boolean] at called
      exact called

/-- An empty slot stands for `match_all`, which is left out like its negation. -/
theorem lasting_negate (query : Query) :
    Leaf.lasting query.negate.leaves = Leaf.lasting query.leaves := by
  have stands : Leaf.lasting query.clause.leaves = Leaf.lasting query.leaves := by
    cases query with
    | empty => rfl
    | single _ | boolean _ => exact congrArg Leaf.lasting (List.append_nil _).symm
  rw [negate, leaves_ofClause, ← stands]
  exact query.clause.lasting_leaves_negate

end Query

namespace QueryOperation

/-- Only a negation changes leaves, and those it changes are not accounted for. -/
theorem lasting_apply_perm (query : Query) (operation : QueryOperation) :
    (Leaf.lasting (operation.apply query).2.leaves).Perm
      (Leaf.lasting (query.leaves ++ operation.contributes query)) := by
  cases operation with
  | push clause => exact (query.leaves_push_perm clause).filter _
  | pushRange field bounds =>
      rw [apply, contributes, Query.pushRange_eq]
      cases RangeClause.build field bounds with
      | error refused => exact List.Perm.of_eq (congrArg _ (List.append_nil _).symm)
      | ok range => exact (query.leaves_push_perm (.leaf (.range range))).filter _
  | editBool calls => exact (query.leaves_editBool_perm calls).filter _
  | withBool role calls result =>
      rw [apply_withBool]
      have same : contributes query (.withBool role calls result) =
          contributes query (.editBool (.openRole role :: calls)) := by
        cases query <;> rfl
      rw [same]
      exact (query.leaves_editBool_perm (.openRole role :: calls)).filter _
  | negate =>
      rw [apply, contributes, List.append_nil, Query.lasting_negate]
  | merge other => exact List.Perm.of_eq (congrArg _ (query.leaves_merge other))
  | mergeInto other =>
      rw [apply, Query.leaves_merge]
      exact List.perm_append_comm.filter _

end QueryOperation

namespace QueryRun

theorem lasting_execute_perm (query : Query) (run : List QueryOperation) :
    (Leaf.lasting (execute query run).leaves).Perm
      (Leaf.lasting (query.leaves ++ contributed query run)) := by
  induction run generalizing query with
  | nil => exact List.Perm.of_eq (congrArg _ (List.append_nil _).symm)
  | cons operation run ih =>
      have first := QueryOperation.lasting_apply_perm query operation
      have rest := ih (operation.apply query).2
      rw [Leaf.lasting_append] at rest
      rw [contributed, ← List.append_assoc, Leaf.lasting_append]
      exact rest.trans (first.append_right _)

end QueryRun

/-! ### Leaves of a document -/

namespace Json

mutual

/-- Goes into the arrays of a bool query; any other fragment that it comes to is that of a leaf. -/
def leafFragments : Json → List Json
  | .object [(key, .object roles)] =>
      if key = Clause.boolKey then roleFragments roles else [.single key (.object roles)]
  | document => [document]

def roleFragments : List (String × Json) → List Json
  | [] => []
  | (_, .array items) :: roles => itemFragments items ++ roleFragments roles
  | _ :: roles => roleFragments roles

def itemFragments : List Json → List Json
  | [] => []
  | item :: items => leafFragments item ++ itemFragments items

end

theorem leafFragments_bool (roles : Entries Json) :
    leafFragments (.single Clause.boolKey (.object roles)) = roleFragments roles := by
  rw [single, leafFragments, if_pos rfl]

theorem itemFragments_eq_flatMap (items : List Json) :
    itemFragments items = items.flatMap leafFragments := by
  induction items with
  | nil => rfl
  | cons item items ih => rw [itemFragments, ih, List.flatMap_cons]

theorem roleFragments_body (fragments : RoleTable Json) :
    roleFragments fragments.body = fragments.contents.flatMap leafFragments := by
  obtain ⟨groups, current⟩ := fragments
  simp only [RoleTable.body, RoleTable.contents]
  induction groups with
  | nil => rfl
  | cons group groups ih =>
      rw [List.map_cons, roleFragments, ih, itemFragments_eq_flatMap, List.flatMap_cons,
        List.flatMap_append]

end Json

theorem Leaf.leafFragments_toJson (content : Leaf) :
    content.toJson.leafFragments = [content.toJson] := by
  have notBool : content.kind.key ≠ Clause.boolKey := by
    cases content.kind <;> decide
  rw [Leaf.toJson]
  cases content.body with
  | object entries => rw [Json.single, Json.leafFragments, if_neg notBool, Json.single]
  | _ => rfl

namespace Clause

private theorem flatMap_leafFragments {clauses : List Clause} {fragments : List Json}
    (rendered : clauses.map toJson = fragments.map Except.ok)
    (each : ∀ clause ∈ clauses, ∀ document, clause.toJson = .ok document →
      document.leafFragments = clause.leaves.map Leaf.toJson) :
    fragments.flatMap Json.leafFragments = (clauses.flatMap leaves).map Leaf.toJson := by
  induction clauses generalizing fragments with
  | nil =>
      cases fragments with
      | nil => rfl
      | cons fragment fragments => cases rendered
  | cons clause clauses ih =>
      cases fragments with
      | nil => cases rendered
      | cons fragment fragments =>
          obtain ⟨first, rest⟩ := List.cons.inj rendered
          obtain ⟨eachFirst, eachRest⟩ := List.forall_mem_cons.mp each
          rw [List.flatMap_cons, List.flatMap_cons, List.map_append, ih rest eachRest,
            eachFirst fragment first]

theorem leafFragments_toJson {clause : Clause} (wellFormed : clause.WellFormed) {document : Json}
    (rendered : clause.toJson = .ok document) :
    document.leafFragments = clause.leaves.map Leaf.toJson := by
  induction clause generalizing document with
  | leaf content =>
      cases rendered
      exact content.leafFragments_toJson
  | bool table ih =>
      obtain ⟨own, inside⟩ := (wellFormed_bool_iff table).mp wellFormed
      obtain ⟨fragments, same, isDocument⟩ := fragments_of_toJson own.1 rendered
      have sameContents := congrArg RoleTable.contents same
      rw [RoleTable.contents_map, RoleTable.contents_map] at sameContents
      rw [isDocument, Json.leafFragments_bool, Json.roleFragments_body, leaves_bool_contents]
      apply flatMap_leafFragments sameContents
      intro clause member inner
      obtain ⟨group, groupMember, clauseMember⟩ := List.mem_flatMap.mp member
      exact ih group groupMember clause clauseMember (inside group groupMember clause clauseMember)

end Clause

namespace QueryRun

/--
The lasting leaves in the slot are those that the calls have handed over, one for one. The
document, if there is one, has a fragment for each leaf in the slot and no other.
-/
theorem execute_keeps_every_leaf (run : List QueryOperation) :
    (Leaf.lasting (execute .empty run).leaves).Perm (Leaf.lasting (contributed .empty run)) ∧
      ((∀ operation ∈ run, operation.OperandsBuilt) → execute .empty run ≠ .empty →
        ∀ document, (execute .empty run).toJson = .ok document →
          document.leafFragments = (execute .empty run).leaves.map Leaf.toJson) := by
  refine ⟨lasting_execute_perm .empty run, ?_⟩
  intro operands filled document rendered
  have built := built_execute .empty operands
  rw [Query.leaves_eq_clause_leaves filled]
  exact Clause.leafFragments_toJson built.wellFormed rendered

/-- Three calls are refused, the tree is wrapped three times, and roles are opened in between. -/
def rewrappedRun : List QueryOperation :=
  [.push (.leaf (.exists "retry")),
    .push (.leaf (.exists "second")),
    .editBool [.openRole .must, .push (.leaf (.exists "beside"))],
    .negate,
    .pushRange "" {},
    .editBool [.openRole .should, .push (.leaf .matchNone),
      .merge (.bool (.ofRole .should [.leaf (.exists "order")]))],
    .mergeInto (.single (.exists "stage")),
    .push (.leaf (.exists "owner")),
    .negate]

theorem rewrappedRun_keeps_every_leaf :
    (Leaf.lasting (execute .empty rewrappedRun).leaves).Perm
        [.exists "retry", .exists "order", .exists "stage", .exists "owner"] ∧
      ∃ document, (execute .empty rewrappedRun).toJson = .ok document ∧
        document.leafFragments =
          [(Leaf.exists "stage").toJson, (Leaf.exists "retry").toJson, Leaf.matchNone.toJson,
            (Leaf.exists "order").toJson, (Leaf.exists "owner").toJson] := by
  have order : (Clause.bool (.ofRole .should [.leaf (.exists "order")])).Built :=
    .bool (.ofRole .should (List.forall_mem_singleton.mpr (.leaf _)))
  have stage : (Query.single (.exists "stage")).Built := .push .empty (.leaf (.exists "stage")) rfl
  have operands : ∀ operation ∈ rewrappedRun, operation.OperandsBuilt := by
    simp only [rewrappedRun, QueryOperation.OperandsBuilt, BoolOperation.OperandsBuilt,
      List.forall_mem_cons, List.not_mem_nil, false_implies, implies_true, true_and, and_true]
    exact ⟨.leaf _, .leaf _, .leaf _, ⟨.leaf _, order⟩, stage, .leaf _⟩
  obtain ⟨kept, shown⟩ := execute_keeps_every_leaf rewrappedRun
  exact ⟨kept, _, rfl, shown operands nofun _ rfl⟩

end QueryRun

end SearchRequest
