/-
The slot for the top-level clause of a request. It is empty, holds one leaf, or
holds a bool query. Once it holds a bool query, further clauses go to the role
that is open there; beside a leaf there is no room for a second clause.
-/

import SearchRequest.Clause

namespace SearchRequest

inductive Query where
  | empty
  | single (leaf : Leaf)
  | boolean (table : RoleTable Clause)

namespace Query

def ofClause : Clause → Query
  | .leaf leaf => .single leaf
  | .bool table => .boolean table

def topLevel? : Query → Option Clause
  | .empty => none
  | .single leaf => some (.leaf leaf)
  | .boolean table => some (.bool table)

def isEmpty : Query → Bool
  | .empty => true
  | _ => false

def isBoolean : Query → Bool
  | .boolean _ => true
  | _ => false

/-- The clause that the slot stands for; an empty slot matches everything. -/
def clause (query : Query) : Clause :=
  query.topLevel?.getD (.leaf .matchAll)

def toJson (query : Query) : Except RequestError Json :=
  query.clause.toJson

/-- A refused clause leaves the slot as it was. -/
def push (query : Query) (clause : Clause) : Except RequestError Query :=
  match query with
  | .empty => .ok (ofClause clause)
  | .single _ => .error .multipleTopLevelClauses
  | .boolean table => (table.push clause).map .boolean

def pushLeaf (query : Query) (leaf : Leaf) : Except RequestError Query :=
  query.push (.leaf leaf)

/-- The range is checked first, whatever the slot holds. -/
def pushRange (query : Query) (field : String) (bounds : RangeBounds) :
    Except RequestError Query := do
  query.pushLeaf (.range (← RangeClause.build field bounds))

/--
Runs a block on the bool query of the slot, which an empty slot gets first. The block is
not run beside a leaf; what it did before it failed is kept.
-/
def editBool {β : Type} (block : BoolQuery → Except RequestError β × BoolQuery)
    (query : Query) : Except RequestError β × Query :=
  match query with
  | .empty =>
      let (result, table) := block .empty
      (result, .boolean table)
  | .single leaf => (.error .multipleTopLevelClauses, .single leaf)
  | .boolean table =>
      let (result, table) := block table
      (result, .boolean table)

def withBool {β : Type} (role : Role) (block : BoolQuery → Except RequestError β × BoolQuery)
    (query : Query) : Except RequestError β × Query :=
  query.editBool (RoleTable.withRole role block)

/-- An empty slot is negated as the clause that it stands for. -/
def negate (query : Query) : Query :=
  ofClause query.clause.negate

/-- An empty side adds nothing; two clauses come under `must` of a new bool query. -/
def merge (query other : Query) : Query :=
  match query.topLevel?, other.topLevel? with
  | none, _ => other
  | some _, none => query
  | some left, some right => .boolean (.ofRole .must [left, right])

end Query

end SearchRequest
