/-
Query clauses: leaves, and bool queries that hold further clauses by role.
Negation wraps a clause, merging collects clauses, and neither simplifies.
-/

import SearchRequest.Leaf
import SearchRequest.RoleTable

namespace SearchRequest

inductive Clause where
  | leaf (content : Leaf)
  | bool (table : RoleTable Clause)

abbrev BoolQuery := RoleTable Clause

namespace Clause

def boolKey : String := "bool"

def key : Clause → String
  | .leaf content => content.kind.key
  | .bool _ => boolKey

def isMatchAll : Clause → Bool
  | .leaf content => content.kind == .matchAll
  | .bool _ => false

def isMatchNone : Clause → Bool
  | .leaf content => content.kind == .matchNone
  | .bool _ => false

mutual

/-- The fragment of a clause, or the first fault that a walk in depth-first order meets. -/
def toJson : Clause → Except RequestError Json
  | .leaf content => .ok content.toJson
  | .bool table => tableToJson table

def tableToJson : RoleTable Clause → Except RequestError Json
  | ⟨[], _⟩ => .error .emptyBool
  | ⟨group :: groups, _⟩ =>
      (groupsToJson [] (group :: groups)).map fun body => .single boolKey (.object body)

/-- Adds one entry for each role to those of the roles before; an empty role is a fault. -/
def groupsToJson (written : Entries Json) :
    List (Role × List Clause) → Except RequestError (Entries Json)
  | [] => .ok written
  | (role, []) :: _ => .error (.emptyBoolRole role)
  | (role, clause :: clauses) :: groups =>
      match listToJson (clause :: clauses) with
      | .error error => .error error
      | .ok fragments =>
          groupsToJson (Entries.insert role.key (.array fragments) written) groups

def listToJson : List Clause → Except RequestError (List Json)
  | [] => .ok []
  | clause :: clauses =>
      match toJson clause with
      | .error error => .error error
      | .ok fragment => (listToJson clauses).map (fragment :: ·)

end

def underMustNot (clause : Clause) : Clause :=
  .bool (.ofRole .mustNot [clause])

/--
The inverse of a clause. `match_all` and `match_none` change places; any other clause is
wrapped, so a second negation wraps again instead of taking the first one back.
-/
def negate (clause : Clause) : Clause :=
  match clause with
  | .leaf .matchAll => .leaf .matchNone
  | .leaf .matchNone => .leaf .matchAll
  | other => underMustNot other

end Clause

namespace RoleTable

/-- A bool query is added role by role, any other clause under `must`. -/
def merge (table : RoleTable Clause) (clause : Clause) : RoleTable Clause :=
  match clause with
  | .bool other => table.union other
  | .leaf content => table.append .must [.leaf content]

def toJson (table : RoleTable Clause) : Except RequestError Json :=
  Clause.tableToJson table

end RoleTable

end SearchRequest
