/-
The four roles that a clause can have inside a bool query.
-/

import SearchRequest.Json.Value

namespace SearchRequest

inductive Role where
  /-- Every clause has to match, and the match counts for the score. -/
  | must
  /-- Every clause has to match; the score is left alone. -/
  | filter
  /-- At least one clause should match. -/
  | should
  /-- No clause may match. -/
  | mustNot
  deriving DecidableEq, Repr

namespace Role

def all : List Role := [.must, .filter, .should, .mustNot]

def key : Role → String
  | .must => "must"
  | .filter => "filter"
  | .should => "should"
  | .mustNot => "must_not"

def ofKey? (key : String) : Option Role :=
  all.find? fun role => role.key == key

def ofJson? (value : Json) : Option Role :=
  value.choice?.bind ofKey?

theorem key_injective {left right : Role} (same : left.key = right.key) : left = right := by
  revert same
  cases left <;> cases right <;> decide

theorem ofKey?_key (role : Role) : ofKey? role.key = some role := by
  cases role <;> decide

end Role

end SearchRequest
