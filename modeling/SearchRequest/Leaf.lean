/-
Leaf clauses: the ten kinds of query clause that hold no other clause, and the
fragment of a request that each of them stands for.
-/

import SearchRequest.Range

namespace SearchRequest

inductive LeafKind where
  | matchAll
  | matchNone
  | term
  | terms
  | range
  | regexp
  | wildcard
  | exists
  | matchPhrase
  | queryString
  deriving DecidableEq, Repr

def LeafKind.key : LeafKind → String
  | .matchAll => "match_all"
  | .matchNone => "match_none"
  | .term => "term"
  | .terms => "terms"
  | .range => "range"
  | .regexp => "regexp"
  | .wildcard => "wildcard"
  | .exists => "exists"
  | .matchPhrase => "match_phrase"
  | .queryString => "query_string"

inductive Leaf where
  | matchAll
  | matchNone
  | term (field : String) (value : Json)
  | terms (field : String) (values : List Json)
  | range (clause : RangeClause)
  | regexp (field pattern : String)
  | wildcard (field pattern : String)
  | exists (field : String)
  | matchPhrase (field phrase : String)
  | queryString (query : String) (fields : Option (List String))

namespace Leaf

def kind : Leaf → LeafKind
  | .matchAll => .matchAll
  | .matchNone => .matchNone
  | .term .. => .term
  | .terms .. => .terms
  | .range _ => .range
  | .regexp .. => .regexp
  | .wildcard .. => .wildcard
  | .exists _ => .exists
  | .matchPhrase .. => .matchPhrase
  | .queryString .. => .queryString

def body : Leaf → Json
  | .matchAll | .matchNone => .object []
  | .term field value => .single field (.single "value" value)
  | .terms field values => .single field (.array values)
  | .range clause => clause.body
  | .regexp field pattern | .wildcard field pattern =>
      .single field (.single "value" (.string pattern))
  | .exists field => .single "field" (.string field)
  | .matchPhrase field phrase => .single field (.string phrase)
  | .queryString query fields =>
      .object (("query", .string query) :: Entries.optional "fields" (fields.map Json.strings))

/-- The fragment has the kind as its only key. -/
def toJson (leaf : Leaf) : Json :=
  .single leaf.kind.key leaf.body

end Leaf

end SearchRequest
