/-
Reaching into a tree of aggregations by a path of names. Each name leads to the
last aggregation of that name. An edit creates the containers that it passes
through, and those stay even if it goes no further.
-/

import SearchRequest.Aggregation.Tree

namespace SearchRequest

inductive PathError where
  /-- No aggregation of that name stands where the path looks for it. -/
  | missing (name : String)
  | refused (error : RequestError)

namespace Aggregations

/-- Runs an edit on the last aggregation of a name, if there is one. -/
def editLast? {β : Type} (name : String) (edit : Aggregation → β × Aggregation) :
    Aggregations → Option (β × Aggregations)
  | [] => none
  | item :: items =>
      match editLast? name edit items with
      | some (result, items) => some (result, item :: items)
      | none =>
          if item.name = name then
            let (result, item) := edit item
            some (result, item :: items)
          else none

def editNamed {β : Type} (name : String)
    (edit : Aggregation → Except PathError β × Aggregation) (items : Aggregations) :
    Except PathError β × Aggregations :=
  match editLast? name edit items with
  | none => (.error (.missing name), items)
  | some (result, items) => (result, items)

def editAt {β : Type} (edit : Aggregations → Except PathError β × Aggregations) :
    List String → Aggregations → Except PathError β × Aggregations
  | [], items => edit items
  | name :: path, items =>
      editNamed name (Aggregation.editChildren .refused (editAt edit path)) items

/-- The aggregation at the end of a path; looking creates nothing. -/
def findAt (items : Aggregations) : String → List String → Except PathError Aggregation
  | name, [] =>
      match items.find? name with
      | none => .error (.missing name)
      | some found => .ok found
  | name, next :: path =>
      match items.find? name with
      | none => .error (.missing name)
      | some found => findAt (found.children?.getD []) next path

end Aggregations

end SearchRequest
