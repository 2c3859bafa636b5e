/-
Ranges: the values that bound them, the four bounds, and the range clause, which
has at least one bound. It is made for a field that is not blank.
-/

import SearchRequest.Error
import SearchRequest.Text.Blank

namespace SearchRequest

inductive RangeValue where
  | long (value : Int64)
  | double (value : Binary64)
  /-- A date, a date expression or a keyword. -/
  | text (value : String)
  deriving DecidableEq

namespace RangeValue

def toJson : RangeValue → Json
  | .long value => .ofInt64 value
  | .double value => .ofBinary64 value
  | .text value => .string value

/-- An integer that needs more than 63 bits becomes a double. -/
def ofNumber : Json.Number → RangeValue
  | .integer value _ =>
      if value < 0x8000000000000000 then .long (Int64.ofInt value)
      else .double (Binary64.ofInt value)
  | .float value _ => .double value

def ofJson : Json → Except RequestError RangeValue
  | .number value => .ok (ofNumber value)
  | .string value => .ok (.text value)
  | value => .error (.invalidArgument (.rangeValue value))

end RangeValue

/-- The side of a range that a bound closes, and whether the bound itself belongs to it. -/
inductive Comparison where
  | gt
  | gte
  | lt
  | lte
  deriving DecidableEq, Repr

namespace Comparison

def all : List Comparison := [.gt, .gte, .lt, .lte]

def key : Comparison → String
  | .gt => "gt"
  | .gte => "gte"
  | .lt => "lt"
  | .lte => "lte"

def ofKey? (key : String) : Option Comparison :=
  all.find? fun comparison => comparison.key == key

end Comparison

structure RangeBounds where
  gt : Option RangeValue := none
  gte : Option RangeValue := none
  lt : Option RangeValue := none
  lte : Option RangeValue := none
  deriving DecidableEq

namespace RangeBounds

def unbounded : RangeBounds := {}

def get? (bounds : RangeBounds) : Comparison → Option RangeValue
  | .gt => bounds.gt
  | .gte => bounds.gte
  | .lt => bounds.lt
  | .lte => bounds.lte

def set (bounds : RangeBounds) (comparison : Comparison) (value : RangeValue) : RangeBounds :=
  match comparison with
  | .gt => { bounds with gt := some value }
  | .gte => { bounds with gte := some value }
  | .lt => { bounds with lt := some value }
  | .lte => { bounds with lte := some value }

def isEmpty (bounds : RangeBounds) : Bool :=
  Comparison.all.all fun comparison => (bounds.get? comparison).isNone

def setKey (bounds : RangeBounds) (key : String) (value : RangeValue) :
    Except RequestError RangeBounds :=
  match Comparison.ofKey? key with
  | some comparison => .ok (bounds.set comparison value)
  | none => .error (.invalidArgument (.unknownComparison key))

/-- Of several pairs with one key the last one counts; the first unknown key is the error. -/
def ofPairs (pairs : List (String × RangeValue)) : Except RequestError RangeBounds :=
  pairs.foldlM (fun bounds (key, value) => setKey bounds key value) unbounded

/-- The bounds that are set, in the fixed order of the comparisons. -/
def entries (bounds : RangeBounds) : Entries Json :=
  Comparison.all.flatMap fun comparison =>
    Entries.optional comparison.key ((bounds.get? comparison).map RangeValue.toJson)

theorem get?_set_same (bounds : RangeBounds) (comparison : Comparison) (value : RangeValue) :
    (bounds.set comparison value).get? comparison = some value := by
  cases comparison <;> rfl

theorem get?_set_other (bounds : RangeBounds) {comparison other : Comparison}
    (value : RangeValue) (different : other ≠ comparison) :
    (bounds.set comparison value).get? other = bounds.get? other := by
  cases comparison <;> cases other <;> first | rfl | exact absurd rfl different

end RangeBounds

/--
The field is kept as it was given, with any white space around it. It may be assigned another
one later, which is not checked; the bounds stay.
-/
structure RangeClause where
  field : String
  bounds : RangeBounds
  boundsNotEmpty : bounds.isEmpty = false
  deriving DecidableEq

namespace RangeClause

/-- The field is checked before the bounds. -/
def build (field : String) (bounds : RangeBounds) : Except RequestError RangeClause :=
  if Text.isBlank field then .error (.invalidArgument .blankRangeField)
  else if boundsNotEmpty : bounds.isEmpty = false then .ok { field, bounds, boundsNotEmpty }
  else .error (.invalidArgument .noRangeBound)

/-- An unknown key is reported before anything about the field. -/
def ofPairs (field : String) (pairs : List (String × RangeValue)) :
    Except RequestError RangeClause := do
  build field (← RangeBounds.ofPairs pairs)

def body (range : RangeClause) : Json :=
  .single range.field (.object range.bounds.entries)

theorem build_blank {field : String} (blank : Text.isBlank field = true) (bounds : RangeBounds) :
    build field bounds = .error (.invalidArgument .blankRangeField) :=
  if_pos blank

theorem build_unbounded {field : String} (notBlank : Text.isBlank field = false)
    {bounds : RangeBounds} (unbounded : bounds.isEmpty = true) :
    build field bounds = .error (.invalidArgument .noRangeBound) := by
  rw [build, if_neg (ne_true_of_eq_false notBlank), dif_neg (ne_false_of_eq_true unbounded)]

theorem build_eq_ok {field : String} (notBlank : Text.isBlank field = false)
    {bounds : RangeBounds} (boundsNotEmpty : bounds.isEmpty = false) :
    build field bounds = .ok { field, bounds, boundsNotEmpty } := by
  rw [build, if_neg (ne_true_of_eq_false notBlank), dif_pos boundsNotEmpty]

/-- A clause that is made has the field and the bounds it is made of, and the field is not blank. -/
theorem build_eq_ok_iff {field : String} {bounds : RangeBounds} {range : RangeClause} :
    build field bounds = .ok range ↔
      Text.isBlank field = false ∧ range.field = field ∧ range.bounds = bounds := by
  constructor
  · intro built
    cases blank : Text.isBlank field with
    | true =>
        rw [build_blank blank] at built
        cases built
    | false =>
        cases unbounded : bounds.isEmpty with
        | true =>
            rw [build_unbounded blank unbounded] at built
            cases built
        | false =>
            rw [build_eq_ok blank unbounded] at built
            cases built
            exact ⟨rfl, rfl, rfl⟩
  · intro parts
    obtain ⟨notBlank, sameField, sameBounds⟩ := parts
    subst sameField sameBounds
    exact build_eq_ok notBlank range.boundsNotEmpty

end RangeClause

end SearchRequest
