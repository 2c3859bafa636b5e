/-
Which parts of a document's source a response carries. Filters and the JSON
values that express them correspond one to one.
-/

import SearchRequest.Error

namespace SearchRequest

inductive SourceFilter where
  | disabled
  | field (pattern : String)
  | fields (patterns : List String)
  | spec (options : Entries Json)

namespace SourceFilter

def toJson : SourceFilter → Json
  | .disabled => .bool false
  | .field pattern => .string pattern
  | .fields patterns => .strings patterns
  | .spec options => .object options

/-- The first item that is no string is the error. -/
def readPatterns : List Json → Except RequestError (List String)
  | [] => .ok []
  | .string pattern :: items => (readPatterns items).map (pattern :: ·)
  | item :: _ => .error (.invalidArgument (.sourceEntry item))

def ofJson : Json → Except RequestError SourceFilter
  | .bool false => .ok .disabled
  | .string pattern => .ok (.field pattern)
  | .array items => (readPatterns items).map .fields
  | .object options => .ok (.spec options)
  | value => .error (.invalidArgument (.sourceShape value))

end SourceFilter

end SearchRequest
