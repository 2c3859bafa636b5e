/-
Scripts: source code in a language, with optional parameters.
-/

import SearchRequest.Settings

namespace SearchRequest

structure Script where
  source : String
  language : String := defaultScriptLanguage
  params : Option (Entries Json) := none

namespace Script

def ofSettings (source : String) (settings : Settings) : Script :=
  { source, language := settings.scriptLanguage }

def withLanguage (script : Script) (language : String) : Script :=
  { script with language }

def withParams (script : Script) (params : Entries Json) : Script :=
  { script with params := some params }

def toJson (script : Script) : Json :=
  .object ([("source", .string script.source), ("lang", .string script.language)] ++
    Entries.optional "params" (script.params.map .object))

/-- Equality of source and language, and of the parameters as JSON objects. -/
def same (left right : Script) : Bool :=
  left.source == right.source && left.language == right.language &&
    match left.params, right.params with
    | none, none => true
    | some left, some right => Json.same (.object left) (.object right)
    | _, _ => false

end Script

end SearchRequest
