/-
Why a command whose arguments could be read still gives no request body, and how
that is reported: a message, and the cause below it where there is one.
-/

import SearchRequest.Error

namespace SearchRequest.CommandLine

inductive PairKind where
  | term
  | range
  | rangeBound
  | termsAggregation
  | avgAggregation
  deriving DecidableEq, Repr

namespace PairKind

def description : PairKind → String
  | .term => "term"
  | .range => "range"
  | .rangeBound => "range bound"
  | .termsAggregation => "terms aggregation"
  | .avgAggregation => "avg aggregation"

def separator : PairKind → Char
  | .range => ':'
  | _ => '='

end PairKind

inductive Failure where
  | blankScriptLanguage
  /-- No separator, or nothing before the first one. -/
  | malformedPair (kind : PairKind) (raw : String)
  | invalidRange (field : String) (error : RequestError)
  | windowExceeded (error : RequestError)
  | request (error : RequestError)

namespace Failure

def message : Failure → String
  | .blankScriptLanguage => "--script-lang must not be empty"
  | .malformedPair kind raw =>
      s!"invalid {kind.description} `{raw}`, expected KEY{kind.separator}VALUE"
  | .invalidRange field _ => s!"invalid range for `{field}`"
  | .windowExceeded _ => "request exceeds the result window"
  | .request error => error.message

def cause? : Failure → Option String
  | .invalidRange _ error | .windowExceeded error => some error.message
  | _ => none

/-- Every line of a cause is indented by four spaces. -/
def indentLines (text : String) : String :=
  String.ofList (List.replicate 4 ' ' ++ text.toList.flatMap fun char =>
    if char = '\n' then '\n' :: List.replicate 4 ' ' else [char])

def report (failure : Failure) : String :=
  match failure.cause? with
  | none => s!"Error: {failure.message}\n"
  | some cause => s!"Error: {failure.message}\n\nCaused by:\n{indentLines cause}\n"

end Failure

end SearchRequest.CommandLine
