/-
The flags of the command line and how a list of words is read as flags. A flag
takes its value from the text after its `=` or from the next word, which must
then not look like a flag itself. There are no positional arguments.

No usage text is offered: `--help` and `-h` are unknown words here, as any other
that is no flag, and a command with one of them is a usage error.
-/

import SearchRequest.Text.Split

namespace SearchRequest.CommandLine

inductive Flag where
  | offset
  | pageSize
  | defaultSize
  | maxWindow
  | source
  | term
  | range
  | exists
  | queryString
  | sort
  | collapse
  | negate
  | termsAggregation
  | avgAggregation
  | scriptLanguage
  | pretty
  deriving DecidableEq, Repr

namespace Flag

def all : List Flag := [
  .offset, .pageSize, .defaultSize, .maxWindow, .source, .term, .range, .exists, .queryString,
  .sort, .collapse, .negate, .termsAggregation, .avgAggregation, .scriptLanguage, .pretty]

def name : Flag → String
  | .offset => "from"
  | .pageSize => "size"
  | .defaultSize => "default-size"
  | .maxWindow => "max-window"
  | .source => "source"
  | .term => "term"
  | .range => "range"
  | .exists => "exists"
  | .queryString => "query-string"
  | .sort => "sort"
  | .collapse => "collapse"
  | .negate => "negate"
  | .termsAggregation => "terms-agg"
  | .avgAggregation => "avg-agg"
  | .scriptLanguage => "script-lang"
  | .pretty => "pretty"

def ofName? (name : String) : Option Flag :=
  all.find? fun flag => flag.name == name

/-- A switch has no value: that it is given says all. -/
def isSwitch : Flag → Bool
  | .negate | .pretty => true
  | _ => false

/-- These flags may be given any number of times. -/
def isRepeatable : Flag → Bool
  | .source | .term | .range | .exists | .sort | .termsAggregation | .avgAggregation => true
  | _ => false

end Flag

inductive UsageError where
  | unexpectedArgument (word : String)
  | missingValue (flag : Flag)
  | needlessValue (flag : Flag)
  | repeatedFlag (flag : Flag)
  | invalidValue (flag : Flag) (text : String)

def UsageError.message : UsageError → String
  | .unexpectedArgument word => s!"unexpected argument {word}"
  | .missingValue flag => s!"the flag {flag.name} needs a value"
  | .needlessValue flag => s!"the flag {flag.name} takes no value"
  | .repeatedFlag flag => s!"the flag {flag.name} may be given only once"
  | .invalidValue flag text => s!"the flag {flag.name} cannot have the value {text}"

/-- A flag as it was given, with its value unless it is a switch. -/
structure Occurrence where
  flag : Flag
  value : Option String := none

/-- The name and the attached value of a word that starts with two dashes. -/
def longFlag? (word : String) : Option (String × Option String) :=
  match word.toList with
  | '-' :: '-' :: rest =>
      match Text.splitOnce? '=' rest with
      | some (name, value) => some (String.ofList name, some (String.ofList value))
      | none => some (String.ofList rest, none)
  | _ => none

/-- A word that is read as a flag and not as a value; a lone dash is a value. -/
def looksLikeFlag (word : String) : Bool :=
  match word.toList with
  | '-' :: _ :: _ => true
  | _ => false

/-- The flags in the order of the words. Two lone dashes may only come last. -/
def readFlags : List String → Except UsageError (List Occurrence)
  | [] => .ok []
  | word :: words =>
      match longFlag? word with
      | none => .error (.unexpectedArgument word)
      | some ("", none) =>
          match words with
          | [] => .ok []
          | next :: _ => .error (.unexpectedArgument next)
      | some (name, attached) =>
          match Flag.ofName? name, attached with
          | none, _ => .error (.unexpectedArgument word)
          | some flag, some value =>
              if flag.isSwitch then .error (.needlessValue flag)
              else (readFlags words).map (⟨flag, some value⟩ :: ·)
          | some flag, none =>
              if flag.isSwitch then (readFlags words).map (⟨flag, none⟩ :: ·)
              else
                match words with
                | [] => .error (.missingValue flag)
                | value :: words =>
                    if looksLikeFlag value then .error (.missingValue flag)
                    else (readFlags words).map (⟨flag, some value⟩ :: ·)

end SearchRequest.CommandLine
