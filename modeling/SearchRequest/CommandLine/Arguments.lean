/-
The arguments of a command, from its words and its environment. A flag that is
not given takes its value from the environment where it has a variable there.
-/

import SearchRequest.CommandLine.Flag
import SearchRequest.Settings
import SearchRequest.Text.Digits

namespace SearchRequest.CommandLine

structure Arguments where
  offset : Option UInt64 := none
  pageSize : Option UInt64 := none
  defaultSize : Option UInt64 := none
  maxWindow : UInt64 := defaultMaxWindow
  source : List String := []
  terms : List String := []
  ranges : List String := []
  existsFields : List String := []
  queryString : Option String := none
  sorts : List String := []
  collapse : Option String := none
  negate : Bool := false
  termsAggregations : List String := []
  avgAggregations : List String := []
  scriptLanguage : String := defaultScriptLanguage
  pretty : Bool := false

abbrev Environment := String → Option String

def Flag.variable? : Flag → Option String
  | .defaultSize => some "QUERYFORGE_DEFAULT_SIZE"
  | .maxWindow => some "QUERYFORGE_MAX_WINDOW"
  | .scriptLanguage => some "QUERYFORGE_SCRIPT_LANG"
  | .pretty => some "QUERYFORGE_PRETTY"
  | _ => none

/-- Decimal digits, a plus sign before them allowed, for a number of 64 bits. -/
def readSize? (text : String) : Option UInt64 :=
  let digits :=
    match text.toList with
    | '+' :: rest => rest
    | chars => chars
  let size := Text.digitsValue digits
  if !digits.isEmpty && digits.all Char.isDigit && decide (size < 0x10000000000000000) then
    some (UInt64.ofNat size)
  else none

def readSwitch? (text : String) : Option Bool :=
  if text = "true" then some true
  else if text = "false" then some false
  else none

namespace Arguments

def valuesOf (occurrences : List Occurrence) (flag : Flag) : List String :=
  occurrences.filterMap fun occurrence =>
    if occurrence.flag = flag then occurrence.value else none

/-- The first flag that is given twice although it may be given once. -/
def firstRepeated? (occurrences : List Occurrence) : Option Flag :=
  Flag.all.find? fun flag =>
    !flag.isRepeatable && 1 < occurrences.countP fun occurrence => occurrence.flag = flag

/-- The value of a flag: as given, or else from its variable. -/
def textOf? (occurrences : List Occurrence) (environment : Environment) (flag : Flag) :
    Option String :=
  (valuesOf occurrences flag).head? <|> flag.variable?.bind environment

def sizeOf? (occurrences : List Occurrence) (environment : Environment) (flag : Flag) :
    Except UsageError (Option UInt64) :=
  match textOf? occurrences environment flag with
  | none => .ok none
  | some text =>
      match readSize? text with
      | some size => .ok (some size)
      | none => .error (.invalidValue flag text)

def switchOf (occurrences : List Occurrence) (environment : Environment) (flag : Flag) :
    Except UsageError Bool :=
  if occurrences.any fun occurrence => occurrence.flag = flag then .ok true
  else
    match flag.variable?.bind environment with
    | none => .ok false
    | some text =>
        match readSwitch? text with
        | some value => .ok value
        | none => .error (.invalidValue flag text)

def sourceParts (values : List String) : List String :=
  values.flatMap fun value => (Text.splitAll ',' value.toList).map String.ofList

def parse (words : List String) (environment : Environment) : Except UsageError Arguments := do
  let occurrences ← readFlags words
  if let some flag := firstRepeated? occurrences then throw (.repeatedFlag flag)
  let values := valuesOf occurrences
  let offset ← sizeOf? occurrences environment .offset
  let pageSize ← sizeOf? occurrences environment .pageSize
  let defaultSize ← sizeOf? occurrences environment .defaultSize
  let maxWindow ← sizeOf? occurrences environment .maxWindow
  let negate ← switchOf occurrences environment .negate
  let pretty ← switchOf occurrences environment .pretty
  return {
    offset
    pageSize
    defaultSize
    maxWindow := maxWindow.getD defaultMaxWindow
    source := sourceParts (values .source)
    terms := values .term
    ranges := values .range
    existsFields := values .exists
    queryString := (values .queryString).head?
    sorts := values .sort
    collapse := (values .collapse).head?
    negate
    termsAggregations := values .termsAggregation
    avgAggregations := values .avgAggregation
    scriptLanguage :=
      (textOf? occurrences environment .scriptLanguage).getD defaultScriptLanguage
    pretty }

end Arguments

end SearchRequest.CommandLine
