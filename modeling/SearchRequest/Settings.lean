/-
Defaults for assembling requests, and their own JSON form. The form is read
leniently: absent keys take the defaults and unknown keys are passed over, but a
value of the wrong type is refused.
-/

import SearchRequest.Json.Value

namespace SearchRequest

def version : String := "0.1.0"

def defaultScriptLanguage : String := "painless"

/-- The largest sum of offset and page size that is served by default. -/
def defaultMaxWindow : UInt64 := 10000

structure Settings where
  defaultSize : Option UInt64 := none
  maxWindow : UInt64 := defaultMaxWindow
  scriptLanguage : String := defaultScriptLanguage
  pretty : Bool := false
  deriving DecidableEq

namespace Settings

def toJson (settings : Settings) : Json :=
  .object [
    ("default_size", (settings.defaultSize.map Json.ofUInt64).getD .null),
    ("max_window", .ofUInt64 settings.maxWindow),
    ("script_lang", .string settings.scriptLanguage),
    ("pretty", .bool settings.pretty)]

def readSize? : Json → Option UInt64
  | .number (.integer value _) => if 0 ≤ value then some (UInt64.ofNat value.toNat) else none
  | _ => none

def readOptionalSize? : Json → Option (Option UInt64)
  | .null => some none
  | value => (readSize? value).map some

def readText? : Json → Option String
  | .string value => some value
  | _ => none

def readFlag? : Json → Option Bool
  | .bool value => some value
  | _ => none

/-- The setting under an absent key is the given default. -/
def readField? {α : Type} (read? : Json → Option α) (default : α) :
    Option Json → Option α
  | none => some default
  | some value => read? value

def ofFields? (defaultSize maxWindow scriptLanguage pretty : Option Json) :
    Option Settings := do
  let defaults : Settings := {}
  let defaultSize ← readField? readOptionalSize? defaults.defaultSize defaultSize
  let maxWindow ← readField? readSize? defaults.maxWindow maxWindow
  let scriptLanguage ← readField? readText? defaults.scriptLanguage scriptLanguage
  let pretty ← readField? readFlag? defaults.pretty pretty
  return { defaultSize, maxWindow, scriptLanguage, pretty }

/-- An object gives the settings by key, an array of at most four values by position. -/
def ofJson? : Json → Option Settings
  | .object entries =>
      ofFields? (Entries.find? "default_size" entries) (Entries.find? "max_window" entries)
        (Entries.find? "script_lang" entries) (Entries.find? "pretty" entries)
  | .array items =>
      if items.length ≤ 4 then ofFields? items[0]? items[1]? items[2]? items[3]? else none
  | _ => none

private theorem readSize?_ofUInt64 (size : UInt64) : readSize? (.ofUInt64 size) = some size := by
  have natural : (0 : Int) ≤ (size.toNat : Int) := Int.natCast_nonneg size.toNat
  change (if (0 : Int) ≤ size.toNat then some (UInt64.ofNat (size.toNat : Int).toNat)
    else none) = some size
  rw [if_pos natural, Int.toNat_natCast, UInt64.ofNat_toNat]

private theorem readOptionalSize?_toJson (size : Option UInt64) :
    readOptionalSize? ((size.map Json.ofUInt64).getD .null) = some size := by
  cases size with
  | none => rfl
  | some size => exact congrArg (Option.map some) (readSize?_ofUInt64 size)

theorem ofJson?_toJson (settings : Settings) : ofJson? settings.toJson = some settings := by
  obtain ⟨defaultSize, maxWindow, scriptLanguage, pretty⟩ := settings
  simp only [toJson, ofJson?, Entries.find?, String.reduceEq, if_true, if_false, ofFields?,
    readField?, readOptionalSize?_toJson, readSize?_ofUInt64, readText?, readFlag?]
  rfl

end Settings

end SearchRequest
