/-
The two written forms of a document: the compact one without any space, and the
indented one with two spaces a level and one element a line. Empty containers
stay on one line in both, and both write strings and numbers alike.
-/

import SearchRequest.Json.Value

namespace SearchRequest.Json

def hexDigit (value : Nat) : Char :=
  Nat.digitChar value

/-- A quote, a backslash and the characters below the space are escaped, nothing else. -/
def escapeChar (char : Char) : List Char :=
  if char = '"' then ['\\', '"']
  else if char = '\\' then ['\\', '\\']
  else if char = '\x08' then ['\\', 'b']
  else if char = '\x0c' then ['\\', 'f']
  else if char = '\n' then ['\\', 'n']
  else if char = '\r' then ['\\', 'r']
  else if char = '\t' then ['\\', 't']
  else if char.toNat < 0x20 then
    ['\\', 'u', '0', '0', hexDigit (char.toNat / 16), hexDigit (char.toNat % 16)]
  else [char]

def quoted (text : String) : List Char :=
  '"' :: text.toList.flatMap escapeChar ++ ['"']

def boolText (value : Bool) : List Char :=
  if value then ['t', 'r', 'u', 'e'] else ['f', 'a', 'l', 's', 'e']

mutual

def compact : Json → List Char
  | .null => ['n', 'u', 'l', 'l']
  | .bool value => boolText value
  | .number value => value.text
  | .string value => quoted value
  | .array items => '[' :: [','].intercalate (compactItems items) ++ [']']
  | .object entries => '{' :: [','].intercalate (compactEntries entries) ++ ['}']

def compactItems : List Json → List (List Char)
  | [] => []
  | item :: rest => compact item :: compactItems rest

def compactEntries : List (String × Json) → List (List Char)
  | [] => []
  | (key, value) :: rest => (quoted key ++ ':' :: compact value) :: compactEntries rest

end

def lineBreak (level : Nat) : List Char :=
  '\n' :: List.replicate (2 * level) ' '

/-- Parts between brackets: one a line, or nothing at all between the brackets. -/
def bracketed (level : Nat) (left right : Char) (parts : List (List Char)) : List Char :=
  if parts.isEmpty then [left, right]
  else
    left :: lineBreak (level + 1) ++
      (',' :: lineBreak (level + 1)).intercalate parts ++ lineBreak level ++ [right]

mutual

def indented (level : Nat) : Json → List Char
  | .null => ['n', 'u', 'l', 'l']
  | .bool value => boolText value
  | .number value => value.text
  | .string value => quoted value
  | .array items => bracketed level '[' ']' (indentedItems (level + 1) items)
  | .object entries => bracketed level '{' '}' (indentedEntries (level + 1) entries)

def indentedItems (level : Nat) : List Json → List (List Char)
  | [] => []
  | item :: rest => indented level item :: indentedItems level rest

def indentedEntries (level : Nat) : List (String × Json) → List (List Char)
  | [] => []
  | (key, value) :: rest =>
      (quoted key ++ ':' :: ' ' :: indented level value) :: indentedEntries level rest

end

def toText (value : Json) : String :=
  String.ofList (compact value)

def toIndentedText (value : Json) : String :=
  String.ofList (indented 0 value)

end SearchRequest.Json
