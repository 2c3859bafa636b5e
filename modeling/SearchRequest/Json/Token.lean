/-
The tokens of a JSON text, found in one pass over its characters. The scanner
keeps the unfinished token as its mode; a number or a word ends at the first
character that cannot continue it, and that character is then scanned anew.
-/

import SearchRequest.Json.Value

namespace SearchRequest.Json

inductive Token where
  | openBracket
  | closeBracket
  | openBrace
  | closeBrace
  | comma
  | colon
  | text (value : String)
  /-- A number, `true`, `false` or `null`. -/
  | scalar (value : Json)

namespace Token

/-- A piece of a string literal: a character as it stands, or a UTF-16 unit from an escape. -/
inductive Piece where
  | plain (char : Char)
  | unit (code : Nat)

def isHighSurrogate (code : Nat) : Bool :=
  decide (0xD800 ≤ code ∧ code < 0xDC00)

def isLowSurrogate (code : Nat) : Bool :=
  decide (0xDC00 ≤ code ∧ code < 0xE000)

/-- Joins surrogate pairs; a surrogate without its partner denotes no character. -/
def joinPieces? : List Piece → Option (List Char)
  | [] => some []
  | .plain char :: rest => (joinPieces? rest).map (char :: ·)
  | .unit high :: .unit low :: rest =>
      if isHighSurrogate high then
        if isLowSurrogate low then
          (joinPieces? rest).map
            (Char.ofNat (0x10000 + (high - 0xD800) * 0x400 + (low - 0xDC00)) :: ·)
        else none
      else if isLowSurrogate high then none
      else (joinPieces? (.unit low :: rest)).map (Char.ofNat high :: ·)
  | .unit code :: rest =>
      if isHighSurrogate code || isLowSurrogate code then none
      else (joinPieces? rest).map (Char.ofNat code :: ·)

/-- Collected characters and pieces are in reverse order. -/
inductive Mode where
  | between
  | number (collected : List Char)
  | word (collected : List Char)
  | string (collected : List Piece)
  | escape (collected : List Piece)
  | unicode (collected : List Piece) (digits : Nat) (code : Nat)

def isSpace (char : Char) : Bool :=
  char == ' ' || char == '\t' || char == '\n' || char == '\r'

def isNumberStart (char : Char) : Bool :=
  char.isDigit || char == '-'

def isNumberPart (char : Char) : Bool :=
  isNumberStart char || char == '+' || char == '.' || char == 'e' || char == 'E'

def isWordPart (char : Char) : Bool :=
  char.isLower

def hexValue? (char : Char) : Option Nat :=
  if char.isDigit then some (char.toNat - '0'.toNat)
  else if 'a' ≤ char ∧ char ≤ 'f' then some (char.toNat - 'a'.toNat + 10)
  else if 'A' ≤ char ∧ char ≤ 'F' then some (char.toNat - 'A'.toNat + 10)
  else none

def escaped? (char : Char) : Option Char :=
  match char with
  | '"' => some '"'
  | '\\' => some '\\'
  | '/' => some '/'
  | 'b' => some '\x08'
  | 'f' => some '\x0c'
  | 'n' => some '\n'
  | 'r' => some '\r'
  | 't' => some '\t'
  | _ => none

def start? (char : Char) : Option (List Token × Mode) :=
  if isSpace char then some ([], .between)
  else if isNumberStart char then some ([], .number [char])
  else if isWordPart char then some ([], .word [char])
  else
    match char with
    | '[' => some ([.openBracket], .between)
    | ']' => some ([.closeBracket], .between)
    | '{' => some ([.openBrace], .between)
    | '}' => some ([.closeBrace], .between)
    | ',' => some ([.comma], .between)
    | ':' => some ([.colon], .between)
    | '"' => some ([], .string [])
    | _ => none

def ofNumber? (collected : List Char) : Option Token :=
  (Number.read? collected.reverse).map fun value => .scalar (.number value)

def ofWord? (collected : List Char) : Option Token :=
  match collected.reverse with
  | ['n', 'u', 'l', 'l'] => some (.scalar .null)
  | ['t', 'r', 'u', 'e'] => some (.scalar (.bool true))
  | ['f', 'a', 'l', 's', 'e'] => some (.scalar (.bool false))
  | _ => none

def ofPieces? (collected : List Piece) : Option Token :=
  (joinPieces? collected.reverse).map fun chars => .text (String.ofList chars)

/-- The finished tokens before a new start and what the character starts. -/
def restart? (finished : Option Token) (char : Char) : Option (List Token × Mode) := do
  let token ← finished
  let (tokens, mode) ← start? char
  return (token :: tokens, mode)

/-- Reads one character: the tokens that it finishes, in order, and the next mode. -/
def step? (mode : Mode) (char : Char) : Option (List Token × Mode) :=
  match mode with
  | .between => start? char
  | .number collected =>
      if isNumberPart char then some ([], .number (char :: collected))
      else restart? (ofNumber? collected) char
  | .word collected =>
      if isWordPart char then some ([], .word (char :: collected))
      else restart? (ofWord? collected) char
  | .string collected =>
      if char = '"' then (ofPieces? collected).map fun token => ([token], .between)
      else if char = '\\' then some ([], .escape collected)
      else if char.toNat < 0x20 then none
      else some ([], .string (.plain char :: collected))
  | .escape collected =>
      if char = 'u' then some ([], .unicode collected 0 0)
      else (escaped? char).map fun plain => ([], .string (.plain plain :: collected))
  | .unicode collected digits code =>
      (hexValue? char).map fun value =>
        let code := code * 16 + value
        if digits = 3 then ([], .string (.unit code :: collected))
        else ([], .unicode collected (digits + 1) code)

def finish? : Mode → Option (List Token)
  | .between => some []
  | .number collected => (ofNumber? collected).map ([·])
  | .word collected => (ofWord? collected).map ([·])
  | .string _ | .escape _ | .unicode .. => none

def scanFrom? (mode : Mode) : List Char → Option (List Token)
  | [] => finish? mode
  | char :: rest =>
      match step? mode char with
      | none => none
      | some (tokens, next) => (scanFrom? next rest).map (tokens ++ ·)

def scan? (text : String) : Option (List Token) :=
  scanFrom? .between text.toList

end Token

end SearchRequest.Json
