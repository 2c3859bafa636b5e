/-
Reading a document from its tokens. The reader keeps the containers that are
still open and what may come next, and takes one token at a time. Objects are
built by insertion, so a repeated key keeps its place and takes the last value.
-/

import SearchRequest.Json.Token

namespace SearchRequest.Json

/-- A container that is still open; items are in reverse order. -/
inductive OpenContainer where
  | array (items : List Json)
  | object (entries : Entries Json) (key : String)

inductive Expected where
  | value
  | firstItem
  | firstKey (entries : Entries Json)
  | key (entries : Entries Json)
  | colon (entries : Entries Json) (key : String)
  | separator (finished : OpenContainer)
  | finish (document : Json)

/-- The innermost open container comes first. -/
structure ReaderState where
  stack : List OpenContainer
  expected : Expected

namespace ReaderState

def initial : ReaderState :=
  ⟨[], .value⟩

def complete (stack : List OpenContainer) (value : Json) : ReaderState :=
  match stack with
  | [] => ⟨[], .finish value⟩
  | .array items :: outer => ⟨outer, .separator (.array (value :: items))⟩
  | .object entries key :: outer =>
      ⟨outer, .separator (.object (Entries.insert key value entries) key)⟩

def beginValue? (stack : List OpenContainer) : Token → Option ReaderState
  | .scalar value => some (complete stack value)
  | .text value => some (complete stack (.string value))
  | .openBracket => some ⟨.array [] :: stack, .firstItem⟩
  | .openBrace => some ⟨stack, .firstKey []⟩
  | _ => none

def step? (state : ReaderState) (token : Token) : Option ReaderState :=
  match state.expected, token with
  | .value, token => beginValue? state.stack token
  | .firstItem, .closeBracket => some (complete (state.stack.drop 1) (.array []))
  | .firstItem, token => beginValue? state.stack token
  | .firstKey entries, .closeBrace => some (complete state.stack (.object entries))
  | .firstKey entries, .text key => some ⟨state.stack, .colon entries key⟩
  | .key entries, .text key => some ⟨state.stack, .colon entries key⟩
  | .colon entries key, .colon => some ⟨.object entries key :: state.stack, .value⟩
  | .separator (.array items), .comma => some ⟨.array items :: state.stack, .value⟩
  | .separator (.array items), .closeBracket =>
      some (complete state.stack (.array items.reverse))
  | .separator (.object entries _), .comma => some ⟨state.stack, .key entries⟩
  | .separator (.object entries _), .closeBrace =>
      some (complete state.stack (.object entries))
  | _, _ => none

def document? (state : ReaderState) : Option Json :=
  match state.expected with
  | .finish document => some document
  | _ => none

end ReaderState

def ofTokens? (tokens : List Token) : Option Json :=
  (tokens.foldlM ReaderState.step? ReaderState.initial).bind ReaderState.document?

/-- The document that a whole text denotes, white space around it allowed. -/
def ofText? (text : String) : Option Json :=
  (Token.scan? text).bind ofTokens?

end SearchRequest.Json
