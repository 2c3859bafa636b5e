/-
The texts of numbers, truth values and null as documents. A document that begins with a
bracket, a brace or a quote is none of these, and nothing may follow one of them; so what
denotes a scalar is the text of the scalar itself, with white space around it.
-/

import SearchRequest.Proofs.ScalarTokens

namespace SearchRequest.Json

def IsScalar : Json → Prop
  | .null | .bool _ | .number _ => True
  | .string _ | .array _ | .object _ => False

namespace ReaderState

/-- No document that the reader may still finish with is a scalar. -/
def InContainer (state : ReaderState) : Prop :=
  match state.expected with
  | .value | .firstItem => state.stack ≠ []
  | .finish document => ¬ document.IsScalar
  | .firstKey _ | .key _ | .colon _ _ | .separator _ => True

theorem inContainer_complete {stack : List OpenContainer} {value : Json}
    (within : stack ≠ [] ∨ ¬ value.IsScalar) : (complete stack value).InContainer := by
  cases stack with
  | nil => exact within.resolve_left (fun filled => filled rfl)
  | cons container outer => cases container <;> exact trivial

theorem inContainer_beginValue {stack : List OpenContainer} {token : Token} {next : ReaderState}
    (within : stack ≠ []) (stepped : beginValue? stack token = some next) : next.InContainer := by
  cases token <;> cases stepped
  case scalar value => exact inContainer_complete (Or.inl within)
  case text value => exact inContainer_complete (Or.inl within)
  case openBracket => exact List.cons_ne_nil _ _
  case openBrace => exact trivial

theorem inContainer_step {state next : ReaderState} {token : Token} (within : state.InContainer)
    (stepped : state.step? token = some next) : next.InContainer := by
  obtain ⟨stack, expected⟩ := state
  cases expected with
  | value => exact inContainer_beginValue within stepped
  | firstItem =>
      cases token
      case closeBracket =>
        cases stepped
        exact inContainer_complete (Or.inr id)
      all_goals
        simp only [step?] at stepped
        exact inContainer_beginValue within stepped
  | firstKey entries =>
      cases token <;> cases stepped
      · exact inContainer_complete (Or.inr id)
      · exact trivial
  | key entries =>
      cases token <;> cases stepped
      exact trivial
  | colon entries key =>
      cases token <;> cases stepped
      exact List.cons_ne_nil _ _
  | separator finished =>
      cases finished <;> cases token <;> cases stepped
      · exact inContainer_complete (Or.inr id)
      · exact List.cons_ne_nil _ _
      · exact inContainer_complete (Or.inr id)
      · exact trivial
  | finish document => cases token <;> cases stepped

theorem not_isScalar_of_inContainer {state : ReaderState} (within : state.InContainer)
    {tokens : List Token} {document : Json}
    (read : (tokens.foldlM step? state).bind document? = some document) :
    ¬ document.IsScalar := by
  induction tokens generalizing state with
  | nil =>
      obtain ⟨stack, expected⟩ := state
      cases expected <;> cases read
      exact within
  | cons token tokens ih =>
      rw [List.foldlM_cons] at read
      cases stepped : state.step? token with
      | none =>
          rw [stepped] at read
          cases read
      | some next =>
          rw [stepped] at read
          exact ih (inContainer_step within stepped) read

/-- Nothing may follow a document. -/
theorem tokens_of_finished {value document : Json} {tokens : List Token}
    (read : (tokens.foldlM step? ⟨[], .finish value⟩).bind document? = some document) :
    tokens = [] ∧ document = value := by
  cases tokens with
  | nil =>
      cases read
      exact ⟨rfl, rfl⟩
  | cons token tokens => cases token <;> cases read

end ReaderState

theorem ofTokens?_eq_scalar_iff {tokens : List Token} {value : Json} (scalar : value.IsScalar) :
    ofTokens? tokens = some value ↔ tokens = [.scalar value] := by
  constructor
  · intro read
    cases tokens with
    | nil => cases read
    | cons token tokens =>
        cases token
        case scalar found =>
          obtain ⟨nothing, same⟩ := ReaderState.tokens_of_finished read
          rw [nothing, same]
        case text content =>
          obtain ⟨_, same⟩ := ReaderState.tokens_of_finished read
          subst same
          exact False.elim scalar
        case openBracket =>
          have within : ReaderState.InContainer ⟨[.array []], .firstItem⟩ :=
            List.cons_ne_nil _ _
          exact absurd scalar (ReaderState.not_isScalar_of_inContainer within read)
        case openBrace =>
          have within : ReaderState.InContainer ⟨[], .firstKey []⟩ := trivial
          exact absurd scalar (ReaderState.not_isScalar_of_inContainer within read)
        all_goals cases read
  · intro same
    rw [same]
    rfl

/-- A text denotes a scalar just when it is the scalar's own text with white space around it. -/
theorem ofText?_eq_scalar_iff {text : String} {value : Json} (scalar : value.IsScalar) :
    ofText? text = some value ↔
      ∃ core, ScalarText core value ∧ SpacedAround core text.toList := by
  unfold ofText? Token.scan?
  rw [← Token.scanFrom?_eq_scalar_iff, Option.bind_eq_some_iff]
  constructor
  · intro found
    obtain ⟨tokens, scanned, read⟩ := found
    rw [scanned, (ofTokens?_eq_scalar_iff scalar).mp read]
  · intro scanned
    exact ⟨[.scalar value], scanned, (ofTokens?_eq_scalar_iff scalar).mpr rfl⟩

/-- White space may surround the word, and nothing else may. -/
theorem ofText?_eq_bool_iff {text : String} {value : Bool} :
    ofText? text = some (.bool value) ↔ SpacedAround (boolText value) text.toList := by
  have isScalar : (Json.bool value).IsScalar := trivial
  rw [ofText?_eq_scalar_iff isScalar]
  constructor
  · intro found
    obtain ⟨core, scalar, spaced⟩ := found
    cases scalar
    exact spaced
  · intro spaced
    exact ⟨boolText value, .bool value, spaced⟩

theorem ofText?_eq_number_iff {text : String} {value : Number} :
    ofText? text = some (.number value) ↔
      ∃ literal, Number.read? literal = some value ∧ SpacedAround literal text.toList := by
  have isScalar : (Json.number value).IsScalar := trivial
  rw [ofText?_eq_scalar_iff isScalar]
  constructor
  · intro found
    obtain ⟨core, scalar, spaced⟩ := found
    cases scalar with
    | number read => exact ⟨core, read, spaced⟩
  · intro found
    obtain ⟨literal, read, spaced⟩ := found
    exact ⟨literal, .number read, spaced⟩

end SearchRequest.Json
