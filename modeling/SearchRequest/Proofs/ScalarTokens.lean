/-
How numbers, truth values and null are scanned. A number or a word is taken as far as it
goes, so such a scalar with nothing but white space around it gives one token; and one
scalar token alone comes of no other text.
-/

import Mathlib.Data.List.TakeWhile
import SearchRequest.Json.Reader
import SearchRequest.Json.Written

namespace SearchRequest.Json

/-- How a number, a truth value or null is written, without white space around it. -/
inductive ScalarText : List Char → Json → Prop
  | number {literal : List Char} {value : Number} :
      Number.read? literal = some value → ScalarText literal (.number value)
  | bool (value : Bool) : ScalarText (boolText value) (.bool value)
  | null : ScalarText ['n', 'u', 'l', 'l'] .null

/-- The text is the core with white space before and after it. -/
def SpacedAround (core text : List Char) : Prop :=
  ∃ before after, text = before ++ core ++ after ∧
    (∀ char ∈ before, Token.isSpace char = true) ∧ ∀ char ∈ after, Token.isSpace char = true

namespace Number

theorem takeDigits?_parts {text digits after : List Char}
    (taken : takeDigits? text = some (digits, after)) :
    text = digits ++ after ∧ digits ≠ [] ∧ ∀ char ∈ digits, char.isDigit = true := by
  simp only [takeDigits?] at taken
  split at taken
  · cases taken
  · next filled =>
      cases taken
      refine ⟨List.takeWhile_append_dropWhile.symm, ?_, fun _ => List.mem_takeWhile_imp⟩
      exact fun blank => filled (List.isEmpty_iff.mpr blank)

end Number

namespace Token

theorem isNumberPart_of_isDigit {char : Char} (digit : char.isDigit = true) :
    isNumberPart char = true := by
  simp only [isNumberPart, isNumberStart, digit, Bool.true_or]

/-- The characters up to the rest are ones that continue a number. -/
def NumberPartsUpTo (text rest : List Char) : Prop :=
  ∃ parts, text = parts ++ rest ∧ ∀ char ∈ parts, isNumberPart char = true

theorem NumberPartsUpTo.cons {char : Char} {text rest : List Char}
    (part : isNumberPart char = true) (upTo : NumberPartsUpTo text rest) :
    NumberPartsUpTo (char :: text) rest := by
  obtain ⟨parts, same, each⟩ := upTo
  exact ⟨char :: parts, congrArg (char :: ·) same, List.forall_mem_cons.mpr ⟨part, each⟩⟩

theorem numberPartsUpTo_of_takeDigits? {text digits after : List Char}
    (taken : Number.takeDigits? text = some (digits, after)) : NumberPartsUpTo text after := by
  obtain ⟨whole, _, each⟩ := Number.takeDigits?_parts taken
  exact ⟨digits, whole, fun char member => isNumberPart_of_isDigit (each char member)⟩

theorem numberPartsUpTo_of_readFraction? {text after : List Char}
    {fraction : Option (List Char)} (read : Number.readFraction? text = some (fraction, after)) :
    NumberPartsUpTo text after := by
  unfold Number.readFraction? at read
  split at read
  · obtain ⟨⟨digits, rest⟩, taken, same⟩ := Option.map_eq_some_iff.mp read
    cases same
    exact (numberPartsUpTo_of_takeDigits? taken).cons (by decide)
  · cases read
    exact ⟨[], rfl, fun _ impossible => nomatch impossible⟩

theorem numberPartsUpTo_of_readExponent? {text after : List Char} {exponent : Option Int}
    (read : Number.readExponent? text = some (exponent, after)) :
    NumberPartsUpTo text after := by
  unfold Number.readExponent? at read
  split at read
  · next mark rest =>
      split at read
      · next isMark =>
          have markPart : isNumberPart mark = true := by
            rcases Bool.or_eq_true_iff.mp isMark with small | large
            · exact eq_of_beq small ▸ by decide
            · exact eq_of_beq large ▸ by decide
          simp only [Option.map_eq_some_iff] at read
          obtain ⟨⟨digits, remaining⟩, taken, same⟩ := read
          cases same
          apply NumberPartsUpTo.cons markPart
          split at taken
          · exact (numberPartsUpTo_of_takeDigits? taken).cons (by decide)
          · exact (numberPartsUpTo_of_takeDigits? taken).cons (by decide)
          · exact numberPartsUpTo_of_takeDigits? taken
      · cases read
        exact ⟨[], rfl, fun _ impossible => nomatch impossible⟩
  · cases read
    exact ⟨[], rfl, fun _ impossible => nomatch impossible⟩

theorem NumberPartsUpTo.trans {first second third : List Char}
    (before : NumberPartsUpTo first second) (after : NumberPartsUpTo second third) :
    NumberPartsUpTo first third := by
  obtain ⟨parts, same, each⟩ := before
  obtain ⟨more, sameRest, eachMore⟩ := after
  refine ⟨parts ++ more, ?_, List.forall_mem_append.mpr ⟨each, eachMore⟩⟩
  rw [same, sameRest, List.append_assoc]

theorem NumberPartsUpTo.all {text : List Char} (upTo : NumberPartsUpTo text []) :
    ∀ char ∈ text, isNumberPart char = true := by
  obtain ⟨parts, same, each⟩ := upTo
  rw [same, List.append_nil]
  exact each

/-- A literal starts as the scanner expects it of a number, and goes on so. -/
theorem starts_of_literal {text : List Char} {literal : Number.Literal}
    (read : Number.Literal.read? text = some literal) : ∃ first more, text = first :: more ∧
      isNumberStart first = true ∧ ∀ char ∈ more, isNumberPart char = true := by
  simp only [Number.Literal.read?, Option.bind_eq_bind, Option.bind_eq_some_iff] at read
  obtain ⟨⟨digits, rest⟩, taken, afterDigits⟩ := read
  split at afterDigits
  · cases afterDigits
  · obtain ⟨⟨fraction, afterFraction⟩, readFraction, afterwards⟩ :=
      Option.bind_eq_some_iff.mp afterDigits
    obtain ⟨⟨exponent, afterExponent⟩, readExponent, finished⟩ :=
      Option.bind_eq_some_iff.mp afterwards
    split at finished
    · next ended =>
        have nothingLeft : afterExponent = [] := List.isEmpty_iff.mp ended
        subst nothingLeft
        have restParts : ∀ char ∈ rest, isNumberPart char = true :=
          ((numberPartsUpTo_of_readFraction? readFraction).trans
            (numberPartsUpTo_of_readExponent? readExponent)).all
        obtain ⟨whole, filled, areDigits⟩ := Number.takeDigits?_parts taken
        have digitParts : ∀ char ∈ digits, isNumberPart char = true :=
          fun char member => isNumberPart_of_isDigit (areDigits char member)
        split at whole
        · next after =>
            change after = digits ++ rest at whole
            refine ⟨'-', after, rfl, by decide, ?_⟩
            rw [whole]
            exact List.forall_mem_append.mpr ⟨digitParts, restParts⟩
        · obtain ⟨digit, digits, same⟩ := List.exists_cons_of_ne_nil filled
          subst same
          refine ⟨digit, digits ++ rest, whole, ?_, ?_⟩
          · rw [isNumberStart, areDigits digit List.mem_cons_self, Bool.true_or]
          · exact List.forall_mem_append.mpr ⟨(List.forall_mem_cons.mp digitParts).2, restParts⟩
    · cases finished

theorem starts_of_number {text : List Char} {value : Number}
    (read : Number.read? text = some value) : ∃ first more, text = first :: more ∧
      isNumberStart first = true ∧ ∀ char ∈ more, isNumberPart char = true := by
  obtain ⟨literal, isLiteral, _⟩ := Option.bind_eq_some_iff.mp read
  exact starts_of_literal isLiteral

theorem not_isPart_of_isSpace {char : Char} (space : isSpace char = true) :
    isNumberPart char = false ∧ isWordPart char = false := by
  simp only [isSpace, Bool.or_eq_true, beq_iff_eq] at space
  rcases space with ((same | same) | same) | same <;> subst same <;> decide

theorem start?_space {char : Char} (space : isSpace char = true) :
    start? char = some ([], .between) := by
  unfold start?
  exact if_pos space

theorem start?_number {char : Char} (start : isNumberStart char = true) :
    start? char = some ([], .number [char]) := by
  have noSpace : isSpace char ≠ true := by
    intro space
    have noPart := (not_isPart_of_isSpace space).1
    rw [isNumberPart, start] at noPart
    cases noPart
  unfold start?
  rw [if_neg noSpace, if_pos start]

theorem start?_word {char : Char} (part : isWordPart char = true)
    (noNumber : isNumberStart char = false) : start? char = some ([], .word [char]) := by
  have noSpace : isSpace char ≠ true := by
    intro space
    rw [(not_isPart_of_isSpace space).2] at part
    cases part
  unfold start?
  rw [if_neg noSpace, noNumber, if_neg Bool.false_ne_true, if_pos part]

/-- Whatever is no white space begins a number, a word or a string, or is a token of its own. -/
theorem start?_cases {char : Char} {emitted : List Token} {mode : Mode}
    (noSpace : isSpace char = false) (started : start? char = some (emitted, mode)) :
    (emitted = [] ∧ (mode = .number [char] ∨ mode = .word [char] ∨ mode = .string [])) ∨
      (mode = .between ∧ ∃ token, emitted = [token] ∧ ∀ value, token ≠ .scalar value) := by
  simp only [start?, noSpace, Bool.false_eq_true, if_false] at started
  split at started
  · cases started
    exact Or.inl ⟨rfl, Or.inl rfl⟩
  · split at started
    · cases started
      exact Or.inl ⟨rfl, Or.inr (Or.inl rfl)⟩
    · split at started <;> cases started
      case h_7 => exact Or.inl ⟨rfl, Or.inr (Or.inr rfl)⟩
      all_goals exact Or.inr ⟨rfl, _, rfl, nofun⟩

/-! ### Scanning -/

theorem scanFrom?_spaces {before : List Char} (spaces : ∀ char ∈ before, isSpace char = true)
    (rest : List Char) : scanFrom? .between (before ++ rest) = scanFrom? .between rest := by
  induction before with
  | nil => rfl
  | cons char before ih =>
      obtain ⟨space, later⟩ := List.forall_mem_cons.mp spaces
      rw [List.cons_append, scanFrom?, step?, start?_space space, ← ih later]
      exact Option.map_id'

/-- The first of the tokens; if it is a scalar, the text begins as the scalar is written. -/
def BeginsWithToken (text : List Char) (tokens : List Token) : Prop :=
  ∃ token later, tokens = token :: later ∧ ∀ value, token = .scalar value →
    ∃ core after, text = core ++ after ∧ ScalarText core value ∧
      scanFrom? .between after = some later

/-- A mode in which characters are collected as long as they are parts of the token. -/
structure Collects (mode : List Char → Mode) (isPart : Char → Bool)
    (finished : List Char → Option Token) : Prop where
  step : ∀ collected char, step? (mode collected) char =
    if isPart char then some ([], mode (char :: collected))
    else restart? (finished collected) char
  finish : ∀ collected, finish? (mode collected) = (finished collected).map ([·])
  ends : ∀ char, isSpace char = true → isPart char = false
  denotes : ∀ collected token, finished collected = some token →
    ∃ value, token = .scalar value ∧ ScalarText collected.reverse value

theorem collects_number : Collects .number isNumberPart ofNumber? where
  step _ _ := rfl
  finish _ := rfl
  ends _ space := (not_isPart_of_isSpace space).1
  denotes collected token found := by
    obtain ⟨value, read, same⟩ := Option.map_eq_some_iff.mp found
    exact ⟨.number value, same.symm, .number read⟩

theorem collects_word : Collects .word isWordPart ofWord? where
  step _ _ := rfl
  finish _ := rfl
  ends _ space := (not_isPart_of_isSpace space).2
  denotes collected token found := by
    unfold ofWord? at found
    split at found
    · next isNull =>
        cases found
        exact ⟨.null, rfl, isNull ▸ .null⟩
    · next isTrue =>
        cases found
        exact ⟨.bool true, rfl, isTrue ▸ .bool true⟩
    · next isFalse =>
        cases found
        exact ⟨.bool false, rfl, isFalse ▸ .bool false⟩
    · cases found

namespace Collects

variable {mode : List Char → Mode} {isPart : Char → Bool} {finished : List Char → Option Token}

/-- All the parts are taken, and what stands after them is scanned anew. -/
theorem scanFrom?_eq (collects : Collects mode isPart finished) (collected chars : List Char) :
    scanFrom? (mode collected) chars =
      (finished ((chars.takeWhile isPart).reverse ++ collected)).bind fun token =>
        (scanFrom? .between (chars.dropWhile isPart)).map (token :: ·) := by
  induction chars generalizing collected with
  | nil =>
      rw [scanFrom?, collects.finish, List.takeWhile_nil, List.reverse_nil, List.nil_append]
      cases finished collected <;> rfl
  | cons char rest ih =>
      rw [scanFrom?, collects.step, List.takeWhile_cons, List.dropWhile_cons]
      cases part : isPart char with
      | true =>
          simp only [if_true, List.reverse_cons, List.append_assoc, List.singleton_append]
          rw [← ih]
          exact Option.map_id'
      | false =>
          simp only [Bool.false_eq_true, if_false, List.reverse_nil, List.nil_append]
          rw [scanFrom?, step?, restart?]
          cases finished collected with
          | none => rfl
          | some token =>
              cases started : start? char with
              | none => rfl
              | some next =>
                  cases after : scanFrom? next.2 rest <;> simp [after]

/-- The parts end where white space begins. -/
theorem span_append_spaces (collects : Collects mode isPart finished) {parts after : List Char}
    (each : ∀ char ∈ parts, isPart char = true) (spaces : ∀ char ∈ after, isSpace char = true) :
    (parts ++ after).takeWhile isPart = parts ∧ (parts ++ after).dropWhile isPart = after := by
  have stops : after.takeWhile isPart = [] ∧ after.dropWhile isPart = after := by
    cases after with
    | nil => exact ⟨rfl, rfl⟩
    | cons char rest =>
        have noPart := collects.ends char (spaces char List.mem_cons_self)
        rw [List.takeWhile_cons, List.dropWhile_cons, noPart]
        exact ⟨rfl, rfl⟩
  rw [List.takeWhile_append_of_pos each, List.dropWhile_append_of_pos each, stops.1, stops.2]
  exact ⟨List.append_nil parts, rfl⟩

/-- Parts with nothing but white space after them are one token. -/
theorem scanFrom?_between (collects : Collects mode isPart finished) {first : Char}
    {parts after : List Char} {token : Token} (started : start? first = some ([], mode [first]))
    (each : ∀ char ∈ parts, isPart char = true) (spaces : ∀ char ∈ after, isSpace char = true)
    (isToken : finished (first :: parts).reverse = some token) :
    scanFrom? .between (first :: parts ++ after) = some [token] := by
  have nothingMore : scanFrom? .between after = some [] := by
    rw [← List.append_nil after, scanFrom?_spaces spaces]
    rfl
  obtain ⟨taken, dropped⟩ := collects.span_append_spaces each spaces
  rw [List.reverse_cons] at isToken
  rw [List.cons_append, scanFrom?, step?, started]
  simp only [collects.scanFrom?_eq, taken, dropped, isToken, nothingMore]
  rfl

theorem beginsWithToken (collects : Collects mode isPart finished) {first : Char}
    {chars : List Char} {tokens : List Token}
    (scanned : scanFrom? (mode [first]) chars = some tokens) :
    BeginsWithToken (first :: chars) tokens := by
  rw [collects.scanFrom?_eq] at scanned
  obtain ⟨token, isToken, rest⟩ := Option.bind_eq_some_iff.mp scanned
  obtain ⟨later, isLater, same⟩ := Option.map_eq_some_iff.mp rest
  obtain ⟨value, isScalar, denoted⟩ := collects.denotes _ token isToken
  rw [List.reverse_append, List.reverse_reverse] at denoted
  subst isScalar
  refine ⟨.scalar value, later, same.symm, ?_⟩
  intro other sameValue
  cases sameValue
  refine ⟨first :: chars.takeWhile isPart, chars.dropWhile isPart, ?_, denoted, isLater⟩
  rw [List.cons_append, List.takeWhile_append_dropWhile]

end Collects

/-- The scanner is inside a string literal. -/
def Mode.IsQuoted : Mode → Prop
  | .string _ | .escape _ | .unicode .. => True
  | .between | .number _ | .word _ => False

theorem step?_quoted {mode next : Mode} {char : Char} {emitted : List Token}
    (quoted : mode.IsQuoted) (stepped : step? mode char = some (emitted, next)) :
    (emitted = [] ∧ next.IsQuoted) ∨ ∃ value, emitted = [.text value] := by
  cases mode with
  | between | number _ | word _ => exact False.elim quoted
  | string collected =>
      simp only [step?] at stepped
      split at stepped
      · obtain ⟨token, isToken, same⟩ := Option.map_eq_some_iff.mp stepped
        obtain ⟨chars, _, isText⟩ := Option.map_eq_some_iff.mp isToken
        cases same
        exact Or.inr ⟨String.ofList chars, congrArg ([·]) isText.symm⟩
      · split at stepped
        · cases stepped
          exact Or.inl ⟨rfl, trivial⟩
        · split at stepped
          · cases stepped
          · cases stepped
            exact Or.inl ⟨rfl, trivial⟩
  | escape collected =>
      simp only [step?] at stepped
      split at stepped
      · cases stepped
        exact Or.inl ⟨rfl, trivial⟩
      · obtain ⟨plain, _, same⟩ := Option.map_eq_some_iff.mp stepped
        cases same
        exact Or.inl ⟨rfl, trivial⟩
  | unicode collected digits code =>
      obtain ⟨value, _, same⟩ := Option.map_eq_some_iff.mp stepped
      simp only at same
      split at same
      · cases same
        exact Or.inl ⟨rfl, trivial⟩
      · cases same
        exact Or.inl ⟨rfl, trivial⟩

theorem text_of_quoted {mode : Mode} (quoted : mode.IsQuoted) {chars : List Char}
    {tokens : List Token} (scanned : scanFrom? mode chars = some tokens) :
    ∃ value later, tokens = .text value :: later := by
  induction chars generalizing mode tokens with
  | nil =>
      cases mode with
      | between | number _ | word _ => exact False.elim quoted
      | string _ | escape _ | unicode _ _ _ => cases scanned
  | cons char rest ih =>
      rw [scanFrom?] at scanned
      cases stepped : step? mode char with
      | none =>
          rw [stepped] at scanned
          cases scanned
      | some result =>
          rw [stepped] at scanned
          obtain ⟨later, isLater, same⟩ := Option.map_eq_some_iff.mp scanned
          subst same
          rcases step?_quoted quoted stepped with unfinished | finished
          · obtain ⟨value, more, begins⟩ := ih unfinished.2 isLater
            rw [unfinished.1, begins]
            exact ⟨value, more, rfl⟩
          · obtain ⟨value, emitted⟩ := finished
            rw [emitted]
            exact ⟨value, later, rfl⟩

theorem beginsWithToken_of_nonspace {first : Char} {chars : List Char} {tokens : List Token}
    (noSpace : isSpace first = false)
    (scanned : scanFrom? .between (first :: chars) = some tokens) :
    BeginsWithToken (first :: chars) tokens := by
  rw [scanFrom?, step?] at scanned
  cases started : start? first with
  | none =>
      rw [started] at scanned
      cases scanned
  | some result =>
      obtain ⟨emitted, mode⟩ := result
      rw [started] at scanned
      obtain ⟨later, isLater, same⟩ := Option.map_eq_some_iff.mp scanned
      subst same
      rcases start?_cases noSpace started with ⟨nothing, begun⟩ | ⟨_, token, single, noScalar⟩
      · rw [nothing, List.nil_append]
        rcases begun with same | same | same <;> subst same
        · exact collects_number.beginsWithToken isLater
        · exact collects_word.beginsWithToken isLater
        · have quoted : (Mode.string []).IsQuoted := trivial
          obtain ⟨value, rest, begins⟩ := text_of_quoted quoted isLater
          exact ⟨.text value, rest, begins, nofun⟩
      · rw [single]
        exact ⟨token, later, rfl, fun value same => absurd same (noScalar value)⟩

theorem spaces_of_no_token {chars : List Char} (scanned : scanFrom? .between chars = some []) :
    ∀ char ∈ chars, isSpace char = true := by
  induction chars with
  | nil => exact fun _ impossible => nomatch impossible
  | cons char rest ih =>
      cases space : isSpace char with
      | false =>
          obtain ⟨token, later, impossible, _⟩ := beginsWithToken_of_nonspace space scanned
          cases impossible
      | true =>
          have later := scanFrom?_spaces (List.forall_mem_singleton.mpr space) rest
          exact List.forall_mem_cons.mpr ⟨space, ih (later.symm.trans scanned)⟩

theorem scanFrom?_scalar {core after : List Char} {value : Json} (scalar : ScalarText core value)
    (spaces : ∀ char ∈ after, isSpace char = true) :
    scanFrom? .between (core ++ after) = some [.scalar value] := by
  have word : ∀ first parts, isWordPart first = true → isNumberStart first = false →
      parts.all isWordPart = true → ofWord? (first :: parts).reverse = some (.scalar value) →
        scanFrom? .between (first :: parts ++ after) = some [.scalar value] :=
    fun _ _ part noNumber each isToken =>
      collects_word.scanFrom?_between (start?_word part noNumber) (List.all_eq_true.mp each)
        spaces isToken
  cases scalar with
  | number read =>
      obtain ⟨first, parts, same, start, each⟩ := starts_of_number read
      subst same
      apply collects_number.scanFrom?_between (start?_number start) each spaces
      rw [ofNumber?, List.reverse_reverse, read]
      rfl
  | bool flag =>
      cases flag with
      | true => exact word 't' ['r', 'u', 'e'] rfl rfl rfl rfl
      | false => exact word 'f' ['a', 'l', 's', 'e'] rfl rfl rfl rfl
  | null => exact word 'n' ['u', 'l', 'l'] rfl rfl rfl rfl

/-- A single scalar token is all there is just when the text is a scalar amid white space. -/
theorem scanFrom?_eq_scalar_iff {text : List Char} {value : Json} :
    scanFrom? .between text = some [.scalar value] ↔
      ∃ core, ScalarText core value ∧ SpacedAround core text := by
  constructor
  · intro scanned
    have leading : ∀ char ∈ text.takeWhile isSpace, isSpace char = true :=
      fun _ => List.mem_takeWhile_imp
    have whole : text.takeWhile isSpace ++ text.dropWhile isSpace = text :=
      List.takeWhile_append_dropWhile
    rw [← whole, scanFrom?_spaces leading] at scanned
    cases rest : text.dropWhile isSpace with
    | nil =>
        rw [rest] at scanned
        cases scanned
    | cons first chars =>
        have noSpace : isSpace first = false := by
          have stopped := List.head?_dropWhile_not isSpace text
          rw [rest] at stopped
          exact stopped
        rw [rest] at scanned whole
        obtain ⟨token, later, same, ofScalar⟩ := beginsWithToken_of_nonspace noSpace scanned
        cases same
        obtain ⟨core, after, parts, denoted, nothingMore⟩ := ofScalar value rfl
        refine ⟨core, denoted, text.takeWhile isSpace, after, ?_, leading,
          spaces_of_no_token nothingMore⟩
        rw [List.append_assoc, ← parts, whole]
  · intro found
    obtain ⟨core, scalar, before, after, same, leading, trailing⟩ := found
    rw [same, List.append_assoc, scanFrom?_spaces leading]
    exact scanFrom?_scalar scalar trailing

end Token

end SearchRequest.Json
