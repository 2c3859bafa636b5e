/-
The two written forms of a body hold the same characters up to white space outside the
string literals.

Such white space is deleted by a scanner that follows the quotes and, inside a literal, the
backslashes. Parts of a document that the scanner leaves in the place where it entered them
may be put together, so the two forms are compared part by part, at every level of
indentation.
-/

import Mathlib.Data.List.Forall2
import SearchRequest.Proofs.ResultWindow

namespace SearchRequest

namespace Json

/-- Where a character of a written document stands. -/
inductive Place where
  | outside
  /-- Between the quotes of a string literal. -/
  | inside
  /-- Right after a backslash of a string literal. -/
  | escaped
  deriving DecidableEq

/-- The place of the character after this one. -/
def Place.next (place : Place) (char : Char) : Place :=
  match place with
  | .outside => if char = '"' then .inside else .outside
  | .inside => if char = '"' then .outside else if char = '\\' then .escaped else .inside
  | .escaped => .inside

/-- What is left of a text when white space outside the string literals is deleted. -/
def condenseFrom (place : Place) : List Char → List Char
  | [] => []
  | char :: rest =>
      if place = .outside ∧ Text.isWhiteSpace char = true then condenseFrom .outside rest
      else char :: condenseFrom (place.next char) rest

def condense (text : String) : String :=
  String.ofList (condenseFrom .outside text.toList)

theorem condenseFrom_white {char : Char} (white : Text.isWhiteSpace char = true)
    (rest : List Char) : condenseFrom .outside (char :: rest) = condenseFrom .outside rest :=
  if_pos ⟨rfl, white⟩

theorem condenseFrom_kept {place : Place} {char : Char}
    (kept : ¬ (place = .outside ∧ Text.isWhiteSpace char = true)) (rest : List Char) :
    condenseFrom place (char :: rest) = char :: condenseFrom (place.next char) rest :=
  if_neg kept

/--
Deleting white space from a text that is entered at a place leaves the second text, and what
comes behind it is at that place again.
-/
def CondensesTo (place : Place) (text condensed : List Char) : Prop :=
  ∀ rest, condenseFrom place (text ++ rest) = condensed ++ condenseFrom place rest

/-- The character is neither white space nor does a literal begin with it. -/
def IsPlain (char : Char) : Prop :=
  Text.isWhiteSpace char = false ∧ char ≠ '"'

instance (char : Char) : Decidable (IsPlain char) :=
  inferInstanceAs (Decidable (_ ∧ _))

namespace CondensesTo

theorem nil (place : Place) : CondensesTo place [] [] :=
  fun _ => rfl

theorem append {place : Place} {first second firstCondensed secondCondensed : List Char}
    (before : CondensesTo place first firstCondensed)
    (after : CondensesTo place second secondCondensed) :
    CondensesTo place (first ++ second) (firstCondensed ++ secondCondensed) := by
  intro rest
  rw [List.append_assoc, before, after, List.append_assoc]

theorem white_cons {char : Char} {text condensed : List Char}
    (white : Text.isWhiteSpace char = true) (condenses : CondensesTo .outside text condensed) :
    CondensesTo .outside (char :: text) condensed := by
  intro rest
  rw [List.cons_append, condenseFrom_white white, condenses]

theorem plain_cons {char : Char} {text condensed : List Char} (plain : IsPlain char)
    (condenses : CondensesTo .outside text condensed) :
    CondensesTo .outside (char :: text) (char :: condensed) := by
  intro rest
  have kept : ¬ (Place.outside = .outside ∧ Text.isWhiteSpace char = true) := fun deleted =>
    Bool.false_ne_true (plain.1.symm.trans deleted.2)
  have remains : Place.next .outside char = .outside := if_neg plain.2
  rw [List.cons_append, condenseFrom_kept kept, remains, condenses, List.cons_append]

theorem plain {text : List Char} (each : ∀ char ∈ text, IsPlain char) :
    CondensesTo .outside text text := by
  induction text with
  | nil => exact nil _
  | cons char rest ih =>
      obtain ⟨first, others⟩ := List.forall_mem_cons.mp each
      exact (ih others).plain_cons first

theorem intercalate {separator separatorCondensed : List Char} {parts condensed : List (List Char)}
    (between : CondensesTo .outside separator separatorCondensed)
    (each : List.Forall₂ (CondensesTo .outside) parts condensed) :
    CondensesTo .outside (separator.intercalate parts)
      (separatorCondensed.intercalate condensed) := by
  induction each with
  | nil => exact nil _
  | cons first others ih =>
      cases others with
      | nil => simpa only [List.intercalate_singleton] using first
      | cons second others =>
          rw [List.intercalate_cons_cons, List.intercalate_cons_cons]
          exact (first.append between).append ih

/-- With the scanner outside the literals at the start, a part is a whole text too. -/
theorem condense_eq {text condensed : List Char}
    (condenses : CondensesTo .outside text condensed) :
    condense (String.ofList text) = String.ofList condensed := by
  have whole := condenses []
  rw [List.append_nil, condenseFrom, List.append_nil] at whole
  rw [condense, String.toList_ofList, whole]

end CondensesTo

/-! ### String literals -/

theorem condenseFrom_inside (char : Char) (rest : List Char) :
    condenseFrom .inside (char :: rest) = char :: condenseFrom (Place.next .inside char) rest :=
  condenseFrom_kept (fun deleted => Place.noConfusion deleted.1) rest

/-- A backslash takes the character behind it along, be it a quote or a backslash. -/
theorem condensesTo_escape (char : Char) : CondensesTo .inside ['\\', char] ['\\', char] :=
  fun _ => rfl

theorem condensesTo_unescaped {char : Char} (noQuote : char ≠ '"') (noBackslash : char ≠ '\\') :
    CondensesTo .inside [char] [char] := by
  intro rest
  have remains : Place.next .inside char = .inside :=
    (if_neg noQuote).trans (if_neg noBackslash)
  rw [List.singleton_append, condenseFrom_inside, remains, List.singleton_append]

theorem hexDigit_ne {value : Nat} (small : value < 16) :
    hexDigit value ≠ '"' ∧ hexDigit value ≠ '\\' := by
  have each : ∀ digit < 16, hexDigit digit ≠ '"' ∧ hexDigit digit ≠ '\\' := by decide
  exact each value small

theorem condensesTo_hexDigit {value : Nat} (small : value < 16) :
    CondensesTo .inside [hexDigit value] [hexDigit value] :=
  condensesTo_unescaped (hexDigit_ne small).1 (hexDigit_ne small).2

theorem condensesTo_escapeChar (char : Char) :
    CondensesTo .inside (escapeChar char) (escapeChar char) := by
  by_cases quote : char = '"'
  · rw [escapeChar, if_pos quote]
    exact condensesTo_escape '"'
  by_cases backslash : char = '\\'
  · rw [escapeChar, if_neg quote, if_pos backslash]
    exact condensesTo_escape '\\'
  rw [escapeChar, if_neg quote, if_neg backslash]
  split
  · exact condensesTo_escape 'b'
  split
  · exact condensesTo_escape 'f'
  split
  · exact condensesTo_escape 'n'
  split
  · exact condensesTo_escape 'r'
  split
  · exact condensesTo_escape 't'
  split
  · next control =>
      have upper : char.toNat / 16 < 16 := by omega
      have lower : char.toNat % 16 < 16 := by omega
      have zero : CondensesTo .inside ['0'] ['0'] :=
        condensesTo_unescaped (by decide) (by decide)
      exact (condensesTo_escape 'u').append
        (zero.append (zero.append
          ((condensesTo_hexDigit upper).append (condensesTo_hexDigit lower))))
  · exact condensesTo_unescaped quote backslash

/-- A string literal is left as it is, whatever the string holds. -/
theorem condensesTo_quoted (text : String) :
    CondensesTo .outside (quoted text) (quoted text) := by
  have between : CondensesTo .inside (text.toList.flatMap escapeChar)
      (text.toList.flatMap escapeChar) := by
    induction text.toList with
    | nil => exact .nil _
    | cons char rest ih => exact (condensesTo_escapeChar char).append ih
  intro rest
  calc condenseFrom .outside (quoted text ++ rest)
      = '"' :: condenseFrom .inside (text.toList.flatMap escapeChar ++ '"' :: rest) := by
        simp only [quoted, List.cons_append, List.append_assoc, List.nil_append]
        rfl
    _ = '"' :: (text.toList.flatMap escapeChar ++ condenseFrom .inside ('"' :: rest)) := by
        rw [between]
    _ = quoted text ++ condenseFrom .outside rest := by
        simp only [quoted, List.cons_append, List.append_assoc, List.nil_append]
        rfl

theorem isPlain_of_isDigit {char : Char} (digit : char.isDigit = true) : IsPlain char := by
  simp only [Char.isDigit, Bool.and_eq_true, decide_eq_true_eq] at digit
  obtain ⟨atLeast, atMost⟩ := digit
  have lower : 48 ≤ char.toNat := atLeast
  have upper : char.toNat ≤ 57 := atMost
  refine ⟨?_, ?_⟩
  · simp only [Text.isWhiteSpace, Bool.or_eq_false_iff, Bool.and_eq_false_iff,
      decide_eq_false_iff_not, beq_eq_false_iff_ne]
    omega
  · intro same
    subst same
    exact absurd lower (by decide)

theorem isPlain_of_all {word : List Char}
    (each : (word.all fun char => decide (IsPlain char)) = true) : ∀ char ∈ word, IsPlain char :=
  fun char member => of_decide_eq_true (List.all_eq_true.mp each char member)

theorem isPlain_digitsOf (value : Nat) : ∀ char ∈ Text.digitsOf value, IsPlain char :=
  fun _ member => isPlain_of_isDigit (Text.isDigit_of_mem_digitsOf member)

namespace Number

theorem isPlain_positionalText {digits : List Char} (each : ∀ char ∈ digits, IsPlain char)
    (leading : Int) : ∀ char ∈ positionalText digits leading, IsPlain char := by
  have zeros (count : Nat) : ∀ char ∈ List.replicate count '0', IsPlain char := fun char member =>
    List.eq_of_mem_replicate member ▸ by decide
  unfold positionalText
  split
  · have point : ∀ char ∈ ['0', '.'], IsPlain char := isPlain_of_all rfl
    exact List.forall_mem_append.mpr ⟨List.forall_mem_append.mpr ⟨point, zeros _⟩, each⟩
  · have integerPart : ∀ char ∈ digits.take (leading.toNat + 1), IsPlain char :=
      fun char member => each char (List.mem_of_mem_take member)
    refine List.forall_mem_append.mpr ⟨List.forall_mem_append.mpr ⟨integerPart, zeros _⟩, ?_⟩
    refine List.forall_mem_cons.mpr ⟨by decide, ?_⟩
    split
    · exact isPlain_of_all rfl
    · exact fun char member => each char (List.mem_of_mem_drop member)

theorem isPlain_scientificText {digits : List Char} (each : ∀ char ∈ digits, IsPlain char)
    (leading : Int) : ∀ char ∈ scientificText digits leading, IsPlain char := by
  have first : ∀ char ∈ digits.take 1, IsPlain char :=
    fun char member => each char (List.mem_of_mem_take member)
  have fraction : ∀ char ∈ digits.drop 1, IsPlain char :=
    fun char member => each char (List.mem_of_mem_drop member)
  refine List.forall_mem_append.mpr ⟨List.forall_mem_append.mpr ⟨first, ?_⟩, ?_⟩
  · split
    · exact isPlain_of_all rfl
    · exact List.forall_mem_cons.mpr ⟨by decide, fraction⟩
  · refine List.forall_mem_cons.mpr ⟨by decide, List.forall_mem_cons.mpr ⟨?_, isPlain_digitsOf _⟩⟩
    split <;> decide

theorem isPlain_decimalText (decimal : Decimal) :
    ∀ char ∈ decimalText decimal, IsPlain char := by
  have significant : ∀ char ∈
      ((Text.digitsOf decimal.digits).reverse.dropWhile (· == '0')).reverse, IsPlain char := by
    intro char member
    have sublist := List.dropWhile_sublist (l := (Text.digitsOf decimal.digits).reverse) (· == '0')
    exact isPlain_digitsOf _ char
      (List.mem_reverse.mp (sublist.subset (List.mem_reverse.mp member)))
  simp only [decimalText]
  split
  · exact isPlain_positionalText significant _
  · exact isPlain_scientificText significant _

theorem isPlain_text (number : Number) : ∀ char ∈ number.text, IsPlain char := by
  have sign (negative : Prop) [Decidable negative] :
      ∀ char ∈ if negative then ['-'] else [], IsPlain char := by
    split <;> exact isPlain_of_all rfl
  cases number with
  | integer value inRange => exact List.forall_mem_append.mpr ⟨sign _, isPlain_digitsOf _⟩
  | float value finite =>
      refine List.forall_mem_append.mpr ⟨sign _, ?_⟩
      split
      · exact isPlain_of_all rfl
      · exact isPlain_decimalText _

end Number

theorem condensesTo_number (number : Number) : CondensesTo .outside number.text number.text :=
  .plain number.isPlain_text

theorem condensesTo_bool (value : Bool) : CondensesTo .outside (boolText value) (boolText value) :=
  .plain (isPlain_of_all (by cases value <;> rfl))

theorem condensesTo_null :
    CondensesTo .outside ['n', 'u', 'l', 'l'] ['n', 'u', 'l', 'l'] :=
  .plain (isPlain_of_all rfl)

/-! ### Documents -/

theorem condensesTo_lineBreak (level : Nat) : CondensesTo .outside (lineBreak level) [] := by
  apply CondensesTo.white_cons (by decide)
  induction 2 * level with
  | zero => exact .nil _
  | succ count ih => exact ih.white_cons (by decide)

/-- No line is broken between the brackets of an empty container, and none of the others stays. -/
theorem condensesTo_bracketed {left right : Char} (leftPlain : IsPlain left)
    (rightPlain : IsPlain right) (level : Nat) {parts condensed : List (List Char)}
    (each : List.Forall₂ (CondensesTo .outside) parts condensed) :
    CondensesTo .outside (bracketed level left right parts)
      (left :: [','].intercalate condensed ++ [right]) := by
  have closing : CondensesTo .outside [right] [right] := (CondensesTo.nil _).plain_cons rightPlain
  cases each with
  | nil => exact closing.plain_cons leftPlain
  | cons first others =>
      have comma : CondensesTo .outside (',' :: lineBreak (level + 1)) [','] :=
        (condensesTo_lineBreak _).plain_cons (by decide)
      have opening := (condensesTo_lineBreak (level + 1)).plain_cons leftPlain
      have between := comma.intercalate (.cons first others)
      have whole := ((opening.append between).append (condensesTo_lineBreak level)).append closing
      rw [List.append_nil] at whole
      exact whole

mutual

/-- The induction is on the document and for every level, since containers indent their parts. -/
theorem condensesTo_indented (level : Nat) : (value : Json) →
    CondensesTo .outside (indented level value) (compact value)
  | .null => condensesTo_null
  | .bool value => condensesTo_bool value
  | .number value => condensesTo_number value
  | .string value => condensesTo_quoted value
  | .array items =>
      condensesTo_bracketed (by decide) (by decide) level
        (forall₂_indentedItems (level + 1) items)
  | .object entries =>
      condensesTo_bracketed (by decide) (by decide) level
        (forall₂_indentedEntries (level + 1) entries)

theorem forall₂_indentedItems (level : Nat) : (items : List Json) →
    List.Forall₂ (CondensesTo .outside) (indentedItems level items) (compactItems items)
  | [] => .nil
  | item :: rest => .cons (condensesTo_indented level item) (forall₂_indentedItems level rest)

theorem forall₂_indentedEntries (level : Nat) : (entries : List (String × Json)) →
    List.Forall₂ (CondensesTo .outside) (indentedEntries level entries) (compactEntries entries)
  | [] => .nil
  | (key, value) :: rest =>
      have spaced : CondensesTo .outside (':' :: ' ' :: indented level value)
          (':' :: compact value) :=
        ((condensesTo_indented level value).white_cons (by decide)).plain_cons (by decide)
      .cons ((condensesTo_quoted key).append spaced) (forall₂_indentedEntries level rest)

end

theorem condense_toIndentedText (value : Json) : condense value.toIndentedText = value.toText :=
  (condensesTo_indented 0 value).condense_eq

example : condense (array [.string "a \" b\\", .array []]).toIndentedText =
    "[\"a \\\" b\\\\\",[]]" := rfl

end Json

namespace Body

/-- Both forms are written from the one document of the body. -/
theorem render_eq (body : Body) (pretty : Bool) :
    body.render pretty = body.toJson.map (CommandLine.printed pretty) := by
  rw [render]
  cases body.toJson with
  | error fault => rfl
  | ok document => rfl

theorem render_eq_error_iff {body : Body} {pretty : Bool} {error : RequestError} :
    body.render pretty = .error error ↔ body.toJson = .error error := by
  rw [render_eq]
  cases body.toJson with
  | error fault =>
      constructor
      all_goals
        intro failed
        cases failed
        rfl
  | ok document => constructor <;> exact fun impossible => nomatch impossible

theorem render_compact (body : Body) :
    body.render false = (body.render true).map Json.condense := by
  rw [render_eq, render_eq]
  cases body.toJson with
  | error fault => rfl
  | ok document => exact congrArg Except.ok document.condense_toIndentedText.symm

/--
The indented form and the compact form of a body are missing for the same fault, that of its
document, or else differ in nothing but white space outside the string literals.
-/
theorem forms_differ_in_spaces (body : Body) :
    (∀ error, body.render true = .error error ↔ body.render false = .error error) ∧
    (∀ pretty error, body.render pretty = .error error ↔ body.toJson = .error error) ∧
    ∀ document, body.toJson = .ok document →
      ∃ indented compact, body.render true = .ok indented ∧ body.render false = .ok compact ∧
        Json.condense indented = compact := by
  refine ⟨fun error => render_eq_error_iff.trans render_eq_error_iff.symm,
    fun pretty error => render_eq_error_iff, ?_⟩
  intro document rendered
  have isIndented : body.render true = .ok document.toIndentedText := by
    rw [render_eq, rendered]
    rfl
  refine ⟨document.toIndentedText, Json.condense document.toIndentedText, isIndented, ?_, rfl⟩
  rw [render_compact, isIndented]
  rfl

end Body

namespace CommandLine

/-- The arguments with the flag for the indented form set or cleared. -/
def Arguments.withPretty (arguments : Arguments) (pretty : Bool) : Arguments :=
  { arguments with pretty }

/--
Asking for the indented form adds nothing but white space to the output of a command. The flag
is looked at last, when the body is rendered.
-/
theorem request_compact (arguments : Arguments) :
    request (arguments.withPretty false) =
      (request (arguments.withPretty true)).map Json.condense := by
  let unflagged := settingsOf arguments
  have asked (pretty : Bool) : request (arguments.withPretty pretty) =
      if Text.isBlank arguments.scriptLanguage then .error .blankScriptLanguage
      else (assemble arguments unflagged).bind fun body =>
        ((body.validateWindow unflagged).mapError .windowExceeded).bind fun () =>
          (body.render pretty).mapError .request := by
    cases named : Text.isBlank arguments.scriptLanguage with
    | true =>
        simp only [request, Arguments.withPretty, named]
        rfl
    | false =>
        simp only [request, Arguments.withPretty, named]
        rfl
  rw [asked, asked]
  split
  · rfl
  cases assemble arguments unflagged with
  | error failure => rfl
  | ok body =>
      simp only [Except.bind, body.render_compact]
      cases body.validateWindow unflagged with
      | error fault => rfl
      | ok =>
          cases body.render true with
          | error fault => rfl
          | ok text => rfl

end CommandLine

end SearchRequest
