/-
The result window. It is checked on machine numbers, and the check is shown to be the one on
unbounded numbers: a sum that does not fit into 64 bits is noticed and never accepted.

The page size that is checked and the one that is printed come from different places. They
agree for a body that was put together under the settings it is checked against.
-/

import SearchRequest.Proofs.FlagClauses

namespace SearchRequest

namespace Body

/-- Where the window ends, in unbounded numbers. -/
def windowEnd (body : Body) (settings : Settings) : Nat :=
  (body.offset.getD 0).toNat + ((body.pageSize <|> settings.defaultSize).getD 0).toNat

theorem sumOfSizes?_eq_some {left right : UInt64}
    (fits : left.toNat + right.toNat < 0x10000000000000000) :
    sumOfSizes? left right = some (left + right) := by
  apply if_neg
  rw [UInt64.lt_iff_toNat_lt, UInt64.toNat_add]
  omega

/-- A sum of two numbers that wraps around is less than each of them. -/
theorem sumOfSizes?_eq_none {left right : UInt64}
    (overflow : 0x10000000000000000 ≤ left.toNat + right.toNat) :
    sumOfSizes? left right = none := by
  have leftBound := left.toNat_lt
  have rightBound := right.toNat_lt
  apply if_pos
  rw [UInt64.lt_iff_toNat_lt, UInt64.toNat_add]
  omega

/-- Only a sum that fits into 64 bits is compared to the limit, which fits as well. -/
theorem any_sumOfSizes?_iff (left right limit : UInt64) :
    ((sumOfSizes? left right).any fun last => last ≤ limit) = true ↔
      left.toNat + right.toNat ≤ limit.toNat := by
  have limitBound := limit.toNat_lt
  by_cases fits : left.toNat + right.toNat < 0x10000000000000000
  · rw [sumOfSizes?_eq_some fits, Option.any_some, decide_eq_true_eq, UInt64.le_iff_toNat_le,
      UInt64.toNat_add, Nat.mod_eq_of_lt fits]
  · rw [sumOfSizes?_eq_none (Nat.le_of_not_lt fits)]
    constructor
    · intro impossible
      cases impossible
    · intro within
      omega

theorem validateWindow_ok_iff (body : Body) (settings : Settings) :
    body.validateWindow settings = .ok () ↔
      body.windowEnd settings ≤ settings.maxWindow.toNat := by
  refine Iff.trans ?_ (any_sumOfSizes?_iff _ _ _)
  simp only [validateWindow]
  split
  · next accepted => exact iff_of_true rfl accepted
  · next refused => exact iff_of_false nofun refused

/-- Beyond 64 bits no limit helps, not even the greatest one. -/
theorem validateWindow_overflow {body : Body} {settings : Settings}
    (overflow : 0x10000000000000000 ≤ body.windowEnd settings) :
    body.validateWindow settings ≠ .ok () := by
  have limitBound := settings.maxWindow.toNat_lt
  intro accepted
  have within := (body.validateWindow_ok_iff settings).mp accepted
  omega

example :
    validateWindow { offset := some 0xFFFFFFFFFFFFFFFF, pageSize := some 1 }
        { maxWindow := 0xFFFFFFFFFFFFFFFF } =
      .error (.invalidArgument (.windowExceeded 0xFFFFFFFFFFFFFFFF 0xFFFFFFFFFFFFFFFF 1)) := by
  rfl

theorem validateWindow_mono {body : Body} {settings other : Settings}
    (sameDefault : settings.defaultSize = other.defaultSize)
    (wider : settings.maxWindow ≤ other.maxWindow)
    (accepted : body.validateWindow settings = .ok ()) : body.validateWindow other = .ok () := by
  have within := (body.validateWindow_ok_iff settings).mp accepted
  apply (body.validateWindow_ok_iff other).mpr
  have sameEnd : body.windowEnd other = body.windowEnd settings := by
    unfold windowEnd
    rw [sameDefault]
  rw [sameEnd]
  exact Nat.le_trans within (UInt64.le_iff_toNat_le.mp wider)

end Body

namespace CommandLine

/-! ### What is printed -/

/-- The number under a key, which may be left out if it is zero. -/
inductive ShowsAmount (key : String) (entries : Entries Json) : Nat → Prop
  | absent : Entries.find? key entries = none → ShowsAmount key entries 0
  | given (amount : UInt64) :
      Entries.find? key entries = some (.ofUInt64 amount) → ShowsAmount key entries amount.toNat

theorem showsAmount_of_find? {key : String} {entries : Entries Json} {amount : Option UInt64}
    (found : Entries.find? key entries = amount.map Json.ofUInt64) :
    ShowsAmount key entries (amount.getD 0).toNat := by
  cases amount with
  | none => exact .absent found
  | some amount => exact .given amount found

def printed (pretty : Bool) (document : Json) : String :=
  if pretty then document.toIndentedText else document.toText

/-- What a command has passed through once it has a text to print. -/
structure Prepared (arguments : Arguments) (body : Body) (document : Json) : Prop where
  assembled : assemble arguments (settingsOf arguments) = .ok body
  within : body.validateWindow (settingsOf arguments) = .ok ()
  rendered : body.toJson = .ok document

theorem prepared_of_request {arguments : Arguments} {text : String}
    (succeeded : request arguments = .ok text) :
    ∃ body document, Prepared arguments body document ∧
      text = printed arguments.pretty document := by
  unfold request at succeeded
  split at succeeded
  · cases succeeded
  · obtain ⟨body, assembled, afterBody⟩ := bind_eq_ok_iff.mp succeeded
    obtain ⟨_, within, afterCheck⟩ := bind_eq_ok_iff.mp afterBody
    obtain ⟨document, rendered, same⟩ := bind_eq_ok_iff.mp (mapError_eq_ok_iff.mp afterCheck)
    cases same
    exact ⟨body, document, ⟨assembled, mapError_eq_ok_iff.mp within, rendered⟩, rfl⟩

theorem requested_of_run {words : List String} {environment : Environment}
    (exited : (run words environment).exitCode = 0) :
    ∃ arguments text, Arguments.parse words environment = .ok arguments ∧
      request arguments = .ok text ∧ (run words environment).stdout = text ++ "\n" := by
  cases parsed : Arguments.parse words environment with
  | error error =>
      simp only [run, parsed] at exited
      cases exited
  | ok arguments =>
      cases requested : request arguments with
      | error failure =>
          simp only [run, parsed, requested] at exited
          cases exited
      | ok text => exact ⟨arguments, text, rfl, requested, by simp only [run, parsed, requested]⟩

theorem pageSize_of_assemble {arguments : Arguments} {settings : Settings} {body : Body}
    (assembled : assemble arguments settings = .ok body) :
    body.pageSize = (arguments.pageSize <|> settings.defaultSize) := by
  rw [assemble_eq] at assembled
  obtain ⟨sorting, _, afterSorting⟩ := bind_eq_ok_iff.mp assembled
  obtain ⟨query, _, afterQuery⟩ := bind_eq_ok_iff.mp afterSorting
  obtain ⟨aggregations, _, same⟩ := map_eq_ok_iff.mp afterQuery
  rw [same]

/-- What is printed as the size of a page is what was checked: the default is already in it. -/
theorem windowEnd_of_assemble {arguments : Arguments} {settings : Settings} {body : Body}
    (assembled : assemble arguments settings = .ok body) :
    body.windowEnd settings = (body.offset.getD 0).toNat + (body.pageSize.getD 0).toNat := by
  have sameSize : (body.pageSize <|> settings.defaultSize) = body.pageSize := by
    rw [pageSize_of_assemble assembled]
    cases arguments.pageSize <;> cases settings.defaultSize <;> rfl
  unfold Body.windowEnd
  rw [sameSize]

theorem Prepared.showsWindow {arguments : Arguments} {body : Body} {document : Json}
    (prepared : Prepared arguments body document) :
    ∃ entries offset pageSize, document = .object entries ∧
      ShowsAmount "from" entries offset ∧ ShowsAmount "size" entries pageSize ∧
        offset + pageSize ≤ arguments.maxWindow.toNat := by
  obtain ⟨query, nested, _, _, isDocument⟩ := (body.toJson_ok_iff document).mp prepared.rendered
  refine ⟨_, _, _, isDocument, showsAmount_of_find? (body.find?_shown query nested "from"),
    showsAmount_of_find? (body.find?_shown query nested "size"), ?_⟩
  rw [← windowEnd_of_assemble prepared.assembled]
  exact (body.validateWindow_ok_iff (settingsOf arguments)).mp prepared.within

/-- The settings come in only by the default size. -/
theorem assemble_congr_settings (arguments : Arguments) {settings other : Settings}
    (sameDefault : settings.defaultSize = other.defaultSize) :
    assemble arguments settings = assemble arguments other := by
  rw [assemble_eq, assemble_eq, sameDefault]

/-- The same command, but for the limit of the window, the script language and the layout. -/
def Arguments.retargeted (arguments : Arguments) (maxWindow : UInt64) (scriptLanguage : String)
    (pretty : Bool) : Arguments :=
  { arguments with maxWindow, scriptLanguage, pretty }

theorem assemble_retargeted (arguments : Arguments) (maxWindow : UInt64) (scriptLanguage : String)
    (pretty : Bool) (settings : Settings) :
    assemble (arguments.retargeted maxWindow scriptLanguage pretty) settings =
      assemble arguments settings :=
  rfl

/--
The window check is that of unbounded numbers; whatever is printed keeps to the limit; and the
limit, the script language and the layout have no influence on what is put together, while a
greater limit accepts no less.
-/
theorem result_window_respected :
    (∀ (body : Body) (settings : Settings),
        (body.validateWindow settings = .ok () ↔
            body.windowEnd settings ≤ settings.maxWindow.toNat) ∧
          (0x10000000000000000 ≤ body.windowEnd settings → body.validateWindow settings ≠ .ok ())) ∧
      (∀ words environment, (run words environment).exitCode = 0 →
        ∃ arguments entries offset pageSize,
          Arguments.parse words environment = .ok arguments ∧
            (run words environment).stdout =
              printed arguments.pretty (.object entries) ++ "\n" ∧
            ShowsAmount "from" entries offset ∧ ShowsAmount "size" entries pageSize ∧
              offset + pageSize ≤ arguments.maxWindow.toNat) ∧
      ∀ (arguments : Arguments) maxWindow scriptLanguage pretty,
        let other := arguments.retargeted maxWindow scriptLanguage pretty
        assemble arguments (settingsOf arguments) = assemble other (settingsOf other) ∧
          (arguments.maxWindow ≤ maxWindow → ∀ body : Body,
            body.validateWindow (settingsOf arguments) = .ok () →
              body.validateWindow (settingsOf other) = .ok ()) := by
  refine ⟨?_, ?_, ?_⟩
  · intro body settings
    exact ⟨body.validateWindow_ok_iff settings, Body.validateWindow_overflow⟩
  · intro words environment exited
    obtain ⟨arguments, text, parsed, requested, isOutput⟩ := requested_of_run exited
    obtain ⟨body, document, prepared, isText⟩ := prepared_of_request requested
    obtain ⟨entries, offset, pageSize, isDocument, shownOffset, shownSize, within⟩ :=
      prepared.showsWindow
    refine ⟨arguments, entries, offset, pageSize, parsed, ?_, shownOffset, shownSize, within⟩
    rw [isOutput, isText, isDocument]
  · intro arguments maxWindow scriptLanguage pretty other
    constructor
    · rw [assemble_retargeted]
      exact assemble_congr_settings arguments rfl
    · intro wider body
      exact Body.validateWindow_mono rfl wider

end CommandLine

end SearchRequest
