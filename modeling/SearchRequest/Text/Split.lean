/-
Splitting a text at a separator, once or everywhere. Both give back the text
when the parts are joined by the separator again.
-/

namespace SearchRequest.Text

def splitOnce? (separator : Char) : List Char → Option (List Char × List Char)
  | [] => none
  | char :: rest =>
      if char = separator then some ([], rest)
      else (splitOnce? separator rest).map fun (before, after) => (char :: before, after)

/-- The parts between all separators; there is one more of them than there are separators. -/
def splitAll (separator : Char) : List Char → List (List Char)
  | [] => [[]]
  | char :: rest =>
      if char = separator then [] :: splitAll separator rest
      else
        match splitAll separator rest with
        | [] => [[char]]
        | part :: parts => (char :: part) :: parts

theorem append_of_splitOnce? {separator : Char} {text before after : List Char}
    (split : splitOnce? separator text = some (before, after)) :
    text = before ++ separator :: after := by
  induction text generalizing before with
  | nil => cases split
  | cons char rest ih =>
      by_cases same : char = separator
      · simp only [splitOnce?, same, if_true, Option.some.injEq, Prod.mk.injEq] at split
        rw [← split.1, ← split.2, same, List.nil_append]
      · simp only [splitOnce?, same, if_false, Option.map_eq_some_iff] at split
        obtain ⟨⟨start, tail⟩, found, equal⟩ := split
        simp only [Prod.mk.injEq] at equal
        rw [← equal.1, ih (equal.2 ▸ found), List.cons_append]

theorem splitOnce?_eq_some_iff {separator : Char} {text before after : List Char} :
    splitOnce? separator text = some (before, after) ↔
      text = before ++ separator :: after ∧ separator ∉ before := by
  constructor
  · intro split
    refine ⟨append_of_splitOnce? split, ?_⟩
    induction text generalizing before with
    | nil => cases split
    | cons char rest ih =>
        rw [splitOnce?] at split
        by_cases same : char = separator
        · rw [if_pos same] at split
          cases split
          exact List.not_mem_nil
        · rw [if_neg same] at split
          obtain ⟨⟨start, tail⟩, found, equal⟩ := Option.map_eq_some_iff.mp split
          cases equal
          intro member
          rcases List.mem_cons.mp member with here | later
          · exact same here.symm
          · exact ih found later
  · intro parts
    obtain ⟨whole, absent⟩ := parts
    subst whole
    induction before with
    | nil => exact if_pos rfl
    | cons char start ih =>
        rw [List.cons_append, splitOnce?, if_neg (List.ne_of_not_mem_cons absent).symm,
          ih (List.not_mem_of_not_mem_cons absent)]
        rfl

theorem splitAll_ne_nil (separator : Char) (text : List Char) : splitAll separator text ≠ [] := by
  cases text with
  | nil => exact List.cons_ne_nil _ _
  | cons char rest =>
      simp only [splitAll]
      split
      · exact List.cons_ne_nil _ _
      · split <;> exact List.cons_ne_nil _ _

theorem intercalate_splitAll (separator : Char) (text : List Char) :
    [separator].intercalate (splitAll separator text) = text := by
  induction text with
  | nil => rfl
  | cons char rest ih =>
      cases parts : splitAll separator rest with
      | nil => exact absurd parts (splitAll_ne_nil separator rest)
      | cons part others =>
          rw [parts] at ih
          by_cases same : char = separator
          · simp only [splitAll, same, if_true, parts]
            rw [← ih]
            rfl
          · simp only [splitAll, same, if_false, parts]
            rw [← ih]
            cases others <;> rfl

end SearchRequest.Text
