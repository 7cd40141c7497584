/-!
# Taking Texts Apart

The three ways in which cells are taken apart: by a fixed beginning, at the first
occurrence of a character, and at every occurrence.

## Main definitions

* `afterStart?`: The rest of a text that has a given beginning.
* `splitOnce?`: The texts before and after the first occurrence of a character.
* `splitAll`: The texts between the occurrences of a character.

## Theorems

* `splitOnce?_eq_some_iff`: What it means to split once.
* `intercalate_splitAll`: Nothing is lost when a text is split everywhere.
-/

namespace Questionnaire

namespace Text

/-- The characters after a beginning, if a text has that beginning. -/
def afterStart? (start s : String) : Option String :=
  if start.toList.isPrefixOf s.toList then
    some (String.ofList (s.toList.drop start.toList.length))
  else none

/-- The characters before and after the first occurrence of a character. -/
def splitOnce? (sep : Char) : List Char → Option (List Char × List Char)
  | [] => none
  | c :: rest =>
    if c = sep then some ([], rest)
    else (splitOnce? sep rest).map fun (before, after) => (c :: before, after)

/-- The runs of characters between the occurrences of a character. There is one
    more run than there are occurrences. -/
def splitAll (sep : Char) : List Char → List (List Char)
  | [] => [[]]
  | c :: rest =>
    if c = sep then [] :: splitAll sep rest
    else match splitAll sep rest with
      | [] => [[c]]
      | run :: runs => (c :: run) :: runs

theorem splitOnce?_eq_some_iff {sep : Char} {cs before after : List Char} :
    splitOnce? sep cs = some (before, after) ↔ cs = before ++ sep :: after ∧ sep ∉ before := by
  induction cs generalizing before with
  | nil => simp [splitOnce?]
  | cons c rest ih =>
    by_cases h : c = sep
    · subst h
      simp only [splitOnce?, if_true, Option.some.injEq, Prod.mk.injEq]
      constructor
      · rintro ⟨rfl, rfl⟩
        exact ⟨rfl, List.not_mem_nil⟩
      · rintro ⟨heq, hnot⟩
        cases before with
        | nil => exact ⟨rfl, by simpa using heq⟩
        | cons b bs =>
          simp only [List.cons_append, List.cons.injEq] at heq
          exact absurd (heq.1 ▸ List.mem_cons_self) hnot
    · simp only [splitOnce?, h, if_false, Option.map_eq_some_iff, Prod.mk.injEq, Prod.exists]
      constructor
      · rintro ⟨b, a, hsplit, rfl, rfl⟩
        rcases ih.1 hsplit with ⟨rfl, hnot⟩
        exact ⟨rfl, by simp [hnot, Ne.symm h]⟩
      · rintro ⟨heq, hnot⟩
        cases before with
        | nil =>
          simp only [List.nil_append, List.cons.injEq] at heq
          exact absurd heq.1 h
        | cons b bs =>
          simp only [List.cons_append, List.cons.injEq] at heq
          rcases heq with ⟨rfl, heq⟩
          exact ⟨bs, after, ih.2 ⟨heq, fun hm => hnot (List.mem_cons_of_mem _ hm)⟩, rfl, rfl⟩

theorem splitAll_ne_nil (sep : Char) (cs : List Char) : splitAll sep cs ≠ [] := by
  cases cs with
  | nil => simp [splitAll]
  | cons c rest =>
    rw [splitAll]
    split
    · simp
    · split <;> simp

theorem intercalate_splitAll (sep : Char) (cs : List Char) :
    [sep].intercalate (splitAll sep cs) = cs := by
  induction cs with
  | nil => rfl
  | cons c rest ih =>
    rcases List.exists_cons_of_ne_nil (splitAll_ne_nil sep rest) with ⟨run, runs, hs⟩
    rw [hs] at ih
    by_cases h : c = sep
    · subst h
      simp [splitAll, hs, List.intercalate_cons_cons, ih]
    · cases runs with
      | nil =>
        simp only [List.intercalate_singleton] at ih
        simp [splitAll, h, hs, ih]
      | cons run' runs =>
        simp only [splitAll, h, if_false, hs]
        rw [← ih]
        simp [List.intercalate_cons_cons]

end Text

end Questionnaire
