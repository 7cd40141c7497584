import Questionnaire.Spreadsheet.Open

/-!
# Names at the Ends of Paths

A document is written beside a spreadsheet or in a folder, under the name of the
spreadsheet with another extension. How the path of the document is put together
matters little for where it leads: its last part is that name (`exists_parts`,
`exists_parts_withExtension`), whatever idle parts and steps upwards come before.

What counts is that the name of a document is never that of a spreadsheet, so that
no document is written over an input.

## Main definitions

* `Path.IsDocumentName`: A name with the extension of documents.

## Theorems

* `Text.splitAll_append`: A text that is split where two are put together.
* `Path.fileName?_eq`: The name of a file is the last part of its path.
* `Path.exists_parts_withExtension`: The last part of a path with another extension.
* `Path.exists_of_isSpreadsheetPath`: A spreadsheet has no name of a document.
-/

namespace Questionnaire

namespace Text

theorem splitAll_append (sep : Char) (cs rest : List Char) :
    splitAll sep (cs ++ sep :: rest) = splitAll sep cs ++ splitAll sep rest := by
  induction cs with
  | nil => simp [splitAll]
  | cons c cs ih =>
      rw [List.cons_append, splitAll, splitAll, ih]
      by_cases h : c = sep
      · rw [if_pos h, if_pos h]
        rfl
      · rw [if_neg h, if_neg h]
        rcases List.exists_cons_of_ne_nil (splitAll_ne_nil sep cs) with ⟨run, runs, hs⟩
        rw [hs]
        rfl

theorem splitAll_of_notMem {sep : Char} {cs : List Char} (h : sep ∉ cs) :
    splitAll sep cs = [cs] := by
  induction cs with
  | nil => rfl
  | cons c cs ih =>
      rw [List.mem_cons, not_or] at h
      rw [splitAll, if_neg (Ne.symm h.1), ih h.2]

theorem notMem_of_mem_splitAll {sep : Char} {cs run : List Char} (h : run ∈ splitAll sep cs) :
    sep ∉ run := by
  induction cs generalizing run with
  | nil =>
      rw [splitAll, List.mem_singleton] at h
      rw [h]
      exact List.not_mem_nil
  | cons c cs ih =>
      rw [splitAll] at h
      by_cases hc : c = sep
      · rw [if_pos hc] at h
        rcases List.mem_cons.1 h with rfl | h
        · exact List.not_mem_nil
        · exact ih h
      · rw [if_neg hc] at h
        rcases List.exists_cons_of_ne_nil (splitAll_ne_nil sep cs) with ⟨first, runs, hs⟩
        rw [hs] at h ih
        rcases List.mem_cons.1 h with rfl | h
        · rw [List.mem_cons, not_or]
          exact ⟨Ne.symm hc, ih List.mem_cons_self⟩
        · exact ih (List.mem_cons_of_mem _ h)

/-- What stands before the last of some texts that are joined ends with the separator. -/
theorem exists_intercalate_concat (sep : Char) (runs : List (List Char)) (last : List Char) :
    ∃ before, [sep].intercalate (runs ++ [last]) = before ++ last ∧
      (before = [] ∨ ∃ cs, before = cs ++ [sep]) := by
  induction runs with
  | nil => exact ⟨[], List.intercalate_singleton, Or.inl rfl⟩
  | cons run rest ih =>
      rcases ih with ⟨before, hbefore, hends⟩
      have hjoin : [sep].intercalate (run :: rest ++ [last]) =
          (run ++ [sep] ++ before) ++ last := by
        rcases List.exists_cons_of_ne_nil (List.append_ne_nil_of_right_ne_nil rest
          (List.cons_ne_nil last [])) with ⟨first, others, hrest⟩
        rw [hrest] at hbefore
        rw [List.cons_append, hrest, List.intercalate_cons_cons, hbefore]
        simp only [List.append_assoc]
      refine ⟨_, hjoin, Or.inr ?_⟩
      rcases hends with rfl | ⟨cs, rfl⟩
      · exact ⟨run, List.append_nil _⟩
      · exact ⟨run ++ [sep] ++ cs, (List.append_assoc _ _ _).symm⟩

end Text

namespace Path

/-- A name with the extension of documents. -/
def IsDocumentName (name : String) : Prop :=
  ".json".toList <:+ name.toList

theorem head?_backward (p : Path) : p.backward.head? = p.parts.getLast? := by
  have hdrop : ∀ runs : List String, (runs.dropWhile isIdle).head? = runs.find? (!isIdle ·) := by
    intro runs
    induction runs with
    | nil => rfl
    | cons run rest ih =>
        rw [List.dropWhile_cons, List.find?_cons]
        cases isIdle run with
        | true => exact ih
        | false => rfl
  rw [backward, parts, hdrop, List.getLast?_filter]

/-- The name of a file is the last part of its path. -/
theorem fileName?_eq (p : Path) : p.fileName? = p.parts.getLast?.filter (· != "..") := by
  rw [fileName?, head?_backward]

/-- Behind the last slash of a path its last part is found. -/
theorem exists_parts {folder name : String}
    (hfolder : folder.toList = [] ∨ ∃ cs, folder.toList = cs ++ ['/'])
    (hslash : '/' ∉ name.toList) (hidle : isIdle name = false) :
    ∃ before, Path.parts (folder ++ name) = before ++ [name] := by
  have hruns : ∃ before, Path.runs (folder ++ name) = before ++ [name] := by
    rw [runs, String.toList_append]
    rcases hfolder with hfolder | ⟨cs, hfolder⟩
    · refine ⟨[], ?_⟩
      rw [hfolder, List.nil_append, Text.splitAll_of_notMem hslash, List.map_singleton,
        String.ofList_toList]
      rfl
    · refine ⟨(Text.splitAll '/' cs).map String.ofList, ?_⟩
      rw [hfolder, List.append_assoc, List.singleton_append, Text.splitAll_append,
        Text.splitAll_of_notMem hslash, List.map_append, List.map_singleton,
        String.ofList_toList]
  rcases hruns with ⟨before, hruns⟩
  refine ⟨before.filter fun part => !isIdle part, ?_⟩
  rw [parts, hruns, List.filter_append, List.filter_cons, hidle, List.filter_nil]
  rfl

theorem exists_parts_below (folder : Path) {name : String} (hslash : '/' ∉ name.toList)
    (hidle : isIdle name = false) : ∃ before, (folder.below name).parts = before ++ [name] := by
  rw [below]
  split
  · rename_i hends
    rw [Bool.or_eq_true, String.isEmpty_iff, beq_iff_eq, List.getLast?_eq_some_iff] at hends
    refine exists_parts ?_ hslash hidle
    rcases hends with rfl | hends
    · exact Or.inl rfl
    · exact Or.inr hends
  · refine exists_parts (Or.inr ⟨folder.toList, ?_⟩) hslash hidle
    rw [String.toList_append]
    rfl

theorem notMem_of_fileName? {p : Path} {name : String} (h : p.fileName? = some name) :
    '/' ∉ name.toList := by
  rw [fileName?_eq, Option.filter_eq_some_iff] at h
  have hrun := (List.mem_filter.1 (List.mem_of_getLast? h.1)).1
  rcases List.mem_map.1 hrun with ⟨cs, hcs, rfl⟩
  rw [String.toList_ofList]
  exact Text.notMem_of_mem_splitAll hcs

theorem mem_of_mem_splitName {name : String} {c : Char} (h : c ∈ (splitName name).1.toList) :
    c ∈ name.toList := by
  rw [splitName] at h
  split at h
  · exact h
  · rw [String.toList_ofList, List.mem_reverse] at h
    exact List.mem_reverse.1 (List.mem_of_mem_drop h)

theorem isDocumentName_append (stem : String) : IsDocumentName (stem ++ ".json") := by
  rw [IsDocumentName, String.toList_append]
  exact List.suffix_append _ _

/-- A name of a document is a part that leads somewhere, and downwards. -/
theorem IsDocumentName.downwards {name : String} (h : IsDocumentName name) :
    isIdle name = false ∧ name ≠ ".." := by
  have hlength := h.length_le
  have hne : ∀ other : String, other.toList.length < 5 → name ≠ other := by
    rintro other hshort rfl
    exact absurd hlength (Nat.not_le.2 hshort)
  refine ⟨?_, hne ".." (by decide)⟩
  rw [isIdle, Bool.or_eq_false_iff, beq_eq_false_iff_ne]
  refine ⟨?_, hne "." (by decide)⟩
  rw [← Bool.not_eq_true, String.isEmpty_iff]
  exact hne "" (by decide)

/-- A path with another extension leads to a file of another name. -/
theorem exists_parts_withExtension {p : Path} {name : String} (h : p.fileName? = some name) :
    ∃ before, (p.withExtension "json").parts = before ++ [(splitName name).1 ++ ".json"] := by
  have hslash : '/' ∉ ((splitName name).1 ++ ".json").toList := by
    rw [String.toList_append, List.mem_append, not_or]
    exact ⟨fun hc => notMem_of_fileName? h (mem_of_mem_splitName hc), by decide⟩
  have hidle := (isDocumentName_append (splitName name).1).downwards.1
  rw [withExtension, h]
  cases hbackward : p.backward with
  | nil =>
      rw [fileName?, hbackward] at h
      cases h
  | cons last rest =>
      dsimp only
      rcases Text.exists_intercalate_concat '/' (rest.reverse.map String.toList)
        ((splitName name).1 ++ ".json").toList with ⟨folder, hjoin, hfolder⟩
      have hname : (splitName name).1 ++ "." ++ "json" = (splitName name).1 ++ ".json" := by
        rw [String.append_assoc]
        rfl
      have hpath : String.intercalate "/" (((splitName name).1 ++ ".json") :: rest).reverse =
          String.ofList folder ++ ((splitName name).1 ++ ".json") := by
        rw [← String.toList_inj, String.toList_intercalate, List.reverse_cons, List.map_append,
          List.map_singleton, String.toList_append (s := String.ofList folder),
          String.toList_ofList (l := folder), ← hjoin]
        rfl
      rw [hname, hpath]
      refine exists_parts ?_ hslash hidle
      rw [String.toList_ofList]
      exact hfolder

theorem splitName_of_isDocumentName {name : String} (h : IsDocumentName name) :
    (splitName name).2 = none ∨ (splitName name).2 = some "json" := by
  rcases h with ⟨stem, hstem⟩
  have hafter : name.toList.reverse.takeWhile (· != '.') = ['n', 'o', 's', 'j'] := by
    rw [← hstem, List.reverse_append]
    rfl
  rw [splitName, hafter]
  split
  · exact Or.inl rfl
  · exact Or.inr rfl

/-- The name of a spreadsheet is not that of a document. -/
theorem exists_of_isSpreadsheetPath {p : Path} (h : Spreadsheet.isSpreadsheetPath p = true) :
    ∃ name, p.fileName? = some name ∧ ¬ IsDocumentName name := by
  rw [Spreadsheet.isSpreadsheetPath, extension?] at h
  cases hname : p.fileName? with
  | none =>
      rw [hname] at h
      cases h
  | some name =>
      refine ⟨name, rfl, ?_⟩
      intro hdocument
      rw [hname, Option.bind_some] at h
      rcases splitName_of_isDocumentName hdocument with hnone | hjson
      · rw [hnone] at h
        cases h
      · rw [hjson] at h
        revert h
        decide +kernel

end Path

end Questionnaire
