import Questionnaire.Proofs.Files.Paths
import Questionnaire.Proofs.Outcome

/-!
# Trees with Documents

What a run does to the files is to write documents, one after the other, and each
time the tree is another one. `WrittenOver` says what all these trees have in common
with the first: the same folders, so every path leads to the same place, and the
same spreadsheets, so every input is what it was. A document may hide another file,
or turn a path that led nowhere into one that leads through a file, but it does not
stand in the way of anything that could be reached.

## Main definitions

* `Files.put`: The files with a text at a location.
* `Files.WrittenOver`: A tree that documents have been written to.

## Theorems

* `Files.write_eq_ok_iff`: When a file is written, and where.
* `Files.remove_of_write`: What cannot be written cannot be removed.
* `Files.find?_put`: A text that is written in a folder changes nothing else.
* `Files.WrittenOver.locate_iff`: Paths lead where they led.
* `Files.WrittenOver.openArchive_iff`: Spreadsheets are what they were.
-/

namespace Questionnaire

theorem Dictionary.mem_keys_insert_iff {κ α : Type} [Ord κ] [Std.TransOrd κ]
    [Std.LawfulEqOrd κ] {d : Dictionary κ α} {k k' : κ} {v : α} :
    k' ∈ (d.insert k v).keys ↔ k' = k ∨ k' ∈ d.keys := by
  rw [mem_keys_iff, mem_keys_iff, get?_insert]
  by_cases h : k' = k
  · subst h
    rw [if_pos Std.ReflCmp.compare_self]
    exact iff_of_true rfl (Or.inl rfl)
  · rw [if_neg (fun heq => h (Std.LawfulEqCmp.eq_of_compare heq)), or_iff_right h]

/-- An archive is read where a path leads to it that is not that of a folder. -/
theorem Files.read_eq_ok_archive_iff {fs : Files} {p : Path} {a : Spreadsheet.Archive} :
    fs.read p = .ok (.archive a) ↔
      p.isFolderPath = false ∧ ∃ l, fs.locate p = .ok l ∧ fs.find? l = some (.archive a) := by
  rw [read, bind_eq_ok, ← exists_and_left]
  refine exists_congr fun l => ?_
  rw [and_left_comm]
  refine and_congr_right fun _ => ?_
  split
  · rename_i hnone
    rw [hnone]
    exact iff_of_false (by rintro ⟨⟩) (by rintro ⟨_, ⟨⟩⟩)
  · rename_i hfolder
    rw [hfolder]
    exact iff_of_false (by rintro ⟨⟩) (by rintro ⟨_, ⟨⟩⟩)
  · rename_i e _ hfile
    rw [hfile]
    cases p.isFolderPath with
    | true => exact iff_of_false (by rintro ⟨⟩) (by rintro ⟨⟨⟩, _⟩)
    | false =>
        rw [if_neg Bool.false_ne_true, Except.ok.injEq, Option.some.injEq, and_iff_right rfl]

/-- An archive is opened where the path of a spreadsheet leads to it. -/
theorem Spreadsheet.openArchive_eq_ok_iff {fs : Files} {p : Path} {a : Archive} :
    openArchive fs p = .ok a ↔ isSpreadsheetPath p = true ∧ p.isFolderPath = false ∧
      ∃ l, fs.locate p = .ok l ∧ fs.find? l = some (.archive a) := by
  rw [openArchive, ← Files.read_eq_ok_archive_iff]
  cases isSpreadsheetPath p with
  | false => exact iff_of_false (by rintro ⟨⟩) (by rintro ⟨⟨⟩, _⟩)
  | true =>
      rw [and_iff_right rfl]
      cases fs.read p with
      | error fault => exact iff_of_false (by rintro ⟨⟩) (by rintro ⟨⟩)
      | ok e =>
          cases e with
          | archive parts =>
              change Except.ok parts = Except.ok a ↔ _
              rw [Except.ok.injEq, Except.ok.injEq, Entry.archive.injEq]
          | text content => exact iff_of_false (by rintro ⟨⟩) (by rintro ⟨⟩)
          | folder => exact iff_of_false (by rintro ⟨⟩) (by rintro ⟨⟩)

namespace Files

/-- The files with a text at a location. -/
def put (fs : Files) (l : Location) (text : String) : Files :=
  { fs with entries := fs.entries.insert l (.text text) }

theorem follow_eq_ok_iff {fs : Files} {l r : Location} {part : String} :
    fs.follow l part = .ok r ↔
      fs.find? l = some .folder ∧ r = if part = ".." then l.dropLast else l ++ [part] := by
  rw [follow]
  split
  · rename_i hfolder
    rw [hfolder, Except.ok.injEq, eq_comm]
    simp
  · rename_i e hfile hsome
    rw [hsome]
    refine iff_of_false (by rintro ⟨⟩) ?_
    rintro ⟨heq, _⟩
    exact hfile (Option.some.inj heq)
  · rename_i hnone
    rw [hnone]
    exact iff_of_false (by rintro ⟨⟩) (by rintro ⟨⟨⟩, _⟩)

/-- A file is written where its path leads, unless that is a folder. -/
theorem write_eq_ok_iff {fs fs' : Files} {p : Path} {text : String} :
    fs.write p text = .ok fs' ↔
      ∃ l, fs.locate p = .ok l ∧ fs.find? l ≠ some .folder ∧ fs' = fs.put l text := by
  rw [write, bind_eq_ok]
  refine exists_congr fun l => and_congr_right fun _ => ?_
  split
  · rename_i hfolder
    refine iff_of_false (by rintro ⟨⟩) ?_
    rintro ⟨hnot, _⟩
    exact hnot hfolder
  · rename_i hfile
    rw [Except.ok.injEq, eq_comm]
    exact (and_iff_right hfile).symm

/-- What cannot be written is no file, so there is nothing to remove, for the same reason. -/
theorem remove_of_write {fs : Files} {p : Path} {text : String} {fault : FileFault}
    (h : fs.write p text = .error fault) : fs.remove p = .error fault := by
  rw [remove, bind_eq_error]
  rcases bind_eq_error.1 h with hnowhere | ⟨l, hlocate, hwrite⟩
  · exact Or.inl hnowhere
  · refine Or.inr ⟨l, hlocate, ?_⟩
    split at hwrite
    case h_1 hfolder =>
      cases hwrite
      rw [hfolder]
    case h_2 => cases hwrite

/-- A path whose last part is a name leads into a folder. -/
theorem exists_of_locate {fs : Files} {p : Path} {l : Location} {before : List String}
    {name : String} (hparts : p.parts = before ++ [name]) (hname : name ≠ "..")
    (h : fs.locate p = .ok l) : ∃ d, l = d ++ [name] ∧ fs.find? d = some .folder := by
  rw [locate, hparts, List.foldlM_append] at h
  rcases bind_eq_ok.1 h with ⟨d, _, h⟩
  rw [List.foldlM_cons] at h
  rcases bind_eq_ok.1 h with ⟨l', hfollow, h⟩
  cases h
  rcases follow_eq_ok_iff.1 hfollow with ⟨hfolder, rfl⟩
  exact ⟨d, if_neg hname, hfolder⟩

/-- A folder is on the way to something that is listed, or to the working folder. -/
theorem exists_key_of_folder {fs : Files} {d : Location} (h : fs.find? d = some .folder) :
    ∃ k ∈ fs.workingFolder :: fs.entries.keys, d <+: k := by
  rw [find?] at h
  split at h
  · rename_i e hget
    exact ⟨d, List.mem_cons_of_mem _
      (List.mem_map_of_mem ((Dictionary.get?_eq_some_iff _ _ _).1 hget)), List.prefix_refl d⟩
  · split at h
    · rename_i hany
      rcases List.any_eq_true.1 hany with ⟨k, hk, hprefix⟩
      exact ⟨k, hk, List.isPrefixOf_iff_prefix.1 hprefix⟩
    · cases h

/-- A text that is written in a folder changes nothing else. -/
theorem find?_put {fs : Files} {d : Location} (hfolder : fs.find? d = some .folder)
    (name text : String) (l : Location) :
    (fs.put (d ++ [name]) text).find? l =
      if l = d ++ [name] then some (.text text) else fs.find? l := by
  rw [find?, put, Dictionary.get?_insert]
  simp only [Std.LawfulEqCmp.compare_eq_iff_eq]
  by_cases hl : l = d ++ [name]
  · rw [if_pos hl, if_pos hl]
  · rw [if_neg hl, if_neg hl, find?]
    -- A place on the way to the text is on the way to its folder.
    have hway : ((fs.workingFolder :: (fs.entries.insert (d ++ [name]) (.text text)).keys).any
        fun k => l.isPrefixOf k) =
          ((fs.workingFolder :: fs.entries.keys).any fun k => l.isPrefixOf k) := by
      rw [Bool.eq_iff_iff, List.any_eq_true, List.any_eq_true]
      simp only [List.mem_cons, Dictionary.mem_keys_insert_iff]
      constructor
      · rintro ⟨k, hk | rfl | hk, hprefix⟩
        · exact ⟨k, Or.inl hk, hprefix⟩
        · have hfolderWay : l <+: d :=
            (List.prefix_concat_iff.1 (List.isPrefixOf_iff_prefix.1 hprefix)).resolve_left hl
          rcases exists_key_of_folder hfolder with ⟨k, hk, hd⟩
          exact ⟨k, List.mem_cons.1 hk, List.isPrefixOf_iff_prefix.2 (hfolderWay.trans hd)⟩
        · exact ⟨k, Or.inr hk, hprefix⟩
      · rintro ⟨k, hk | hk, hprefix⟩
        · exact ⟨k, Or.inl hk, hprefix⟩
        · exact ⟨k, Or.inr (Or.inr hk), hprefix⟩
    simp only [hway]

/-- A tree that documents have been written to: elsewhere there is what there was. -/
structure WrittenOver (old new : Files) : Prop where
  workingFolder : new.workingFolder = old.workingFolder
  find : ∀ l, new.find? l = old.find? l ∨
    (∃ text, new.find? l = some (.text text)) ∧ old.find? l ≠ some .folder ∧
      ∃ d name, l = d ++ [name] ∧ Path.IsDocumentName name

namespace WrittenOver

variable {old new : Files}

theorem refl (fs : Files) : WrittenOver fs fs :=
  ⟨rfl, fun _ => Or.inl rfl⟩

theorem folder_iff (h : WrittenOver old new) (l : Location) :
    new.find? l = some .folder ↔ old.find? l = some .folder := by
  rcases h.find l with hsame | ⟨⟨text, htext⟩, hnot, _⟩
  · rw [hsame]
  · rw [htext]
    exact iff_of_false (by rintro ⟨⟩) hnot

theorem put (h : WrittenOver old new) {d : Location} {name : String}
    (hname : Path.IsDocumentName name) (hfolder : old.find? d = some .folder)
    (hfile : old.find? (d ++ [name]) ≠ some .folder) (text : String) :
    WrittenOver old (new.put (d ++ [name]) text) := by
  refine ⟨h.workingFolder, ?_⟩
  intro l
  rw [find?_put ((h.folder_iff d).2 hfolder)]
  by_cases hl : l = d ++ [name]
  · subst hl
    rw [if_pos rfl]
    exact Or.inr ⟨⟨text, rfl⟩, hfile, d, name, rfl, hname⟩
  · rw [if_neg hl]
    exact h.find l

/-- Paths lead where they led. -/
theorem locate_iff (h : WrittenOver old new) (p : Path) (l : Location) :
    new.locate p = .ok l ↔ old.locate p = .ok l := by
  have hfollow : ∀ l part r, new.follow l part = .ok r ↔ old.follow l part = .ok r := by
    intro l part r
    rw [follow_eq_ok_iff, follow_eq_ok_iff, h.folder_iff]
  have hfold : ∀ (parts : List String) (start : Location),
      parts.foldlM new.follow start = .ok l ↔ parts.foldlM old.follow start = .ok l := by
    intro parts
    induction parts with
    | nil => exact fun start => Iff.rfl
    | cons part rest ih =>
        intro start
        rw [List.foldlM_cons, List.foldlM_cons, bind_eq_ok, bind_eq_ok]
        simp only [hfollow, ih]
  rw [locate, locate, h.workingFolder]
  exact hfold _ _

/-- Spreadsheets are what they were. -/
theorem openArchive_iff (h : WrittenOver old new) (p : Path) (a : Spreadsheet.Archive) :
    Spreadsheet.openArchive new p = .ok a ↔ Spreadsheet.openArchive old p = .ok a := by
  rw [Spreadsheet.openArchive_eq_ok_iff, Spreadsheet.openArchive_eq_ok_iff]
  refine and_congr_right fun hspreadsheet => and_congr_right fun _ => exists_congr fun l => ?_
  rw [h.locate_iff]
  refine and_congr_right fun hlocate => ?_
  rcases Path.exists_of_isSpreadsheetPath hspreadsheet with ⟨name, hname, hnot⟩
  rw [Path.fileName?_eq, Option.filter_eq_some_iff] at hname
  rcases List.getLast?_eq_some_iff.1 hname.1 with ⟨before, hparts⟩
  rcases exists_of_locate hparts (bne_iff_ne.1 hname.2) hlocate with ⟨d, rfl, _⟩
  rcases h.find (d ++ [name]) with hsame | ⟨_, _, d', name', heq, hdocument⟩
  · rw [hsame]
  · rcases List.append_inj' heq rfl with ⟨_, hsame⟩
    cases hsame
    exact absurd hdocument hnot

end WrittenOver

end Files

end Questionnaire
