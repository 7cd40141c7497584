import Questionnaire.CommandLine.Run
import Questionnaire.Proofs.Files.Tree

/-!
# Runs over Several Inputs

What a run makes of its inputs can be told from the files that were there when it
began. An input delivers a document or it does not, and whether it does is the same
for the run as for a run over this input alone, because what is written on the way is
written over no spreadsheet and bars no path. `Delivers` speaks of the first files only,
and `Converts` is what a step makes of an input while the run goes on.

What the files are in the end is told location by location. The last delivery to a
location counts; where nothing is delivered nothing changes. Two inputs of one name in
different folders deliver to one location if there is one folder for all documents, so
`delivered_of_run` does not say that every document is there, and `not_own_document` is a
run after which one is missing, though nothing failed.

A defect ends the run, and the inputs after it deliver nothing.

## Main definitions

* `Delivers`: What an input delivers, and where.
* `isDefective`: Whether an input ends the whole run.
* `Converts`: What a step makes of an input.
* `Delivered`: What some inputs make of the files.

## Theorems

* `converts_convertOne`: What the conversion of an input does to the files.
* `delivered_convertEach`: What the conversion of several inputs does.
* `delivered_of_run`: What remains of a run.
-/

namespace Questionnaire

namespace CommandLine

/-- The text that an input delivers to a location, by the files that are there. -/
def Delivers (fs : Files) (target : Target) (style : Json.Style) (input : Path) (l : Location)
    (text : String) : Prop :=
  ∃ d output, (openDocument fs input).outcome = .ok d ∧ target.path? input = some output ∧
    fs.locate output = .ok l ∧ fs.find? l ≠ some .folder ∧ text = documentText style d

/-- Whether an outcome is a defect. -/
def isDefectOutcome : Except InputError Document → Bool
  | .error e => e.isDefect
  | .ok _ => false

/-- Whether an input ends the whole run. -/
def isDefective (fs : Files) (input : Path) : Bool :=
  isDefectOutcome (openDocument fs input).outcome

variable {fs : Files} {target : Target} {style : Json.Style} {input : Path}

/-! ### Where documents go -/

/-- The path of a document ends with a name of documents. -/
theorem exists_parts_of_path? (hinput : Spreadsheet.isSpreadsheetPath input = true)
    {output : Path} (h : target.path? input = some output) :
    ∃ before name, output.parts = before ++ [name] ∧ Path.IsDocumentName name := by
  rcases Path.exists_of_isSpreadsheetPath hinput with ⟨name, hname, _⟩
  rcases Path.exists_parts_withExtension hname with ⟨before, hparts⟩
  have hdocument := Path.isDocumentName_append (Path.splitName name).1
  have hfile : (input.withExtension "json").fileName? =
      some ((Path.splitName name).1 ++ ".json") := by
    rw [Path.fileName?_eq, hparts, List.getLast?_concat, Option.filter_some,
      if_pos (bne_iff_ne.2 hdocument.downwards.2)]
  cases target with
  | console => cases h
  | beside =>
      cases h
      exact ⟨before, _, hparts, hdocument⟩
  | folder path =>
      rw [Target.path?, hfile] at h
      cases h
      rcases Path.exists_parts_below path (Path.notMem_of_fileName? hfile)
        hdocument.downwards.1 with ⟨before, hbelow⟩
      exact ⟨before, _, hbelow, hdocument⟩

/-! ### What an input is -/

theorem isDefect_of_openArchive {e : Spreadsheet.OpenError}
    (h : Spreadsheet.openArchive fs input = .error e) :
    (InputError.opening e).isDefect = false := by
  rw [Spreadsheet.openArchive] at h
  split at h
  · cases h
    rfl
  · split at h
    · cases h
      rfl
    · cases h
    · cases h
      rfl

theorem openDocument_of_error {e : Spreadsheet.OpenError}
    (h : Spreadsheet.openArchive fs input = .error e) :
    (openDocument fs input).outcome = .error (.opening e) := by
  simp only [openDocument, openForm, Spreadsheet.openWorkbook, Traced.outcome_bind,
    Traced.outcome_mapError, Traced.outcome_ofExcept, h]
  rfl

theorem openDocument_of_ok {new : Files} {a : Spreadsheet.Archive}
    (h : Spreadsheet.openArchive fs input = .ok a)
    (hnew : Spreadsheet.openArchive new input = .ok a) :
    openDocument new input = openDocument fs input := by
  rw [openDocument, openDocument, openForm, openForm, Spreadsheet.openWorkbook,
    Spreadsheet.openWorkbook, h, hnew]

theorem isSpreadsheetPath_of_openDocument {d : Document}
    (h : (openDocument fs input).outcome = .ok d) :
    Spreadsheet.isSpreadsheetPath input = true := by
  cases hopen : Spreadsheet.openArchive fs input with
  | ok a => exact (Spreadsheet.openArchive_eq_ok_iff.1 hopen).1
  | error e =>
      rw [openDocument_of_error hopen] at h
      cases h

/-- With documents written to the files, an input gives the same document as before, or
    fails as it did before. -/
theorem outcome_openDocument {new : Files} (h : Files.WrittenOver fs new) (input : Path) :
    (openDocument new input).outcome = (openDocument fs input).outcome ∨
      ∃ e e', (openDocument fs input).outcome = .error e ∧ e.isDefect = false ∧
        (openDocument new input).outcome = .error e' ∧ e'.isDefect = false := by
  cases hold : Spreadsheet.openArchive fs input with
  | ok a =>
      rw [openDocument_of_ok hold ((h.openArchive_iff input a).2 hold)]
      exact Or.inl rfl
  | error e =>
      cases hnew : Spreadsheet.openArchive new input with
      | ok a =>
          rw [(h.openArchive_iff input a).1 hnew] at hold
          cases hold
      | error e' =>
          exact Or.inr ⟨_, _, openDocument_of_error hold, isDefect_of_openArchive hold,
            openDocument_of_error hnew, isDefect_of_openArchive hnew⟩

/-- What a step makes of an input, where documents have been written to the files `fs` that
    were there at first. -/
inductive Converts (fs : Files) (target : Target) (style : Json.Style) (s : Session)
    (input : Path) : Session × Ending → Prop
  | aborted {s' : Session} (hdefective : isDefective fs input = true)
      (hfiles : s'.files = s.files) : Converts fs target style s input (s', .aborted)
  | failed {s' : Session} (hsound : isDefective fs input = false)
      (hnone : ∀ l text, ¬ Delivers fs target style input l text)
      (hfiles : s'.files = s.files) : Converts fs target style s input (s', .failed)
  | done {s' : Session} {l : Location} {text : String}
      (hdelivers : Delivers fs target style input l text)
      (hwritten : fs.WrittenOver s'.files)
      (hfind : ∀ l', s'.files.find? l' =
        if l' = l then some (.text text) else s.files.find? l') :
      Converts fs target style s input (s', .done)

theorem files_sayAll (s : Session) (notices : List Notice) :
    (s.sayAll notices).files = s.files := by
  induction notices generalizing s with
  | nil => rfl
  | cons n rest ih => exact ih (s.say (.ofNotice n))

/-- After a document that could not be written, there is no part of it to remove. -/
theorem files_removePartial {s : Session} {output : Path} {text : String} {fault : FileFault}
    (h : s.files.write output text = .error fault) :
    (s.removePartial output).files = s.files := by
  rw [Session.removePartial, Files.remove_of_write h]
  rfl

theorem path?_ne_none (htarget : target ≠ .console) (input : Path) :
    target.path? input ≠ none := by
  cases target with
  | console => exact absurd rfl htarget
  | beside => rintro ⟨⟩
  | folder path =>
      rw [Target.path?]
      split <;> rintro ⟨⟩

/-- An error that is no defect fails the input and leaves the files as they are. -/
theorem converts_fail {s s₀ : Session} {e : InputError} (hfiles : s₀.files = s.files)
    (hdefect : e.isDefect = isDefective fs input)
    (hnone : ∀ l text, ¬ Delivers fs target style input l text) :
    Converts fs target style s input (s₀.fail input e) := by
  rw [Session.fail, hdefect]
  cases hdefective : isDefective fs input with
  | true => exact .aborted hdefective hfiles
  | false => exact .failed hdefective hnone hfiles

/-- A document is saved, and delivered, unless its path is that of a folder or leads
    nowhere. -/
theorem converts_saveDocument {s s₀ : Session} (hfiles : s₀.files = s.files)
    (h : fs.WrittenOver s.files) {d : Document} {output : Path}
    (hdocument : (openDocument fs input).outcome = .ok d)
    (houtput : target.path? input = some output) :
    Converts fs target style s input
      (saveDocument s₀ input output (documentText style d)) := by
  have hsound : isDefective fs input = false := by
    rw [isDefective, hdocument]
    rfl
  rw [saveDocument, hfiles]
  cases hwrite : s.files.write output (documentText style d) with
  | error fault =>
      have hwrite₀ : s₀.files.write output (documentText style d) = .error fault := by
        rw [hfiles, hwrite]
      refine .failed hsound ?_ ((files_removePartial hwrite₀).trans hfiles)
      rintro l text ⟨d', output', hdocument', houtput', hlocate, hfile, _⟩
      rw [houtput] at houtput'
      cases houtput'
      -- Where a delivery is possible, it is still possible now, and it did not fail.
      have hwritten : s.files.write output (documentText style d) =
          .ok (s.files.put l (documentText style d)) :=
        Files.write_eq_ok_iff.2 ⟨l, (h.locate_iff output l).2 hlocate,
          fun hfolder => hfile ((h.folder_iff l).1 hfolder), rfl⟩
      rw [hwritten] at hwrite
      cases hwrite
  | ok files =>
      rcases Files.write_eq_ok_iff.1 hwrite with ⟨l, hlocate, hfile, rfl⟩
      rw [h.locate_iff] at hlocate
      rw [ne_eq, h.folder_iff] at hfile
      have hspreadsheet := isSpreadsheetPath_of_openDocument hdocument
      rcases exists_parts_of_path? hspreadsheet houtput with ⟨before, name, hparts, hname⟩
      rcases Files.exists_of_locate hparts hname.downwards.2 hlocate with ⟨folder, rfl, hfolder⟩
      exact .done ⟨d, output, hdocument, houtput, hlocate, hfile, rfl⟩
        (h.put hname hfolder hfile _) (Files.find?_put ((h.folder_iff folder).2 hfolder) name _)

/-- What the conversion of an input does, where documents have been written before. -/
theorem converts_convertOne (htarget : target ≠ .console) (style : Json.Style) {s : Session}
    (h : fs.WrittenOver s.files) (input : Path) :
    Converts fs target style s input (convertOne target style s input) := by
  have hfiles := files_sayAll s (openDocument s.files input).notices
  unfold convertOne
  dsimp only
  generalize s.sayAll (openDocument s.files input).notices = s₀ at hfiles ⊢
  rcases outcome_openDocument h input with hsame | ⟨e, e', hold, hdefect, hnew, hdefect'⟩
  · rw [hsame]
    cases hdocument : (openDocument fs input).outcome with
    | error e =>
        refine converts_fail hfiles ?_ ?_
        · rw [isDefective, hdocument]
          rfl
        · rintro l text ⟨d, _, hdelivered, _⟩
          rw [hdocument] at hdelivered
          cases hdelivered
    | ok d =>
        dsimp only
        cases houtput : target.path? input with
        | none => exact absurd houtput (path?_ne_none htarget input)
        | some output => exact converts_saveDocument hfiles h hdocument houtput
  · rw [hnew]
    refine converts_fail hfiles ?_ ?_
    · rw [hdefect', isDefective, hold]
      exact hdefect.symm
    · rintro l text ⟨d, _, hdelivered, _⟩
      rw [hold] at hdelivered
      cases hdelivered

/-! ### What a run makes of its inputs -/

theorem Delivers.isDefective {l : Location} {text : String}
    (h : Delivers fs target style input l text) : isDefective fs input = false := by
  rcases h with ⟨d, output, hdocument, _⟩
  rw [CommandLine.isDefective, hdocument]
  rfl

/-- An input delivers one text to one location. -/
theorem Delivers.unique {l l' : Location} {text text' : String}
    (h : Delivers fs target style input l text) (h' : Delivers fs target style input l' text') :
    l' = l ∧ text' = text := by
  rcases h with ⟨d, output, hdocument, houtput, hlocate, _, rfl⟩
  rcases h' with ⟨d', output', hdocument', houtput', hlocate', _, rfl⟩
  rw [hdocument] at hdocument'
  cases hdocument'
  rw [houtput] at houtput'
  cases houtput'
  rw [hlocate] at hlocate'
  cases hlocate'
  exact ⟨rfl, rfl⟩

/-- What some inputs make of the files, location by location. What is delivered last to a
    location is there, and where nothing is delivered there is what there was. -/
structure Delivered (fs : Files) (target : Target) (style : Json.Style) (inputs : List Path)
    (old new : Files) : Prop where
  last : ∀ before input after l text, inputs = before ++ input :: after →
    Delivers fs target style input l text →
    (∀ later ∈ after, ∀ text', ¬ Delivers fs target style later l text') →
      new.find? l = some (.text text)
  kept : ∀ l, (∀ input ∈ inputs, ∀ text, ¬ Delivers fs target style input l text) →
    new.find? l = old.find? l

namespace Delivered

variable {inputs : List Path} {old between new : Files}

theorem nil (h : new = old) : Delivered fs target style [] old new where
  last before _ after _ _ hsplit :=
    absurd hsplit.symm (List.append_ne_nil_of_right_ne_nil before (List.cons_ne_nil _ after))
  kept l _ := congrArg (·.find? l) h

/-- An input that delivers nothing changes nothing. -/
theorem cons_of_not (hnone : ∀ l text, ¬ Delivers fs target style input l text)
    (h : Delivered fs target style inputs old new) :
    Delivered fs target style (input :: inputs) old new where
  last before input' after l text hsplit hdelivers hlater := by
    cases before with
    | nil =>
        cases hsplit
        exact absurd hdelivers (hnone l text)
    | cons first before =>
        cases hsplit
        exact h.last before input' after l text rfl hdelivers hlater
  kept l hl := h.kept l fun input' hinput' => hl input' (List.mem_cons_of_mem _ hinput')

/-- What an input delivers stays until something else is delivered to the same location. -/
theorem cons_of_delivers {l₀ : Location} {text₀ : String}
    (hdelivers₀ : Delivers fs target style input l₀ text₀)
    (hfind : ∀ l, between.find? l = if l = l₀ then some (.text text₀) else old.find? l)
    (h : Delivered fs target style inputs between new) :
    Delivered fs target style (input :: inputs) old new where
  last before input' after l text hsplit hdelivers hlater := by
    cases before with
    | nil =>
        cases hsplit
        rcases hdelivers₀.unique hdelivers with ⟨rfl, rfl⟩
        rw [h.kept _ hlater, hfind, if_pos rfl]
    | cons first before =>
        cases hsplit
        exact h.last before input' after l text rfl hdelivers hlater
  kept l hl := by
    have hne : l ≠ l₀ := by
      rintro rfl
      exact hl input List.mem_cons_self text₀ hdelivers₀
    rw [h.kept l fun input' hinput' => hl input' (List.mem_cons_of_mem _ hinput'), hfind,
      if_neg hne]

end Delivered

/-- The conversion of several inputs, where documents have been written before. The inputs
    before the first defect are those that count for the files. -/
theorem delivered_convertEach (htarget : target ≠ .console) (style : Json.Style)
    (inputs : List Path) {s : Session}
    (h : fs.WrittenOver s.files) :
    Delivered fs target style (inputs.takeWhile fun input => !isDefective fs input) s.files
        (convertEach target style s inputs).1.files ∧
      ((convertEach target style s inputs).2 = some 0 ↔
        ∀ input ∈ inputs, ∃ l text, Delivers fs target style input l text) := by
  -- A step leaves files that documents have been written to, and the next one begins there.
  induction inputs generalizing s with
  | nil => exact ⟨.nil rfl, iff_of_true rfl (List.forall_mem_nil _)⟩
  | cons first rest ih =>
      have hstep := converts_convertOne htarget style h first
      rw [convertEach, List.takeWhile_cons, List.forall_mem_cons]
      generalize convertOne target style s first = ended at hstep ⊢
      cases hstep with
      | aborted hdefective hfiles =>
          -- Neither this input nor one after it counts.
          rw [hdefective]
          refine ⟨.nil hfiles, iff_of_false (by rintro ⟨⟩) ?_⟩
          rintro ⟨⟨l, text, hdelivers⟩, _⟩
          rw [hdelivers.isDefective] at hdefective
          cases hdefective
      | @failed s' hsound hnone hfiles =>
          rcases ih (s := s') (hfiles ▸ h) with ⟨hrest, _⟩
          rw [hfiles] at hrest
          rw [hsound]
          refine ⟨hrest.cons_of_not hnone, iff_of_false ?_ ?_⟩
          · change Option.map _ (convertEach target style s' rest).2 ≠ some 0
            cases (convertEach target style s' rest).2 with
            | none => rintro ⟨⟩
            | some failed => rintro ⟨⟩
          · rintro ⟨⟨l, text, hdelivers⟩, _⟩
            exact hnone l text hdelivers
      | @done s' l₀ text₀ hdelivers hwritten hfind =>
          rcases ih hwritten with ⟨hrest, hcode⟩
          rw [hdelivers.isDefective]
          refine ⟨hrest.cons_of_delivers hdelivers hfind, ?_⟩
          rw [← hcode]
          exact (and_iff_right ⟨l₀, text₀, hdelivers⟩).symm

/-- The conversion of inputs is all that a run over them does to the files. -/
theorem report_convert (fs : Files) (threshold : Level) (inputs : List Path) (target : Target)
    (style : Json.Style) :
    let report := (Request.run threshold (.convert inputs target style)).report fs
    report.files = (convertEach target style (.start fs) inputs).1.files ∧
      (report.code = 0 ↔ (convertEach target style (.start fs) inputs).2 = some 0) := by
  dsimp only [Request.report, Session.perform]
  unfold convertAll
  generalize convertEach target style (.start fs) inputs = ended
  rcases ended with ⟨s, _ | _ | failed⟩
  · exact ⟨rfl, iff_of_false (by rintro ⟨⟩) (by rintro ⟨⟩)⟩
  · exact ⟨rfl, iff_of_true rfl rfl⟩
  · exact ⟨rfl, iff_of_false (by rintro ⟨⟩) (by rintro ⟨⟩)⟩

/-- After a run over several inputs, a location holds the text that was delivered last to it,
    and what it held before if none was delivered. The run ends with the code 0 if and only
    if every input delivers its document. -/
theorem delivered_of_run (fs : Files) (threshold : Level) (inputs : List Path)
    (htarget : target ≠ .console) (style : Json.Style) :
    let report := (Request.run threshold (.convert inputs target style)).report fs
    Delivered fs target style (inputs.takeWhile fun input => !isDefective fs input) fs
        report.files ∧
      (report.code = 0 ↔ ∀ input ∈ inputs, ∃ l text, Delivers fs target style input l text) := by
  rcases delivered_convertEach htarget style inputs (s := .start fs) (.refl fs) with
    ⟨hfiles, hcode⟩
  rcases report_convert fs threshold inputs target style with ⟨hreported, hzero⟩
  dsimp only at hreported hzero ⊢
  rw [hreported, hzero]
  exact ⟨hfiles, hcode⟩

/-- A spreadsheet with a form that has one question. -/
def formOf (question : String) : Spreadsheet.Archive :=
  .ofList [(Spreadsheet.contentTypesPath, []),
    (Spreadsheet.workbookPath,
      .ofString "<sheet name=\"survey\" r:id=\"1\"/><sheet name=\"choices\" r:id=\"2\"/>"),
    (Spreadsheet.relationsPath,
      .ofString ("<Relationship Id=\"1\" Target=\"1\" Type=\"/worksheet\"/>" ++
        "<Relationship Id=\"2\" Target=\"2\" Type=\"/worksheet\"/>")),
    ("xl/1", .ofString ("<c><v>type</v></c><c><v>name</v></c><c><v>label</v></c><row/>" ++
      "<c><v>text</v></c><c><v>" ++ question ++ "</v></c>")),
    ("xl/2", .ofString "<c><v>list name</v></c><c><v>name</v></c><c><v>label</v></c>")]

/-- Two spreadsheets of one name in different folders, and a folder for documents. -/
def twoFolders : Files :=
  ⟨.ofList [(["a", "f.xlsx"], .archive (formOf "p")), (["b", "f.xlsx"], .archive (formOf "q")),
    (["out"], .folder)], []⟩

theorem delivered_of_run_two_folders :
    let inputs := ["a/f.xlsx", "b/f.xlsx"]
    let report := (Request.run .error (.convert inputs (.folder "out") .compact)).report twoFolders
    Delivered twoFolders (.folder "out") .compact
        (inputs.takeWhile fun input => !isDefective twoFolders input) twoFolders report.files ∧
      (report.code = 0 ↔ ∀ input ∈ inputs, ∃ l text,
        Delivers twoFolders (.folder "out") .compact input l text) :=
  delivered_of_run twoFolders .error _ (by decide) .compact

/-- Two inputs that deliver to one location. The run ends well, and the document of the
    first input is not there. -/
theorem not_own_document :
    let report := run twoFolders ["convert", "--compact", "-o", "out", "a/f.xlsx", "b/f.xlsx"]
    report.code = 0 ∧ ∃ l text,
      Delivers twoFolders (.folder "out") .compact "a/f.xlsx" l text ∧
        report.files.find? l ≠ some (.text text) := by
  have hrequest : run twoFolders ["convert", "--compact", "-o", "out", "a/f.xlsx", "b/f.xlsx"] =
      (Request.run .warning (.convert ["a/f.xlsx", "b/f.xlsx"] (.folder "out") .compact)).report
        twoFolders := rfl
  -- Both inputs have documents, and they are told apart by their texts.
  have hdocuments : ∃ d, (openDocument twoFolders "a/f.xlsx").outcome = .ok d ∧
      ∃ d', (openDocument twoFolders "b/f.xlsx").outcome = .ok d' ∧
        documentText .compact d ≠ documentText .compact d' := by
    refine exists_of_any (fun d => (openDocument twoFolders "b/f.xlsx").outcome.toOption.any
      fun d' => documentText .compact d != documentText .compact d') ?computed
      fun d _ hother => exists_of_any _ hother fun d' _ hne => bne_iff_ne.1 hne
    case computed => decide +kernel
  rcases hdocuments with ⟨d, hfirst, d', hsecond, hne⟩
  have hfirst : Delivers twoFolders (.folder "out") .compact "a/f.xlsx" ["out", "f.json"]
      (documentText .compact d) := ⟨d, "out/f.json", hfirst, by decide, rfl, by decide, rfl⟩
  have hsecond : Delivers twoFolders (.folder "out") .compact "b/f.xlsx" ["out", "f.json"]
      (documentText .compact d') := ⟨d', "out/f.json", hsecond, by decide, rfl, by decide, rfl⟩
  have htarget : Target.folder "out" ≠ .console := by decide
  rcases delivered_convertEach htarget .compact ["a/f.xlsx", "b/f.xlsx"] (s := .start twoFolders)
    (.refl twoFolders) with ⟨hfiles, hcode⟩
  rcases report_convert twoFolders .warning ["a/f.xlsx", "b/f.xlsx"] (.folder "out") .compact with
    ⟨hreported, hzero⟩
  rw [List.takeWhile_cons, hfirst.isDefective, List.takeWhile_cons, hsecond.isDefective] at hfiles
  dsimp only at hreported hzero ⊢
  rw [hrequest, hreported, hzero, hcode]
  refine ⟨?_, _, _, hfirst, ?_⟩
  · rw [List.forall_mem_cons, List.forall_mem_singleton]
    exact ⟨⟨_, _, hfirst⟩, _, _, hsecond⟩
  -- The second input is the last one that delivers to the location.
  · rw [hfiles.last ["a/f.xlsx"] "b/f.xlsx" [] _ _ rfl hsecond (List.forall_mem_nil _)]
    intro hsame
    exact hne (Entry.text.inj (Option.some.inj hsame)).symm

end CommandLine

end Questionnaire
