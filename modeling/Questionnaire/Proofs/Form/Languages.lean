import Questionnaire.Proofs.Form.ColumnOrder
import Questionnaire.Proofs.Outcome

/-!
# The Languages of a Form

A form is translated to the languages that the header rows of its survey and of its
choices speak of. English is an exception, since it stands in for the default language in
a sheet whose labels are all marked with a language. It counts only from a sheet that has
labels without one.

There are two ways to ask for such labels. Where rows are read, and where mandatory
columns are looked for, a cell is read as a column, and `label::` or `label:: (en)` is the
column of labels without a language as much as `label` is. The languages are collected by
another rule: what counts is a cell that is spelled `label`. `languages_of_decode` says
what this gives for every workbook, and that the two ways differ on English only, and only
if a header spells the column in another way. `english_left_out` is a form where they do:
its labels in English are neither those of the default language nor a translation.

## Main definitions

* `Workbook.header?`: The header row of a sheet.
* `SpellsLabel`, `NamesLabel`: The two ways to ask for labels without a language.
* `Workbook.SpeaksOf`: Whether a language is one of the survey or the choices.

## Theorems

* `Header.get?_translations`: The languages of one header.
* `Form.get?_mergeLanguages`: Those of two.
* `Layout.translations_of_read`: Where the languages of a sheet come from.
* `Form.languages_of_decode`: The languages of a form.
* `Workbook.english_left_out`: A form whose labels in English are lost.
-/

namespace Questionnaire

/-- The header row of a sheet: the first row that is not empty. -/
def Workbook.header? (w : Workbook) (sheet : String) : Option (List String) :=
  (w.rows? sheet).bind fun grid => (grid.dropWhile isEmptyRow).head?

/-- Whether a cell of a header row is spelled as the column of labels is. -/
def SpellsLabel (cells : List String) : Prop :=
  "label" ∈ cells

/-- Whether a cell of a header row is read as the column of labels without a language. -/
def NamesLabel (cells : List String) : Prop :=
  ∃ cell ∈ cells, Column.ofHeader cell = ⟨"label", ""⟩

/-- Whether a cell in the header of the survey or the choices is read as a column in a
    language. English counts only from a sheet whose header has labels in the default
    language. -/
def Workbook.SpeaksOf (w : Workbook) (hasLabel : List String → Prop) (language : String) : Prop :=
  language ≠ "" ∧ ∃ sheet ∈ ["survey", "choices"], ∃ cells ∈ w.header? sheet,
    (∃ cell ∈ cells, (Column.ofHeader cell).language = language) ∧
      (language = "English" → hasLabel cells)

instance : DecidablePred SpellsLabel :=
  fun cells => inferInstanceAs (Decidable ("label" ∈ cells))

instance : DecidablePred NamesLabel :=
  fun cells => inferInstanceAs (Decidable (∃ cell ∈ cells, Column.ofHeader cell = ⟨"label", ""⟩))

instance (w : Workbook) (hasLabel : List String → Prop) [DecidablePred hasLabel]
    (language : String) : Decidable (w.SpeaksOf hasLabel language) :=
  inferInstanceAs (Decidable (_ ∧ ∃ sheet ∈ ["survey", "choices"], ∃ cells ∈ w.header? sheet, _))

/-! ### One header -/

namespace Header

theorem get?_translations (h : Header) (language : String) :
    h.translations.get? language = some () ↔
      (language ≠ "" ∧ ∃ cell ∈ h, (Column.ofHeader cell).language = language) ∧
        (language = "English" → SpellsLabel h) := by
  have hlabel : h.hasDefaultLabel = true ↔ SpellsLabel h := List.contains_iff_mem
  rw [translations, ← hlabel, ← get?_languages]
  cases hdefault : h.hasDefaultLabel with
  | true => rw [if_pos rfl, and_iff_left (fun _ => rfl)]
  | false =>
      rw [if_neg Bool.false_ne_true, Dictionary.get?_erase]
      by_cases henglish : language = "English"
      · rw [henglish, if_pos (show compare "English" Column.fallbackLanguage = .eq from rfl)]
        exact iff_of_false (by rintro ⟨⟩) fun h => Bool.false_ne_true (h.2 rfl)
      · have hother : compare language Column.fallbackLanguage ≠ .eq := fun heq =>
          henglish (Std.LawfulEqCmp.eq_of_compare heq)
        rw [if_neg hother, and_iff_left (fun heq => absurd heq henglish)]

/-- The usual spelling of a header changes neither its languages nor its labels. -/
theorem get?_translations_usual (cells : List String) (language : String) :
    (translations (cells.map usualHeader)).get? language = some () ↔
      language ≠ "" ∧ (∃ cell ∈ cells, (Column.ofHeader cell).language = language) ∧
        (language = "English" → SpellsLabel cells) := by
  have hlanguage : ∀ cell, (Column.ofHeader (usualHeader cell)).language =
      (Column.ofHeader cell).language := by
    intro cell
    rw [usualHeader]
    split
    case isTrue hlist =>
      rw [hlist]
      rfl
    case isFalse => rfl
  have hspelled : ∀ cell, usualHeader cell = "label" ↔ cell = "label" := by
    intro cell
    rw [usualHeader]
    split
    case isTrue hlist =>
      rw [hlist]
      decide
    case isFalse => exact Iff.rfl
  rw [get?_translations, and_assoc]
  simp only [SpellsLabel, List.mem_map, exists_exists_and_eq_and, hlanguage, hspelled,
    exists_eq_right]

end Header

/-! ### One sheet -/

namespace Layout

/-- The languages of a sheet that a form has to have are those of its header. -/
theorem translations_of_read {layout : Layout} {w : Workbook} {rows : List Row}
    {languages : Dictionary String Unit} (hmandatory : layout.isMandatory = true)
    (h : (layout.read w).outcome = .ok (rows, languages)) :
    ∃ cells, w.header? layout.sheet = some cells ∧
      languages = Header.translations (cells.map usualHeader) := by
  rw [read] at h
  split at h
  case h_2 =>
    rw [if_pos hmandatory] at h
    cases h
  case h_1 grid hgrid =>
    rw [readGrid] at h
    split at h
    case h_1 => cases h
    case h_2 first below hfirst =>
      dsimp only at h
      split at h
      case h_1 => cases h
      case h_2 =>
        cases h
        refine ⟨first, ?_, rfl⟩
        rw [Workbook.header?, hgrid, Option.bind_some, hfirst]
        rfl

end Layout

/-! ### The form -/

namespace Form

/-- The languages of two sheets are those of either. -/
theorem get?_mergeLanguages (a b : Dictionary String Unit) (language : String) :
    (mergeLanguages a b).get? language = some () ↔
      a.get? language = some () ∨ b.get? language = some () := by
  have hentries : mergeLanguages a b = b.entries.foldl (fun d e => d.insert e.1 e.2) a :=
    List.foldl_map
  rw [hentries, Dictionary.get?_foldl_insert_unit, ← Dictionary.get?_eq_some_iff, or_comm]

/-- The languages of a form are those of its survey and of its choices. -/
theorem exists_of_decode {w : Workbook} {form : Form} (h : (decode w).outcome = .ok form) :
    ∃ survey choices, w.header? "survey" = some survey ∧ w.header? "choices" = some choices ∧
      form.languages = mergeLanguages (Header.translations (survey.map usualHeader))
        (Header.translations (choices.map usualHeader)) := by
  rw [decode, Traced.outcome_bind] at h
  rcases bind_eq_ok.1 h with ⟨⟨_, surveyLanguages⟩, hsurvey, h⟩
  dsimp only at h
  rw [Traced.outcome_bind] at h
  rcases bind_eq_ok.1 h with ⟨⟨_, choicesLanguages⟩, hchoices, h⟩
  dsimp only at h
  rw [Traced.outcome_bind] at h
  rcases bind_eq_ok.1 h with ⟨_, _, h⟩
  cases h
  rcases Layout.translations_of_read rfl hsurvey with ⟨survey, hheader, rfl⟩
  rcases Layout.translations_of_read rfl hchoices with ⟨choices, hheader', rfl⟩
  exact ⟨survey, choices, hheader, hheader', rfl⟩

end Form

/-- Of two headers it is enough to know which of them has the labels that are asked for, and
    that is asked for English only. -/
theorem Workbook.speaksOf_congr {w : Workbook} {language : String}
    {hasLabel hasLabel' : List String → Prop}
    (h : language = "English" → ∀ sheet ∈ ["survey", "choices"], ∀ cells ∈ w.header? sheet,
      (hasLabel cells ↔ hasLabel' cells)) :
    w.SpeaksOf hasLabel language ↔ w.SpeaksOf hasLabel' language := by
  refine and_congr_right fun _ => exists_congr fun sheet => and_congr_right fun hsheet =>
    exists_congr fun cells => and_congr_right fun hcells => and_congr_right fun _ => ?_
  exact forall_congr' fun henglish => h henglish sheet hsheet cells hcells

/-- The languages of a form are those that the headers of its survey and of its choices speak
    of, English only from a header with a cell that is spelled `label`. These are the languages
    by the columns that the cells are read as, but for English if a header names the column of
    labels in another spelling. -/
theorem Form.languages_of_decode {w : Workbook} {form : Form}
    (h : (decode w).outcome = .ok form) (language : String) :
    (form.languages.contains language = true ↔ w.SpeaksOf SpellsLabel language) ∧
      ((language = "English" → ∀ sheet ∈ ["survey", "choices"], ∀ cells ∈ w.header? sheet,
          NamesLabel cells → SpellsLabel cells) →
        (form.languages.contains language = true ↔ w.SpeaksOf NamesLabel language)) := by
  have hspelled : form.languages.contains language = true ↔ w.SpeaksOf SpellsLabel language := by
    rcases exists_of_decode h with ⟨survey, choices, hsurvey, hchoices, hlanguages⟩
    have hcontains : form.languages.contains language = true ↔
        form.languages.get? language = some () := by
      rw [Dictionary.contains, Option.isSome_iff_exists]
      exact ⟨fun ⟨_, hfound⟩ => hfound, fun hfound => ⟨(), hfound⟩⟩
    rw [hcontains, hlanguages, get?_mergeLanguages, Header.get?_translations_usual,
      Header.get?_translations_usual, ← and_or_left, Workbook.SpeaksOf]
    simp only [List.mem_cons, List.not_mem_nil, or_false, exists_eq_or_imp, exists_eq_left,
      hsurvey, hchoices, Option.mem_some_iff, exists_eq_left']
  refine ⟨hspelled, fun hspelling => hspelled.trans (Workbook.speaksOf_congr ?_)⟩
  intro henglish sheet hsheet cells hcells
  exact ⟨fun hlabel => ⟨"label", hlabel, rfl⟩, hspelling henglish sheet hsheet cells hcells⟩

namespace Workbook

/-- A form in three languages. In the survey, English stands in for the default language; in
    the choices, it is a translation. -/
def inThreeLanguages : Workbook :=
  ⟨[⟨"survey", [[], ["type", "name", "label::English (en)", "hint::Italian (it)", "hint::()"]]⟩,
    ⟨"choices", [["list_name", "name", "label", "label:: English", "note::French"]]⟩]⟩

end Workbook

theorem Form.languages_of_decode_three :
    ∃ form, (decode Workbook.inThreeLanguages).outcome = .ok form ∧
      (∀ sheet ∈ ["survey", "choices"], ∀ cells ∈ Workbook.inThreeLanguages.header? sheet,
        NamesLabel cells → SpellsLabel cells) ∧
      form.languages.keys = ["English", "French", "Italian"] ∧
      (form.languages.contains "English" = true ↔
        Workbook.inThreeLanguages.SpeaksOf SpellsLabel "English") ∧
      (form.languages.contains "English" = true ↔
        Workbook.inThreeLanguages.SpeaksOf NamesLabel "English") := by
  refine exists_of_any (fun form => form.languages.keys == ["English", "French", "Italian"])
    ?computed fun form hform hkeys => ?_
  · decide +kernel
  · have hspelling : ∀ sheet ∈ ["survey", "choices"],
        ∀ cells ∈ Workbook.inThreeLanguages.header? sheet,
          NamesLabel cells → SpellsLabel cells := by
      decide +kernel
    rcases languages_of_decode hform "English" with ⟨hspelled, hread⟩
    exact ⟨hspelling, beq_iff_eq.1 hkeys, hspelled, hread fun _ => hspelling⟩

namespace Workbook

/-- A form whose survey names the column of labels with a separator and no language. -/
def withBareSeparator : Workbook :=
  ⟨[⟨"survey", [["type", "name", "label::", "label::English"]]⟩,
    ⟨"choices", [["list name", "name", "label"]]⟩]⟩

/-- Its header has labels in the default language and labels in English, and yet English is no
    language of the form. -/
theorem english_left_out :
    ∃ form, (Form.decode withBareSeparator).outcome = .ok form ∧
      withBareSeparator.SpeaksOf NamesLabel "English" ∧
        form.languages.contains "English" = false := by
  refine exists_of_any (fun form => !form.languages.contains "English") ?computed
    fun form _ hmissing => ⟨?_, Bool.not_eq_true' _ ▸ hmissing⟩
  · decide +kernel
  · decide +kernel

end Workbook

end Questionnaire
