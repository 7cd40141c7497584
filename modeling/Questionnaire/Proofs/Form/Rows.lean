import Questionnaire.Form.Decode
import Questionnaire.Proofs.Form.Columns
import Questionnaire.Proofs.Outcome
import Questionnaire.Survey.RowKind

/-!
# The Rows of a Decoded Form

Where the rows of a form come from. Each was read from a row of the grid of its
sheet, below the header and not empty, and its line says which one; rows that
were skipped on the way have been counted. And each was filled under a header,
cell by cell, with the types brought into one spelling, so a survey that was read
from a sheet does not have all the types that a survey may have: a question with
choices names a list, since a type does not end with a blank.

## Main definitions

* `Workbook.HasRowAt`: Whether a line of a sheet holds a row.
* `Text.EndsFilled`: Whether a text does not end with a blank.

## Theorems

* `Layout.exists_of_mem_read`: The row of the grid that a row was read from.
* `Layout.length_le_of_read`: No sheet has more rows than its grid.
* `Form.read_of_decode`: The three sheets that a form is read from.
* `choiceList_usualType`: A type in its usual spelling names a list, if it has one.
* `Form.choiceList_of_decode`: So do the types of a survey that was read.
-/

namespace Questionnaire

/-! ### Rows and lines -/

/-- Whether a line of a sheet holds a row: it is not empty, and it is below the header,
    which is the first line that is not empty. Lines count from one. -/
def Workbook.HasRowAt (w : Workbook) (sheet : String) (line : Nat) : Prop :=
  ∃ grid i cells, w.rows? sheet = some grid ∧ line = i + 1 ∧
    grid.findIdx (fun cells => !isEmptyRow cells) < i ∧ grid[i]? = some cells ∧
    isEmptyRow cells = false

/-- Below a header, rows are counted whether they are empty or not. -/
theorem exists_of_mem_rowsBelow {header : Header} {line : Nat} {below : Grid} {r : Row}
    (h : r ∈ rowsBelow header line below) :
    ∃ i cells, below[i]? = some cells ∧ isEmptyRow cells = false ∧
      r = header.row (line + i) cells := by
  induction below generalizing line with
  | nil => cases h
  | cons cells rest ih =>
      have hrest : r ∈ rowsBelow header (line + 1) rest →
          ∃ i cells', (cells :: rest)[i]? = some cells' ∧ isEmptyRow cells' = false ∧
            r = header.row (line + i) cells' := by
        intro h
        rcases ih h with ⟨i, cells', hcells, hfilled, hr⟩
        refine ⟨i + 1, cells', hcells, hfilled, ?_⟩
        rwa [Nat.add_right_comm, Nat.add_assoc] at hr
      rw [rowsBelow] at h
      split at h
      case isTrue => exact hrest h
      case isFalse hfilled =>
        rcases List.mem_cons.1 h with rfl | h
        · exact ⟨0, cells, rfl, Bool.eq_false_iff.2 hfilled, rfl⟩
        · exact hrest h

theorem length_rowsBelow_le (header : Header) (line : Nat) (below : Grid) :
    (rowsBelow header line below).length ≤ below.length := by
  induction below generalizing line with
  | nil => exact Nat.le_refl _
  | cons cells rest ih =>
      have hrest := ih (line + 1)
      rw [rowsBelow, List.length_cons]
      split
      · omega
      · rw [List.length_cons]
        omega

namespace Layout

variable {layout : Layout} {w : Workbook} {rows : List Row} {languages : Dictionary String Unit}

/-- The rows of a grid are those below its header, the first row that is not empty. -/
theorem readGrid_eq_ok {grid : Grid} (h : (layout.readGrid grid).outcome = .ok (rows, languages)) :
    ∃ first below, grid.dropWhile isEmptyRow = first :: below ∧
      rows = rowsBelow (first.map usualHeader) (grid.length - below.length + 1) below := by
  rw [readGrid] at h
  split at h
  case h_1 => cases h
  case h_2 first below hfirst =>
    dsimp only at h
    split at h
    case h_1 => cases h
    case h_2 =>
      cases h
      exact ⟨first, below, hfirst, rfl⟩

/-- The rows of a sheet are those of its grid. A sheet that is not there has none. -/
theorem read_eq_ok (h : (layout.read w).outcome = .ok (rows, languages)) :
    rows = [] ∨ ∃ grid first below, w.rows? layout.sheet = some grid ∧
      grid.dropWhile isEmptyRow = first :: below ∧
        rows = rowsBelow (first.map usualHeader) (grid.length - below.length + 1) below := by
  rw [read] at h
  split at h
  case h_1 grid hgrid =>
    rcases readGrid_eq_ok h with ⟨first, below, hfirst, hrows⟩
    exact Or.inr ⟨grid, first, below, hgrid, hfirst, hrows⟩
  case h_2 =>
    split at h
    case isTrue => cases h
    case isFalse =>
      cases h
      exact Or.inl rfl

/-- A row was read from a row of the grid, and its line says from which one. -/
theorem exists_of_mem_read (h : (layout.read w).outcome = .ok (rows, languages)) {r : Row}
    (hr : r ∈ rows) :
    ∃ header : Header, ∃ cells, r = header.row r.line cells ∧
      w.HasRowAt layout.sheet r.line := by
  rcases read_eq_ok h with rfl | ⟨grid, first, below, hgrid, hfirst, rfl⟩
  · cases hr
  rcases exists_of_mem_rowsBelow hr with ⟨i, cells, hcells, hfilled, hrow⟩
  -- The header stands where the empty rows end, and the rows below it follow.
  rw [List.dropWhile_eq_drop_findIdx_not] at hfirst
  generalize hheader : grid.findIdx (fun cells => !isEmptyRow cells) = header at hfirst
  have hlength := congrArg List.length hfirst
  rw [List.length_drop, List.length_cons] at hlength
  have hbelow : below = grid.drop (header + 1) := by
    rw [← List.tail_drop, hfirst, List.tail_cons]
  rw [hbelow, List.getElem?_drop] at hcells
  have hline : r.line = header + 1 + i + 1 := by
    rw [hrow, Header.row_eq_withLine]
    change grid.length - below.length + 1 + i = _
    omega
  refine ⟨first.map usualHeader, cells, ?_, grid, header + 1 + i, cells, hgrid, hline, ?_,
    hcells, hfilled⟩
  · rw [hline, hrow]
    congr 1
    omega
  · rw [hheader]
    omega

theorem length_le_of_read (h : (layout.read w).outcome = .ok (rows, languages)) {grid : Grid}
    (hgrid : w.rows? layout.sheet = some grid) : rows.length ≤ grid.length := by
  rcases read_eq_ok h with rfl | ⟨grid', first, below, hgrid', hfirst, rfl⟩
  · exact Nat.zero_le _
  · rw [hgrid] at hgrid'
    cases hgrid'
    have hbelow := (grid.dropWhile_suffix isEmptyRow).length_le
    rw [hfirst, List.length_cons] at hbelow
    have hrows := length_rowsBelow_le (first.map usualHeader)
      (grid.length - below.length + 1) below
    omega

end Layout

/-- The sheets of a form are read one after another. -/
theorem Form.read_of_decode {w : Workbook} {form : Form}
    (h : (Form.decode w).outcome = .ok form) :
    (∃ languages, (Layout.survey.read w).outcome = .ok (form.survey, languages)) ∧
      (∃ languages, (Layout.choices.read w).outcome = .ok (form.choices, languages)) ∧
      ∃ languages, (Layout.settings.read w).outcome = .ok (form.settings, languages) := by
  rw [decode, Traced.outcome_bind] at h
  rcases bind_eq_ok.1 h with ⟨⟨survey, surveyLanguages⟩, hsurvey, h⟩
  dsimp only at h
  rw [Traced.outcome_bind] at h
  rcases bind_eq_ok.1 h with ⟨⟨choices, choicesLanguages⟩, hchoices, h⟩
  dsimp only at h
  rw [Traced.outcome_bind] at h
  rcases bind_eq_ok.1 h with ⟨⟨settings, settingsLanguages⟩, hsettings, h⟩
  cases h
  exact ⟨⟨_, hsurvey⟩, ⟨_, hchoices⟩, ⟨_, hsettings⟩⟩

/-! ### Types in their usual spelling -/

/-- Whether a text does not end with a blank. -/
def Text.EndsFilled (s : String) : Prop :=
  ∀ c ∈ s.toList.getLast?, Text.isBlank c = false

theorem Text.endsFilled_trim (s : String) : EndsFilled (trim s) := by
  intro c hc
  rw [trim, String.toList_ofList, trimEnd, List.getLast?_reverse] at hc
  have hnot := List.head?_dropWhile_not isBlank (skipBlanks s.toList).reverse
  rw [hc] at hnot
  exact hnot

/-- What follows a beginning. -/
theorem Text.toList_of_afterStart? {start s rest : String} (h : afterStart? start s = some rest) :
    s.toList = start.toList ++ rest.toList := by
  rw [afterStart?] at h
  split at h
  case isTrue hstart =>
    cases h
    rcases List.isPrefixOf_iff_prefix.1 hstart with ⟨after, hafter⟩
    rw [← hafter, List.drop_left, String.toList_ofList]
  case isFalse => cases h

/-- A text that does not end with a blank has something after a beginning that does. -/
theorem Text.ne_empty_of_afterStart? {start s rest : String}
    (hstart : start.toList.getLast? = some ' ') (hs : EndsFilled s)
    (h : afterStart? start s = some rest) : rest ≠ "" := by
  rintro rfl
  have hlist := toList_of_afterStart? h
  rw [String.toList_empty, List.append_nil] at hlist
  have hblank := hs ' '
  rw [hlist, hstart] at hblank
  exact absurd (hblank rfl) (by decide)

/-- So another beginning can be put there. -/
theorem Text.EndsFilled.append {start s rest : String} (hs : EndsFilled s)
    (hstart : start.toList.getLast? = some ' ') (h : afterStart? start s = some rest)
    (other : String) : EndsFilled (other ++ rest) := by
  have hnil : rest.toList ≠ [] := by
    intro hnil
    exact ne_empty_of_afterStart? hstart hs h (String.toList_inj.1 hnil)
  rw [EndsFilled, toList_of_afterStart? h, List.getLast?_append_of_ne_nil _ hnil] at hs
  rwa [EndsFilled, String.toList_append, List.getLast?_append_of_ne_nil _ hnil]

theorem endsFilled_usualType (cell : String) : Text.EndsFilled (usualType cell) := by
  have htrim := Text.endsFilled_trim cell
  rw [usualType]
  generalize Text.trim cell = t at htrim
  split
  case h_1 | h_2 | h_3 | h_4 =>
    intro c hc
    cases hc
    decide
  case h_5 =>
    split
    case h_1 hlist => exact htrim.append rfl hlist _
    case h_2 hlist => exact htrim.append rfl hlist _
    case h_3 => exact htrim

/-- A question with choices is written with the name of its list at the end of its type. -/
theorem RowKind.afterStart?_of_choiceList {type list : String}
    (h : (ofType type).choiceList = some list) :
    Text.afterStart? "select_one " type = some list ∨
      Text.afterStart? "select_multiple " type = some list := by
  unfold ofType at h
  split at h
  case h_6 =>
    unfold ofQuestionType at h
    split at h
    case h_1 => cases h
    case h_2 =>
      split at h
      case h_1 hone =>
        cases h
        exact Or.inl hone
      case h_2 _ hmany =>
        cases h
        exact Or.inr hmany
      case h_3 =>
        split at h
        · cases h
        · split at h <;> cases h
  all_goals cases h

theorem choiceList_usualType (cell : String) :
    (RowKind.ofType (usualType cell)).choiceList ≠ some "" := by
  intro h
  have hends := endsFilled_usualType cell
  rcases RowKind.afterStart?_of_choiceList h with hlist | hlist
  · exact Text.ne_empty_of_afterStart? rfl hends hlist rfl
  · exact Text.ne_empty_of_afterStart? rfl hends hlist rfl

/-! ### The types of a survey -/

/-- A cell of a row was set under a header of its column. -/
theorem Row.exists_of_get?_ofCells {line : Nat} {cells : List (String × String)} {c : Column}
    {v : String} (h : (ofCells line cells).cells.get? c = some v) :
    ∃ e ∈ cells, Column.ofHeader e.1 = c ∧ e.2 = v := by
  have hfold : ∀ r : Row,
      (cells.foldl (fun r cell => r.set cell.1 cell.2) r).cells.get? c = some v →
      (∃ e ∈ cells, Column.ofHeader e.1 = c ∧ e.2 = v) ∨ r.cells.get? c = some v := by
    clear h
    induction cells with
    | nil => exact fun r h => Or.inr h
    | cons e rest ih =>
        intro r h
        rcases ih _ h with ⟨e', he', hfound⟩ | h
        · exact Or.inl ⟨e', List.mem_cons_of_mem _ he', hfound⟩
        · rw [get?_set] at h
          split at h
          case isTrue hcolumn =>
            split at h
            case isTrue => cases h
            case isFalse =>
              exact Or.inl ⟨e, List.mem_cons_self, (Std.LawfulEqCmp.eq_of_compare hcolumn).symm,
                Option.some.inj h⟩
          case isFalse => exact Or.inr h
  rcases hfold (blank line) h with hfound | hblank
  · exact hfound
  · cases hblank

/-- Under a header, a cell of a column called `type` holds a type in its usual spelling. -/
theorem Header.exists_of_get?_type {h : Header} {line : Nat} {cells : List String} {c : Column}
    (hc : c.name = "type") {v : String} (hv : (h.row line cells).cells.get? c = some v) :
    ∃ cell, v = usualType cell := by
  rcases Row.exists_of_get?_ofCells hv with ⟨e, he, hcolumn, rfl⟩
  rcases List.mem_map.1 he with ⟨⟨header, cell⟩, _, rfl⟩
  dsimp only at hcolumn ⊢
  split at hcolumn
  case isTrue htype => exact ⟨cell, by rw [if_pos htype]⟩
  case isFalse htype =>
    rw [← hcolumn] at hc
    exact absurd hc htype

theorem Header.choiceList_row (h : Header) (line : Nat) (cells : List String) :
    (h.row line cells).kind.choiceList ≠ some "" := by
  have hfound : ∀ v, (h.row line cells).cells.get? ⟨"type", ""⟩ = some v ∨
      (h.row line cells).cells.get? ⟨"type", Column.fallbackLanguage⟩ = some v →
        (RowKind.ofType v).choiceList ≠ some "" := by
    rintro v (hv | hv)
    all_goals
      rcases exists_of_get?_type rfl hv with ⟨cell, rfl⟩
      exact choiceList_usualType cell
  have hdefaultLanguage : "".isEmpty = true := rfl
  rw [Row.kind, Row.type, Row.text, Row.textIn, if_pos hdefaultLanguage]
  cases hdefault : (h.row line cells).cells.get? ⟨"type", ""⟩ with
  | some v => exact hfound v (Or.inl hdefault)
  | none =>
      rw [Option.none_or]
      cases hfallback : (h.row line cells).cells.get? ⟨"type", Column.fallbackLanguage⟩ with
      | some v => exact hfound v (Or.inr hfallback)
      | none => exact Option.some_ne_none _ ∘ Eq.symm

/-- In a survey that was read from a sheet, a question with choices names a list. -/
theorem Form.choiceList_of_decode {w : Workbook} {form : Form}
    (h : (Form.decode w).outcome = .ok form) :
    ∀ r ∈ form.survey, r.kind.choiceList ≠ some "" := by
  intro r hr
  rcases (Form.read_of_decode h).1 with ⟨languages, hread⟩
  rcases Layout.exists_of_mem_read hread hr with ⟨header, cells, hrow, _⟩
  rw [hrow]
  exact header.choiceList_row r.line cells

end Questionnaire
