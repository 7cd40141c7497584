import Mathlib.Data.List.FinRange
import Mathlib.Data.List.Find
import Mathlib.Data.List.Forall2
import Mathlib.Data.List.GetD
import Questionnaire.Proofs.Form.Columns

/-!
# The Order of Columns

Nothing that is read from a sheet depends on the order of its columns. The header is
the first row that is not empty, and a row stays so when its cells change places. What
is asked of a header is whether one of its cells has a property: whether one fills a
mandatory column, is the label of the default language, or speaks of a language. And
under columns that are distinct, a row holds what its cells say, whichever of them is
set first (`Header.get?_row`).

The rows of a grid may differ in length, and columns can only change places in rows
that have them all. So the rows are padded first. The cells that this adds to the
header are empty and name no column, and those that it adds below are as empty as
cells that are not there.

## Main definitions

* `rearrange`: A row that is padded, and its cells in another order.
* `Grid.Rearranged`, `Workbook.Rearranged`: The same change in every row of a sheet.
* `Workbook.HasDistinctColumns`: A sheet in which no two headers name one column.

## Theorems

* `rearrange_perm`: What a row holds after the change.
* `Header.row_rearrange`: The row under a header after both have changed.
* `Layout.readGrid_rearrange`: So do the rows and languages of a sheet stay the same.
* `Form.decode_rearranged`: And those of a form.
-/

namespace Questionnaire

/-- A row of a grid, padded with empty cells to a width, with its cells in another order. -/
def rearrange {width : Nat} (σ : Equiv.Perm (Fin width)) (cells : List String) : List String :=
  List.ofFn fun i => cells.getD (σ i) ""

/-- A grid whose rows were padded to a common width and whose columns were then permuted. -/
def Grid.Rearranged (g g' : Grid) : Prop :=
  ∃ (width : Nat) (σ : Equiv.Perm (Fin width)),
    (∀ cells ∈ g, cells.length ≤ width) ∧ g' = g.map (rearrange σ)

namespace Workbook

/-- A workbook in which some sheets of a form were rearranged, each in its own way. -/
def Rearranged (w w' : Workbook) : Prop :=
  List.Forall₂ (fun s s' => s'.name = s.name ∧ (s'.rows = s.rows ∨
    s.name ∈ ["survey", "choices", "settings"] ∧ s.rows.Rearranged s'.rows)) w.sheets w'.sheets

/-- In the header of a sheet, no two cells name one column. Empty cells name none. -/
def HasDistinctColumns (w : Workbook) (sheet : String) : Prop :=
  ∀ grid ∈ w.rows? sheet, ∀ first ∈ (grid.dropWhile isEmptyRow).head?,
    Header.Distinct (first.map usualHeader)

/-- A sheet is there after the change if it was before. -/
theorem Rearranged.rows? {w w' : Workbook} (h : w.Rearranged w') (name : String) :
    Option.Rel (fun g g' => g' = g ∨ g.Rearranged g') (w.rows? name) (w'.rows? name) := by
  rcases w with ⟨sheets⟩
  rcases w' with ⟨sheets'⟩
  change List.Forall₂ _ sheets sheets' at h
  rw [Workbook.rows?, Workbook.rows?, sheet?, sheet?]
  induction h with
  | nil => exact .none
  | @cons s s' rest rest' hsheet hrest ih =>
      rcases hsheet with ⟨hname, hrows⟩
      rw [List.find?_cons, List.find?_cons, hname]
      cases hfound : s.name == name with
      | true => exact .some (hrows.imp_right And.right)
      | false => exact ih

end Workbook

/-! ### One row -/

section Row

variable {width : Nat} (σ : Equiv.Perm (Fin width)) {cells : List String}

theorem ofFn_getD (h : cells.length ≤ width) :
    (List.ofFn fun i : Fin width => cells.getD i "") =
      cells ++ List.replicate (width - cells.length) "" := by
  refine List.ext_getElem (by simp; omega) fun i _ _ => ?_
  rw [List.getElem_ofFn, List.getElem_append]
  split
  case isTrue hin => rw [List.getD_eq_getElem _ _ hin]
  case isFalse hout =>
    rw [List.getD_eq_default _ _ (Nat.le_of_not_lt hout), List.getElem_replicate]

/-- A row that is rearranged has its own cells, and the empty ones that it was padded with. -/
theorem rearrange_perm (h : cells.length ≤ width) :
    (rearrange σ cells).Perm (cells ++ List.replicate (width - cells.length) "") := by
  rw [← ofFn_getD h]
  exact σ.ofFn_comp_perm fun i => cells.getD i ""

/-- So whether one of its cells has a property that empty cells do not have is the same. -/
theorem any_rearrange (h : cells.length ≤ width) {p : String → Bool} (hp : p "" = false) :
    (rearrange σ cells).any p = cells.any p := by
  rw [(rearrange_perm σ h).any_eq, List.any_append, List.any_replicate, hp]
  simp

theorem mem_rearrange (h : cells.length ≤ width) {cell : String} (hcell : cell ≠ "") :
    cell ∈ rearrange σ cells ↔ cell ∈ cells := by
  rw [(rearrange_perm σ h).mem_iff, List.mem_append, or_iff_left]
  exact fun hpadding => hcell (List.eq_of_mem_replicate hpadding)

theorem isEmptyRow_rearrange (h : cells.length ≤ width) :
    isEmptyRow (rearrange σ cells) = isEmptyRow cells := by
  have hany := any_rearrange σ h (p := fun cell => !cell.isEmpty) rfl
  rw [← List.not_all_eq_any_not, ← List.not_all_eq_any_not] at hany
  exact Bool.not_inj hany

theorem usualHeader_rearrange :
    (rearrange σ cells).map usualHeader = rearrange σ (cells.map usualHeader) := by
  have hcell : ∀ i, usualHeader (cells.getD i "") = (cells.map usualHeader).getD i "" := by
    intro i
    rw [List.getD_eq_getElem?_getD, List.getD_eq_getElem?_getD, List.getElem?_map]
    cases cells[i]? <;> rfl
  rw [rearrange, rearrange, List.map_ofFn]
  congr 1
  funext i
  exact hcell (σ i)

theorem getD_rearrange (i : Nat) :
    (rearrange σ cells).getD i "" = if h : i < width then cells.getD (σ ⟨i, h⟩) "" else "" := by
  rw [rearrange]
  split
  case isTrue hin => rw [List.getD_eq_getElem _ _ (by rwa [List.length_ofFn]), List.getElem_ofFn]
  case isFalse hout => rw [List.getD_eq_default _ _ (by rwa [List.length_ofFn, ← Nat.not_lt])]

/-- Cells that are not empty stand in one column of two rows. -/
theorem mem_zip_iff_getD {cells' : List String} {e : String × String} (hfirst : e.1 ≠ "")
    (hsecond : e.2 ≠ "") :
    e ∈ cells.zip cells' ↔ ∃ i, cells.getD i "" = e.1 ∧ cells'.getD i "" = e.2 := by
  have hcell : ∀ {l : List String} {i : Nat} {cell : String}, cell ≠ "" →
      (l.getD i "" = cell ↔ l[i]? = some cell) := by
    intro l i cell hcell
    rw [List.getD_eq_getElem?_getD, Option.getD_eq_iff]
    exact or_iff_left fun hnone => hcell hnone.2.symm
  simp only [hcell hfirst, hcell hsecond, List.mem_iff_getElem?, List.getElem?_zip_eq_some]

/-- Two rows that are rearranged in one way make the same pairs of cells, as far as neither
    is empty. -/
theorem mem_zip_rearrange {cells' : List String} (hlength : cells.length ≤ width)
    {e : String × String} (hfirst : e.1 ≠ "") (hsecond : e.2 ≠ "") :
    e ∈ (rearrange σ cells).zip (rearrange σ cells') ↔ e ∈ cells.zip cells' := by
  rw [mem_zip_iff_getD hfirst hsecond, mem_zip_iff_getD hfirst hsecond]
  constructor
  · rintro ⟨i, hi, hi'⟩
    rw [getD_rearrange] at hi hi'
    by_cases hin : i < width
    · rw [dif_pos hin] at hi hi'
      exact ⟨_, hi, hi'⟩
    · rw [dif_neg hin] at hi
      exact absurd hi.symm hfirst
  · rintro ⟨i, hi, hi'⟩
    -- A cell that is not empty is none of the padding, so its column is moved with the others.
    have hin : i < width := by
      by_contra hout
      rw [List.getD_eq_default _ _ (by omega)] at hi
      exact hfirst hi.symm
    refine ⟨σ.symm ⟨i, hin⟩, ?_, ?_⟩
    · rw [getD_rearrange, dif_pos (Fin.isLt _), Fin.eta, Equiv.apply_symm_apply]
      exact hi
    · rw [getD_rearrange, dif_pos (Fin.isLt _), Fin.eta, Equiv.apply_symm_apply]
      exact hi'

end Row

/-- Keys that are put into a dictionary are there, with those that were there before. -/
theorem Dictionary.get?_foldl_insert_unit {κ : Type} [Ord κ] [Std.TransOrd κ]
    [Std.LawfulEqOrd κ] (entries : List (κ × Unit)) (d : Dictionary κ Unit) (k : κ) :
    (entries.foldl (fun d e => d.insert e.1 e.2) d).get? k = some () ↔
      (k, ()) ∈ entries ∨ d.get? k = some () := by
  induction entries generalizing d with
  | nil => exact (or_iff_right List.not_mem_nil).symm
  | cons e rest ih =>
      rw [List.foldl_cons, ih, get?_insert, List.mem_cons, or_comm (a := (k, ()) = e), or_assoc]
      refine or_congr_right ?_
      by_cases heq : compare k e.1 = .eq
      · obtain rfl := Std.LawfulEqCmp.eq_of_compare heq
        rw [if_pos heq]
        exact iff_of_true rfl (Or.inl rfl)
      · rw [if_neg heq, or_iff_right]
        rintro rfl
        exact heq Std.ReflCmp.compare_self

/-- A dictionary that is filled from keys alone has them all. -/
theorem Dictionary.get?_ofList_unit {κ : Type} [Ord κ] [Std.TransOrd κ] [Std.LawfulEqOrd κ]
    (entries : List (κ × Unit)) (k : κ) :
    (ofList entries).get? k = some () ↔ (k, ()) ∈ entries := by
  rw [ofList, get?_foldl_insert_unit, or_iff_left (by rintro ⟨⟩)]

/-- Rows of one line that answer alike are equal. -/
theorem Row.ext_get? {r r' : Row} (hline : r.line = r'.line)
    (hcells : ∀ c, r.cells.get? c = r'.cells.get? c) : r = r' := by
  have hsame := Dictionary.ext_get? hcells
  cases r
  cases r'
  cases hline
  cases hsame
  rfl

/-! ### The header -/

namespace Header

section Rearrange

variable {width : Nat} (σ : Equiv.Perm (Fin width)) {h : Header}

theorem distinct_rearrange (hlength : h.length ≤ width) (hdistinct : h.Distinct) :
    Distinct (rearrange σ h) := by
  have hperm := ((rearrange_perm σ hlength).filter fun cell => !cell.isEmpty).map Column.ofHeader
  rw [List.filter_append, List.filter_replicate, if_neg (by decide), List.append_nil] at hperm
  exact hperm.nodup_iff.2 hdistinct

theorem fills_rearrange (hlength : h.length ≤ width) {name : String} (hname : name ≠ "") :
    fills (rearrange σ h) name = h.fills name := by
  refine any_rearrange σ hlength ?_
  have hcolumn : Column.ofHeader "" = ⟨"", ""⟩ := rfl
  rw [hcolumn, Bool.and_eq_false_iff]
  exact Or.inl (beq_eq_false_iff_ne.2 hname.symm)

theorem hasDefaultLabel_rearrange (hlength : h.length ≤ width) :
    hasDefaultLabel (rearrange σ h) = h.hasDefaultLabel := by
  rw [hasDefaultLabel, hasDefaultLabel, List.contains_eq_any_beq, List.contains_eq_any_beq]
  exact any_rearrange σ hlength (by decide)

/-- The languages of a header are those of its cells. -/
theorem get?_languages (h : Header) (language : String) :
    h.languages.get? language = some () ↔
      language ≠ "" ∧ ∃ cell ∈ h, (Column.ofHeader cell).language = language := by
  rw [languages, Dictionary.get?_ofList_unit]
  constructor
  · intro hmem
    rcases List.mem_filterMap.1 hmem with ⟨_, hlanguage, hsome⟩
    rcases List.mem_map.1 hlanguage with ⟨cell, hcell, rfl⟩
    split at hsome
    case isTrue => cases hsome
    case isFalse hempty =>
      cases hsome
      exact ⟨fun heq => hempty (String.isEmpty_iff.2 heq), cell, hcell, rfl⟩
  · rintro ⟨hne, cell, hcell, rfl⟩
    refine List.mem_filterMap.2 ⟨_, List.mem_map_of_mem hcell, ?_⟩
    rw [if_neg (fun hempty => hne (String.isEmpty_iff.1 hempty))]

theorem translations_rearrange (hlength : h.length ≤ width) :
    translations (rearrange σ h) = h.translations := by
  have hlanguages : languages (rearrange σ h) = h.languages := by
    refine Dictionary.ext_get? fun language => Option.ext fun _ => ?_
    rw [get?_languages, get?_languages]
    refine and_congr_right fun hne => exists_congr fun cell => and_congr_left fun hcell => ?_
    refine mem_rearrange σ hlength fun hempty => hne ?_
    rw [← hcell, hempty]
    rfl
  rw [translations, translations, hasDefaultLabel_rearrange σ hlength, hlanguages]

theorem keptText_empty (c : Column) : keptText c "" = "" := by
  rw [keptText]
  split <;> rfl

/-- Under distinct columns, a row is the same when the header and its cells are rearranged in
    one way. -/
theorem row_rearrange (hlength : h.length ≤ width) (hdistinct : h.Distinct) (line : Nat)
    (cells : List String) : row (rearrange σ h) line (rearrange σ cells) = h.row line cells := by
  have hline : ∀ (h : Header) (cells : List String), (h.row line cells).line = line := by
    intro h cells
    rw [row_eq_withLine]
    rfl
  refine Row.ext_get? ((hline _ _).trans (hline _ _).symm) fun c => Option.ext fun v => ?_
  rw [get?_row (distinct_rearrange σ hlength hdistinct), get?_row hdistinct]
  -- A row holds the cells that are not empty, under headers that are not empty.
  refine exists_congr fun e => and_congr_left fun ⟨hnamed, _, hkept, hfilled⟩ => ?_
  refine mem_zip_rearrange σ hlength hnamed fun hempty => hfilled ?_
  rw [← hkept, hempty, keptText_empty]

end Rearrange

end Header

/-! ### The sheet -/

section Sheet

variable {width : Nat} (σ : Equiv.Perm (Fin width)) {grid : Grid}

theorem dropWhile_rearrange (hlength : ∀ cells ∈ grid, cells.length ≤ width) :
    (grid.map (rearrange σ)).dropWhile isEmptyRow =
      (grid.dropWhile isEmptyRow).map (rearrange σ) := by
  induction grid with
  | nil => rfl
  | cons cells rest ih =>
      rw [List.forall_mem_cons] at hlength
      rw [List.map_cons, List.dropWhile_cons, List.dropWhile_cons,
        isEmptyRow_rearrange σ hlength.1, ih hlength.2]
      split <;> rfl

theorem rowsBelow_rearrange {h : Header} (hlength : h.length ≤ width) (hdistinct : h.Distinct)
    (hgrid : ∀ cells ∈ grid, cells.length ≤ width) (line : Nat) :
    rowsBelow (rearrange σ h) line (grid.map (rearrange σ)) = rowsBelow h line grid := by
  induction grid generalizing line with
  | nil => rfl
  | cons cells rest ih =>
      rw [List.forall_mem_cons] at hgrid
      rw [List.map_cons, rowsBelow, rowsBelow, isEmptyRow_rearrange σ hgrid.1,
        ih hgrid.2, Header.row_rearrange σ hlength hdistinct]

end Sheet

namespace Layout

/-- What a sheet lacks, and else its rows and languages, are the same after its columns have
    changed places. The columns that are asked for have names. -/
theorem readGrid_rearranged {layout : Layout} (hnames : "" ∉ layout.mandatory) {grid grid' : Grid}
    (hgrid : grid.Rearranged grid')
    (hdistinct : ∀ first ∈ (grid.dropWhile isEmptyRow).head?,
      Header.Distinct (first.map usualHeader)) :
    (layout.readGrid grid').outcome = (layout.readGrid grid).outcome := by
  rcases hgrid with ⟨width, σ, hlength, rfl⟩
  rw [readGrid, readGrid, dropWhile_rearrange σ hlength]
  cases hfirst : grid.dropWhile isEmptyRow with
  | nil => rfl
  | cons first below =>
      rw [hfirst] at hdistinct
      have hsub : ∀ cells ∈ first :: below, cells.length ≤ width := by
        intro cells hcells
        rw [← hfirst] at hcells
        exact hlength cells ((grid.dropWhile_suffix isEmptyRow).subset hcells)
      rw [List.forall_mem_cons] at hsub
      have hheader : (first.map usualHeader).length ≤ width := by
        rw [List.length_map]
        exact hsub.1
      have hmissing : layout.firstMissing (rearrange σ (first.map usualHeader)) =
          layout.firstMissing (first.map usualHeader) := by
        refine List.find?_congr fun name hname => ?_
        rw [Header.fills_rearrange σ hheader (fun hempty => hnames (hempty ▸ hname))]
      rw [List.map_cons]
      dsimp only
      rw [usualHeader_rearrange, hmissing]
      cases layout.firstMissing (first.map usualHeader) with
      | some column => rfl
      | none =>
          simp only [Traced.outcome_bind, Traced.outcome_noteAll, Traced.outcome_pure,
            List.length_map, rowsBelow_rearrange σ hheader (hdistinct first rfl) hsub.2,
            Header.translations_rearrange σ hheader]

theorem read_rearranged {layout : Layout} (hnames : "" ∉ layout.mandatory) {w w' : Workbook}
    (hw : w.Rearranged w') (hdistinct : w.HasDistinctColumns layout.sheet) :
    (layout.read w').outcome = (layout.read w).outcome := by
  have hrows := hw.rows? layout.sheet
  have hcolumns := hdistinct
  rw [Workbook.HasDistinctColumns] at hcolumns
  rw [read, read]
  generalize w.rows? layout.sheet = rows at hrows hcolumns
  generalize w'.rows? layout.sheet = rows' at hrows
  cases hrows with
  | none => rfl
  | @some grid grid' hgrid =>
      rcases hgrid with rfl | hgrid
      · rfl
      · exact readGrid_rearranged hnames hgrid (hcolumns grid rfl)

end Layout

/-! ### The form -/

namespace Form

/-- What is read of a form that does not depend on the grids behind its tables. -/
def content (form : Form) : List Row × List Row × List Row × Dictionary String Unit :=
  (form.survey, form.choices, form.settings, form.languages)

/-- A form has the same rows, with the same cells and lines, and the same languages, or fails
    with the same error, after the columns of its sheets have changed places. -/
theorem decode_rearranged {w w' : Workbook} (hw : w.Rearranged w')
    (hdistinct : ∀ sheet ∈ ["survey", "choices", "settings"], w.HasDistinctColumns sheet) :
    (decode w').outcome.map content = (decode w).outcome.map content := by
  have hsurvey : (Layout.survey.read w').outcome = (Layout.survey.read w).outcome :=
    Layout.read_rearranged (by decide) hw (hdistinct _ (by decide))
  have hchoices : (Layout.choices.read w').outcome = (Layout.choices.read w).outcome :=
    Layout.read_rearranged (by decide) hw (hdistinct _ (by decide))
  have hsettings : (Layout.settings.read w').outcome = (Layout.settings.read w).outcome :=
    Layout.read_rearranged (by decide) hw (hdistinct _ (by decide))
  simp only [decode, Traced.outcome_bind, hsurvey, hchoices, hsettings]
  -- The three sheets were read alike, and only the tables are found in another workbook.
  cases (Layout.survey.read w).outcome with
  | error e => rfl
  | ok survey =>
      cases (Layout.choices.read w).outcome with
      | error e => rfl
      | ok choices =>
          cases (Layout.settings.read w).outcome with
          | error e => rfl
          | ok settings => rfl

end Form

namespace Workbook

/-- A form whose header has a gap, with rows that end before it and rows that go beyond it. -/
def withGap : Workbook :=
  ⟨[⟨"survey", [[], ["type", "name", "", "label::English (en)", "hint::Italian"],
      ["select one c", "a", "x", "A"], [], [" text", "b", "", "B", "due", "y"]]⟩,
    ⟨"choices", [["list_name", "name", "label"], ["c", "x", "X"]]⟩,
    ⟨"notes", [["type", "type"]]⟩]⟩

/-- The same form with the columns of its first two sheets in other places. -/
def withGapMoved : Workbook :=
  ⟨[⟨"survey", [["", "", "", "", "", ""],
      ["label::English (en)", "", "", "type", "hint::Italian", "name"],
      ["A", "", "x", "select one c", "", "a"], ["", "", "", "", "", ""],
      ["B", "y", "", " text", "due", "b"]]⟩,
    ⟨"choices", [["label", "name", "list_name"], ["X", "x", "c"]]⟩,
    ⟨"notes", [["type", "type"]]⟩]⟩

end Workbook

open Workbook in
theorem Form.decode_rearranged_gap :
    withGap.Rearranged withGapMoved ∧
      (∀ sheet ∈ ["survey", "choices", "settings"], withGap.HasDistinctColumns sheet) ∧
      (decode withGapMoved).outcome.map content = (decode withGap).outcome.map content := by
  have hmoved : withGap.Rearranged withGapMoved := by
    refine .cons ⟨rfl, Or.inr ⟨by decide, 6, ?survey, ?_, ?_⟩⟩
      (.cons ⟨rfl, Or.inr ⟨by decide, 3, ?choices, ?_, ?_⟩⟩ (.cons ⟨rfl, Or.inl rfl⟩ .nil))
    case survey => exact (Equiv.swap 0 3).trans (Equiv.swap 1 5)
    case choices => exact Equiv.swap 0 2
    all_goals decide +kernel
  have hdistinct : ∀ sheet ∈ ["survey", "choices", "settings"],
      withGap.HasDistinctColumns sheet := by
    unfold HasDistinctColumns Header.Distinct
    decide +kernel
  exact ⟨hmoved, hdistinct, decode_rearranged hmoved hdistinct⟩

end Questionnaire
