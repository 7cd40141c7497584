import Mathlib.Data.List.Forall2
import Questionnaire.Proofs.Choices
import Questionnaire.Proofs.Document.Conversion
import Questionnaire.Proofs.Form.Columns
import Questionnaire.Proofs.Form.Rows

/-!
# Columns of the Author's Own

From the grid of the choices sheet to the choices of a document: the rows below the
header are read, the rows of one list are brought together, and each makes a choice.
None of this looks at what is in the columns of the author's own, with one exception.
A column called `type` is read as the types of a survey are, also where the sheet has
no types, so a text in it may come out in another spelling. That is `keptText`, and
`type_not_verbatim` is a choice where it makes a difference.

## Main definitions

* `Header.rowsOf`: The rows of a list, in the grid of a sheet.
* `Header.Keeps`: A choice that has the cells of a row as its attributes.

## Theorems

* `Header.choicesOf_rowsBelow`: The choices of a list, by the rows of the grid.
* `Workbook.keeps_of_convert`: What the choices of a document have as attributes.
* `Workbook.type_not_verbatim`: A cell that is not kept as it is.
-/

namespace Questionnaire

namespace Header

/-- The rows below a header that are not empty and name a list. -/
def rowsOf (h : Header) (below : Grid) (list : String) : Grid :=
  below.filter fun cells => !isEmptyRow cells && (h.row 0 cells).listName == list

/-- A choice has the filled cells of a row, in the columns that are its author's own, as its
    attributes: each under the text of its column, and none but these. -/
def Keeps (h : Header) (cells : List String) (choice : Choice) : Prop :=
  ∀ k v, choice.own.get? k = some v ↔
    ∃ e ∈ h.zip cells, e.1 ≠ "" ∧ (Column.ofHeader e.1).IsOwn ∧
      (Column.ofHeader e.1).header = k ∧ keptText (Column.ofHeader e.1) e.2 = v ∧ v ≠ ""

theorem keeps_ofRow {h : Header} (hdistinct : h.Distinct) (cells : List String) :
    h.Keeps cells (.ofRow (h.row 0 cells)) := by
  have hread : ∀ c ∈ (h.row 0 cells).columns, c.IsRead := by
    intro c hc
    rcases List.mem_map.1 hc with ⟨⟨_, v⟩, hentry, rfl⟩
    rcases (get?_row hdistinct 0 cells _ v).1 ((Dictionary.get?_eq_some_iff _ _ _).2 hentry) with
      ⟨e, _, _, rfl, _⟩
    exact Column.isRead_ofHeader e.1
  intro k v
  rw [Choice.get?_own hread]
  simp only [get?_row hdistinct]
  constructor
  · rintro ⟨c, hown, hkey, e, he, hnamed, rfl, htext⟩
    exact ⟨e, he, hnamed, hown, hkey, htext⟩
  · rintro ⟨e, he, hnamed, hown, hkey, htext⟩
    exact ⟨_, hown, hkey, e, he, hnamed, rfl, htext⟩

/-- The choices of a list are those of its rows, wherever these stand in the sheet. -/
theorem choicesOf_rowsBelow (h : Header) (line : Nat) (below : Grid) (list : String) :
    ChoiceLists.choicesOf (rowsBelow h line below) list =
      (h.rowsOf below list).map fun cells => .ofRow (h.row 0 cells) := by
  induction below generalizing line with
  | nil => rfl
  | cons cells rest ih =>
      rw [rowsBelow, rowsOf, List.filter_cons]
      by_cases hempty : isEmptyRow cells = true
      · rw [if_pos hempty, hempty]
        exact ih (line + 1)
      · have hname : ((h.row 0 cells).withLine line).listName = (h.row 0 cells).listName := rfl
        rw [if_neg hempty, ChoiceLists.choicesOf_cons, ih (line + 1), row_eq_withLine h line,
          hname, Bool.eq_false_iff.2 hempty, Bool.not_false, Bool.true_and]
        by_cases hlist : (h.row 0 cells).listName = list
        · rw [if_pos (beq_iff_eq.2 hlist), if_pos hlist]
          rfl
        · rw [if_neg (fun heq => hlist (beq_iff_eq.1 heq)), if_neg hlist]
          rfl

end Header

namespace Form

/-- The choices sheet of a form, by the grid that it was read from. -/
theorem choices_of_decode {w : Workbook} {form : Form} {grid below : Grid}
    {first : List String} (h : (Form.decode w).outcome = .ok form)
    (hgrid : w.rows? "choices" = some grid) (hfirst : grid.dropWhile isEmptyRow = first :: below) :
    ∃ line, form.choices = rowsBelow (first.map usualHeader) line below := by
  rcases (read_of_decode h).2.1 with ⟨languages, hread⟩
  rw [Layout.read, show Layout.choices.sheet = "choices" from rfl, hgrid] at hread
  rcases Layout.readGrid_eq_ok hread with ⟨first', below', hfirst', hrows⟩
  rw [hfirst] at hfirst'
  cases hfirst'
  exact ⟨_, hrows⟩

end Form

namespace Workbook

/-- The choices of a document, list by list, have the cells of their rows in the author's
    own columns as attributes. Every row that is not empty has a choice, unless its list is
    only declared by it. -/
theorem keeps_of_convert {w : Workbook} {doc : Document} {grid below : Grid}
    {first : List String} (h : w.convert.outcome = .ok doc)
    (hgrid : w.rows? "choices" = some grid) (hfirst : grid.dropWhile isEmptyRow = first :: below)
    (hdistinct : Header.Distinct (first.map usualHeader)) :
    (∀ list choices, (list, choices) ∈ doc.choiceLists →
      List.Forall₂ (Header.Keeps (first.map usualHeader))
        (Header.rowsOf (first.map usualHeader) below list) choices) ∧
    ∀ cells ∈ below, isEmptyRow cells = false →
      let r := Header.row (first.map usualHeader) 0 cells
      (∃ choices, (r.listName, choices) ∈ doc.choiceLists) ∨
        Header.rowsOf (first.map usualHeader) below r.listName = [cells] ∧
          r.name = "" ∧ r.label "" = "" := by
  rw [convert, Traced.outcome_bind] at h
  rcases bind_eq_ok.1 h with ⟨form, hdecode, hconvert⟩
  rw [Traced.outcome_mapError] at hdecode
  rcases Form.choices_of_decode (mapError_eq_ok.1 hdecode) hgrid hfirst with ⟨line, hrows⟩
  rw [(Form.convert_eq_ok_iff.1 hconvert).listed, Form.choiceLists, hrows]
  generalize first.map usualHeader = header at hdistinct ⊢
  simp only [ChoiceLists.mem_listed_ofRows_iff, Header.choicesOf_rowsBelow]
  constructor
  · rintro list _ ⟨rfl, _, _⟩
    rw [List.forall₂_map_right_iff, List.forall₂_same]
    exact fun cells _ => Header.keeps_ofRow hdistinct cells
  · intro cells hcells hfilled
    generalize hlist : (Header.row header 0 cells).listName = list
    have hmem : cells ∈ Header.rowsOf header below list := by
      refine List.mem_filter.2 ⟨hcells, ?_⟩
      rw [hfilled, hlist]
      exact beq_self_eq_true _
    have hsome : (Header.rowsOf header below list).map
        (fun cells => Choice.ofRow (Header.row header 0 cells)) ≠ [] :=
      List.ne_nil_of_mem (List.mem_map_of_mem hmem)
    cases hplaceholder : isPlaceholder ((Header.rowsOf header below list).map
        fun cells => Choice.ofRow (Header.row header 0 cells)) with
    | false => exact Or.inl ⟨_, rfl, hsome, hplaceholder⟩
    | true =>
        -- The one row of the list is the row itself.
        rcases ChoiceLists.isPlaceholder_iff.1 hplaceholder with
          ⟨choice, hchoices, hvalue, hlabel⟩
        rcases List.map_eq_singleton_iff.1 hchoices with ⟨only, honly, rfl⟩
        rw [honly] at hmem ⊢
        cases List.mem_singleton.1 hmem
        exact Or.inr ⟨rfl, hvalue, hlabel⟩

/-- A form with a list of two choices, in columns of which two are its author's own. -/
def withKinds : Workbook :=
  ⟨[⟨"survey", [["type", "name", "label"], ["select_one c", "a", "A"]]⟩,
    ⟨"choices", [["list_name", "name", "label", "type", "type::Italian (it)"],
      ["c", "x", "X", " begin_group ", "uno"], [], ["c", "y", "Y", "", "due"]]⟩]⟩

theorem keeps_of_convert_kinds :
    let header := ["list name", "name", "label", "type", "type::Italian (it)"]
    let below := [["c", "x", "X", " begin_group ", "uno"], [], ["c", "y", "Y", "", "due"]]
    ∃ doc, withKinds.convert.outcome = .ok doc ∧
      (∀ list choices, (list, choices) ∈ doc.choiceLists →
        List.Forall₂ (Header.Keeps header) (Header.rowsOf header below list) choices) ∧
      ∀ cells ∈ below, isEmptyRow cells = false →
        let r := Header.row header 0 cells
        (∃ choices, (r.listName, choices) ∈ doc.choiceLists) ∨
          Header.rowsOf header below r.listName = [cells] ∧ r.name = "" ∧ r.label "" = "" := by
  dsimp only
  refine exists_of_any (fun _ => true) ?accepted fun doc h _ =>
    keeps_of_convert h rfl rfl ?distinct
  · decide +kernel
  · unfold Header.Distinct
    decide +kernel

/-- In a column called `type`, a cell is not kept as it is. -/
theorem type_not_verbatim :
    Header.Distinct ["list name", "name", "label", "type", "type::Italian (it)"] ∧
      withKinds.rows? "choices" =
        some [["list_name", "name", "label", "type", "type::Italian (it)"],
          ["c", "x", "X", " begin_group ", "uno"], [], ["c", "y", "Y", "", "due"]] ∧
      ∃ doc, withKinds.convert.outcome = .ok doc ∧
        doc.choiceLists.map (fun l => (l.1, l.2.map fun c => c.own.entries)) =
          [("c", [[("type", "begin group"), ("type::Italian", "uno")],
            [("type::Italian", "due")]])] := by
  refine ⟨?distinct, rfl, ?document⟩
  · unfold Header.Distinct
    decide +kernel
  · refine exists_of_any (fun doc => doc.choiceLists.map
        (fun l => (l.1, l.2.map fun c => c.own.entries)) ==
          [("c", [[("type", "begin group"), ("type::Italian", "uno")],
            [("type::Italian", "due")]])]) ?computed fun doc _ hlists => beq_iff_eq.1 hlists
    decide +kernel

end Workbook

end Questionnaire
