import Mathlib.Data.List.GetD
import Questionnaire.Document.Table
import Questionnaire.Proofs.Outcome

/-!
# The Parts of the Sheet Behind a Table

The sheet behind a table has margins, its headers and its labels, and a body between them.
Headers and labels end where a cell is empty, and both are told here by the cells of the
sheet alone: as the beginning of its first row behind the first cell, and as the beginning
of its first column below the first one.

The reading of a sheet goes down its rows and along their cells with a name that counts
both. Here it is the same computation for each index, so what is read is known as soon as
each cell is, and a row that ends early is read like one that goes on with empty cells.

## Main definitions

* `Grid.headers`, `Grid.labels`: The margins of a sheet.
* `TableColumn.header`: How a column is written.

## Theorems

* `readColumn_eq_ok_iff`: A column is read as it is written.
* `readMargins_eq_ok_iff`: When the margins of a sheet are read.
* `readCells_eq`, `readRows_eq`: Each cell and each row by its index.
* `Table.ofGrid_eq_ok_iff_parts`: The table of a sheet by its parts.
-/

namespace Questionnaire

/-! ### The margins of a sheet -/

namespace Grid

/-- The headers of the columns: the first row behind its first cell, up to an empty cell. -/
def headers (g : Grid) : List String :=
  (g.headD []).tail.takeWhile fun text => !text.isEmpty

/-- The labels of the rows: the first cells below the first row, up to an empty or missing
    one. -/
def labels (g : Grid) : List String :=
  (g.tail.map fun cells => cells.headD "").takeWhile fun text => !text.isEmpty

end Grid

/-- The header of a column, as it is written. -/
def TableColumn.header (c : TableColumn) : String :=
  c.type ++ " " ++ c.label

theorem rowLabels_eq (grid : Grid) :
    rowLabels grid =
      (grid.map fun cells => cells.headD "").takeWhile fun text => !text.isEmpty := by
  induction grid with
  | nil => rfl
  | cons cells rest ih =>
      rw [rowLabels, List.map_cons, List.takeWhile_cons, ih]
      cases cells with
      | nil => rfl
      | cons label others =>
          rw [List.head?_cons, List.headD_cons]
          dsimp only
          cases label.isEmpty <;> rfl

theorem readColumn_eq_ok_iff {header : String} {c : TableColumn} :
    readColumn header = .ok c ↔ c.header = header ∧ c.type ∈ columnTypes := by
  have hblank : ∀ type ∈ columnTypes, ' ' ∉ type.toList := by decide
  have hheader : c.header = header ↔
      header.toList = c.type.toList ++ ' ' :: c.label.toList := by
    rw [TableColumn.header, ← String.toList_inj, String.toList_append, String.toList_append,
      List.append_assoc, eq_comm]
    rfl
  rw [readColumn]
  constructor
  · intro h
    split at h
    case h_1 => cases h
    case h_2 type label hsplit =>
      rcases Text.splitOnce?_eq_some_iff.1 hsplit with ⟨htext, _⟩
      dsimp only at h
      split at h
      case isTrue htype =>
        cases h
        rw [hheader, String.toList_ofList, String.toList_ofList]
        exact ⟨htext, List.contains_iff_mem.1 htype⟩
      case isFalse => cases h
  · rintro ⟨hwritten, htype⟩
    rw [Text.splitOnce?_eq_some_iff.2 ⟨hheader.1 hwritten, hblank _ htype⟩]
    dsimp only
    rw [String.ofList_toList, String.ofList_toList, if_pos (List.contains_iff_mem.2 htype)]

/-- Headers are read as the columns that they are written for. -/
theorem mapM_readColumn_eq_ok_iff {headers : List String} {columns : List TableColumn} :
    headers.mapM readColumn = .ok columns ↔
      columns.map TableColumn.header = headers ∧ ∀ c ∈ columns, c.type ∈ columnTypes := by
  rw [mapM_eq_ok_iff]
  induction columns generalizing headers with
  | nil =>
      rw [List.map_nil, List.map_nil, List.map_eq_nil_iff]
      exact ⟨fun h => ⟨h.symm, List.forall_mem_nil _⟩, fun h => h.1.symm⟩
  | cons c columns ih =>
      cases headers with
      | nil => exact iff_of_false (by rintro ⟨⟩) (by rintro ⟨⟨⟩, _⟩)
      | cons header headers =>
          rw [List.map_cons, List.map_cons, List.map_cons, List.cons.injEq, List.cons.injEq,
            readColumn_eq_ok_iff, ih, List.forall_mem_cons]
          exact and_and_and_comm

theorem readColumns_eq (texts : List String) :
    readColumns texts = (texts.takeWhile fun text => !text.isEmpty).mapM readColumn := by
  induction texts with
  | nil => rfl
  | cons header rest ih =>
      rw [readColumns, List.takeWhile_cons]
      cases header.isEmpty with
      | true => rfl
      | false =>
          rw [if_neg Bool.false_ne_true, ih, Bool.not_false, if_pos rfl, List.mapM_cons]

theorem slice_behind_first {α : Type} (x : α) (xs : List α) :
    slice (x :: xs) 1 (x :: xs).length = .ok xs := by
  rw [slice_eq_ok (by simp) (Nat.le_refl _), List.take_length]
  rfl

theorem assert_ok_bind {α β : Type} (a : α) (f : α → Except Failure β) :
    (Failure.assert (.ok a) >>= f) = f a :=
  rfl

/-- The margins of a sheet with more than one row and more than one column. -/
theorem readMargins_cons (name corner header : String) (headers second : List String)
    (rest : Grid) :
    readMargins name ((corner :: header :: headers) :: second :: rest) = do
      let columns ← Failure.lift ((readColumns (header :: headers)).mapError (.table name))
      if columns.isEmpty then tableFault name .noColumns
      else if (rowLabels (second :: rest)).isEmpty then tableFault name .noRows
      else return (columns, rowLabels (second :: rest)) := by
  have hfirst : slice ((corner :: header :: headers) :: second :: rest) 0 1 =
      .ok [corner :: header :: headers] := slice_eq_ok (Nat.zero_le 1) (by simp)
  rw [readMargins, if_neg (by simp), hfirst, assert_ok_bind, List.headD_cons]
  dsimp only
  rw [if_neg (by simp), slice_behind_first, slice_behind_first]
  rfl

/-- The margins are read if neither columns nor labels are none. -/
theorem readMargins_eq_ok_iff {name : String} {grid : Grid} {columns : List TableColumn}
    {labels : List String} :
    readMargins name grid = .ok (columns, labels) ↔
      grid.headers.mapM readColumn = .ok columns ∧ grid.labels = labels ∧ columns ≠ [] ∧
        labels ≠ [] := by
  match grid with
  | [] => exact iff_of_false (by rintro ⟨⟩) fun h => h.2.2.2 h.2.1.symm
  | [first] => exact iff_of_false (by rintro ⟨⟩) fun h => h.2.2.2 h.2.1.symm
  -- A first row with no cell behind its first one has no headers.
  | [] :: _ :: _ => exact iff_of_false (by rintro ⟨⟩) fun h => h.2.2.1 (Except.ok.inj h.1).symm
  | [_] :: _ :: _ => exact iff_of_false (by rintro ⟨⟩) fun h => h.2.2.1 (Except.ok.inj h.1).symm
  | (corner :: header :: headers) :: second :: rest =>
      have hheaders : Grid.headers ((corner :: header :: headers) :: second :: rest) =
          (header :: headers).takeWhile fun text => !text.isEmpty := rfl
      have hlabels : Grid.labels ((corner :: header :: headers) :: second :: rest) =
          rowLabels (second :: rest) := (rowLabels_eq _).symm
      rw [readMargins_cons, hheaders, hlabels, ← readColumns_eq]
      constructor
      · intro h
        rcases bind_eq_ok.1 h with ⟨columns', hcolumns, h⟩
        split at h
        case isTrue => cases h
        case isFalse hne =>
          split at h
          case isTrue => cases h
          case isFalse hne' =>
            cases h
            refine ⟨mapError_eq_ok.1 (Failure.lift_eq_ok.1 hcolumns), rfl, ?_, ?_⟩
            · exact fun heq => hne (List.isEmpty_iff.2 heq)
            · exact fun heq => hne' (List.isEmpty_iff.2 heq)
      · rintro ⟨hcolumns, rfl, hne, hne'⟩
        rw [hcolumns]
        change (if columns.isEmpty then _ else if _ then _ else Except.ok _) = _
        rw [if_neg (fun h => hne (List.isEmpty_iff.1 h)),
          if_neg (fun h => hne' (List.isEmpty_iff.1 h))]

/-! ### The body of a sheet -/

theorem getD_tail {α : Type} (xs : List α) (i : Nat) (d : α) :
    xs.tail.getD i d = xs.getD (i + 1) d := by
  cases xs <;> rfl

theorem readCells_eq (table : String) (row column count : Nat) (texts : List String) :
    readCells table row column count texts =
      (List.range count).mapM fun j =>
        readCell (cellName table row (column + j)) (texts.getD j "") := by
  induction count generalizing column texts with
  | zero => rfl
  | succ count ih =>
      rw [readCells, mapM_range_succ, ih]
      simp only [List.headD_eq_getD, getD_tail, Nat.add_zero, Nat.add_assoc, Nat.add_comm 1]

theorem readRows_eq (table : String) (columns row : Nat) (labels : List String) (grid : Grid) :
    readRows table columns row labels grid =
      (List.range labels.length).mapM fun i =>
        (readCells table (row + i) 0 columns (grid.getD i []).tail).map
          (TableRow.mk (labels.getD i "")) := by
  induction labels generalizing row grid with
  | nil => rfl
  | cons label labels ih =>
      rw [readRows, List.length_cons, mapM_range_succ, ih]
      simp only [List.headD_eq_getD, getD_tail, Nat.add_zero, Nat.add_assoc, Nat.add_comm 1,
        List.getD_cons_succ]
      cases readCells table row 0 columns (grid.getD 0 []).tail <;> rfl

theorem readRows_eq_ok_iff {table : String} {columns : Nat} {labels : List String} {grid : Grid}
    {rows : List TableRow} :
    readRows table columns 0 labels grid = .ok rows ↔
      rows.map TableRow.label = labels ∧ ∀ i r, rows[i]? = some r →
        readCells table i 0 columns (grid.getD i []).tail = .ok r.cells := by
  have hrow : ∀ i (r : TableRow),
      ((readCells table (0 + i) 0 columns (grid.getD i []).tail).map
        (TableRow.mk (labels.getD i "")) = .ok r) ↔
      readCells table i 0 columns (grid.getD i []).tail = .ok r.cells ∧
        r.label = labels.getD i "" := by
    intro i r
    rw [map_eq_ok, Nat.zero_add]
    constructor
    · rintro ⟨cells, hcells, rfl⟩
      exact ⟨hcells, rfl⟩
    · rintro ⟨hcells, hlabel⟩
      exact ⟨r.cells, hcells, by rw [← hlabel]⟩
  rw [readRows_eq, mapM_range_eq_ok_iff]
  simp only [hrow]
  constructor
  · rintro ⟨hlength, h⟩
    refine ⟨List.ext_getElem (by rw [List.length_map, hlength]) fun i hi hi' => ?_,
      fun i r hr => (h i r hr).1⟩
    rw [List.length_map] at hi
    rw [List.getElem_map, (h i _ (List.getElem?_eq_getElem hi)).2, List.getD_eq_getElem?_getD,
      List.getElem?_eq_getElem hi', Option.getD_some]
  · rintro ⟨rfl, h⟩
    refine ⟨(List.length_map _).symm, fun i r hr => ⟨h i r hr, ?_⟩⟩
    rw [List.getD_eq_getElem?_getD, List.getElem?_map, hr]
    rfl

/-! ### The table -/

theorem Grid.length_labels_lt {grid : Grid} (h : grid.labels ≠ []) :
    grid.labels.length + 1 ≤ grid.length := by
  cases grid with
  | nil => exact absurd rfl h
  | cons first rest =>
      have hle := (List.takeWhile_prefix (fun text : String => !text.isEmpty)
        (l := rest.map fun cells => cells.headD "")).length_le
      rw [List.length_map] at hle
      rw [List.length_cons]
      exact Nat.succ_le_succ hle

/-- The rows below the first one, cut out of a sheet. -/
theorem getD_body (grid : Grid) {count i : Nat} (h : i < count) :
    ((grid.take (count + 1)).drop 1).getD i [] = grid.getD (i + 1) [] := by
  rw [List.getD_eq_getElem?_getD, List.getD_eq_getElem?_getD, List.getElem?_drop,
    Nat.add_comm 1 i, List.getElem?_take_of_lt (by omega)]

theorem Table.ofGrid_eq_ok_iff_parts {name : String} {line : Nat} {grid : Grid} {t : Table} :
    ofGrid name line (some grid) = .ok t ↔
      grid.headers.mapM readColumn = .ok t.columns ∧ t.columns ≠ [] ∧ grid.labels ≠ [] ∧
        readRows name t.columns.length 0 grid.labels
          ((grid.take (grid.labels.length + 1)).drop 1) = .ok t.rows := by
  rw [ofGrid]
  constructor
  · intro h
    rcases bind_eq_ok.1 h with ⟨⟨columns, labels⟩, hmargins, h⟩
    rcases bind_eq_ok.1 h with ⟨body, hbody, h⟩
    rcases bind_eq_ok.1 h with ⟨rows, hrows, h⟩
    cases h
    rcases readMargins_eq_ok_iff.1 hmargins with ⟨hcolumns, rfl, hne, hlabels⟩
    rw [slice_eq_ok (Nat.le_add_left 1 _) (Grid.length_labels_lt hlabels)] at hbody
    cases hbody
    exact ⟨hcolumns, hne, hlabels, mapError_eq_ok.1 (Failure.lift_eq_ok.1 hrows)⟩
  · rintro ⟨hcolumns, hne, hlabels, hrows⟩
    have hmargins : readMargins name grid = .ok (t.columns, grid.labels) :=
      readMargins_eq_ok_iff.2 ⟨hcolumns, rfl, hne, hlabels⟩
    rw [hmargins]
    refine bind_eq_ok.2 ⟨_, rfl, ?_⟩
    dsimp only
    rw [slice_eq_ok (Nat.le_add_left 1 _) (Grid.length_labels_lt hlabels), assert_ok_bind, hrows]
    rfl

end Questionnaire
