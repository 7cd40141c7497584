import Questionnaire.Document.Field
import Questionnaire.Document.Json
import Questionnaire.Proofs.Document.TableParts

/-!
# Tables and Their Sheets

A table is rectangular, whatever the sheet looks like that it comes from: it has a column
for each header, a row for each label, and a cell wherever a row and a column meet. The
text of that cell is the one on the sheet at the same place, shifted by the margins, or
nothing if the row of the sheet ends before. `Table.Shows` says this of a table and a sheet,
and it is all that there is to say: a table is read from a sheet exactly if it shows it and
the margins are not empty. So whatever else is on the sheet has no influence.

Values of tables are called by their places, and the numbers of the place are the last two
runs of digits of the name. Since no digit is an underscore, the name can be taken apart
again from its end, even if the name of the table looks like that of a value.

## Main definitions

* `TableCell.Shows`, `Table.Shows`: A cell shows a text, and a table shows a sheet.
* `Grid.IsTable`: A sheet has a table on it.
* `Grid.Agrees`: Two sheets are the same where a table is.
* `Row.HasValidCells`: The cells of a question besides those of its kind.

## Theorems

* `Table.ofGrid_eq_ok_iff`, `Table.exists_ofGrid_iff`: Which table is read, and when.
* `cellName_inj`: The name of a value tells its place.
* `Node.table_of_question`: The table of a question.
* `Node.table_of_question_ragged`: A sheet whose rows end early.
-/

namespace Questionnaire

/-! ### What a table shows -/

/-- What a cell shows of a text on the sheet: a value to fill in where there is no text, and
    otherwise the value of the formula that the text is, which nobody can change. -/
def TableCell.Shows (name text : String) (cell : TableCell) : Prop :=
  if text = "" then cell = .input name
  else ∃ formula, Formula.compile text (.cell name) name = .ok formula ∧
    cell = .computed formula ∧
      cell.json = .object [("formula", .string formula), ("editable", .bool false)]

/-- The cell of a table in a row and a column, counted from zero. -/
def Table.cell? (t : Table) (row column : Nat) : Option TableCell :=
  t.rows[row]?.bind fun r => r.cells[column]?

/-- Whether a table is the one on a sheet. It has a column for each header and a row for each
    label, a cell in each row and column, and nothing else. -/
structure Table.Shows (name : String) (grid : Grid) (t : Table) : Prop where
  headers : t.columns.map TableColumn.header = grid.headers
  types : ∀ c ∈ t.columns, c.type ∈ columnTypes
  labels : t.rows.map TableRow.label = grid.labels
  width : ∀ r ∈ t.rows, r.cells.length = t.columns.length
  cells : ∀ i j cell, t.cell? i j = some cell →
    cell.Shows (cellName name i j) (grid.cell (i + 1) (j + 1))

theorem readCell_eq_ok_iff {name text : String} {cell : TableCell} :
    readCell name text = .ok cell ↔ cell.Shows name text := by
  rw [readCell, TableCell.Shows]
  by_cases htext : text = ""
  · rw [if_pos (String.isEmpty_iff.2 htext), if_pos htext, Except.ok.injEq, eq_comm]
  · rw [if_neg (fun h => htext (String.isEmpty_iff.1 h)), if_neg htext, map_eq_ok]
    constructor
    · rintro ⟨formula, hformula, rfl⟩
      exact ⟨formula, hformula, rfl, rfl⟩
    · rintro ⟨formula, hformula, rfl, _⟩
      exact ⟨formula, hformula, rfl⟩

theorem exists_readCell_iff {name text : String} :
    (∃ cell, readCell name text = .ok cell) ↔
      (text ≠ "" → ∃ formula, Formula.compile text (.cell name) name = .ok formula) := by
  simp only [readCell_eq_ok_iff, TableCell.Shows]
  by_cases htext : text = ""
  · simp only [if_pos htext]
    exact iff_of_true ⟨_, rfl⟩ fun hne => absurd htext hne
  · simp only [if_neg htext]
    constructor
    · rintro ⟨_, formula, hformula, _⟩ _
      exact ⟨formula, hformula⟩
    · intro h
      rcases h htext with ⟨formula, hformula⟩
      exact ⟨_, formula, hformula, rfl, rfl⟩

theorem readCells_eq_ok_iff {table : String} {row count : Nat} {texts : List String}
    {cells : List TableCell} :
    readCells table row 0 count texts = .ok cells ↔
      cells.length = count ∧ ∀ j (cell : TableCell), cells[j]? = some cell →
        cell.Shows (cellName table row j) (texts.getD j "") := by
  rw [readCells_eq, mapM_range_eq_ok_iff]
  simp only [Nat.zero_add, readCell_eq_ok_iff]

/-- A sheet has a table if and only if it has headers and labels, and the table shows it. -/
theorem Table.ofGrid_eq_ok_iff {name : String} {line : Nat} {grid : Grid} {t : Table} :
    ofGrid name line (some grid) = .ok t ↔
      grid.headers ≠ [] ∧ grid.labels ≠ [] ∧ t.Shows name grid := by
  rw [ofGrid_eq_ok_iff_parts, mapM_readColumn_eq_ok_iff, readRows_eq_ok_iff]
  simp only [readCells_eq_ok_iff]
  constructor
  · rintro ⟨⟨hheaders, htypes⟩, hne, hlabels, hlabelled, hrows⟩
    refine ⟨?_, hlabels, hheaders, htypes, hlabelled, ?_, ?_⟩
    · rintro hnil
      rw [hnil, List.map_eq_nil_iff] at hheaders
      exact hne hheaders
    · intro r hr
      rcases List.mem_iff_getElem?.1 hr with ⟨i, hi⟩
      exact (hrows i r hi).1
    · intro i j cell hcell
      -- The body is cut out below the first row, and each row of it behind its first cell.
      rcases Option.bind_eq_some_iff.1 hcell with ⟨r, hr, hcell⟩
      have hi : i < grid.labels.length := by
        rw [← hlabelled, List.length_map]
        exact (List.getElem?_eq_some_iff.1 hr).1
      have hshows := (hrows i r hr).2 j cell hcell
      rwa [getD_body grid hi, getD_tail] at hshows
  · rintro ⟨hheaders, hlabels, hshows⟩
    refine ⟨⟨hshows.headers, hshows.types⟩, ?_, hlabels, hshows.labels, ?_⟩
    · intro hnil
      rw [← hshows.headers, hnil] at hheaders
      exact hheaders rfl
    · intro i r hr
      have hi : i < grid.labels.length := by
        rw [← hshows.labels, List.length_map]
        exact (List.getElem?_eq_some_iff.1 hr).1
      refine ⟨hshows.width r (List.mem_of_getElem? hr), fun j cell hcell => ?_⟩
      rw [getD_body grid hi, getD_tail]
      exact hshows.cells i j cell (Option.bind_eq_some_iff.2 ⟨r, hr, hcell⟩)

/-! ### Which sheets have a table -/

/-- Whether there is a table on a sheet, for a question of a name: headers with a type and a
    label, labels, and between them cells that are empty or formulas. -/
structure Grid.IsTable (name : String) (g : Grid) : Prop where
  headers_ne_nil : g.headers ≠ []
  header : ∀ h ∈ g.headers, ∃ type label, h = type ++ " " ++ label ∧ type ∈ columnTypes
  labels_ne_nil : g.labels ≠ []
  cell : ∀ i < g.labels.length, ∀ j < g.headers.length, g.cell (i + 1) (j + 1) ≠ "" →
    ∃ formula, Formula.compile (g.cell (i + 1) (j + 1)) (.cell (cellName name i j))
      (cellName name i j) = .ok formula

/-- In a table that shows a sheet there is a cell for each label and header. -/
theorem Table.Shows.exists_cell {name : String} {grid : Grid} {t : Table}
    (h : t.Shows name grid) {i j : Nat} (hi : i < grid.labels.length)
    (hj : j < grid.headers.length) : ∃ cell, t.cell? i j = some cell := by
  rw [← h.labels, List.length_map] at hi
  rw [← h.headers, List.length_map, ← h.width _ (List.getElem_mem hi)] at hj
  exact ⟨_, Option.bind_eq_some_iff.2
    ⟨_, List.getElem?_eq_getElem hi, List.getElem?_eq_getElem hj⟩⟩

theorem exists_readRows {name : String} {columns : Nat} {labels : List String} {grid : Grid}
    (h : ∀ i < labels.length, ∀ j < columns, ∃ cell,
      readCell (cellName name i j) ((grid.getD i []).getD (j + 1) "") = .ok cell) :
    ∃ rows, readRows name columns 0 labels grid = .ok rows := by
  rw [readRows_eq]
  refine exists_mapM_eq_ok_iff.2 fun i hi => ?_
  have hcells : ∃ cells, readCells name (0 + i) 0 columns (grid.getD i []).tail = .ok cells := by
    rw [readCells_eq]
    refine exists_mapM_eq_ok_iff.2 fun j hj => ?_
    rw [Nat.zero_add, Nat.zero_add, getD_tail]
    exact h i (List.mem_range.1 hi) j (List.mem_range.1 hj)
  rcases hcells with ⟨cells, hcells⟩
  exact ⟨_, map_eq_ok.2 ⟨cells, hcells, rfl⟩⟩

/-- A table can be read from a sheet if and only if there is one. -/
theorem Table.exists_ofGrid_iff {name : String} (line : Nat) {grid : Grid} :
    (∃ t, ofGrid name line (some grid) = .ok t) ↔ grid.IsTable name := by
  constructor
  · rintro ⟨t, ht⟩
    rcases ofGrid_eq_ok_iff.1 ht with ⟨hheaders, hlabels, hshows⟩
    refine ⟨hheaders, fun h hh => ?_, hlabels, fun i hi j hj htext => ?_⟩
    · rw [← hshows.headers] at hh
      rcases List.mem_map.1 hh with ⟨c, hc, rfl⟩
      exact ⟨c.type, c.label, rfl, hshows.types c hc⟩
    · rcases hshows.exists_cell hi hj with ⟨cell, hcell⟩
      have hread := readCell_eq_ok_iff.2 (hshows.cells i j cell hcell)
      exact exists_readCell_iff.1 ⟨cell, hread⟩ htext
  · intro h
    have hcolumns : ∃ columns, grid.headers.mapM readColumn = .ok columns := by
      refine exists_mapM_eq_ok_iff.2 fun header hheader => ?_
      rcases h.header header hheader with ⟨type, label, rfl, htype⟩
      exact ⟨⟨type, label⟩, readColumn_eq_ok_iff.2 ⟨rfl, htype⟩⟩
    rcases hcolumns with ⟨columns, hcolumns⟩
    have hlength : columns.length = grid.headers.length := by
      rw [← (mapM_readColumn_eq_ok_iff.1 hcolumns).1, List.length_map]
    have hrows : ∃ rows, readRows name columns.length 0 grid.labels
        ((grid.take (grid.labels.length + 1)).drop 1) = .ok rows := by
      refine exists_readRows fun i hi j hj => exists_readCell_iff.2 ?_
      rw [getD_body grid hi]
      exact h.cell i hi j (hlength ▸ hj)
    rcases hrows with ⟨rows, hrows⟩
    have hne : columns ≠ [] := by
      rintro rfl
      exact h.headers_ne_nil (List.length_eq_zero_iff.1 hlength.symm)
    exact ⟨⟨columns, rows⟩, ofGrid_eq_ok_iff_parts.2 ⟨hcolumns, hne, h.labels_ne_nil, hrows⟩⟩

/-! ### The names of the values of a table -/

/-- The last occurrence of a character divides a text in one way. -/
theorem append_cons_inj {sep : Char} {as bs cs ds : List Char} (hbs : sep ∉ bs) (hds : sep ∉ ds)
    (h : as ++ sep :: bs = cs ++ sep :: ds) : as = cs ∧ bs = ds := by
  have hreverse : bs.reverse ++ sep :: as.reverse = ds.reverse ++ sep :: cs.reverse := by
    have hboth := congrArg List.reverse h
    simpa only [List.reverse_append, List.reverse_cons, List.append_assoc,
      List.singleton_append] using hboth
  -- Read backwards, it is the first occurrence.
  have hsplit := Text.splitOnce?_eq_some_iff.2 ⟨hreverse, mt List.mem_reverse.1 hds⟩
  rw [Text.splitOnce?_eq_some_iff.2 ⟨rfl, mt List.mem_reverse.1 hbs⟩, Option.some.injEq,
    Prod.mk.injEq, List.reverse_inj, List.reverse_inj] at hsplit
  exact hsplit.symm

theorem toList_cellName (table : String) (row column : Nat) :
    (cellName table row column).toList =
      (table.toList ++ '_' :: '_' :: Nat.toDigits 10 row ++ ['_']) ++
        '_' :: Nat.toDigits 10 column := by
  rw [cellName]
  simp only [String.toList_append, Nat.toString_eq_repr, Nat.toList_repr, List.append_assoc]
  rfl

/-- The name of a value tells its table, its row and its column. -/
theorem cellName_inj {table table' : String} {row row' column column' : Nat}
    (h : cellName table row column = cellName table' row' column') :
    table = table' ∧ row = row' ∧ column = column' := by
  have hdigits : ∀ n, '_' ∉ Nat.toDigits 10 n := by
    intro n hmem
    cases Nat.isDigit_of_mem_toDigits (by decide) (by decide) hmem
  have htext := congrArg String.toList h
  rw [toList_cellName, toList_cellName] at htext
  rcases append_cons_inj (hdigits _) (hdigits _) htext with ⟨hfront, hcolumn⟩
  -- Before the last underscore the same argument holds for the number of the row.
  have hfront := List.append_cancel_right hfront
  rw [List.append_cons, List.append_cons table'.toList] at hfront
  rcases append_cons_inj (hdigits _) (hdigits _) hfront with ⟨htable, hrow⟩
  exact ⟨String.toList_inj.1 (List.append_cancel_right htable), Number.toDigits_injective hrow,
    Number.toDigits_injective hcolumn⟩

/-! ### What a table depends on -/

/-- Whether another sheet has the same margins and the same texts between them. -/
structure Grid.Agrees (g other : Grid) : Prop where
  headers : other.headers = g.headers
  labels : other.labels = g.labels
  cell : ∀ i < g.labels.length, ∀ j < g.headers.length,
    other.cell (i + 1) (j + 1) = g.cell (i + 1) (j + 1)

/-- A table has no other cells than those between its labels and its headers. -/
theorem Table.Shows.lt_of_cell {name : String} {grid : Grid} {t : Table} (h : t.Shows name grid)
    {i j : Nat} {cell : TableCell} (hcell : t.cell? i j = some cell) :
    i < grid.labels.length ∧ j < grid.headers.length := by
  rcases Option.bind_eq_some_iff.1 hcell with ⟨r, hr, hcell⟩
  rw [← h.labels, ← h.headers, List.length_map, List.length_map,
    ← h.width r (List.mem_of_getElem? hr)]
  exact ⟨(List.getElem?_eq_some_iff.1 hr).1, (List.getElem?_eq_some_iff.1 hcell).1⟩

theorem Table.Shows.congr {name : String} {grid other : Grid} {t : Table}
    (h : t.Shows name grid) (hagrees : grid.Agrees other) : t.Shows name other := by
  refine ⟨h.headers.trans hagrees.headers.symm, h.types, h.labels.trans hagrees.labels.symm,
    h.width, fun i j cell hcell => ?_⟩
  rcases h.lt_of_cell hcell with ⟨hi, hj⟩
  rw [hagrees.cell i hi j hj]
  exact h.cells i j cell hcell

/-- The values to fill in of a table have the names of their cells. -/
theorem Table.Shows.eq_cellName {name : String} {grid : Grid} {t : Table} (h : t.Shows name grid)
    {i j : Nat} {value : String} (hcell : t.cell? i j = some (.input value)) :
    value = cellName name i j := by
  have hshows := h.cells i j _ hcell
  rw [TableCell.Shows] at hshows
  split at hshows
  case isTrue => exact TableCell.input.inj hshows
  case isFalse =>
    rcases hshows with ⟨_, _, hcomputed, _⟩
    cases hcomputed

/-! ### The question of a table -/

/-- The table of a node that is one. -/
def Node.table? (n : Node) : Option Table :=
  n.field?.bind fun f =>
    match f.kind with
    | .table t => some t
    | _ => none

/-- Whether the cells of a question are as they may be, but for those that only its kind asks
    for. -/
structure Row.HasValidCells (r : Row) : Prop where
  default : ∃ formula, r.compileFilled r.default .default = .ok formula
  editable : ∃ editable, r.editable = .ok editable
  validation : ∃ validation, Validation.ofRow r = .ok validation
  visibility : ∃ condition, r.visibility = .ok condition

theorem Node.exists_ofQuestion_iff {tables : Dictionary String Grid} {r : Row} :
    (∃ n, ofQuestion tables r = .ok n) ↔
      r.HasValidCells ∧ ∃ kind, FieldKind.ofRow tables r = .ok kind := by
  constructor
  · rintro ⟨n, h⟩
    rw [ofQuestion] at h
    rcases bind_eq_ok.1 h with ⟨default, hdefault, h⟩
    rcases bind_eq_ok.1 h with ⟨editable, heditable, h⟩
    rcases bind_eq_ok.1 h with ⟨validation, hvalidation, h⟩
    rcases bind_eq_ok.1 h with ⟨kind, hkind, h⟩
    rcases bind_eq_ok.1 h with ⟨visibility, hvisibility, h⟩
    exact ⟨⟨⟨_, Failure.lift_eq_ok.1 hdefault⟩, ⟨_, Failure.lift_eq_ok.1 heditable⟩,
      ⟨_, Failure.lift_eq_ok.1 hvalidation⟩, ⟨_, Failure.lift_eq_ok.1 hvisibility⟩⟩, kind, hkind⟩
  · rintro ⟨⟨⟨default, hdefault⟩, ⟨editable, heditable⟩, ⟨validation, hvalidation⟩,
      ⟨visibility, hvisibility⟩⟩, kind, hkind⟩
    rw [ofQuestion, hdefault, heditable, hvalidation, hkind, hvisibility]
    exact ⟨_, rfl⟩

theorem Node.kind_of_ofQuestion {tables : Dictionary String Grid} {r : Row} {n : Node}
    (h : ofQuestion tables r = .ok n) :
    ∃ f, n.field? = some f ∧ FieldKind.ofRow tables r = .ok f.kind := by
  rw [ofQuestion] at h
  rcases bind_eq_ok.1 h with ⟨default, _, h⟩
  rcases bind_eq_ok.1 h with ⟨editable, _, h⟩
  rcases bind_eq_ok.1 h with ⟨validation, _, h⟩
  rcases bind_eq_ok.1 h with ⟨kind, hkind, h⟩
  rcases bind_eq_ok.1 h with ⟨visibility, _, h⟩
  cases h
  exact ⟨_, rfl, hkind⟩

theorem FieldKind.ofRow_table {tables : Dictionary String Grid} {r : Row}
    (hkind : r.kind = .question .table) :
    ofRow tables r = (Table.ofGrid r.name r.line (tables.get? r.name)).map table := by
  rw [ofRow, hkind]
  rfl

/-- The node of such a question has the table of its sheet. -/
theorem Node.table?_of_ofQuestion {tables : Dictionary String Grid} {r : Row} {n : Node}
    (hkind : r.kind = .question .table) (h : ofQuestion tables r = .ok n) :
    ∃ grid t, tables.get? r.name = some grid ∧ n.table? = some t ∧
      Table.ofGrid r.name r.line (some grid) = .ok t := by
  rcases kind_of_ofQuestion h with ⟨f, hf, hfield⟩
  rw [FieldKind.ofRow_table hkind] at hfield
  rcases map_eq_ok.1 hfield with ⟨t, ht, hkind⟩
  cases hgrid : tables.get? r.name with
  | none =>
      rw [hgrid] at ht
      cases ht
  | some grid =>
      rw [hgrid] at ht
      exact ⟨grid, t, rfl, by rw [table?, hf, Option.bind_some, ← hkind], ht⟩

/-- A question with a sheet of its own becomes a table if and only if there is one on the sheet,
    its other cells being valid. The table shows the sheet, depends on nothing else of it,
    and gives its values names that no other value of a table has. -/
theorem Node.table_of_question {tables : Dictionary String Grid} {r : Row} {grid : Grid}
    (hkind : r.kind = .question .table) (hgrid : tables.get? r.name = some grid) :
    ((∃ n, ofQuestion tables r = .ok n) ↔ r.HasValidCells ∧ grid.IsTable r.name) ∧
      ∀ n, ofQuestion tables r = .ok n → ∃ t, n.table? = some t ∧ t.Shows r.name grid ∧
        (∀ tables' other, tables'.get? r.name = some other → grid.Agrees other →
          ofQuestion tables' r = .ok n) ∧
        ∀ tables' r' n' t', r'.kind = .question .table → ofQuestion tables' r' = .ok n' →
          n'.table? = some t' → ∀ i j i' j' value, t.cell? i j = some (.input value) →
            t'.cell? i' j' = some (.input value) → r'.name = r.name ∧ i' = i ∧ j' = j := by
  have hrow : FieldKind.ofRow tables r =
      (Table.ofGrid r.name r.line (some grid)).map .table := by
    rw [FieldKind.ofRow_table hkind, hgrid]
  refine ⟨?_, fun n hn => ?_⟩
  · rw [exists_ofQuestion_iff, hrow, ← Table.exists_ofGrid_iff r.line]
    refine and_congr_right fun _ => ⟨?_, ?_⟩
    · rintro ⟨kind, h⟩
      rcases map_eq_ok.1 h with ⟨t, ht, _⟩
      exact ⟨t, ht⟩
    · rintro ⟨t, ht⟩
      exact ⟨_, map_eq_ok.2 ⟨t, ht, rfl⟩⟩
  · rcases table?_of_ofQuestion hkind hn with ⟨grid', t, hgrid', ht, htable⟩
    rw [hgrid] at hgrid'
    cases hgrid'
    rcases Table.ofGrid_eq_ok_iff.1 htable with ⟨hheaders, hlabels, hshows⟩
    refine ⟨t, ht, hshows, fun tables' other hother hagrees => ?_, ?_⟩
    -- Another sheet that agrees has the same table, and nothing else is taken from a sheet.
    · have hsame : FieldKind.ofRow tables' r = FieldKind.ofRow tables r := by
        have hread : Table.ofGrid r.name r.line (some other) = .ok t :=
          Table.ofGrid_eq_ok_iff.2 ⟨hagrees.headers ▸ hheaders, hagrees.labels ▸ hlabels,
            hshows.congr hagrees⟩
        rw [hrow, FieldKind.ofRow_table hkind, hother, hread, htable]
      rw [← hn, ofQuestion, ofQuestion, hsame]
    · intro tables' r' n' t' hkind' hn' ht' i j i' j' value hcell hcell'
      rcases table?_of_ofQuestion hkind' hn' with ⟨_, t'', _, ht'', htable'⟩
      rw [ht', Option.some.injEq] at ht''
      subst ht''
      have hvalue := (Table.ofGrid_eq_ok_iff.1 htable').2.2.eq_cellName hcell'
      exact cellName_inj (hvalue.symm.trans (hshows.eq_cellName hcell))

/-- A sheet whose second row ends early, with a column and a row behind an empty header and a
    row without cells. -/
theorem Node.table_of_question_ragged :
    let grid : Grid := [["", "number N", "text a b", "", "date D"], ["A", "1+1"],
      ["B", "", "js: 2"], [], ["C", "("]]
    let tables : Dictionary String Grid := .ofList [("t", grid)]
    let r : Row := .ofCells 2 [("type", "table"), ("name", "t")]
    let t : Table := ⟨[⟨"number", "N"⟩, ⟨"text", "a b"⟩],
      [⟨"A", [.computed "1 + 1", .input "t__0__1"]⟩, ⟨"B", [.input "t__1__0", .computed "2"]⟩]⟩
    r.kind = .question .table ∧ tables.get? r.name = some grid ∧
      ∃ n, ofQuestion tables r = .ok n ∧ n.table? = some t ∧ t.Shows r.name grid := by
  intro grid tables r t
  have hkind : r.kind = .question .table := by decide
  have hgrid : tables.get? r.name = some grid := by decide
  refine ⟨hkind, hgrid, exists_of_any (fun n => n.table? == some t) ?_ fun n hn hcomputed => ?_⟩
  · decide +kernel
  · rcases (table_of_question hkind hgrid).2 n hn with ⟨t', ht', hshows, _⟩
    have ht : n.table? = some t := beq_iff_eq.1 hcomputed
    rw [ht, Option.some.injEq] at ht'
    subst ht'
    exact ⟨ht, hshows⟩

end Questionnaire
