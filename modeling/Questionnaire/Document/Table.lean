import Questionnaire.Document.Failure
import Questionnaire.Document.Node
import Questionnaire.Formula.Compile

/-!
# Tables

A question that is a table is laid out on a sheet of its own, named like the
question. The first row holds, from the second cell on, the type and label of
each column; each row below begins with its label. Both lists end at the first
empty cell. The cells between them are formulas or, where they are empty, values
to fill in.

A value in a table has a name, made from the name of the question and the row
and column of its cell, counted from zero. Other formulas of the form refer to
it by that name, and a formula in the cell refers to itself by it too.

The parts of the sheet are cut out by their indices, and a part that the sheet
does not have is a defect. The sizes are looked at before, so none ever is.

## Main definitions

* `slice`: A part of a list, by its indices.
* `readColumn`: A column from its header cell.
* `readColumns`: The columns of a table.
* `rowLabels`: The labels of its rows.
* `readCell`, `readRow`: A cell, and the cells of a row.
* `Table.ofGrid`: The table on a sheet.

## Theorems

* `slice_eq_ok`: A part that lies within the list.
-/

namespace Questionnaire

/-- The part of a list from an index up to another. Both have to lie within the list. -/
def slice {α : Type} (xs : List α) (start stop : Nat) : Except Defect (List α) :=
  if start ≤ stop ∧ stop ≤ xs.length then .ok ((xs.take stop).drop start)
  else .error (.outOfRange stop xs.length)

theorem slice_eq_ok {α : Type} {xs : List α} {start stop : Nat} (hle : start ≤ stop)
    (hlength : stop ≤ xs.length) : slice xs start stop = .ok ((xs.take stop).drop start) :=
  if_pos ⟨hle, hlength⟩

/-- The types that a column of a table may have. -/
def columnTypes : List String :=
  ["number", "text", "date"]

/-- A column of a table, from its header cell. -/
def readColumn (header : String) : Except TableFault TableColumn :=
  match Text.splitOnce? ' ' header.toList with
  | none => .error (.headerFormat header)
  | some (type, label) =>
    let type := String.ofList type
    if columnTypes.contains type then .ok ⟨type, String.ofList label⟩
    else .error (.unknownColumnType type)

/-- The columns of a table, from the cells of its first row after the first one. -/
def readColumns : List String → Except TableFault (List TableColumn)
  | [] => .ok []
  | header :: rest =>
    if header.isEmpty then .ok []
    else do
      let column ← readColumn header
      let columns ← readColumns rest
      return column :: columns

/-- The labels of the rows of a table, from the rows below its first one. -/
def rowLabels : Grid → List String
  | [] => []
  | cells :: rest =>
    match cells.head? with
    | some label => if label.isEmpty then [] else label :: rowLabels rest
    | none => []

/-- The name of the value of a cell, counted from zero. -/
def cellName (table : String) (row column : Nat) : String :=
  table ++ "__" ++ toString row ++ "__" ++ toString column

/-- A cell of a table, by its name and its text on the sheet. -/
def readCell (name text : String) : Except Formula.Error TableCell :=
  if text.isEmpty then .ok (.input name)
  else (Formula.compile text (.cell name) name).map .computed

/-- Cells of the row `row` of a table, from the column `column` on: as many as
    `count`, with the texts there are. -/
def readCells (table : String) (row : Nat) :
    (column count : Nat) → List String → Except Formula.Error (List TableCell)
  | _, 0, _ => .ok []
  | column, count + 1, texts => do
    let cell ← readCell (cellName table row column) (texts.headD "")
    let cells ← readCells table row (column + 1) count texts.tail
    return cell :: cells

/-- Rows of a table, from the row `row` on: one for each label. -/
def readRows (table : String) (columns : Nat) :
    (row : Nat) → (labels : List String) → Grid → Except Formula.Error (List TableRow)
  | _, [], _ => .ok []
  | row, label :: labels, grid => do
    let cells ← readCells table row 0 columns (grid.headD []).tail
    let rows ← readRows table columns (row + 1) labels grid.tail
    return ⟨label, cells⟩ :: rows

/-- A fault of the table of a name. -/
def tableFault {α : Type} (name : String) (fault : TableFault) : Except Failure α :=
  Failure.lift (.error (.table name fault))

/-- The columns and the row labels of the table on a sheet. -/
def readMargins (name : String) (grid : Grid) :
    Except Failure (List TableColumn × List String) := do
  if grid.length < 2 then tableFault name .noRows
  else
    let first := (← Failure.assert (slice grid 0 1)).headD []
    if first.length < 2 then tableFault name .noColumns
    else
      let headers ← Failure.assert (slice first 1 first.length)
      let columns ← Failure.lift ((readColumns headers).mapError (.table name))
      let below ← Failure.assert (slice grid 1 grid.length)
      if columns.isEmpty then tableFault name .noColumns
      else if (rowLabels below).isEmpty then tableFault name .noRows
      else return (columns, rowLabels below)

/-- The table on the sheet of a question in a line of the survey. -/
def Table.ofGrid (name : String) (line : Nat) (grid? : Option Grid) : Except Failure Table :=
  match grid? with
  | none => tableFault name .sheetNotFound
  | some grid => do
    let (columns, labels) ← readMargins name grid
    let body ← Failure.assert (slice grid 1 (labels.length + 1))
    let rows ← Failure.lift
      ((readRows name columns.length 0 labels body).mapError (.formula line))
    return ⟨columns, rows⟩

end Questionnaire
