import Questionnaire.Text.Quoted

/-!
# Workbooks

A workbook is a sequence of sheets, and a sheet is a name and a grid of texts.
The rows of a grid may differ in length; a cell beyond the end of its row reads
as empty. Names of sheets are unique and not empty, which is checked where a
sheet is added, so a sheet can be asked for by name.

## Main definitions

* `Grid`, `Sheet`, `Workbook`: Rows of texts, with a name, in a sequence.
* `Workbook.add`: The workbook with one more sheet.
* `Workbook.rows?`: The grid of the sheet of a name.
* `SheetNameError`: Why a sheet cannot be added.
-/

namespace Questionnaire

/-- Rows of cell texts. -/
abbrev Grid := List (List String)

namespace Grid

/-- The text of a cell, counted from zero; empty outside the grid. -/
def cell (g : Grid) (row column : Nat) : String :=
  (g.getD row []).getD column ""

end Grid

/-- A named grid. -/
structure Sheet where
  name : String
  rows : Grid
deriving DecidableEq, Repr, Inhabited

/-- Why a sheet cannot be added to a workbook. -/
inductive SheetNameError
  /-- The name cannot name a sheet. -/
  | invalid (name : String)
  /-- Another sheet has the name. -/
  | duplicate (name : String)
deriving DecidableEq, Repr

/-- Why a sheet cannot be added, in words. -/
def SheetNameError.message : SheetNameError → String
  | invalid name => "Invalid sheet name: " ++ Text.quoted name
  | duplicate name => "Sheet name already exists: " ++ name

/-- A sequence of sheets. -/
structure Workbook where
  sheets : List Sheet
deriving DecidableEq, Repr, Inhabited

namespace Workbook

/-- The workbook without sheets. -/
def empty : Workbook :=
  ⟨[]⟩

/-- The sheet of a name. -/
def sheet? (w : Workbook) (name : String) : Option Sheet :=
  w.sheets.find? fun s => s.name == name

/-- The grid of the sheet of a name. -/
def rows? (w : Workbook) (name : String) : Option Grid :=
  (w.sheet? name).map Sheet.rows

/-- The names of the sheets, in order. -/
def names (w : Workbook) : List String :=
  w.sheets.map Sheet.name

/-- The workbook with a sheet added at its end. -/
def add (w : Workbook) (sheet : Sheet) : Except SheetNameError Workbook :=
  if sheet.name.isEmpty then .error (.invalid sheet.name)
  else if (w.sheet? sheet.name).isSome then .error (.duplicate sheet.name)
  else .ok ⟨w.sheets ++ [sheet]⟩

/-- The workbook of some sheets, added in order. -/
def ofSheets (sheets : List Sheet) : Except SheetNameError Workbook :=
  sheets.foldlM add empty

end Workbook

end Questionnaire
