import Questionnaire.Spreadsheet.Catalog
import Questionnaire.Spreadsheet.Worksheet

/-!
# Reading a Spreadsheet

From an archive to a workbook: the shared texts, the catalog of sheets, and then
the worksheets in the order of the catalog. A sheet whose relation leads to no
worksheet, such as a sheet that only holds a chart, is left out.

## Main definitions

* `contentTypesPath`: The part that makes an archive a spreadsheet.
* `readSheet`: A workbook with one more sheet.
* `readArchive`: The workbook of an archive.
-/

namespace Questionnaire

namespace Spreadsheet

/-- The path of the part that makes an archive a spreadsheet. -/
def contentTypesPath : String :=
  "[Content_Types].xml"

/-- A workbook with the sheet of an entry of the catalog at its end. -/
def readSheet (a : Archive) (shared : List String) (paths : Dictionary String String)
    (w : Workbook) (entry : String × String) : Traced ReadError Workbook :=
  match paths.get? entry.2 with
  | none => do
    Traced.note (.skippedSheet entry.1)
    return w
  | some path => do
    let grid ← readWorksheet a shared entry.1 path
    Traced.note (.readSheet entry.1 grid.length)
    Traced.ofExcept ((w.add ⟨entry.1, grid⟩).mapError .sheetName)

/-- The workbook of an archive. -/
def readArchive (a : Archive) : Traced ReadError Workbook := do
  if !a.contains contentTypesPath then Traced.ofExcept (.error .notASpreadsheet)
  let shared ← readSharedTexts a
  let names ← readSheetNames a
  let paths ← readWorksheetPaths a
  names.foldlM (readSheet a shared paths) .empty

end Spreadsheet

end Questionnaire
