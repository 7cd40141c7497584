import Questionnaire.Files.Tree
import Questionnaire.Spreadsheet.Read

/-!
# Opening a Spreadsheet

A path says by its extension what kind of file it leads to, and only spreadsheets
are read. The extension may be written in small or capital letters.

## Main definitions

* `OpenError`: Why a path does not lead to a workbook.
* `isSpreadsheetPath`: Whether a path has the extension of a spreadsheet.
* `openWorkbook`: The workbook that a path leads to.
-/

namespace Questionnaire

namespace Spreadsheet

/-- Why a path does not lead to a workbook. -/
inductive OpenError
  /-- No kind of spreadsheet has the extension. -/
  | unsupported (path : Path)
  | file (fault : FileFault)
  | reading (error : ReadError)
deriving DecidableEq, Repr

namespace OpenError

/-- Why a path does not lead to a workbook, in words. -/
def message : OpenError → String
  | unsupported path => "Unsupported file format: " ++ path
  | file fault => "IO error: " ++ fault.message
  | reading error => error.message

end OpenError

/-- Whether a path has the extension of a spreadsheet. -/
def isSpreadsheetPath (p : Path) : Bool :=
  match p.extension?.map String.toLower with
  | some "xlsx" | some "xlsm" => true
  | _ => false

/-- The archive that is at the end of a path. -/
def openArchive (fs : Files) (p : Path) : Except OpenError Archive :=
  if !isSpreadsheetPath p then .error (.unsupported p)
  else match fs.read p with
    | .error fault => .error (.file fault)
    | .ok (.archive a) => .ok a
    | .ok _ => .error (.reading .notAnArchive)

/-- The workbook that a path leads to. -/
def openWorkbook (fs : Files) (p : Path) : Traced OpenError Workbook := do
  let a ← Traced.ofExcept (openArchive fs p)
  (readArchive a).mapError .reading

end Spreadsheet

end Questionnaire
