import Questionnaire.Dictionary
import Questionnaire.Notice
import Questionnaire.Sheet.Workbook
import Questionnaire.Xml.Event

/-!
# Archives

A spreadsheet file is an archive of parts, each found by its path: a table of the
texts that cells share, a list of the sheets, a list of the parts that belong to
them, and a part for every worksheet. All of them are XML, and each is read by
walking over its events.

## Main definitions

* `Archive`: Parts by their paths.
* `ReadError`: Why a spreadsheet cannot be read.
* `ReadError.message`: The reason in words.
* `readPart`: A walk over the events of a part.
-/

namespace Questionnaire

namespace Spreadsheet

/-- The parts of a spreadsheet file, by their paths. -/
abbrev Archive := Dictionary String Xml.Source

/-- Why a spreadsheet cannot be read. -/
inductive ReadError
  /-- The file is no archive. -/
  | notAnArchive
  /-- The archive is no spreadsheet. -/
  | notASpreadsheet
  | missingPart (path : String)
  /-- A part is not well formed. -/
  | malformed
  | cellReference (sheet reference : String)
  | sheetName (error : SheetNameError)
  /-- A position does not fit into 64 bits. -/
  | positionOverflow
deriving DecidableEq, Repr

/-- What a file lacks to be an archive, in words. -/
def noArchiveText : String :=
  "invalid Zip archive: Could not find EOCD"

/-- Why a spreadsheet cannot be read, in words. -/
def ReadError.message : ReadError → String
  | notAnArchive => "ZIP error: " ++ noArchiveText
  | notASpreadsheet => "Invalid XLSX format: Missing [Content_Types].xml"
  | missingPart path => "Missing required part: " ++ path
  | malformed => "XML error"
  | cellReference sheet reference =>
    "Invalid cell reference " ++ Text.quoted reference ++ " in " ++ Text.quoted sheet
  | sheetName error => error.message
  | positionOverflow => "attempt to add with overflow"

/-- A part that an archive has to have. -/
def Archive.require (a : Archive) (path : String) : Except ReadError Xml.Source :=
  match a.get? path with
  | some part => .ok part
  | none => .error (.missingPart path)

/-- A walk over the events of a part. A fault of the markup ends it after the events
    before it. -/
def readPart {σ : Type} (step : σ → Xml.Event → Traced ReadError σ) (start : σ)
    (part : Xml.Source) : Traced ReadError σ := do
  let events := Xml.Events.ofSource part
  let s ← events.events.foldlM step start
  if events.isWellFormed then return s else Traced.ofExcept (.error .malformed)

/-- The text of a piece of a part, with its references replaced. -/
def resolveText (content : Xml.Source) : Except ReadError (List Char) :=
  match Xml.resolve content with
  | some cs => .ok cs
  | none => .error .malformed

end Spreadsheet

end Questionnaire
