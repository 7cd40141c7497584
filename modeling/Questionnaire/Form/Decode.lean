import Questionnaire.Form.Basic
import Questionnaire.Notice
import Questionnaire.Text.Split

/-!
# Reading the Sheets of a Form

A form is spread over a survey sheet, a choices sheet and, if it has tags, a
settings sheet. In each, the first row that is not empty is the header, and
every row below it that is not empty is a row of the sheet, filled cell by cell
under its headers. The line of a row counts from one over all rows of the grid.

A layout says what a sheet has to hold. A mandatory column may be present in the
default language or in English. Any further column of the choices is its
author's own and is kept; further columns of the other sheets are kept too, but
nothing reads them, so a notice is given.

Two spellings are brought into one form on the way: the header `list_name`, and
the types of rows that are written with other blanks or underscores.

## Main definitions

* `Layout`: What a sheet has to hold.
* `DecodeError`: What a workbook lacks.
* `Header`: The first row of a sheet that is not empty.
* `Layout.read`: The rows of a sheet and the languages of its header.
* `Form.decode`: The form that a workbook holds.
-/

namespace Questionnaire

/-- What a sheet has to hold. -/
structure Layout where
  /-- The name of the sheet. -/
  sheet : String
  /-- Whether a form has to have the sheet. -/
  isMandatory : Bool
  /-- The columns that the header has to name, in the order they are asked for. -/
  mandatory : List String
  /-- The columns that the header may name. -/
  optional : List String
  /-- Whether further columns are data too. -/
  keepsOwnColumns : Bool
deriving DecidableEq, Repr

namespace Layout

/-- The questions and groups of a form. -/
def survey : Layout :=
  ⟨"survey", true, ["type", "name", "label"],
    ["hint", "relevant", "constraint", "constraint_message", "calculation", "required",
      "required_message", "repeat_count", "readonly", "default", "appearance", "choice_filter",
      "parameters"],
    false⟩

/-- The choices of a form. -/
def choices : Layout :=
  ⟨"choices", true, ["list name", "name", "label"], [], true⟩

/-- The tags of a form. -/
def settings : Layout :=
  ⟨"settings", false, [], ["tag label", "tag value"], false⟩

/-- Whether the layout has a column of a name. -/
def hasColumn (layout : Layout) (name : String) : Bool :=
  layout.mandatory.contains name || layout.optional.contains name

end Layout

/-- What a workbook lacks to be read as a form. -/
inductive DecodeError
  | missingSheet (sheet : String)
  | emptySheet (sheet : String)
  | missingColumn (column sheet : String)
deriving DecidableEq, Repr

/-- What a workbook lacks, in words. -/
def DecodeError.message : DecodeError → String
  | missingSheet sheet => "Missing mandatory sheet " ++ Text.quoted sheet ++ "."
  | emptySheet sheet => "Empty sheet " ++ Text.quoted sheet ++ "."
  | missingColumn column sheet =>
    "Column " ++ Text.quoted column ++ " in sheet " ++ Text.quoted sheet ++ " is mandatory."

/-- A header cell in its usual spelling. -/
def usualHeader (cell : String) : String :=
  if cell = "list_name" then "list name" else cell

/-- The type of a survey row in its usual spelling. -/
def usualType (cell : String) : String :=
  let t := Text.trim cell
  match t with
  | "begin_group" => "begin group"
  | "end_group" => "end group"
  | "begin_repeat" => "begin repeat"
  | "end_repeat" => "end repeat"
  | _ =>
    match Text.afterStart? "select one " t, Text.afterStart? "select multiple " t with
    | some list, _ => "select_one " ++ list
    | none, some list => "select_multiple " ++ list
    | none, none => t

/-- Whether all cells of a row of a grid are empty. -/
def isEmptyRow (cells : List String) : Bool :=
  cells.all String.isEmpty

/-- The cells of a header row, in their usual spelling. -/
abbrev Header := List String

namespace Header

/-- The languages that a header speaks of, the default one left out. -/
def languages (h : Header) : Dictionary String Unit :=
  .ofList ((h.map fun cell => (Column.ofHeader cell).language).filterMap fun language =>
    if language.isEmpty then none else some (language, ()))

/-- Whether a header has labels in the default language. -/
def hasDefaultLabel (h : Header) : Bool :=
  h.contains "label"

/-- The languages that rows under a header are translated to. English is none of
    them if its labels stand in for those of the default language. -/
def translations (h : Header) : Dictionary String Unit :=
  if h.hasDefaultLabel then h.languages else h.languages.erase Column.fallbackLanguage

/-- Whether a header names a column for the default language. -/
def fills (h : Header) (name : String) : Bool :=
  h.any fun cell =>
    let column := Column.ofHeader cell
    column.name == name && column.fillsDefault

/-- The cells of a header that name no column of a layout. -/
def unknown (h : Header) (layout : Layout) : List String :=
  if layout.keepsOwnColumns then []
  else h.filter fun cell => !cell.isEmpty && !layout.hasColumn (Column.ofHeader cell).name

/-- The row of some cells under a header. Cells without a header are dropped. -/
def row (h : Header) (line : Nat) (cells : List String) : Row :=
  .ofCells line (((h.zip cells).filter fun entry => !entry.1.isEmpty).map fun (header, cell) =>
    if (Column.ofHeader header).name = "type" then (header, usualType cell) else (header, cell))

end Header

/-- The rows below a header. `line` is the line of the first of them. -/
def rowsBelow (header : Header) (line : Nat) : Grid → List Row
  | [] => []
  | cells :: rest =>
    if isEmptyRow cells then rowsBelow header (line + 1) rest
    else header.row line cells :: rowsBelow header (line + 1) rest

namespace Layout

/-- The first mandatory column that a header does not name. -/
def firstMissing (layout : Layout) (header : Header) : Option String :=
  layout.mandatory.find? fun name => !header.fills name

/-- The rows of a sheet, and the languages that they are translated to. -/
def readGrid (layout : Layout) (grid : Grid) :
    Traced DecodeError (List Row × Dictionary String Unit) :=
  match grid.dropWhile isEmptyRow with
  | [] => .ofExcept (.error (.emptySheet layout.sheet))
  | first :: below => do
    let header : Header := first.map usualHeader
    match layout.firstMissing header with
    | some column => .ofExcept (.error (.missingColumn column layout.sheet))
    | none =>
      .noteAll ((header.unknown layout).map (.ignoredColumn layout.sheet))
      return (rowsBelow header (grid.length - below.length + 1) below, header.translations)

/-- The rows and languages of the sheet of a layout. A sheet that is not there has
    neither, if the form may do without it. -/
def read (layout : Layout) (w : Workbook) :
    Traced DecodeError (List Row × Dictionary String Unit) :=
  match w.rows? layout.sheet with
  | some grid => layout.readGrid grid
  | none =>
    if layout.isMandatory then .ofExcept (.error (.missingSheet layout.sheet))
    else return ([], .empty)

end Layout

namespace Form

/-- The languages of two sheets. -/
def mergeLanguages (a b : Dictionary String Unit) : Dictionary String Unit :=
  b.keys.foldl (fun d language => d.insert language ()) a

/-- The grids behind the tables of a survey: the sheets that have the names of
    their questions. -/
def tablesOf (w : Workbook) (survey : List Row) : Dictionary String Grid :=
  .ofList (survey.filterMap fun row =>
    if row.type = "table" then (w.rows? row.name).map fun grid => (row.name, grid) else none)

/-- The form that a workbook holds. -/
def decode (w : Workbook) : Traced DecodeError Form := do
  let (survey, surveyLanguages) ← Layout.survey.read w
  let (choices, choicesLanguages) ← Layout.choices.read w
  let (settings, _) ← Layout.settings.read w
  let tables := tablesOf w survey
  Traced.note (.decoded survey.length choices.length settings.length tables.size)
  return ⟨survey, choices, settings, tables, mergeLanguages surveyLanguages choicesLanguages⟩

end Form

end Questionnaire
