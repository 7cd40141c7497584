import Questionnaire.Spreadsheet.CellReference
import Questionnaire.Spreadsheet.SharedTexts
import Questionnaire.Text.Blank

/-!
# Worksheets

A worksheet lists its cells row by row. A row may give its number and a cell its
reference; where they do not, they stand right after the row or the cell before
them. The type of a cell says how its text is meant: as the index of a shared
text, a truth value, a text with escaped characters, or as it stands.

The grid of a worksheet has a row for every row up to the last one with a cell
that is not empty, and each row ends with its last such cell. If two cells have
one position, the later one counts.

Positions are numbers of 64 bits. A worksheet that counts past them is not read.

## Main definitions

* `Cell`: A text at a position.
* `WorksheetState`: How far a worksheet has been read.
* `WorksheetState.next`: The state after an event.
* `gridOf`: The grid of some cells.
* `readWorksheet`: The grid of a worksheet.
-/

namespace Questionnaire

namespace Spreadsheet

/-- A text at a position. -/
structure Cell where
  position : CellPosition
  text : String
deriving DecidableEq, Repr

/-- A cell whose element is open. -/
structure OpenCell where
  position : CellPosition
  /-- The type of the cell, if it has one. -/
  type : Option String
  text : List Char
deriving DecidableEq, Repr

/-- How far a worksheet has been read. -/
structure WorksheetState where
  /-- The cells read, the last one first. -/
  cells : List Cell
  /-- The row of a cell without a reference. -/
  row : Nat
  /-- The column of a cell without a reference. -/
  column : Nat
  cell : Option OpenCell
  inValue : Bool
  inText : Bool
deriving DecidableEq, Repr

/-- The number after a position. -/
def successor (n : Nat) : Except ReadError Nat :=
  if n + 1 < Number.wordBound then .ok (n + 1) else .error .positionOverflow

/-- The index of the row that a tag gives, counted from zero. -/
def rowIndex? (tag : Xml.Tag) : Option Nat :=
  (tag.attribute? "r").bind fun r => (Number.readNatural? r.toList).map (· - 1)

/-- The text of a cell that refers to a shared text. -/
def sharedText (shared : List String) (c : OpenCell) : Traced ReadError String :=
  let text := String.ofList c.text
  match (Number.readNatural? (Text.trim text).toList).bind (shared[·]?) with
  | some found => return found
  | none => do
    Traced.note (.unknownSharedText text c.position.row c.position.column)
    return ""

/-- The text of a truth value. -/
def truthText (cs : List Char) : String :=
  match String.ofList cs with
  | "1" => "true"
  | "0" => "false"
  | _ => String.ofList (cs.map Char.toLower)

/-- The text of a cell, by its type. -/
def cellText (shared : List String) (c : OpenCell) : Traced ReadError String :=
  match c.type with
  | some "s" => sharedText shared c
  | some "b" => return truthText c.text
  | some "inlineStr" | some "str" => return String.ofList (unescape c.text)
  | _ => return String.ofList c.text

namespace WorksheetState

/-- Nothing has been read. -/
def start : WorksheetState :=
  ⟨[], 0, 0, none, false, false⟩

/-- The cell that a tag begins, in the worksheet of a sheet. -/
def openCell (sheet : String) (s : WorksheetState) (tag : Xml.Tag) :
    Except ReadError OpenCell := do
  let position ← match tag.attribute? "r" with
    | none => .ok ⟨s.row, s.column⟩
    | some reference =>
      match CellPosition.ofReference? reference.toList with
      | some position => .ok position
      | none => .error (.cellReference sheet reference)
  return ⟨position, tag.attribute? "t", []⟩

/-- The state after the opening tag of an element. -/
def opened (sheet : String) (s : WorksheetState) (tag : Xml.Tag) :
    Except ReadError WorksheetState :=
  if tag.isCalled "row" then .ok { s with row := (rowIndex? tag).getD s.row, column := 0 }
  else if tag.isCalled "c" then do
    let cell ← s.openCell sheet tag
    return { s with cell := some cell }
  else if tag.isCalled "v" then .ok { s with inValue := s.inValue || s.cell.isSome }
  else if tag.isCalled "t" then .ok { s with inText := s.inText || s.cell.isSome }
  else .ok s

/-- The state after an element that is empty by its tag. -/
def passedEmpty (sheet : String) (s : WorksheetState) (tag : Xml.Tag) :
    Except ReadError WorksheetState :=
  if tag.isCalled "row" then do
    let row ← successor ((rowIndex? tag).getD s.row)
    return { s with row, column := 0 }
  else if tag.isCalled "c" then do
    let cell ← s.openCell sheet tag
    let column ← successor cell.position.column
    return { s with column }
  else .ok s

/-- The state after some text. -/
def addText (s : WorksheetState) (content : Xml.Source) : Except ReadError WorksheetState :=
  match s.cell with
  | none => .ok s
  | some cell =>
    if s.inValue || s.inText then do
      let cs ← resolveText content
      return { s with cell := some { cell with text := cell.text ++ cs } }
    else .ok s

/-- The state after the closing tag of a cell. Empty cells are not kept. -/
def closeCell (shared : List String) (s : WorksheetState) : Traced ReadError WorksheetState :=
  match s.cell with
  | none => return s
  | some cell => do
    let column ← Traced.ofExcept (successor cell.position.column)
    let text ← cellText shared cell
    return { s with
      cell := none, column,
      cells := if text.isEmpty then s.cells else ⟨cell.position, text⟩ :: s.cells }

/-- The state after the closing tag of an element. -/
def closed (shared : List String) (s : WorksheetState) (name : Xml.Source) :
    Traced ReadError WorksheetState :=
  if name = Xml.Source.ofString "v" then return { s with inValue := false }
  else if name = Xml.Source.ofString "t" then return { s with inText := false }
  else if name = Xml.Source.ofString "c" then s.closeCell shared
  else if name = Xml.Source.ofString "row" then do
    let row ← Traced.ofExcept (successor s.row)
    return { s with row }
  else return s

/-- The state after an event. -/
def next (sheet : String) (shared : List String) (s : WorksheetState) :
    Xml.Event → Traced ReadError WorksheetState
  | .opening tag => Traced.ofExcept (s.opened sheet tag)
  | .empty tag => Traced.ofExcept (s.passedEmpty sheet tag)
  | .text content => Traced.ofExcept (s.addText content)
  | .closing name => s.closed shared (Xml.Tag.withoutPrefix name)

end WorksheetState

/-- The number of rows that some cells need. -/
def rowCount (cells : List Cell) : Nat :=
  cells.foldl (fun n c => max n (c.position.row + 1)) 0

/-- The number of columns that some cells need. -/
def columnCount (cells : List Cell) : Nat :=
  cells.foldl (fun n c => max n (c.position.column + 1)) 0

/-- The text that the cells of a row have in a column. -/
def textAt (cells : List Cell) (column : Nat) : String :=
  (((cells.filter fun c => c.position.column == column).getLast?).map Cell.text).getD ""

/-- The row of some cells. -/
def rowOf (cells : List Cell) : List String :=
  (List.range (columnCount cells)).map (textAt cells)

/-- The grid of some cells. -/
def gridOf (cells : List Cell) : Grid :=
  (List.range (rowCount cells)).map fun row =>
    rowOf (cells.filter fun c => c.position.row == row)

/-- The grid of the worksheet at a path, which belongs to a sheet. -/
def readWorksheet (a : Archive) (shared : List String) (sheet path : String) :
    Traced ReadError Grid := do
  let part ← Traced.ofExcept (a.require path)
  let s ← readPart (WorksheetState.next sheet shared) .start part
  if rowCount s.cells < Number.wordBound then return gridOf s.cells.reverse
  else Traced.ofExcept (.error .positionOverflow)

end Spreadsheet

end Questionnaire
