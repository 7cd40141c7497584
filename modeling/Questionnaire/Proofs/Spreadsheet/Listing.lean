import Questionnaire.Proofs.Spreadsheet.CellReference
import Questionnaire.Proofs.Spreadsheet.Escape
import Questionnaire.Proofs.Spreadsheet.Item

/-!
# Listings of Cells

A worksheet is a listing of cells in rows. Rows and cells may say where they stand,
in any order, or leave it out and stand right after the row or the cell before them.
A listing keeps what was written, in this form; where its cells stand and what they
show is said without a reader, so that the two can be compared.

Nothing is said of elements that are no rows, cells or parts of strings. They are
asides, and may stand everywhere.

## Main definitions

* `CellElement`, `RowElement`, `Listing`: A worksheet as it is written.
* `Listing.rows`, `Listing.cells`: Rows and cells with the places where they stand.
* `Listing.IsCounted`: A worksheet whose positions are numbers of 64 bits.
* `CellElement.Shows`: The text that a cell shows.
-/

namespace Questionnaire

namespace Spreadsheet

/-- A part of a cell: a value, or a string that is written in the cell. -/
inductive CellPart
  | value (t : TextElement "v")
  | inline (tag : Xml.Tag) (called : tag.isCalled "is" = true) (item : List (Entry ItemPart))

namespace CellPart

/-- The events of a part. -/
def events : CellPart → List Xml.Event
  | value t => t.events
  | inline tag _ item =>
      .opening tag :: (Entry.events ItemPart.events item ++ [.closing tag.name])

/-- All that is written in a part. -/
def written : CellPart → List Char
  | value t => t.chars
  | inline _ _ item => writtenIn item

end CellPart

/-- A cell as it is written. -/
structure CellElement where
  tag : Xml.Tag
  called : tag.isCalled "c" = true
  /-- The position, if the cell gives it. -/
  reference? : Option CellPosition
  refers : tag.attribute? "r" = reference?.map CellPosition.reference
  /-- What is between the tags, unless the element is empty by its tag. -/
  content? : Option (List (Entry CellPart))

namespace CellElement

/-- The events of a cell. -/
def events (c : CellElement) : List Xml.Event :=
  match c.content? with
  | none => [.empty c.tag]
  | some parts => .opening c.tag :: (Entry.events CellPart.events parts ++ [.closing c.tag.name])

/-- All that is written in a cell. -/
def written (c : CellElement) : List Char :=
  (Entry.elements (c.content?.getD [])).flatMap CellPart.written

/-- The type of a cell, if it has one. -/
def type? (c : CellElement) : Option String :=
  c.tag.attribute? "t"

/-- The text that a cell shows, where some texts are shared: none if nothing is written in
    it, the text that is written there escaped, or a shared text by its index. -/
inductive Shows (shared : List String) (c : CellElement) : String → Prop
  | blank (hempty : c.written = []) : Shows shared c ""
  | inline {text : String} (htype : c.type? = some "inlineStr")
      (hescaped : EscapedAs text.toList c.written) : Shows shared c text
  | shared {text : String} {index : Nat} (htype : c.type? = some "s")
      (hindex : index < Number.wordBound) (hdigits : c.written = Nat.toDigits 10 index)
      (hget : shared[index]? = some text) : Shows shared c text

/-- Cells with the positions where they stand, the first one in a column of a row if it
    does not say otherwise. -/
def placed (row : Nat) : (column : Nat) → List CellElement → List (CellPosition × CellElement)
  | _, [] => []
  | column, c :: rest =>
    let p := c.reference?.getD ⟨row, column⟩
    (p, c) :: placed row (p.column + 1) rest

end CellElement

/-- A row as it is written. -/
structure RowElement where
  tag : Xml.Tag
  called : tag.isCalled "row" = true
  /-- The number, counted from zero, if the row gives it. It is written counted from one. -/
  number? : Option Nat
  numbers : tag.attribute? "r" = number?.map fun n => toString (n + 1)
  /-- The cells, unless the element is empty by its tag. -/
  cells? : Option (List (Entry CellElement))

namespace RowElement

/-- The events of a row. -/
def events (r : RowElement) : List Xml.Event :=
  match r.cells? with
  | none => [.empty r.tag]
  | some cells => .opening r.tag :: (Entry.events CellElement.events cells ++ [.closing r.tag.name])

/-- The cells of a row. -/
def cells (r : RowElement) : List CellElement :=
  Entry.elements (r.cells?.getD [])

/-- Rows with their numbers, the first one with a given number if it does not say
    otherwise. -/
def numbered : (row : Nat) → List RowElement → List (Nat × RowElement)
  | _, [] => []
  | row, r :: rest =>
    let n := r.number?.getD row
    (n, r) :: numbered (n + 1) rest

end RowElement

/-- A worksheet as it is written. -/
abbrev Listing := List (Entry RowElement)

namespace Listing

/-- The events of a worksheet. -/
def events (w : Listing) : List Xml.Event :=
  Entry.events RowElement.events w

/-- The rows of a worksheet with their numbers. -/
def rows (w : Listing) : List (Nat × RowElement) :=
  RowElement.numbered 0 (Entry.elements w)

/-- The cells of some rows with the positions where they stand. -/
def cellsOf (rows : List (Nat × RowElement)) : List (CellPosition × CellElement) :=
  rows.flatMap fun r => CellElement.placed r.1 0 r.2.cells

/-- The cells of a worksheet with the positions where they stand. -/
def cells (w : Listing) : List (CellPosition × CellElement) :=
  cellsOf w.rows

/-- After each row and each cell there is another number. -/
structure IsCounted (w : Listing) : Prop where
  rows : ∀ r ∈ w.rows, r.1 + 1 < Number.wordBound
  cells : ∀ c ∈ w.cells, c.1.IsCounted

end Listing

end Spreadsheet

end Questionnaire
