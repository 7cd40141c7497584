import Questionnaire.Spreadsheet.Archive
import Questionnaire.Spreadsheet.Escape

/-!
# Shared Texts

Texts that occur in many cells are kept in a table of their own, and the cells
refer to them by their index. An item of the table consists of text elements,
one or several if the text changes its look; together they are the text. An item
may also say how its text is pronounced, in elements that look the same; those
are left out.

## Main definitions

* `TextTableState`: How far the table has been read.
* `TextTableState.next`: The state after an event.
* `readSharedTexts`: The texts of an archive.
-/

namespace Questionnaire

namespace Spreadsheet

/-- How far a table of texts has been read. -/
structure TextTableState where
  /-- The items read, the last one first. -/
  texts : List String
  /-- The text of the open item. -/
  current : List Char
  inItem : Bool
  inText : Bool
  /-- Whether the text is about pronunciation. -/
  inPhonetic : Bool
deriving DecidableEq, Repr

namespace TextTableState

/-- Nothing has been read. -/
def start : TextTableState :=
  ⟨[], [], false, false, false⟩

/-- The state after the opening tag of an element. -/
def opened (s : TextTableState) (tag : Xml.Tag) : TextTableState :=
  if tag.isCalled "si" then { s with inItem := true, current := [] }
  else if tag.isCalled "rPh" then { s with inPhonetic := true }
  else if tag.isCalled "t" && s.inItem && !s.inPhonetic then { s with inText := true }
  else s

/-- The state after the closing tag of an element. -/
def closed (s : TextTableState) (name : Xml.Source) : TextTableState :=
  if name = Xml.Source.ofString "si" then
    { s with texts := String.ofList (unescape s.current) :: s.texts, inItem := false }
  else if name = Xml.Source.ofString "rPh" then { s with inPhonetic := false }
  else if name = Xml.Source.ofString "t" then { s with inText := false }
  else s

/-- The state after an event. -/
def next (s : TextTableState) : Xml.Event → Traced ReadError TextTableState
  | .opening tag => return s.opened tag
  | .empty tag => return if tag.isCalled "si" then { s with texts := "" :: s.texts } else s
  | .closing name => return s.closed (Xml.Tag.withoutPrefix name)
  | .text content =>
    if s.inText then do
      let cs ← Traced.ofExcept (resolveText content)
      return { s with current := s.current ++ cs }
    else return s

end TextTableState

/-- The path of the table of texts. -/
def sharedTextsPath : String :=
  "xl/sharedStrings.xml"

/-- The texts that the cells of an archive share. The table may be missing. -/
def readSharedTexts (a : Archive) : Traced ReadError (List String) :=
  match a.get? sharedTextsPath with
  | none => return []
  | some part => do
    let s ← readPart TextTableState.next .start part
    return s.texts.reverse

end Spreadsheet

end Questionnaire
