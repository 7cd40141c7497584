import Questionnaire.Spreadsheet.Archive
import Questionnaire.Text.Split

/-!
# The Catalog of Sheets

Two parts tell which sheets there are. One lists their names in order, each with
the identifier of a relation; the other says for every relation of what type it
is and to which part it leads. Only a relation to a worksheet leads to cells. The
target of a relation is a path below the folder of the workbook, or a whole path
if it begins with a slash.

## Main definitions

* `readSheetNames`: The names of the sheets and their relations.
* `readWorksheetPaths`: The paths of the worksheets, by their relations.
-/

namespace Questionnaire

namespace Spreadsheet

/-- The path of the list of sheets. -/
def workbookPath : String :=
  "xl/workbook.xml"

/-- The path of the list of relations. -/
def relationsPath : String :=
  "xl/_rels/workbook.xml.rels"

/-- The tag of an element with a local name, if an event opens one. -/
def elementTag? (name : String) : Xml.Event → Option Xml.Tag
  | .opening tag | .empty tag => if tag.isCalled name then some tag else none
  | _ => none

/-- The name of a sheet and its relation, if an event is about a sheet. -/
def namedSheet? (e : Xml.Event) : Option (String × String) := do
  let tag ← elementTag? "sheet" e
  let name ← tag.attribute? "name"
  let relation ← tag.attribute? "r:id"
  return (name, relation)

/-- The names of the sheets with their relations, in order. -/
def readSheetNames (a : Archive) : Traced ReadError (List (String × String)) := do
  let part ← Traced.ofExcept (a.require workbookPath)
  let sheets ← readPart (fun sheets e => return (namedSheet? e).toList ++ sheets) [] part
  return sheets.reverse

/-- The path that a target leads to. -/
def pathOfTarget (target : String) : String :=
  (Text.afterStart? "/" target).getD ("xl/" ++ target)

/-- Whether a type is that of relations to worksheets. -/
def isWorksheetType (type : String) : Bool :=
  "/worksheet".toList.isSuffixOf type.toList

/-- A relation and the path of its worksheet, if an event is about such a relation. -/
def worksheetRelation? (e : Xml.Event) : Option (String × String) := do
  let tag ← elementTag? "Relationship" e
  let id ← tag.attribute? "Id"
  let target ← tag.attribute? "Target"
  let type ← tag.attribute? "Type"
  if isWorksheetType type then some (id, pathOfTarget target) else none

/-- The paths of the worksheets, by their relations. -/
def readWorksheetPaths (a : Archive) : Traced ReadError (Dictionary String String) := do
  let part ← Traced.ofExcept (a.require relationsPath)
  readPart (fun paths e => return match worksheetRelation? e with
    | some (id, path) => paths.insert id path
    | none => paths) .empty part

end Spreadsheet

end Questionnaire
