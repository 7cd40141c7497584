import Questionnaire.Spreadsheet.Archive
import Questionnaire.Zip.Container

/-!
# Archives as Files

The archive that is kept in the bytes of a file. If several parts have one name,
the last of them counts.

## Main definitions

* `archiveOfBytes`: The archive of some bytes.
-/

namespace Questionnaire

namespace Spreadsheet

/-- The name of a part. Bytes that are no text are left out. -/
def partName (bytes : List UInt8) : String :=
  String.ofList ((Xml.Source.ofBytes bytes).filterMap Xml.Piece.char?)

/-- The archive of some bytes. -/
def archiveOfBytes (bytes : List UInt8) : Except ReadError Archive :=
  match Zip.members? bytes with
  | none => .error .notAnArchive
  | some members =>
    .ok (.ofList (members.map fun (name, content) => (partName name, .ofBytes content)))

end Spreadsheet

end Questionnaire
