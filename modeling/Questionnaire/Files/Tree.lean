import Questionnaire.Files.Fault
import Questionnaire.Files.Path
import Questionnaire.Spreadsheet.Archive

/-!
# File Trees

The files that a run of the command line can see. A location is the sequence of
names that lead from the root to a file or folder; a location on the way to an
entry is a folder without being listed. A path is followed part by part from the
root or from the working folder, and every place on the way has to be a folder.

Different paths may lead to one location, and a location has one content, so
what was written last is what is there.

Nobody is kept from anything: a file that is there can be read, written and removed,
and there is room for every text. So a file that can be removed but not written, as
one may be that is protected in a folder that is not, is in none of these trees, and
nothing is ever written in part.

## Main definitions

* `Location`: Names that lead from the root.
* `Entry`: What is at a location.
* `Files`: Entries by their locations, and the working folder.
* `Files.locate`: Where a path leads.
* `Files.read`: The content of a file.
* `Files.write`: The files after a text is written to one of them.
* `Files.remove`: The files after one of them is removed.
* `Files.changes`: The texts that one tree has and another has not.
-/

namespace Questionnaire

/-- The names that lead from the root to a file or folder. -/
abbrev Location := List String

/-- What is at a location. -/
inductive Entry
  | archive (parts : Spreadsheet.Archive)
  | text (content : String)
  | folder
deriving DecidableEq

/-- The files that a run can see. -/
structure Files where
  entries : Dictionary Location Entry
  /-- The folder from which paths are followed. -/
  workingFolder : Location
deriving DecidableEq

namespace Files

/-- What is at a location. -/
def find? (fs : Files) (l : Location) : Option Entry :=
  match fs.entries.get? l with
  | some e => some e
  | none =>
    if (fs.workingFolder :: fs.entries.keys).any fun k => l.isPrefixOf k then some .folder
    else none

/-- Where one more part of a path leads. -/
def follow (fs : Files) (l : Location) (part : String) : Except FileFault Location :=
  match fs.find? l with
  | some .folder => .ok (if part = ".." then l.dropLast else l ++ [part])
  | some _ => .error .notAFolder
  | none => .error .missing

/-- Where a path leads. There need not be anything. -/
def locate (fs : Files) (p : Path) : Except FileFault Location :=
  p.parts.foldlM fs.follow (if p.isAbsolute then [] else fs.workingFolder)

/-- What is at the end of a path. -/
def read (fs : Files) (p : Path) : Except FileFault Entry := do
  let l ← fs.locate p
  match fs.find? l with
  | none => .error .missing
  | some .folder => .ok .folder
  | some e => if p.isFolderPath then .error .notAFolder else .ok e

/-- The files after a text is written to the file at the end of a path. -/
def write (fs : Files) (p : Path) (content : String) : Except FileFault Files := do
  let l ← fs.locate p
  match fs.find? l with
  | some .folder => .error .isAFolder
  | _ => .ok { fs with entries := fs.entries.insert l (.text content) }

/-- The files after the file at the end of a path is removed. Its folder stays, even if it
    held nothing else. -/
def remove (fs : Files) (p : Path) : Except FileFault Files := do
  let l ← fs.locate p
  match fs.find? l with
  | none => .error .missing
  | some .folder => .error .isAFolder
  | some _ => .ok { fs with entries := (fs.entries.erase l).insert l.dropLast .folder }

/-- The texts of a tree that another tree does not have at the same places. -/
def changes (old new : Files) : List (Location × String) :=
  new.entries.entries.filterMap fun (l, e) =>
    match e with
    | .text content => if old.entries.get? l = some e then none else some (l, content)
    | _ => none

end Files

end Questionnaire
