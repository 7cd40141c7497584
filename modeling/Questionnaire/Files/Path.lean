import Questionnaire.Text.Split

/-!
# Paths

A path is a text whose parts are divided by slashes. Empty parts and single dots
lead nowhere, so they are idle. The last part that is not idle names a file,
unless it is two dots, which lead to the folder above. What follows the last dot
of a name is its extension; a dot that begins a name, as the names of hidden
files have it, is followed by no extension.

## Main definitions

* `Path.parts`: The parts of a path that lead somewhere.
* `Path.fileName?`: The name of the file.
* `Path.extension?`: The extension of the file.
* `Path.withExtension`: The path with another extension.
* `Path.below`: The path of a file in a folder.
-/

namespace Questionnaire

/-- A path is written as a text. -/
abbrev Path := String

namespace Path

/-- The texts between the slashes of a path. -/
def runs (p : Path) : List String :=
  (Text.splitAll '/' p.toList).map String.ofList

/-- Whether a part of a path leads nowhere. -/
def isIdle (part : String) : Bool :=
  part.isEmpty || part == "."

/-- The parts of a path that lead somewhere. -/
def parts (p : Path) : List String :=
  p.runs.filter fun part => !isIdle part

/-- Whether a path starts at the root of all files. -/
def isAbsolute (p : Path) : Bool :=
  p.toList.head? == some '/'

/-- Whether a path is written as that of a folder. -/
def isFolderPath (p : Path) : Bool :=
  p.runs.getLast?.any isIdle

/-- The parts of a path from its end to its beginning, without the idle ones that end
    it. -/
def backward (p : Path) : List String :=
  p.runs.reverse.dropWhile isIdle

/-- The name of the file that a path leads to. -/
def fileName? (p : Path) : Option String :=
  p.backward.head?.filter (· != "..")

/-- A name before and after its last dot. -/
def splitName (name : String) : String × Option String :=
  let after := name.toList.reverse.takeWhile (· != '.')
  let before := name.toList.reverse.drop (after.length + 1)
  if before.isEmpty then (name, none)
  else (String.ofList before.reverse, some (String.ofList after.reverse))

/-- The extension of the file that a path leads to. -/
def extension? (p : Path) : Option String :=
  p.fileName?.bind fun name => (splitName name).2

/-- The path with another extension, if it leads to a file. -/
def withExtension (p : Path) (extension : String) : Path :=
  match p.fileName?, p.backward with
  | some name, _ :: before =>
    String.intercalate "/" (((splitName name).1 ++ "." ++ extension) :: before).reverse
  | _, _ => p

/-- The path of a file in a folder. -/
def below (folder : Path) (name : String) : Path :=
  if folder.isEmpty || folder.toList.getLast? == some '/' then folder ++ name
  else folder ++ "/" ++ name

end Path

end Questionnaire
