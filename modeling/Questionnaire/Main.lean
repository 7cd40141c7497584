import Questionnaire.CommandLine.Run
import Questionnaire.Spreadsheet.Container

/-!
# The Program

The command line over the files of a computer. What the paths of a command lead
to is looked up first, the run is carried out on that, and then its changes are
written and its output and log are shown.

## Main definitions

* `main`: The program.
-/

namespace Questionnaire

namespace CommandLine

/-- The content of a file that was read. -/
def contentOf (bytes : List UInt8) : Entry :=
  match Spreadsheet.archiveOfBytes bytes with
  | .ok a => .archive a
  | .error _ => .text ((String.fromUTF8? (ByteArray.mk bytes.toArray)).getD "")

/-- What a path leads to on this computer. -/
def lookUp (p : Path) : IO (Option Entry) :=
  try
    let bytes ← IO.FS.readBinFile p
    return some (contentOf bytes.toList)
  catch
    | .inappropriateType _ number _ =>
      return if number.toNat = FileFault.isAFolder.number then some .folder else none
    | _ => return none

/-- The beginnings of a path, the shortest one first. -/
def beginnings (p : Path) : List Path :=
  let parts := p.parts
  (List.range parts.length).map fun n =>
    (if p.isAbsolute then "/" else "") ++ String.intercalate "/" (parts.take (n + 1))

/-- The files with what a path leads to. -/
def lookUpInto (fs : Files) (p : Path) : IO Files :=
  match fs.locate p with
  | .error _ => return fs
  | .ok l => do
    match ← lookUp p with
    | some e => return { fs with entries := fs.entries.insert l e }
    | none => return fs

/-- The paths that a request is about. -/
def Request.paths : Request → List Path
  | .run _ (.convert inputs target _) => inputs ++ inputs.filterMap target.path?
  | .run _ (.languages input) | .run _ (.translate input _) => [input]
  | _ => []

/-- The files that a request is about. -/
def Request.files (r : Request) : IO Files := do
  let here ← IO.currentDir
  (r.paths.flatMap beginnings).foldlM lookUpInto ⟨.empty, Path.parts here.toString⟩

/-- The changes of a run are written, and its output and log are shown. -/
def Report.settle (r : Report) (before : Files) : IO Unit := do
  (← IO.getStdout).putStr r.output
  (← IO.getStdout).flush
  for line in r.log do
    IO.eprintln line.shown
  if let some e := r.refusal then
    IO.eprintln ("error: " ++ e.message)
  for (l, content) in before.changes r.files do
    IO.FS.writeFile ("/" ++ String.intercalate "/" l) content

end CommandLine

end Questionnaire

/-- The program. -/
def main (texts : List String) : IO UInt32 := do
  let request := Questionnaire.CommandLine.Request.ofArguments texts
  let files ← request.files
  let report := request.report files
  report.settle files
  return report.code.toUInt32
