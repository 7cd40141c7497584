import Questionnaire.CommandLine.Log
import Questionnaire.CommandLine.Request
import Questionnaire.Document.Json
import Questionnaire.Form.Convert

/-!
# Runs

A run carries out a request over the files that are there. Converting goes on to
the next input after one has failed; each input is read from the files as they
are when its turn comes, and its document goes to the console or to a file whose
name differs from that of the input in the extension alone. So documents of
inputs that differ in folder or extension only may go to one file, and then the
last of them stays.

A run ends with the code 0 if all went well, with 1 after an error, and with 2 if
there was nothing sensible to do. A defect ends the run at once with a code of
its own.

## Main definitions

* `Session`: The files, the output and the log while a run goes on.
* `Report`: What remains of a run.
* `Target.path?`: The file for the document of an input.
* `convertOne`, `convertAll`: The conversion of an input, and of several.
* `listLanguages`, `printTranslation`: The other commands.
* `run`: The report of a command line.
-/

namespace Questionnaire

namespace CommandLine

/-- The files, the output and the log while a run goes on. -/
structure Session where
  files : Files
  output : String
  /-- The log, the last line first. -/
  log : List LogLine
deriving DecidableEq

namespace Session

/-- A run begins. -/
def start (files : Files) : Session :=
  ⟨files, "", []⟩

/-- The session after a line is put into the log. -/
def say (s : Session) (line : LogLine) : Session :=
  { s with log := line :: s.log }

/-- The session after notices are put into the log. -/
def sayAll (s : Session) (notices : List Notice) : Session :=
  notices.foldl (fun s n => s.say (.ofNotice n)) s

/-- The session after an error is put into the log. -/
def complain (s : Session) (causes : List String) : Session :=
  s.say (.ofCauses causes)

/-- The session after a text is put out. -/
def print (s : Session) (text : String) : Session :=
  { s with output := s.output ++ text }

end Session

/-- How something ended. -/
inductive Ending
  | done
  | failed
  /-- A defect came up. -/
  | aborted
deriving DecidableEq, Repr

namespace Ending

/-- The code that a run ends with. -/
def code : Ending → Nat
  | done => 0
  | failed => 1
  | aborted => 101

end Ending

/-- The end of something by an error, which goes to the log with what it is about. -/
def Session.fail (s : Session) (subject : String) (e : InputError) : Session × Ending :=
  if e.isDefect then (s, .aborted) else (s.complain (subject :: e.causes), .failed)

/-- The form that a path leads to. -/
def openForm (fs : Files) (input : Path) : Traced InputError Form := do
  let w ← (Spreadsheet.openWorkbook fs input).mapError .opening
  (Form.decode w).mapError fun e => .converting (.error (.decoding e))

/-- The document of the form that a path leads to. -/
def openDocument (fs : Files) (input : Path) : Traced InputError Document := do
  let form ← openForm fs input
  form.convert.mapError .converting

/-- The file for the document of an input. -/
def Target.path? (target : Target) (input : Path) : Option Path :=
  let output := input.withExtension "json"
  match target with
  | .console => none
  | .beside => some output
  | .folder path =>
    match output.fileName? with
    | some name => some (path.below name)
    | none => some output

/-- The document of an input as a text that ends its last line. -/
def documentText (style : Json.Style) (d : Document) : String :=
  d.print style ++ "\n"

/-- The session after the file for a document that could not be written is removed. -/
def Session.removePartial (s : Session) (output : Path) : Session :=
  match s.files.remove output with
  | .ok files => { s with files }
  | .error fault =>
    s.say ⟨.warning, "can't remove partial output path=" ++ output ++ " error=" ++ fault.message⟩

/-- The end of a conversion whose document goes to a file. A file that could not be written
    is removed, if there is one. -/
def saveDocument (s : Session) (input output : Path) (text : String) : Session × Ending :=
  match s.files.write output text with
  | .ok files =>
    (Session.say { s with files }
      ⟨.information, "converted input=" ++ input ++ " output=" ++ output⟩, .done)
  | .error fault =>
    ((s.removePartial output).complain
      (("Failed to write '" ++ output ++ "'") :: fileCauses fault), .failed)

/-- The conversion of an input. -/
def convertOne (target : Target) (style : Json.Style) (s : Session) (input : Path) :
    Session × Ending :=
  let t := openDocument s.files input
  let s := s.sayAll t.notices
  match t.outcome with
  | .error e => s.fail input e
  | .ok d =>
    match target.path? input with
    | none => (s.print (documentText style d), .done)
    | some output => saveDocument s input output (documentText style d)

/-- What follows the conversion of an input, with the number of inputs that failed. A defect
    ends it without a number. -/
def followedBy (next : Session → Session × Option Nat) : Session × Ending → Session × Option Nat
  | (s, .aborted) => (s, none)
  | (s, .done) => next s
  | (s, .failed) =>
    let (s, failed?) := next s
    (s, failed?.map (· + 1))

/-- The conversion of some inputs, with the number of those that failed. -/
def convertEach (target : Target) (style : Json.Style) :
    Session → List Path → Session × Option Nat
  | s, [] => (s, some 0)
  | s, input :: rest =>
    followedBy (fun s => convertEach target style s rest) (convertOne target style s input)

/-- The conversion of some inputs, with a last line about those that failed. -/
def convertAll (target : Target) (style : Json.Style) (s : Session) (inputs : List Path) :
    Session × Ending :=
  match convertEach target style s inputs with
  | (s, none) => (s, .aborted)
  | (s, some 0) => (s, .done)
  | (s, some failed) =>
    (s.complain [toString failed ++ " of " ++ toString inputs.length ++ " conversions failed"],
      .failed)

/-- What an error in opening an input is about. -/
def openingSubject (input : Path) : String :=
  "Failed to open '" ++ input ++ "'"

/-- The languages of an input, one to a line. -/
def listLanguages (s : Session) (input : Path) : Session × Ending :=
  let t := openForm s.files input
  let s := s.sayAll t.notices
  match t.outcome with
  | .error e => s.fail (openingSubject input) e
  | .ok form => (s.print (String.join (form.languages.keys.map (· ++ "\n"))), .done)

/-- The translations of an input to a language, as JSON. -/
def printTranslation (s : Session) (input : Path) (language : String) : Session × Ending :=
  let t := openForm s.files input
  let s := s.sayAll t.notices
  match t.outcome with
  | .error e => s.fail (openingSubject input) e
  | .ok form =>
    if !form.languages.contains language then
      (s.complain ["Language " ++ Text.quoted language ++ " not found in '" ++ input ++ "'"],
        .failed)
    else match form.translation language with
      | .error e => s.fail input (.converting (.error e))
      | .ok translation =>
        (s.print (Json.print (.blanks 2) (translationJson translation) ++ "\n"), .done)

/-- The end of a session after a command. -/
def Session.perform (s : Session) : Command → Session × Ending
  | .convert inputs target style => convertAll target style s inputs
  | .languages input => listLanguages s input
  | .translate input language => printTranslation s input language

/-- What remains of a run. -/
structure Report where
  /-- The code that the run ends with. -/
  code : Nat
  output : String
  /-- The lines of the log that are shown. -/
  log : List LogLine
  /-- What is wrong with the command line. -/
  refusal : Option UsageError
  files : Files
deriving DecidableEq

/-- The name and number of this program. -/
def versionText : String :=
  "formconv 0.1.0\n"

/-- How this program is used. -/
def helpText : String :=
  String.join (["formconv [-v | -q] convert <INPUT>... [--out-dir <DIR> | --stdout]",
    "    [--compact | --indent <N>]", "formconv [-v | -q] languages <INPUT>",
    "formconv [-v | -q] translate <INPUT> --lang <LANG>"].map (· ++ "\n"))

/-- The report of a request over the files that are there. -/
def Request.report (fs : Files) : Request → Report
  | .version => ⟨0, versionText, [], none, fs⟩
  | .help => ⟨0, helpText, [], none, fs⟩
  | .refused e => ⟨2, "", [], some e, fs⟩
  | .run threshold command =>
    let (s, ending) := (Session.start fs).perform command
    ⟨ending.code, s.output, s.log.reverse.filter (LogLine.isShown threshold), none, s.files⟩

/-- The report of a command line over the files that are there. -/
def run (fs : Files) (texts : List String) : Report :=
  (Request.ofArguments texts).report fs

end CommandLine

end Questionnaire
