import Questionnaire.Document.Failure
import Questionnaire.Spreadsheet.Open

/-!
# The Log

What a run tells its user besides its results: the notices that come up while
spreadsheets are read and converted, and why something did not succeed. An error
is told with all its causes, the one at hand first. Errors of formulas, of files
and of archives have a cause beneath them whose words they repeat.

## Main definitions

* `LogLine`: A text with its level.
* `InputError`: Why nothing came of an input.
* `InputError.causes`: An error and the causes beneath it, in words.
-/

namespace Questionnaire

namespace CommandLine

/-- A text with its level. -/
structure LogLine where
  level : Level
  text : String
deriving DecidableEq, Repr

namespace LogLine

/-- A notice as a line of the log. -/
def ofNotice (n : Notice) : LogLine :=
  ⟨n.level, n.text⟩

/-- An error with its causes as a line of the log. -/
def ofCauses (causes : List String) : LogLine :=
  ⟨.error, String.intercalate ": " causes⟩

/-- Whether a log that shows nothing less urgent than `threshold` shows a line. -/
def isShown (threshold : Level) (l : LogLine) : Bool :=
  decide (l.level.rank ≤ threshold.rank)

/-- A line as it is shown. -/
def shown (l : LogLine) : String :=
  l.level.text ++ " " ++ l.text

end LogLine

/-- The causes of a fault of a file. -/
def fileCauses (fault : FileFault) : List String :=
  ["IO error: " ++ fault.message, fault.message]

/-- Why nothing came of an input. -/
inductive InputError
  | opening (error : Spreadsheet.OpenError)
  | converting (failure : Failure)
deriving DecidableEq, Repr

namespace InputError

/-- An error and the causes beneath it, in words. -/
def causes : InputError → List String
  | opening (.file fault) => fileCauses fault
  | opening (.reading .notAnArchive) =>
    [Spreadsheet.ReadError.message .notAnArchive, Spreadsheet.noArchiveText]
  | opening e => [e.message]
  | converting (.error (.formula line e)) =>
    [ConversionError.message (.formula line e), e.message]
  | converting (.error e) => [e.message]
  | converting (.defect d) => [d.message]

/-- Whether an error is a defect, which ends the whole run. -/
def isDefect : InputError → Bool
  | opening (.reading .positionOverflow) | converting (.defect _) => true
  | _ => false

end InputError

end CommandLine

end Questionnaire
