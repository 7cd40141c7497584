/-!
# File Faults

Why a path cannot be followed, read or written, with the words and numbers that
operating systems have for it.

## Main definitions

* `FileFault`: What is wrong with a path.
* `FileFault.message`: The fault in words.
-/

namespace Questionnaire

/-- What is wrong with a path. -/
inductive FileFault
  | missing
  | notAFolder
  | isAFolder
deriving DecidableEq, Repr

namespace FileFault

/-- The number by which operating systems know a fault. -/
def number : FileFault → Nat
  | missing => 2
  | notAFolder => 20
  | isAFolder => 21

/-- The name of a fault. -/
def name : FileFault → String
  | missing => "No such file or directory"
  | notAFolder => "Not a directory"
  | isAFolder => "Is a directory"

/-- The fault in words. -/
def message (f : FileFault) : String :=
  f.name ++ " (os error " ++ toString f.number ++ ")"

end FileFault

end Questionnaire
