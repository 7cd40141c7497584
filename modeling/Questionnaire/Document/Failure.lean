import Questionnaire.Form.Error
import Questionnaire.Survey.Block

/-!
# Failures of a Conversion

A conversion fails with an error, which its user can mend, or with a defect of
the survey's nesting, which the checks that come first rule out.

## Main definitions

* `Failure`: An error or a defect.
* `Defect.message`: A defect in words.
-/

namespace Questionnaire

/-- How a kind of row is named where a question was asked for. Only kinds that are
    no questions can be. -/
def RowKind.shown : RowKind → String
  | beginGroup => "BeginGroup"
  | endGroup => "EndGroup"
  | beginRepeat => "BeginRepeat"
  | endRepeat => "EndRepeat"
  | question _ => "Field"
  | select .. => "Select"
  | metadata => "Ignored"
  | unsupported => "Unsupported"
  | empty => "Empty"
  | unknown => "Unknown"

/-- A defect in words. -/
def Defect.message : Defect → String
  | notAGroup => "not a group"
  | unclosedGroup => "group end not found"
  | strayEnd => "unexpected end of group"
  | notAQuestion kind => "unexpected row type " ++ kind.shown
  | outOfRange index length =>
    "range end index " ++ toString index ++ " out of range for slice of length " ++
      toString length

/-- Why no document was made. -/
inductive Failure
  | error (e : ConversionError)
  | defect (d : Defect)
deriving DecidableEq, Repr

/-- A computation that can only fail with an error. -/
def Failure.lift {α : Type} (outcome : Except ConversionError α) : Except Failure α :=
  outcome.mapError error

/-- A computation that can only fail with a defect. -/
def Failure.assert {α : Type} (outcome : Except Defect α) : Except Failure α :=
  outcome.mapError defect

end Questionnaire
