import Questionnaire.Form.Error
import Questionnaire.Survey.RowKind

/-!
# Types of Survey Rows

Every row of a survey has to have a type that the form engine can show, or that
may be dropped.

## Main definitions

* `RowKind.fault`: What is wrong with a kind of row.
* `checkTypes`: The check of a survey.
-/

namespace Questionnaire

/-- What is wrong with a row of this kind, whose type is spelled so. -/
def RowKind.fault (type : String) : RowKind → Option ContentFault
  | unsupported => some (.unsupportedType type)
  | empty => some .emptyType
  | unknown => some (.unknownType type)
  | _ => none

namespace Survey

/-- Whether every row has a type that is understood. -/
def checkTypes : List Row → Except ConversionError Unit
  | [] => .ok ()
  | r :: rest =>
    match r.kind.fault r.type with
    | some fault => .error (.content r.line fault)
    | none => checkTypes rest

end Survey

end Questionnaire
