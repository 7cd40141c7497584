import Questionnaire.Form.Error
import Questionnaire.Survey.RowKind
import Questionnaire.Text.Word

/-!
# Names of Survey Rows

A formula refers to a question by its name, and so does the form engine. So every
question and group has a name that can be written in a formula, and no name is
used twice; but rows that are each shown on a condition may share a name,
since their author can see to it that one at a time is shown. The end of a
group has no name, and a note needs none.

The check keeps, for each name, whether the last row of that name has a
condition. If it had not, a second row is refused, so the last row speaks for all.

## Main definitions

* `nameFault`: What is wrong with the name of a row, by the names before it.
* `checkNames`: The check of a survey.
-/

namespace Questionnaire

namespace Survey

/-- Whether the name of a row is no name of a node: the row ends a group, or is a
    note without a name. -/
def isNameless (r : Row) : Bool :=
  r.kind.isEnd || (r.kind == .question .note && r.name.isEmpty)

/-- Whether a row is shown on a condition. -/
def isConditional (r : Row) : Bool :=
  !r.relevant.isEmpty

/-- What is wrong with the name of a row. `seen` says of each name before it
    whether its rows are shown on a condition. -/
def nameFault (seen : Dictionary String Bool) (r : Row) : Option ContentFault :=
  if r.kind.isEnd then
    if r.name.isEmpty then none else some .namedEnd
  else if isNameless r then none
  else if !Text.isName r.name then some (.invalidName r.name)
  else match seen.get? r.name with
    | some conditional =>
      if conditional && isConditional r then none else some (.repeatedName r.name)
    | none => none

/-- The check of the rows after some names have been seen. -/
def checkNamesFrom : Dictionary String Bool → List Row → Except ConversionError Unit
  | _, [] => .ok ()
  | seen, r :: rest =>
    match nameFault seen r with
    | some fault => .error (.content r.line fault)
    | none =>
      checkNamesFrom (if isNameless r then seen else seen.insert r.name (isConditional r)) rest

/-- Whether every row is named as it should be. -/
def checkNames (survey : List Row) : Except ConversionError Unit :=
  checkNamesFrom .empty survey

end Survey

end Questionnaire
