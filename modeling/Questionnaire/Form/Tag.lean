import Questionnaire.Form.Error
import Questionnaire.Text.Word

/-!
# Tags

The settings of a form name questions whose answers identify a filled form, each
with a label. A row with neither a label nor a name says nothing and is passed
over. The name has to be one that a question could have.

## Main definitions

* `Tag`: A label and the name of a question.
* `Tag.ofRow`: The tag of a row of the settings.
* `Tag.ofRows`: The tags of the settings.
-/

namespace Questionnaire

/-- The label of an answer that identifies a filled form, and the name of its
    question. -/
structure Tag where
  label : String
  value : String
deriving DecidableEq, Repr

namespace Tag

/-- The tag of a row of the settings, if the row is filled in. -/
def ofRow (r : Row) : Traced ConversionError (Option Tag) :=
  if r.tagLabel.isEmpty && r.tagValue.isEmpty then return none
  else if Text.isName r.tagValue then return some ⟨r.tagLabel, r.tagValue⟩
  else do
    if r.tagValue.isEmpty then Traced.note (.tagWithoutValue r.line r.tagLabel)
    Traced.ofExcept (.error (.content r.line (.invalidTagValue r.tagValue)))

/-- The tags of the settings. -/
def ofRows : List Row → Traced ConversionError (List Tag)
  | [] => return []
  | r :: rest => do
    let tag? ← ofRow r
    let tags ← ofRows rest
    return tag?.toList ++ tags

end Tag

end Questionnaire
