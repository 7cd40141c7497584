import Questionnaire.Document.Basic
import Questionnaire.Document.Group
import Questionnaire.Document.Numbering
import Questionnaire.Survey.Naming
import Questionnaire.Survey.Slides
import Questionnaire.Survey.Typing

/-!
# From a Form to a Document

A form is checked before anything is built from it: the types of its rows, their
names, the choices. Then the survey is divided into slides, its tree is built
and numbered, and the tags and translations are added. The first error ends the
conversion.

## Main definitions

* `Node.asSlide`: An outermost group as a slide.
* `Form.check`: The checks of a form.
* `Form.slides`: The tree of a checked survey.
* `Form.convert`: The document of a form.
* `Workbook.convert`: The document of a workbook.
-/

namespace Questionnaire

/-- An outermost group as a slide. -/
def Node.asSlide : Node → Node
  | .group i .group readonly nodes => .group i .slide readonly nodes
  | n => n

namespace Form

/-- The lists of choices of a form. -/
def choiceLists (form : Form) : ChoiceLists :=
  .ofRows form.choices

/-- The checks of a form that come before its tree is built. -/
def check (form : Form) : Except ConversionError Unit := do
  Survey.checkTypes form.survey
  Survey.checkNames form.survey
  form.choiceLists.check form.survey form.choices

/-- The slides of a divided survey, numbered. -/
def slides (form : Form) (divided : List Row) : Except Failure (List Node) := do
  let whole ← Node.ofBlock form.tables divided
  Failure.lift (Node.numberAll 0 (whole.nodes.map Node.asSlide))

/-- The document of a form. -/
def convert (form : Form) : Traced Failure Document := do
  Traced.ofExcept (Failure.lift form.check)
  let divided ← (Survey.divide form.survey).mapError .error
  let nodes ← Traced.ofExcept (form.slides divided)
  let tags ← (Tag.ofRows form.settings).mapError .error
  let translations ← Traced.ofExcept (Failure.lift form.translations)
  let lists := form.choiceLists.listed
  Traced.note (.converted nodes.length lists.length translations.size)
  return ⟨lists, nodes, tags, translations⟩

end Form

/-- The document of a workbook. -/
def Workbook.convert (w : Workbook) : Traced Failure Document := do
  let form ← (Form.decode w).mapError fun e => .error (.decoding e)
  form.convert

end Questionnaire
