import Questionnaire.Choices
import Questionnaire.Document.Node
import Questionnaire.Form.Tag
import Questionnaire.Form.Translation

/-!
# Documents

What the form engine reads: the lists of choices, the slides with everything on
them, the tags that identify a filled form, and the translations.

## Main definitions

* `Document`: Lists, slides, tags and translations.
* `Document.find?`: The first node of a name.
* `Document.choices?`: The choices of a list.
-/

namespace Questionnaire

/-- A document of the form engine. -/
structure Document where
  /-- The lists of choices, in the order of their names. -/
  choiceLists : List (String × List Choice)
  /-- The slides. -/
  nodes : List Node
  tags : List Tag
  /-- The translations, by language. -/
  translations : Dictionary String Translation

namespace Document

/-- The first node of a name, anywhere in a document. -/
def find? (d : Document) (name : String) : Option Node :=
  Node.findIn? name d.nodes

/-- The choices of a list. -/
def choices? (d : Document) (list : String) : Option (List Choice) :=
  (d.choiceLists.find? fun l => l.1 == list).map Prod.snd

end Document

end Questionnaire
