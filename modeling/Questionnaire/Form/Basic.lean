import Questionnaire.Sheet.Row
import Questionnaire.Sheet.Workbook

/-!
# Forms

What a workbook says once its sheets are read: the rows of the survey, of the
choices and of the settings, the grids behind the questions that are tables, and
the languages that the headers of the survey and of the choices speak of.

## Main definitions

* `Form`: Rows, grids and languages.
-/

namespace Questionnaire

/-- The content of the sheets of a form. -/
structure Form where
  survey : List Row
  choices : List Row
  settings : List Row
  /-- The grids behind tables, by the names of their questions. -/
  tables : Dictionary String Grid
  /-- The languages of the headers, in order. -/
  languages : Dictionary String Unit
deriving DecidableEq, Inhabited

end Questionnaire
