import Questionnaire.Form.Error
import Questionnaire.Survey.RowKind

/-!
# Choices

The rows of the choices sheet belong to lists by name. The choices of a list keep
the order of the sheet; the lists are in the order of their names.

A list that consists of one choice without value and label is a placeholder: it
declares a name whose choices come from elsewhere. Questions may refer to it,
and the document does not list it. Any other choice needs a label.

Columns of the author's own stay with a choice, as further attributes. They
cannot take the names of the two attributes that every choice has.

## Main definitions

* `Choice`: A value, a label and further attributes.
* `ChoiceLists`: Choices by list name.
* `ChoiceLists.ofRows`: The lists of the choices sheet.
* `isPlaceholder`: Whether a list only declares its name.
* `ChoiceLists.check`: The check of the lists and of the questions that refer to them.
-/

namespace Questionnaire

/-- A choice. -/
structure Choice where
  value : String
  label : String
  /-- Further attributes, by the headers of their columns. -/
  own : Dictionary String String
deriving DecidableEq, Inhabited

namespace Choice

/-- The choice of a row. -/
def ofRow (r : Row) : Choice :=
  ⟨r.name, r.label "", .ofList (r.ownCells.filter fun e => !(["value", "label"].contains e.1))⟩

end Choice

/-- Whether the choices of a list only declare its name. -/
def isPlaceholder : List Choice → Bool
  | [only] => only.value.isEmpty && only.label.isEmpty
  | _ => false

/-- Choices by list name. -/
abbrev ChoiceLists := Dictionary String (List Choice)

namespace ChoiceLists

/-- The lists with the choice of one more row at the end of its list. -/
def addRow (lists : ChoiceLists) (r : Row) : ChoiceLists :=
  lists.modify r.listName fun choices => choices.getD [] ++ [.ofRow r]

/-- The lists of the choices sheet. -/
def ofRows (rows : List Row) : ChoiceLists :=
  rows.foldl addRow .empty

/-- The lists that a document holds: all but the placeholders. -/
def listed (lists : ChoiceLists) : List (String × List Choice) :=
  lists.entries.filter fun list => !isPlaceholder list.2

/-- Whether a row of the choices sheet may be as it is. -/
def admits (lists : ChoiceLists) (r : Row) : Bool :=
  !(r.label "").isEmpty || ((lists.get? r.listName).map isPlaceholder).getD false

/-- The list that a survey row refers to and that is not declared. -/
def undeclared? (lists : ChoiceLists) (r : Row) : Option String :=
  r.kind.choiceList.filter fun list => !lists.contains list

/-- Whether every choice has a label, and every question that selects refers to a
    list. -/
def check (lists : ChoiceLists) (survey choices : List Row) : Except ConversionError Unit :=
  match choices.find? fun r => !lists.admits r with
  | some r => .error (.content r.line (.choiceWithoutLabel r.listName))
  | none =>
    match survey.findSome? fun r => (lists.undeclared? r).map fun list => (r, list) with
    | some (r, list) => .error (.content r.line (.undeclaredList list))
    | none => .ok ()

end ChoiceLists

end Questionnaire
