import Questionnaire.Document.Basic
import Questionnaire.Json.Printer

/-!
# Documents as JSON

The form engine reads a document as JSON. Kinds of nodes and of fields are
numbers there, and an attribute that has its usual value is left out: a hint
that is empty, a condition that is not set, a list without items. The members of
every object have a fixed order, and the attributes of an author's own follow
the value and the label of a choice in the order of their names.

## Main definitions

* `GroupKind.code`, `FieldKind.code`: The numbers of the kinds.
* `Field.members`: The attributes of a field.
* `Node.json`: A node.
* `Document.json`: A document.
* `Document.print`: The text of a document.
-/

namespace Questionnaire

open Json (member member? textMember? listMember?)

/-- The member of an object for a switch, left out if it is off. -/
def switchMember? (key : String) (on : Bool) : List (String × Json) :=
  if on then [(key, .bool true)] else []

/-- A condition of the form engine. -/
def conditionJson (condition : String) : Json :=
  .object (member "condition" (.string condition))

/-- A formula of the form engine. -/
def formulaJson (formula : String) : Json :=
  .object (member "formula" (.string formula))

namespace Choice

/-- A choice as JSON. -/
def json (c : Choice) : Json :=
  .object (("value", .string c.value) :: ("label", .string c.label) ::
    c.own.entries.map fun (key, text) => (key, .string text))

end Choice

/-- A list of choices as JSON. -/
def choiceListJson (list : String × List Choice) : Json :=
  .object [("type", .string "fixed"), ("name", .string list.1), ("choicesType", .string "string"),
    ("choices", .array (list.2.map Choice.json))]

namespace Tag

/-- A tag as JSON. -/
def json (t : Tag) : Json :=
  .object [("label", .string t.label), ("value", .array [.string t.value])]

end Tag

namespace Rule

/-- A rule as JSON. Every rule is checked while a form is filled in. -/
def json (r : Rule) : Json :=
  .object [("condition", .string r.condition), ("clientValidation", .bool true),
    ("errorMessage", .string r.message)]

end Rule

namespace Validation

/-- What an answer has to satisfy, as JSON. -/
def json (v : Validation) : Json :=
  .object (switchMember? "notEmpty" v.requiredMessage.isSome ++
    textMember? "notEmptyMessage" (v.requiredMessage.getD "") ++
    listMember? "conditions" v.rules Rule.json)

end Validation

namespace TableCell

/-- A cell of a table as JSON. A computed value cannot be changed. -/
def json : TableCell → Json
  | input name => .string name
  | computed formula => .object [("formula", .string formula), ("editable", .bool false)]

end TableCell

namespace FieldKind

/-- The number of a kind of field. -/
def code : FieldKind → Nat
  | string => 0
  | text => 1
  | number => 2
  | boolean => 3
  | choice false .. => 4
  | choice true .. => 5
  | formula _ => 6
  | note _ => 7
  | date => 9
  | time => 10
  | table _ => 11
  | location => 12
  | barcode => 13
  | file => 14
  | image => 15
  | video => 16
  | range .. => 17
  | signature => 18

/-- The attributes that belong to a kind of field. -/
def members : FieldKind → List (String × Json)
  | formula expression => member "formula" (formulaJson expression)
  | choice _ list filter narrow =>
    textMember? "choicesOriginRef" list ++ member? "choicesFilter" filter formulaJson ++
      switchMember? "forceNarrow" narrow
  | note content => textMember? "HTML" content
  | range first last step =>
    [("rangeStart", .integer first), ("rangeEnd", .integer last), ("rangeStep", .integer step)]
  | table t =>
    listMember? "columnTypes" t.columns (fun c => .string c.type) ++
      listMember? "columnLabels" t.columns (fun c => .string c.label) ++
      listMember? "rowLabels" t.rows (fun r => .string r.label) ++
      listMember? "rows" t.rows fun r => .array (r.cells.map TableCell.json)
  | _ => []

end FieldKind

namespace Field

/-- The attributes of a field. -/
def members (f : Field) : List (String × Json) :=
  member "fieldType" (.nat f.kind.code) ++ textMember? "hint" f.hint ++
    member? "defaultValue" f.default formulaJson ++ member? "editable" f.editable .bool ++
    member? "validation" f.validation Validation.json ++ f.kind.members

end Field

namespace GroupKind

/-- The number of a kind of node that holds others. -/
def code : GroupKind → Nat
  | group => 2
  | slide => 3
  | repeated _ => 4

/-- The limit of repetitions of a node. -/
def limit? : GroupKind → Option Nat
  | repeated limit => limit
  | _ => none

end GroupKind

namespace NodeInfo

/-- The attributes that every node has. The kind of a field is the number 0. -/
def members (i : NodeInfo) (code : Nat) : List (String × Json) :=
  [("parent", .nat i.parent), ("id", .nat i.id), ("name", .string i.name),
    ("label", .string i.label), ("nodeType", .nat code)] ++
    member? "visibility" i.visibility conditionJson

end NodeInfo

namespace Node

/-- The number of the kind of a node. -/
def code : Node → Nat
  | field .. => 0
  | group _ kind _ _ => kind.code

mutual

/-- A node as JSON. -/
def json : Node → Json
  | field i f => .object (i.members 0 ++ f.members)
  | group i kind readonly nodes =>
    .object (i.members kind.code ++ member? "readonly" readonly conditionJson ++
      member? "maxReps" kind.limit? .nat ++ nodesMember? nodes)

/-- The member for the nodes of a group, left out if there are none. -/
def nodesMember? : List Node → List (String × Json)
  | [] => []
  | n :: ns => [("nodes", .array (json n :: jsonAll ns))]

/-- Nodes as JSON. -/
def jsonAll : List Node → List Json
  | [] => []
  | n :: ns => json n :: jsonAll ns

end

end Node

/-- Translations to a language as JSON. -/
def translationJson (t : Translation) : Json :=
  .object (t.entries.map fun (source, target) => (source, .string target))

namespace Document

/-- The member for the translations, left out if there are none. -/
def translationsMember? (d : Document) : List (String × Json) :=
  if d.translations.isEmpty then []
  else
    [("translations",
      .object (d.translations.entries.map fun (language, t) => (language, translationJson t)))]

/-- A document as JSON. -/
def json (d : Document) : Json :=
  .object (listMember? "choicesOrigins" d.choiceLists choiceListJson ++
    member "nodes" (.array (Node.jsonAll d.nodes)) ++
    listMember? "stringIdentifier" d.tags Tag.json ++ d.translationsMember?)

/-- The text of a document. -/
def print (d : Document) (style : Json.Style) : String :=
  Json.print style d.json

end Document

end Questionnaire
