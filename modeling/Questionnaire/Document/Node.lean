import Questionnaire.Text.Quoted

/-!
# Nodes of a Document

A document is a tree. Its leaves are the fields that a person fills in or reads,
and its inner nodes are the groups and slides that hold them. Conditions and
values are formulas in the language of the form engine, kept as their texts.

Nodes are numbered. A node also knows the number of its predecessor: the sibling
before it, or the node that holds it if it is the first. Both numbers are zero
until the tree is numbered.

A kind of field has just the attributes that belong to it, so a field cannot
have a range and choices at once, and only a repeated slide has a limit of
repetitions.

## Main definitions

* `Validation`: What an answer has to satisfy.
* `Table`, `TableCell`: The columns, rows and cells of a table.
* `FieldKind`: The kinds of fields with their attributes.
* `Field`: What a field has besides its place in the tree.
* `NodeInfo`: What every node has.
* `Node`: A field, or a group with its nodes.
* `Node.find?`: The first node of a name.
-/

namespace Questionnaire

/-- A condition on an answer, and what is shown if it fails. -/
structure Rule where
  condition : String
  message : String
deriving DecidableEq, Repr

/-- What an answer has to satisfy. -/
structure Validation where
  /-- The text shown for a missing answer, if one is required. -/
  requiredMessage : Option String
  rules : List Rule
deriving DecidableEq, Repr

/-- A cell of a table: a value to fill in, by its name, or a computed one. -/
inductive TableCell
  | input (name : String)
  | computed (formula : String)
deriving DecidableEq, Repr

/-- The type and the label of a column of a table. -/
structure TableColumn where
  type : String
  label : String
deriving DecidableEq, Repr

/-- The label and the cells of a row of a table. -/
structure TableRow where
  label : String
  cells : List TableCell
deriving DecidableEq, Repr

/-- A table. -/
structure Table where
  columns : List TableColumn
  rows : List TableRow
deriving DecidableEq, Repr

/-- The kinds of fields. -/
inductive FieldKind
  | string
  | text
  | number
  | boolean
  /-- One choice, or several, of a list; of those that a formula admits. -/
  | choice (several : Bool) (list : String) (filter : Option String) (narrow : Bool)
  | formula (text : String)
  /-- A text to read. -/
  | note (content : String)
  | date
  | time
  | table (table : Table)
  | location
  | barcode
  | file
  | image
  | video
  | range (first last step : Int)
  | signature
deriving DecidableEq, Repr

/-- What a field has besides its place in the tree. -/
structure Field where
  kind : FieldKind
  hint : String
  /-- The formula of its first value. -/
  default : Option String
  /-- Whether its value can be changed, if that is said. -/
  editable : Option Bool
  validation : Option Validation
deriving DecidableEq, Repr

/-- What every node has. -/
structure NodeInfo where
  name : String
  label : String
  /-- The line of the survey, or 0 if no row stands for the node. -/
  line : Nat
  /-- The condition on which the node is shown. -/
  visibility : Option String
  id : Nat
  /-- The number of the predecessor. -/
  parent : Nat
deriving DecidableEq, Repr

/-- The kinds of nodes that hold others. -/
inductive GroupKind
  | group
  | slide
  /-- A slide that repeats, up to a limit if there is one. -/
  | repeated (limit : Option Nat)
deriving DecidableEq, Repr

/-- A node of a document. -/
inductive Node
  | field (info : NodeInfo) (field : Field)
  /-- A group with its nodes, and the condition on which none of them can be
      changed. -/
  | group (info : NodeInfo) (kind : GroupKind) (readonly : Option String) (nodes : List Node)
deriving Repr

namespace Node

/-- What every node has. -/
def info : Node → NodeInfo
  | field i _ => i
  | group i _ _ _ => i

/-- The nodes that a node holds. -/
def nodes : Node → List Node
  | field .. => []
  | group _ _ _ ns => ns

/-- The name of a node. -/
def name (n : Node) : String :=
  n.info.name

/-- The number of a node. -/
def id (n : Node) : Nat :=
  n.info.id

/-- The line of the survey that a node was made from. -/
def line (n : Node) : Nat :=
  n.info.line

/-- The field of a node that is one. -/
def field? : Node → Option Field
  | field _ f => some f
  | group .. => none

mutual

/-- The first node of a name, in a node or below it. -/
def find? (name : String) : Node → Option Node
  | field i f => if i.name = name then some (field i f) else none
  | group i k r ns => if i.name = name then some (group i k r ns) else findIn? name ns

/-- The first node of a name in several trees. -/
def findIn? (name : String) : List Node → Option Node
  | [] => none
  | n :: ns => (find? name n).or (findIn? name ns)

end

end Node

end Questionnaire
