import Questionnaire.Document.Field
import Questionnaire.Survey.Outline

/-!
# Groups

How the outline of a survey becomes a tree of nodes. The row that opens a group
decides about the group itself; its items become its nodes. Questions become
fields, and rows that are no questions are dropped.

The row of a group is looked at before its items, and the items in their order,
so the error that comes first in the survey is the one that is reported.

## Main definitions

* `GroupHead`: A group without its nodes.
* `GroupHead.ofRow`: The group that a row opens.
* `Node.ofItem`, `Node.ofItems`: The nodes of an outline.
* `Node.ofBlock`: The node of a block of rows.
-/

namespace Questionnaire

/-- A group without its nodes. -/
structure GroupHead where
  info : NodeInfo
  kind : GroupKind
  readonly : Option String
deriving DecidableEq, Repr

namespace GroupHead

/-- The condition on which nothing in a group can be changed. -/
def readonlyOfRow (r : Row) : Except ConversionError (Option String) :=
  match Flag.ofCell r.readonly with
  | .on => .ok (some "true")
  | .off => .ok none
  | .other => (r.compile r.readonly .readonly).map some

/-- The kind of group that a row opens. -/
def kindOfRow (r : Row) : Except ConversionError GroupKind :=
  if r.kind != .beginRepeat then .ok .group
  else if r.repeatCount.isEmpty then .ok (.repeated none)
  else match Number.readCount? (Text.trim r.repeatCount).toList with
    | some n => .ok (.repeated (some n))
    | none => .error (.content r.line .invalidRepeatCount)

/-- The group that a row opens. -/
def ofRow (r : Row) : Except ConversionError GroupHead := do
  let visibility ← r.visibility
  let readonly ← readonlyOfRow r
  let kind ← kindOfRow r
  return ⟨r.info (r.label "") visibility, kind, readonly⟩

/-- The group with its nodes. -/
def node (head : GroupHead) (nodes : List Node) : Node :=
  .group head.info head.kind head.readonly nodes

end GroupHead

namespace Node

open Survey (Item)

mutual

/-- The node of an item of an outline, if it has one. -/
def ofItem (tables : Dictionary String Grid) : Item → Except Failure (Option Node)
  | .row r =>
    if r.kind.isQuestion then (ofQuestion tables r).map some else .ok none
  | .group header items => do
    let head ← Failure.lift (GroupHead.ofRow header)
    let nodes ← ofItems tables items
    return some (head.node nodes)
  | .broken defect => .error (.defect defect)

/-- The nodes of the items of an outline. -/
def ofItems (tables : Dictionary String Grid) : List Item → Except Failure (List Node)
  | [] => .ok []
  | item :: rest => do
    let node? ← ofItem tables item
    let nodes ← ofItems tables rest
    return node?.toList ++ nodes

end

/-- The node of a block of rows. -/
def ofBlock (tables : Dictionary String Grid) (rows : List Row) : Except Failure Node := do
  let node? ← ofItem tables (Item.ofBlock rows)
  match node? with
  | some node => return node
  | none => .error (.defect .notAGroup)

end Node

end Questionnaire
