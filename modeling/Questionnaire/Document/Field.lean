import Questionnaire.Document.Table
import Questionnaire.Number.Decimal

/-!
# Fields

How a question of the survey becomes a field. Each column of the row decides one
part of the field, and the kind of the question decides which columns are
looked at.

If several columns are wrong, the first one in this order is reported: the
default, whether the field can be changed, what is required, the constraint,
what belongs to the kind of the question, and the condition on which it is
shown.

## Main definitions

* `Flag.ofCell`: What a cell that switches something says.
* `Row.compile`: A formula of a row.
* `Validation.ofRow`: What an answer has to satisfy.
* `readRange`: The bounds and step of a range.
* `FieldKind.ofRow`: The kind of the field, with its attributes.
* `Node.ofQuestion`: The node of a question.
-/

namespace Questionnaire

/-- What a cell says that switches something on or off. -/
inductive Flag
  | on
  | off
  /-- The cell says something else. -/
  | other
deriving DecidableEq, Repr

/-- What a cell says. An empty one switches off. -/
def Flag.ofCell : String → Flag
  | "yes" | "true" => on
  | "" | "no" | "false" => off
  | _ => other

namespace Row

/-- A formula of a row, for the form engine. -/
def compile (r : Row) (formula : String) (place : Formula.Place) :
    Except ConversionError String :=
  (Formula.compile formula place r.name).mapError (.formula r.line)

/-- A formula of a row, unless its cell is empty. -/
def compileFilled (r : Row) (formula : String) (place : Formula.Place) :
    Except ConversionError (Option String) :=
  if formula.isEmpty then .ok none else (r.compile formula place).map some

/-- The condition on which the node of a row is shown. -/
def visibility (r : Row) : Except ConversionError (Option String) :=
  r.compileFilled r.relevant .relevant

/-- What is the same for every node of a row. -/
def info (r : Row) (label : String) (visibility : Option String) : NodeInfo :=
  ⟨r.name, label, r.line, visibility, 0, 0⟩

/-- Whether the field of a row can be changed, if the row says so. -/
def editable (r : Row) : Except ConversionError (Option Bool) :=
  match Flag.ofCell r.readonly with
  | .on => .ok (some false)
  | .off => .ok none
  | .other => .error (.content r.line .readonlyFormula)

end Row

/-- The rule that an answer is an integer. -/
def integerRule (name : String) : Rule :=
  ⟨"!notEmpty(" ++ name ++ ") || isInt(" ++ name ++ ")", "The field value must be an integer."⟩

namespace Validation

/-- The text shown for a missing answer, if one is required. -/
def requiredOfRow (r : Row) : Except ConversionError (Option String) :=
  match Flag.ofCell r.required with
  | .on => .ok (some (r.requiredMessage ""))
  | .off => .ok none
  | .other => .error (.content r.line (.invalidRequired r.required))

/-- The rule of the constraint of a row. -/
def constraintOfRow (r : Row) : Except ConversionError (List Rule) := do
  let condition? ← r.compileFilled r.constraint .constraint
  return condition?.toList.map fun condition => ⟨condition, r.constraintMessage ""⟩

/-- What an answer has to satisfy, if the row says anything about it or the answer
    is an integer. -/
def ofRow (r : Row) : Except ConversionError (Option Validation) :=
  let isInteger := r.kind == .question .integer
  if r.required.isEmpty && r.constraint.isEmpty && !isInteger then .ok none
  else do
    let requiredMessage ← requiredOfRow r
    let rules ← constraintOfRow r
    return some ⟨requiredMessage, (if isInteger then [integerRule r.name] else []) ++ rules⟩

end Validation

/-- The bounds and step of a range. -/
structure RangeParameters where
  first : Int
  last : Int
  step : Int
deriving DecidableEq, Repr

namespace RangeParameters

/-- What a range has unless it says otherwise. -/
def usual : RangeParameters :=
  ⟨0, 10, 1⟩

/-- The parameters with one set by its name. Other names set nothing. -/
def set (p : RangeParameters) (name : String) (value : Int) : RangeParameters :=
  match name with
  | "start" => { p with first := value }
  | "end" => { p with last := value }
  | "step" => { p with step := value }
  | _ => p

/-- The parameters after one more part of the cell. A part that is not a name and a
    value around a single equals sign is passed over; a value that is no integer is
    an error, whatever its name. -/
def addPart (p : RangeParameters) (part : List Char) : Option RangeParameters :=
  match Text.splitAll '=' part with
  | [name, value] => (Number.readInteger? value).map (p.set (String.ofList name))
  | _ => some p

/-- The parameters that a cell sets, in parts with a blank between them. -/
def read? (cell : String) : Option RangeParameters :=
  (Text.splitAll ' ' cell.toList).foldlM addPart usual

end RangeParameters

namespace FieldKind

/-- The kind of field that a question without choices is, with its attributes. -/
def ofQuestion (tables : Dictionary String Grid) (r : Row) :
    QuestionKind → Except Failure FieldKind
  | .decimal | .integer => .ok number
  | .text => .ok (if r.appearance = "multiline" then text else string)
  | .boolean => .ok boolean
  | .note => .ok (note (r.label ""))
  | .date => .ok date
  | .time => .ok time
  | .calculate => Failure.lift ((r.compile r.calculation .calculation).map formula)
  | .table => (Table.ofGrid r.name r.line (tables.get? r.name)).map table
  | .barcode => .ok barcode
  | .geopoint => .ok location
  | .file => .ok file
  | .image => .ok (if r.appearance = "signature" then signature else image)
  | .video => .ok video
  | .range =>
    match RangeParameters.read? r.parameters with
    | some p => .ok (range p.first p.last p.step)
    | none => Failure.lift (.error (.content r.line .invalidParameters))

/-- The kind of field that a question is, with its attributes. -/
def ofRow (tables : Dictionary String Grid) (r : Row) : Except Failure FieldKind :=
  match r.kind with
  | .question kind => ofQuestion tables r kind
  | .select several list => Failure.lift do
    let filter ← r.compileFilled r.choiceFilter .choiceFilter
    return choice several list filter (r.appearance == "minimal")
  | kind => .error (.defect (.notAQuestion kind))

/-- Whether the label of a question is the content of the field instead. -/
def takesLabel : FieldKind → Bool
  | note _ => true
  | _ => false

/-- Whether a field can be changed, if its kind decides that. -/
def editable : FieldKind → Option Bool
  | table _ => some true
  | _ => none

end FieldKind

/-- The node of a question. -/
def Node.ofQuestion (tables : Dictionary String Grid) (r : Row) : Except Failure Node := do
  let default ← Failure.lift (r.compileFilled r.default .default)
  let editable ← Failure.lift r.editable
  let validation ← Failure.lift (Validation.ofRow r)
  let kind ← FieldKind.ofRow tables r
  let visibility ← Failure.lift r.visibility
  let label := if kind.takesLabel then "" else r.label ""
  return .field (r.info label visibility)
    ⟨kind, r.hint "", default, kind.editable.or editable, validation⟩

end Questionnaire
