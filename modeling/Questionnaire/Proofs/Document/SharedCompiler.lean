import Questionnaire.Proofs.Document.Conversion

/-!
# One Compiler for All Formulas

The formulas of a form are compiled one after another by one compiler, which writes each
of them to the same buffer. So what is left of a formula is at hand when the next one is
compiled, in whatever row that stands. Here the tree is built in this way, the compiler
handed on from each formula to the next; and it is the tree that is built if every
formula has a compiler of its own, whatever the first compiler was used for before.

That an answer of a compiler does not depend on its buffer is known of each answer. What
is left is to carry it through the computation, from a step to those after it, which is
what `Gives` is made for.

## Main definitions

* `Compiling`: A computation that uses a compiler and hands it on.
* `Compiling.Gives`: What a computation gives with any compiler.
* `Compiling.question`, `Compiling.groupHead`, `Compiling.items`: The tree, built with one
  compiler.
* `Form.convertWith`: The conversion of a form with one compiler.

## Theorems

* `Compiling.Gives.bind`: One computation after another.
* `Compiling.gives_question`, `Compiling.gives_groupHead`, `Compiling.gives_items`: The parts of
  the tree are those that are built without sharing a compiler.
* `Form.convertWith_eq`: So is the document.
-/

namespace Questionnaire

open Survey (Item)

theorem Failure.lift_map {α β : Type} (x : Except ConversionError α) (f : α → β) :
    lift (x.map f) = (lift x).map f := by
  cases x <;> rfl

theorem Failure.lift_bind {α β : Type} (x : Except ConversionError α)
    (f : α → Except ConversionError β) : lift (x >>= f) = lift x >>= fun a => lift (f a) := by
  cases x <;> rfl

/-- A computation that uses a compiler, and hands it on unless it fails. -/
abbrev Compiling (α : Type) :=
  StateT Formula.Compiler (Except Failure) α

namespace Compiling

variable {α β : Type}

/-- A computation without formulas. The compiler is handed on as it is. -/
def plain (x : Except Failure α) : Compiling α :=
  fun c => x.map fun a => (a, c)

/-- What a computation gives, with any compiler. -/
def Gives (x : Compiling α) (y : Except Failure α) : Prop :=
  ∀ c, (x c).map Prod.fst = y

theorem gives_plain (x : Except Failure α) : Gives (plain x) x := by
  intro c
  cases x <;> rfl

theorem gives_pure (a : α) : Gives (pure a) (.ok a) :=
  fun _ => rfl

theorem Gives.bind {x : Compiling α} {y : Except Failure α} {f : α → Compiling β}
    {g : α → Except Failure β} (hx : Gives x y) (hf : ∀ a, Gives (f a) (g a)) :
    Gives (x >>= f) (y >>= g) := by
  intro c
  have hc := hx c
  change ((x c >>= fun p => f p.1 p.2) : Except Failure (β × Formula.Compiler)).map Prod.fst = _
  cases hrun : x c with
  | error failure =>
      rw [hrun] at hc
      rw [← hc]
      rfl
  | ok p =>
      rw [hrun] at hc
      rw [← hc]
      -- The compiler that the first step leaves is one of any.
      exact hf p.1 p.2

theorem Gives.map {x : Compiling α} {y : Except Failure α} (hx : Gives x y) (f : α → β) :
    Gives (f <$> x) (y.map f) := by
  have hbind := hx.bind fun a => gives_pure (f a)
  cases y <;> exact hbind

/-! ### Formulas -/

/-- A formula that belongs to a subject, in a row of some line. -/
def formula (line : Nat) (text : String) (place : Formula.Place) (subject : String) :
    Compiling String := fun c =>
  match c.compile text place subject with
  | (.ok compiled, after) => .ok (compiled, after)
  | (.error e, _) => .error (.error (.formula line e))

theorem gives_formula (line : Nat) (text : String) (place : Formula.Place) (subject : String) :
    Gives (formula line text place subject)
      (Failure.lift ((Formula.compile text place subject).mapError (.formula line))) := by
  intro c
  rw [formula, ← c.fst_compile]
  rcases c.compile text place subject with ⟨e | compiled, after⟩ <;> rfl

/-- A formula of a row, unless its cell is empty. -/
def filled (r : Row) (text : String) (place : Formula.Place) : Compiling (Option String) :=
  if text.isEmpty then pure none else some <$> formula r.line text place r.name

theorem gives_filled (r : Row) (text : String) (place : Formula.Place) :
    Gives (filled r text place) (Failure.lift (r.compileFilled text place)) := by
  rw [filled, Row.compileFilled]
  split
  · exact gives_pure none
  · rw [Failure.lift_map]
    exact (gives_formula r.line text place r.name).map some

/-! ### Fields -/

/-- What an answer has to satisfy. -/
def validation (r : Row) : Compiling (Option Validation) :=
  let isInteger := r.kind == .question .integer
  if r.required.isEmpty && r.constraint.isEmpty && !isInteger then pure none
  else do
    let requiredMessage ← plain (Failure.lift (Validation.requiredOfRow r))
    let condition? ← filled r r.constraint .constraint
    let rules := condition?.toList.map fun condition => ⟨condition, r.constraintMessage ""⟩
    return some ⟨requiredMessage, (if isInteger then [integerRule r.name] else []) ++ rules⟩

theorem gives_validation (r : Row) :
    Gives (validation r) (Failure.lift (Validation.ofRow r)) := by
  rw [validation, Validation.ofRow]
  split
  · exact gives_pure none
  · rw [Failure.lift_bind]
    refine (gives_plain _).bind fun requiredMessage => ?_
    rw [Failure.lift_bind, Validation.constraintOfRow, Failure.lift_bind, bind_assoc]
    exact (gives_filled r r.constraint .constraint).bind fun condition? => gives_pure _

/-- A cell of a table, on the sheet behind a question in some line. -/
def cell (line : Nat) (name text : String) : Compiling TableCell :=
  if text.isEmpty then pure (.input name)
  else .computed <$> formula line text (.cell name) name

/-- Cells of a row of a table, from a column on. -/
def cells (line : Nat) (table : String) (row : Nat) :
    (column count : Nat) → List String → Compiling (List TableCell)
  | _, 0, _ => pure []
  | column, count + 1, texts => do
    let c ← cell line (cellName table row column) (texts.headD "")
    let cs ← cells line table row (column + 1) count texts.tail
    return c :: cs

/-- Rows of a table, from a row on. -/
def rows (line : Nat) (table : String) (columns : Nat) :
    (row : Nat) → (labels : List String) → Grid → Compiling (List TableRow)
  | _, [], _ => pure []
  | row, label :: labels, grid => do
    let cs ← cells line table row 0 columns (grid.headD []).tail
    let rs ← rows line table columns (row + 1) labels grid.tail
    return ⟨label, cs⟩ :: rs

/-- The table on the sheet of a question. -/
def table (name : String) (line : Nat) (grid? : Option Grid) : Compiling Table :=
  match grid? with
  | none => plain (tableFault name .sheetNotFound)
  | some grid => do
    let (columns, labels) ← plain (readMargins name grid)
    let body ← plain (Failure.assert (slice grid 1 (labels.length + 1)))
    let rs ← rows line name columns.length 0 labels body
    return ⟨columns, rs⟩

/-- An error of a cell is told with the line of the question. -/
def inLine (line : Nat) (x : Except Formula.Error α) : Except Failure α :=
  Failure.lift (x.mapError (.formula line))

theorem inLine_map (line : Nat) (x : Except Formula.Error α) (f : α → β) :
    inLine line (x.map f) = (inLine line x).map f := by
  cases x <;> rfl

theorem inLine_bind (line : Nat) (x : Except Formula.Error α) (f : α → Except Formula.Error β) :
    inLine line (x >>= f) = inLine line x >>= fun a => inLine line (f a) := by
  cases x <;> rfl

theorem gives_cell (line : Nat) (name text : String) :
    Gives (cell line name text) (inLine line (readCell name text)) := by
  rw [cell, readCell]
  split
  · exact gives_pure _
  · rw [inLine_map]
    exact (gives_formula line text (.cell name) name).map _

theorem gives_cells (line : Nat) (name : String) (row column count : Nat) (texts : List String) :
    Gives (cells line name row column count texts)
      (inLine line (readCells name row column count texts)) := by
  induction count generalizing column texts with
  | zero => exact gives_pure []
  | succ count ih =>
      rw [cells, readCells, inLine_bind]
      refine (gives_cell _ _ _).bind fun c => ?_
      rw [inLine_bind]
      exact (ih _ _).bind fun cs => gives_pure _

theorem gives_rows (line : Nat) (name : String) (columns row : Nat) (labels : List String)
    (grid : Grid) :
    Gives (rows line name columns row labels grid)
      (inLine line (readRows name columns row labels grid)) := by
  induction labels generalizing row grid with
  | nil => exact gives_pure []
  | cons label labels ih =>
      rw [rows, readRows, inLine_bind]
      refine (gives_cells _ _ _ _ _ _).bind fun cs => ?_
      rw [inLine_bind]
      exact (ih _ _).bind fun rs => gives_pure _

theorem gives_table (name : String) (line : Nat) (grid? : Option Grid) :
    Gives (table name line grid?) (Table.ofGrid name line grid?) := by
  cases grid? with
  | none => exact gives_plain _
  | some grid =>
      refine (gives_plain _).bind fun margins => (gives_plain _).bind fun body => ?_
      exact (gives_rows line name _ 0 margins.2 body).bind fun rs => gives_pure _

/-- The kind of field that a question is. Only three kinds of questions have formulas of their
    own. -/
def fieldKind (tables : Dictionary String Grid) (r : Row) : Compiling FieldKind :=
  match r.kind with
  | .question .calculate => .formula <$> formula r.line r.calculation .calculation r.name
  | .question .table => .table <$> table r.name r.line (tables.get? r.name)
  | .select several list => do
    let filter ← filled r r.choiceFilter .choiceFilter
    return .choice several list filter (r.appearance == "minimal")
  | _ => plain (FieldKind.ofRow tables r)

theorem gives_fieldKind (tables : Dictionary String Grid) (r : Row) :
    Gives (fieldKind tables r) (FieldKind.ofRow tables r) := by
  rw [fieldKind]
  split
  · rename_i hkind
    rw [FieldKind.ofRow, hkind]
    dsimp only [FieldKind.ofQuestion]
    rw [Failure.lift_map]
    exact (gives_formula _ _ _ _).map _
  · rename_i hkind
    rw [FieldKind.ofRow, hkind]
    exact (gives_table _ _ _).map _
  · rename_i several list hkind
    rw [FieldKind.ofRow, hkind]
    dsimp only
    rw [Failure.lift_bind]
    exact (gives_filled _ _ _).bind fun filter => gives_pure _
  · exact gives_plain _

/-- The node of a question. -/
def question (tables : Dictionary String Grid) (r : Row) : Compiling Node := do
  let default ← filled r r.default .default
  let editable ← plain (Failure.lift r.editable)
  let validation ← validation r
  let kind ← fieldKind tables r
  let visibility ← filled r r.relevant .relevant
  let label := if kind.takesLabel then "" else r.label ""
  return .field (r.info label visibility)
    ⟨kind, r.hint "", default, kind.editable.or editable, validation⟩

theorem gives_question (tables : Dictionary String Grid) (r : Row) :
    Gives (question tables r) (Node.ofQuestion tables r) := by
  refine (gives_filled _ _ _).bind fun default => (gives_plain _).bind fun editable => ?_
  refine (gives_validation r).bind fun validation => (gives_fieldKind tables r).bind fun kind => ?_
  exact (gives_filled _ _ _).bind fun visibility => gives_pure _

/-! ### Groups -/

/-- The condition on which nothing in a group can be changed. -/
def readonly (r : Row) : Compiling (Option String) :=
  match Flag.ofCell r.readonly with
  | .on => pure (some "true")
  | .off => pure none
  | .other => some <$> formula r.line r.readonly .readonly r.name

theorem gives_readonly (r : Row) :
    Gives (readonly r) (Failure.lift (GroupHead.readonlyOfRow r)) := by
  rw [readonly, GroupHead.readonlyOfRow]
  cases Flag.ofCell r.readonly with
  | on => exact gives_pure _
  | off => exact gives_pure _
  | other =>
      dsimp only
      rw [Failure.lift_map]
      exact (gives_formula _ _ _ _).map _

/-- The group that a row opens. -/
def groupHead (r : Row) : Compiling GroupHead := do
  let visibility ← filled r r.relevant .relevant
  let readonly ← readonly r
  let kind ← plain (Failure.lift (GroupHead.kindOfRow r))
  return ⟨r.info (r.label "") visibility, kind, readonly⟩

theorem gives_groupHead (r : Row) : Gives (groupHead r) (Failure.lift (GroupHead.ofRow r)) := by
  rw [GroupHead.ofRow, Failure.lift_bind]
  refine (gives_filled _ _ _).bind fun visibility => ?_
  rw [Failure.lift_bind]
  refine (gives_readonly r).bind fun readonly => ?_
  rw [Failure.lift_bind]
  exact (gives_plain _).bind fun kind => gives_pure _

mutual

/-- The node of an item of an outline, if it has one. -/
def item (tables : Dictionary String Grid) : Item → Compiling (Option Node)
  | .row r => if r.kind.isQuestion then some <$> question tables r else pure none
  | .group header inner => do
    let head ← groupHead header
    let nodes ← items tables inner
    return some (head.node nodes)
  | .broken defect => plain (.error (.defect defect))

/-- The nodes of the items of an outline. -/
def items (tables : Dictionary String Grid) : List Item → Compiling (List Node)
  | [] => pure []
  | first :: rest => do
    let node? ← item tables first
    let nodes ← items tables rest
    return node?.toList ++ nodes

end

mutual

theorem gives_item (tables : Dictionary String Grid) (i : Item) :
    Gives (item tables i) (Node.ofItem tables i) := by
  match i with
  | .row r =>
      rw [item, Node.ofItem]
      split
      · exact (gives_question tables r).map some
      · exact gives_pure none
  | .group header inner =>
      rw [item, Node.ofItem]
      refine (gives_groupHead header).bind fun head => ?_
      exact (gives_items tables inner).bind fun nodes => gives_pure _
  | .broken defect =>
      rw [item, Node.ofItem]
      exact gives_plain _

theorem gives_items (tables : Dictionary String Grid) (is : List Item) :
    Gives (items tables is) (Node.ofItems tables is) := by
  match is with
  | [] =>
      rw [items, Node.ofItems]
      exact gives_pure []
  | first :: rest =>
      rw [items, Node.ofItems]
      refine (gives_item tables first).bind fun node? => ?_
      exact (gives_items tables rest).bind fun nodes => gives_pure _

end

/-- The node of a block of rows. -/
def block (tables : Dictionary String Grid) (rows : List Row) : Compiling Node := do
  let node? ← item tables (Item.ofBlock rows)
  match node? with
  | some node => return node
  | none => plain (.error (.defect .notAGroup))

theorem gives_block (tables : Dictionary String Grid) (rows : List Row) :
    Gives (block tables rows) (Node.ofBlock tables rows) := by
  refine (gives_item tables _).bind fun node? => ?_
  cases node? with
  | some node => exact gives_pure node
  | none => exact gives_plain _

end Compiling

/-! ### Forms -/

namespace Form

/-- The slides of a divided survey, numbered, built with a compiler. -/
def slidesWith (form : Form) (c : Formula.Compiler) (divided : List Row) :
    Except Failure (List Node) := do
  let (whole, _) ← Compiling.block form.tables divided c
  Failure.lift (Node.numberAll 0 (whole.nodes.map Node.asSlide))

/-- The conversion of a form with one compiler for all of its formulas. -/
def convertWith (form : Form) (c : Formula.Compiler) : Except Failure Document := do
  Failure.lift form.check
  let divided ← Failure.lift (Survey.divide form.survey).outcome
  let nodes ← form.slidesWith c divided
  let tags ← Failure.lift (Tag.ofRows form.settings).outcome
  let translations ← Failure.lift form.translations
  return ⟨form.choiceLists.listed, nodes, tags, translations⟩

theorem slidesWith_eq (form : Form) (c : Formula.Compiler) (divided : List Row) :
    form.slidesWith c divided = form.slides divided := by
  rw [slidesWith, slides, ← Compiling.gives_block form.tables divided c]
  cases Compiling.block form.tables divided c <;> rfl

/-- Whatever a compiler was used for before, a form is converted with it as it is with a compiler
    for each formula. -/
theorem convertWith_eq (form : Form) (c : Formula.Compiler) :
    form.convertWith c = form.convert.outcome := by
  rw [convertWith, outcome_convert]
  simp only [slidesWith_eq]

end Form

end Questionnaire
