import Questionnaire.Proofs.Document.Conversion
import Questionnaire.Proofs.Document.TableParts

/-!
# No Defects

A conversion ends with a document or with an error that its user can mend, never
with a defect. Each step that could meet one is guarded by another that comes
before it, in another pass: the items of a survey are only those of balanced
rows, so every group has an end and every end a group; a row is built as a
question only if it is one; the parts of a table's sheet are cut where its
size has been looked at; and the wrapper's counter is lowered only where the
check had a group to close.

The checks of types and names play no part. A survey whose marks match is free of
defects whatever else is in its cells.

## Main definitions

* `divideStrictly`: The division with the counter that is not lowered at zero.

## Theorems

* `Table.clean_ofGrid`: The parts of a sheet are there when they are cut out.
* `Node.clean_ofQuestion`: A question is built without a defect.
* `Node.clean_ofItems`: So are the nodes of balanced rows.
* `Node.clean_ofBlock_divided`: So is the tree of a divided survey.
* `Form.divided_without_defects`: No conversion ends with a defect.
-/

namespace Questionnaire

open Failure (Clean clean_ok clean_lift clean_bind clean_map)

/-! ### Tables -/

theorem clean_tableFault {α : Type} (name : String) (fault : TableFault) :
    Clean (tableFault name fault : Except Failure α) :=
  clean_lift _

theorem clean_assert_slice {α : Type} {xs : List α} {start stop : Nat} (hle : start ≤ stop)
    (hlength : stop ≤ xs.length) : Clean (Failure.assert (slice xs start stop)) := by
  rw [slice_eq_ok hle hlength]
  exact clean_ok _

theorem clean_readMargins (name : String) (grid : Grid) : Clean (readMargins name grid) := by
  rw [readMargins]
  split
  · exact clean_tableFault _ _
  · rename_i hrows
    -- The sheet has two rows, so it has a first one and rows below it.
    refine clean_bind (clean_assert_slice (by omega) (by omega)) fun first _ => ?_
    dsimp only
    split
    · exact clean_tableFault _ _
    -- The first row has a second cell, so it has headers.
    · rename_i hcolumns
      refine clean_bind (clean_assert_slice (by omega) (Nat.le_refl _)) fun headers _ => ?_
      refine clean_bind (clean_lift _) fun columns _ => ?_
      refine clean_bind (clean_assert_slice (by omega) (Nat.le_refl _)) fun below _ => ?_
      split
      · exact clean_tableFault _ _
      · split
        · exact clean_tableFault _ _
        · exact clean_ok _

theorem Table.clean_ofGrid (name : String) (line : Nat) (grid? : Option Grid) :
    Clean (Table.ofGrid name line grid?) := by
  cases grid? with
  | none => exact clean_tableFault _ _
  | some grid =>
      rw [Table.ofGrid]
      refine clean_bind (clean_readMargins name grid) fun margins hmargins => ?_
      rcases margins with ⟨columns, labels⟩
      rcases readMargins_eq_ok_iff.1 hmargins with ⟨_, rfl, _, hlabels⟩
      have hlength := Grid.length_labels_lt hlabels
      -- The body is one row for each label, below the first row.
      refine clean_bind (clean_assert_slice (by omega) hlength) fun body _ => ?_
      exact clean_bind (clean_lift _) fun rows _ => clean_ok _

/-! ### Questions -/

theorem FieldKind.clean_ofQuestion (tables : Dictionary String Grid) (r : Row)
    (kind : QuestionKind) : Clean (ofQuestion tables r kind) := by
  cases kind with
  | calculate => exact clean_lift _
  | table => exact clean_map _ (Table.clean_ofGrid _ _ _)
  | range =>
      rw [ofQuestion]
      split
      · exact clean_ok _
      · exact clean_lift _
  | _ => exact clean_ok _

theorem FieldKind.clean_ofRow (tables : Dictionary String Grid) {r : Row}
    (h : r.kind.isQuestion = true) : Clean (ofRow tables r) := by
  rw [ofRow]
  cases hkind : r.kind with
  | question kind => exact clean_ofQuestion tables r kind
  | select several list => exact clean_lift _
  | _ =>
      rw [hkind] at h
      -- Only questions are asked for.
      cases h

namespace Node

open Survey (Item Balanced)

theorem clean_ofQuestion (tables : Dictionary String Grid) {r : Row}
    (h : r.kind.isQuestion = true) : Clean (ofQuestion tables r) := by
  rw [ofQuestion]
  refine clean_bind (clean_lift _) fun default _ => ?_
  refine clean_bind (clean_lift _) fun editable _ => ?_
  refine clean_bind (clean_lift _) fun validation _ => ?_
  refine clean_bind (FieldKind.clean_ofRow tables h) fun kind _ => ?_
  exact clean_bind (clean_lift _) fun visibility _ => clean_ok _

theorem clean_ofItem_row (tables : Dictionary String Grid) (r : Row) :
    Clean (ofItem tables (.row r)) := by
  rw [ofItem]
  split
  · rename_i hquestion
    exact clean_map _ (clean_ofQuestion tables hquestion)
  · exact clean_ok _

theorem clean_ofItem_group (tables : Dictionary String Grid) (header : Row)
    {items : List Item} (h : Clean (ofItems tables items)) :
    Clean (ofItem tables (.group header items)) := by
  rw [ofItem]
  refine clean_bind (clean_lift _) fun head _ => ?_
  exact clean_bind h fun nodes _ => clean_ok _

theorem clean_ofItems_cons (tables : Dictionary String Grid) {item : Item}
    {rest : List Item} (hitem : Clean (ofItem tables item))
    (hrest : Clean (ofItems tables rest)) : Clean (ofItems tables (item :: rest)) := by
  rw [ofItems]
  refine clean_bind hitem fun node? _ => ?_
  exact clean_bind hrest fun nodes _ => clean_ok _

/-- The nodes of balanced rows: their outline has no broken item, whatever the rows
    between the marks are. -/
theorem clean_ofItems (tables : Dictionary String Grid) {rows : List Row} (h : Balanced rows) :
    Clean (ofItems tables (Item.ofRows rows)) := by
  induction h with
  | nil =>
      rw [Item.ofRows, ofItems]
      exact clean_ok _
  | @row r rest hbegin hend _ ih =>
      rw [Item.ofRows_row hbegin hend]
      exact clean_ofItems_cons tables (clean_ofItem_row tables r) ih
  | @block opening closing inner rest hcloses hinner _ ihInner ihRest =>
      rw [Item.ofRows_block hcloses hinner]
      exact clean_ofItems_cons tables (clean_ofItem_group tables opening ihInner) ihRest

theorem clean_ofBlock_divided (tables : Dictionary String Grid) {survey divided : List Row}
    (h : (Survey.divide survey).outcome = .ok divided) : Clean (ofBlock tables divided) := by
  -- The check comes first, so the rows are balanced before they are wrapped, and after.
  rcases Survey.divide_eq_ok h with ⟨hbalance, rfl⟩
  have hwrapped := (Survey.balanced_of_checkBalance hbalance).wrapLoose
  rw [ofBlock_groupMark tables _ _ hwrapped]
  exact clean_map _ (clean_ofItems tables hwrapped)

end Node

/-! ### Conversions -/

/-- The division of a survey, with the counter that is not lowered at zero. -/
def Survey.divideStrictly (survey : List Row) : Except Failure (List Row) := do
  Failure.lift (checkBalance survey)
  let wrapped ← Failure.assert (wrapStrictlyFrom 0 0 false survey)
  return groupMark "global" "" :: (wrapped ++ [endMark])

theorem Survey.divideStrictly_eq (survey : List Row) :
    divideStrictly survey = Failure.lift (divide survey).outcome := by
  rw [divideStrictly, outcome_divide]
  cases hcheck : checkBalance survey with
  | error e => rfl
  | ok _ =>
      -- The check passed with an empty stack, where the counter starts at zero.
      have hwrapped := wrapStrictlyFrom_of_checkBalanceFrom hcheck 0 false
      rw [List.length_nil] at hwrapped
      rw [hwrapped]
      rfl

theorem Form.clean_convert (form : Form) : Clean form.convert.outcome := by
  rw [outcome_convert]
  refine clean_bind (clean_lift _) fun _ _ => ?_
  refine clean_bind (clean_lift _) fun divided hdivided => ?_
  -- Of all steps only the tree could meet a defect.
  have htree := Node.clean_ofBlock_divided form.tables (Failure.lift_eq_ok.1 hdivided)
  refine clean_bind (clean_bind htree fun whole _ => clean_lift _) fun nodes _ => ?_
  refine clean_bind (clean_lift _) fun tags _ => ?_
  exact clean_bind (clean_lift _) fun translations _ => clean_ok _

/-- Nothing that could go wrong in the conversion of a form does, apart from the
    errors that it reports. Dividing a survey does not lower its counter of open
    groups at zero. The tree of a divided survey, with any grids behind its tables,
    is built or refused with an error. And so a conversion ends without a defect. -/
theorem Form.divided_without_defects :
    (∀ survey : List Row,
      Survey.divideStrictly survey = Failure.lift (Survey.divide survey).outcome) ∧
    (∀ survey divided : List Row, (Survey.divide survey).outcome = .ok divided →
      ∀ tables : Dictionary String Grid, ∃ result : Except ConversionError Node,
        Node.ofBlock tables divided = Failure.lift result) ∧
    ∀ (form : Form) (d : Defect), form.convert.outcome ≠ .error (.defect d) := by
  refine ⟨Survey.divideStrictly_eq, ?_, Form.clean_convert⟩
  intro survey divided h tables
  exact Failure.clean_iff_lift.1 (Node.clean_ofBlock_divided tables h)

/-- A survey with a type that nobody knows inside a group, and a table behind it. -/
theorem Form.divided_without_defects_unknown_type :
    let opening := Row.ofCells 2 [("type", "begin repeat"), ("name", "g")]
    let unknown := Row.ofCells 3 [("type", "rating"), ("name", "a")]
    let closing := Row.ofCells 4 [("type", "end repeat")]
    let table := Row.ofCells 5 [("type", "table"), ("name", "t")]
    let divided := [Survey.groupMark "global" "", opening, unknown, closing, Survey.slideMark 0,
      table, Survey.endMark, Survey.endMark]
    (Survey.divide [opening, unknown, closing, table]).outcome = .ok divided ∧
      ∃ result : Except ConversionError Node,
        Node.ofBlock (.ofList [("t", [["", "number n"], ["row"]])]) divided =
          Failure.lift result := by
  dsimp only
  refine ⟨?divided, divided_without_defects.2.1 _ _ ?divided _⟩
  rw [Survey.outcome_divide]
  rfl

end Questionnaire
