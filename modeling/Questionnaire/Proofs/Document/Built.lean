import Mathlib.Data.List.Forall2
import Questionnaire.Proofs.Document.Conversion
import Questionnaire.Proofs.Document.Numbering

/-!
# Nodes and Their Rows

Every node of a tree that was built was built from a row, and every row that makes a
node is the row of one: the rows in the order of the sheet and the nodes in the order
of the tree are the same sequence. So whatever holds of the node of any one row, such
as its name, holds along the two lists, and no proof has to go over the tree again.

## Main definitions

* `Survey.makesNode`: Whether a row makes a node.
* `Node.IsBuiltFrom`: A row, and the node that was built from it.

## Theorems

* `Node.IsBuiltFrom.name_and_line`: What a node has of its row.
* `Node.built_ofItems`: The nodes of balanced rows are those of the rows that make nodes.
* `Node.map_ofItems`: So they have of these rows what every node has of its own.
-/

namespace Questionnaire

open Survey (Balanced Item)

namespace Survey

/-- Whether a row makes a node. -/
def makesNode (r : Row) : Bool :=
  r.kind.isBegin || r.kind.isQuestion

theorem makesNode_of_isBegin {r : Row} (h : r.kind.isBegin = true) : makesNode r = true := by
  rw [makesNode, h, Bool.true_or]

theorem makesNode_of_not_isBegin {r : Row} (h : r.kind.isBegin = false) :
    makesNode r = r.kind.isQuestion := by
  rw [makesNode, h, Bool.false_or]

theorem makesNode_of_isEnd {r : Row} (h : r.kind.isEnd = true) : makesNode r = false := by
  rw [makesNode]
  cases hk : r.kind with
  | endGroup => rfl
  | endRepeat => rfl
  | _ =>
      rw [hk] at h
      cases h

end Survey

namespace Node

/-- A row, and the node that was built from it: a field from a question, or a group with
    whatever it holds from the row that opens it. -/
inductive IsBuiltFrom (tables : Dictionary String Grid) : Row → Node → Prop
  | question {r : Row} {n : Node} (hkind : r.kind.isQuestion = true)
      (h : ofQuestion tables r = .ok n) : IsBuiltFrom tables r n
  | group {r : Row} {head : GroupHead} (hkind : r.kind.isBegin = true)
      (h : GroupHead.ofRow r = .ok head) (ns : List Node) : IsBuiltFrom tables r (head.node ns)

variable {tables : Dictionary String Grid}

theorem IsBuiltFrom.name_and_line {r : Row} {n : Node} (h : IsBuiltFrom tables r n) :
    n.name = r.name ∧ n.line = r.line := by
  cases h with
  | question _ h =>
      rcases ofQuestion_eq_ok h with ⟨i, f, rfl, hname, hline⟩
      exact ⟨hname, hline⟩
  | group _ h => exact GroupHead.name_and_line_of_ofRow h

/-- The nodes of balanced rows, in the order of the tree, were built from the rows that
    make nodes, in their order. -/
theorem built_ofItems {rows : List Row} (h : Balanced rows) {nodes : List Node}
    (hnodes : ofItems tables (Item.ofRows rows) = .ok nodes) :
    List.Forall₂ (IsBuiltFrom tables) (rows.filter Survey.makesNode) (subtrees nodes) := by
  induction h generalizing nodes with
  | nil =>
      rw [Item.ofRows, ofItems] at hnodes
      cases hnodes
      exact .nil
  | @row r rest hbegin hend _ ih =>
      rw [Item.ofRows_row hbegin hend] at hnodes
      have hmakes := Survey.makesNode_of_not_isBegin hbegin
      cases hquestion : r.kind.isQuestion with
      | true =>
          rcases ofItems_question hquestion hnodes with ⟨n, ns, hn, hns, rfl⟩
          have hbuilt : IsBuiltFrom tables r n := .question hquestion hn
          rcases ofQuestion_eq_ok hn with ⟨i, f, rfl, _, _⟩
          rw [List.filter_cons_of_pos (hmakes.trans hquestion)]
          exact .cons hbuilt (ih hns)
      | false =>
          rw [ofItems_dropped _ hquestion] at hnodes
          rw [List.filter_cons_of_neg (Bool.eq_false_iff.1 (hmakes.trans hquestion))]
          exact ih hnodes
  | @block opening closing inner rest hcloses hinner _ ihInner ihRest =>
      have hbegin := RowKind.isBegin_of_closes hcloses
      have hclosing := Survey.makesNode_of_isEnd (RowKind.isEnd_of_closes hcloses)
      rw [Item.ofRows_block hcloses hinner] at hnodes
      rcases ofItems_group hnodes with ⟨head, ns, others, hhead, hns, hothers, rfl⟩
      -- The group, then what it holds, then what follows it; its end makes no node.
      rw [List.filter_cons_of_pos (Survey.makesNode_of_isBegin hbegin), List.filter_append,
        List.filter_cons_of_neg (Bool.eq_false_iff.1 hclosing)]
      exact .cons (.group hbegin hhead ns) (List.rel_append (ihInner hns) (ihRest hothers))

/-- What every node has of its row, the nodes of balanced rows have of those that make nodes. -/
theorem map_ofItems {α : Type} {f : Row → α} {g : Node → α}
    (hfg : ∀ {r n}, IsBuiltFrom tables r n → g n = f r) {rows : List Row} (h : Balanced rows)
    {nodes : List Node} (hnodes : ofItems tables (Item.ofRows rows) = .ok nodes) :
    (subtrees nodes).map g = (rows.filter Survey.makesNode).map f := by
  have hmaps : List.Forall₂ Eq ((rows.filter Survey.makesNode).map f)
      ((subtrees nodes).map g) := by
    rw [List.forall₂_map_left_iff, List.forall₂_map_right_iff]
    exact (built_ofItems h hnodes).imp fun _ _ hbuilt => (hfg hbuilt).symm
  rw [List.forall₂_eq_eq_eq] at hmaps
  exact hmaps.symm

end Node

end Questionnaire
