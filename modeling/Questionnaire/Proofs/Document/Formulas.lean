import Questionnaire.Proofs.Document.Built
import Questionnaire.Proofs.Document.Difference
import Questionnaire.Proofs.Document.SharedCompiler

/-!
# Formulas Are Local to Their Rows

A formula of a survey has its effect on the node of its row and nowhere else. If two
forms differ in the formulas of one row, and both are converted, their documents are the
same but for the node of that row, and there only in what formulas decide.

A row gives all its other attributes to its node without regard to its formulas. The rows
are the same elsewhere and of the same kinds everywhere, so they have the same marks and
are put into the same slides, and the two trees are built in step; they are the same up
to the row and after it. What is left is the numbering, which does not look at
attributes. That all formulas of a form are compiled by one compiler does not come into it,
since the forms are converted as they are with a compiler for each formula.

## Main definitions

* `Row.SameButFormulas`: Rows that differ in formulas only.
* `Node.AreOf`: Two nodes of a row that differ in what formulas decide.
* `Node.DifferIn`: Two trees that differ in the node of a row, if the row makes one.

## Theorems

* `Node.withoutFormulas_ofQuestion`, `GroupHead.withoutFormulas_node`: The node of one row.
* `Survey.Balanced.congr`: Rows are balanced by their kinds.
* `Node.differIn_row`, `Node.differIn_header`, `Node.differIn_inside`, `Node.differIn_behind_row`,
  `Node.differIn_behind_group`: The nodes of items, by where the row stands to the first one.
* `Node.differIn_ofItems`: The trees of balanced rows that differ in one row.
* `Survey.exists_wrapLooseFrom`: The wrapper leaves such a pair of surveys as it is.
* `Form.differAt_of_convert`: The documents of forms that differ in the formulas of one row.
-/

namespace Questionnaire

open Survey (Balanced Item makesNode wrapLooseFrom)

/-! ### One row -/

namespace Row

/-- The columns of formulas, and of what can be one. -/
def formulaColumns : List String :=
  ["relevant", "constraint", "calculation", "default", "choice_filter", "readonly"]

/-- Rows of one line whose cells are the same, but for formulas. -/
structure SameButFormulas (r r' : Row) : Prop where
  line : r.line = r'.line
  cells : ∀ c : Column, c.name ∉ formulaColumns → r.cells.get? c = r'.cells.get? c

namespace SameButFormulas

variable {r r' : Row}

theorem textIn (h : r.SameButFormulas r') (language : String) {name : String}
    (hname : name ∉ formulaColumns) : r.textIn language name = r'.textIn language name := by
  have hcells : ∀ l, r.cells.get? ⟨name, l⟩ = r'.cells.get? ⟨name, l⟩ := fun l =>
    h.cells ⟨name, l⟩ hname
  rw [Row.textIn, Row.textIn]
  simp only [hcells]

theorem kind (h : r.SameButFormulas r') : r.kind = r'.kind :=
  congrArg RowKind.ofType (h.textIn "" (by decide))

theorem name (h : r.SameButFormulas r') : r.name = r'.name :=
  h.textIn "" (by decide)

theorem label (h : r.SameButFormulas r') (language : String) :
    r.label language = r'.label language :=
  h.textIn language (by decide)

theorem hint (h : r.SameButFormulas r') (language : String) :
    r.hint language = r'.hint language :=
  h.textIn language (by decide)

theorem appearance (h : r.SameButFormulas r') : r.appearance = r'.appearance :=
  h.textIn "" (by decide)

theorem parameters (h : r.SameButFormulas r') : r.parameters = r'.parameters :=
  h.textIn "" (by decide)

theorem repeatCount (h : r.SameButFormulas r') : r.repeatCount = r'.repeatCount :=
  h.textIn "" (by decide)

theorem trans {r'' : Row} (h : r.SameButFormulas r') (h' : r'.SameButFormulas r'') :
    r.SameButFormulas r'' :=
  ⟨h.line.trans h'.line, fun c hc => (h.cells c hc).trans (h'.cells c hc)⟩

/-- A row with the cell of a formula set. -/
theorem set (r : Row) {header : String} (hheader : (Column.ofHeader header).name ∈ formulaColumns)
    (value : String) : r.SameButFormulas (r.set header value) := by
  constructor
  · rw [Row.set, Row.setColumn]
    split <;> rfl
  · intro c hc
    have hne : ¬ compare c (Column.ofHeader header) = .eq := by
      rw [Std.LawfulEqCmp.compare_eq_iff_eq]
      rintro rfl
      exact hc hheader
    rw [Row.get?_set, if_neg hne]

theorem ofSurvey (h : r.SameButFormulas r') (language : String) :
    TextPair.ofSurvey language r = TextPair.ofSurvey language r' := by
  have hmessages : ∀ l, r.constraintMessage l = r'.constraintMessage l ∧
      r.requiredMessage l = r'.requiredMessage l := fun l =>
    ⟨h.textIn l (by decide), h.textIn l (by decide)⟩
  simp only [TextPair.ofSurvey, h.line, h.label, h.hint, hmessages]

end SameButFormulas

end Row

theorem FieldKind.takesLabel_withoutFormulas (k : FieldKind) :
    k.withoutFormulas.takesLabel = k.takesLabel := by
  cases k <;> rfl

theorem FieldKind.withoutFormulas_ofRow {tables : Dictionary String Grid} {r r' : Row}
    (hr : r.SameButFormulas r') {kind kind' : FieldKind} (h : ofRow tables r = .ok kind)
    (h' : ofRow tables r' = .ok kind') : kind.withoutFormulas = kind'.withoutFormulas := by
  rw [ofRow] at h h'
  rw [← hr.kind] at h'
  cases hkind : r.kind with
  | select several list =>
      rw [hkind] at h h'
      rcases bind_eq_ok.1 (Failure.lift_eq_ok.1 h) with ⟨filter, _, h⟩
      rcases bind_eq_ok.1 (Failure.lift_eq_ok.1 h') with ⟨filter', _, h'⟩
      cases h
      cases h'
      rw [withoutFormulas, withoutFormulas, hr.appearance]
  | question kind =>
      rw [hkind] at h h'
      cases kind with
      | calculate =>
          rcases map_eq_ok.1 (Failure.lift_eq_ok.1 h) with ⟨text, _, rfl⟩
          rcases map_eq_ok.1 (Failure.lift_eq_ok.1 h') with ⟨text', _, rfl⟩
          rfl
      -- No other question has a formula of its own, so the rows give the same kind.
      | note =>
          dsimp only [ofQuestion] at h h'
          rw [hr.label, h'] at h
          rw [Except.ok.inj h]
      | text | image =>
          dsimp only [ofQuestion] at h h'
          rw [hr.appearance, h'] at h
          rw [Except.ok.inj h]
      | table =>
          dsimp only [ofQuestion] at h h'
          rw [hr.name, hr.line, h'] at h
          rw [Except.ok.inj h]
      | range =>
          dsimp only [ofQuestion] at h h'
          rw [hr.parameters, hr.line, h'] at h
          rw [Except.ok.inj h]
      | _ =>
          dsimp only [ofQuestion] at h h'
          rw [h'] at h
          rw [Except.ok.inj h]
  | _ =>
      rw [hkind] at h
      cases h

theorem Node.withoutFormulas_ofQuestion {tables : Dictionary String Grid} {r r' : Row}
    (hr : r.SameButFormulas r') {n n' : Node} (h : ofQuestion tables r = .ok n)
    (h' : ofQuestion tables r' = .ok n') : n.withoutFormulas = n'.withoutFormulas := by
  rw [ofQuestion] at h h'
  rcases bind_eq_ok.1 h with ⟨default, _, h⟩
  rcases bind_eq_ok.1 h with ⟨editable, _, h⟩
  rcases bind_eq_ok.1 h with ⟨validation, _, h⟩
  rcases bind_eq_ok.1 h with ⟨kind, hkind, h⟩
  rcases bind_eq_ok.1 h with ⟨visibility, _, h⟩
  rcases bind_eq_ok.1 h' with ⟨default', _, h'⟩
  rcases bind_eq_ok.1 h' with ⟨editable', _, h'⟩
  rcases bind_eq_ok.1 h' with ⟨validation', _, h'⟩
  rcases bind_eq_ok.1 h' with ⟨kind', hkind', h'⟩
  rcases bind_eq_ok.1 h' with ⟨visibility', _, h'⟩
  cases h
  cases h'
  have hkinds := FieldKind.withoutFormulas_ofRow hr hkind hkind'
  have htakes : kind.takesLabel = kind'.takesLabel := by
    rw [← FieldKind.takesLabel_withoutFormulas, hkinds, FieldKind.takesLabel_withoutFormulas]
  simp only [Node.withoutFormulas, Field.withoutFormulas, NodeInfo.withoutFormulas, Row.info,
    hkinds, htakes, hr.name, hr.line, hr.label, hr.hint]

theorem GroupHead.withoutFormulas_node {r r' : Row} (hr : r.SameButFormulas r')
    {head head' : GroupHead} (h : GroupHead.ofRow r = .ok head)
    (h' : GroupHead.ofRow r' = .ok head') (ns : List Node) :
    (head.node ns).withoutFormulas = (head'.node ns).withoutFormulas := by
  rw [ofRow] at h h'
  rcases bind_eq_ok.1 h with ⟨visibility, _, h⟩
  rcases bind_eq_ok.1 h with ⟨readonly, _, h⟩
  rcases bind_eq_ok.1 h with ⟨kind, hkind, h⟩
  rcases bind_eq_ok.1 h' with ⟨visibility', _, h'⟩
  rcases bind_eq_ok.1 h' with ⟨readonly', _, h'⟩
  rcases bind_eq_ok.1 h' with ⟨kind', hkind', h'⟩
  cases h
  cases h'
  have hkinds : kindOfRow r = kindOfRow r' := by
    rw [kindOfRow, kindOfRow, hr.kind, hr.repeatCount, hr.line]
  rw [hkinds, hkind'] at hkind
  cases hkind
  simp only [node, Node.withoutFormulas, NodeInfo.withoutFormulas, Row.info, hr.name, hr.line,
    hr.label]

namespace Node

/-- Two nodes of one row that are the same but for what formulas decide. -/
structure AreOf (r : Row) (n n' : Node) : Prop where
  same : n.withoutFormulas = n'.withoutFormulas
  name : n.name = r.name
  line : n.line = r.line

theorem AreOf.asSlide {r : Row} {n n' : Node} (h : AreOf r n n') :
    AreOf r n.asSlide n'.asSlide := by
  have hslide : ∀ m : Node, m.asSlide.withoutFormulas = m.withoutFormulas.asSlide ∧
      m.asSlide.info = m.info := by
    intro m
    cases m with
    | field i f => exact ⟨rfl, rfl⟩
    | group i kind readonly ns => cases kind <;> exact ⟨rfl, rfl⟩
  refine ⟨?_, ?_, ?_⟩
  · rw [(hslide n).1, (hslide n').1, h.same]
  · rw [Node.name, (hslide n).2]
    exact h.name
  · rw [Node.line, (hslide n).2]
    exact h.line

/-- The number of a node does not depend on its formulas. -/
theorem number_withoutFormulas (id parent : Nat) (n : Node) :
    number id parent n.withoutFormulas = (number id parent n).map withoutFormulas := by
  cases n with
  | field i f => rfl
  | group i kind readonly ns =>
      rw [withoutFormulas, number, number]
      cases numberFrom (id * idFactor + 1) id ns <;> rfl

theorem AreOf.number {r : Row} {id parent : Nat} {n n' m m' : Node} (h : AreOf r n n')
    (hm : number id parent n = .ok m) (hm' : number id parent n' = .ok m') : AreOf r m m' := by
  have hsame := congrArg (Node.number id parent) h.same
  rw [number_withoutFormulas, number_withoutFormulas, hm, hm'] at hsame
  refine ⟨Except.ok.inj hsame, ?_, ?_⟩
  · rw [Node.name, info_number hm]
    exact h.name
  · rw [Node.line, info_number hm]
    exact h.line

end Node

/-! ### The tree -/

/-- Where an element stands in a list around another. -/
theorem cases_of_append_cons_eq {α : Type} {inner rest before after : List α} {a b : α}
    (h : inner ++ a :: rest = before ++ b :: after) :
    (∃ more, inner = before ++ b :: more ∧ after = more ++ a :: rest) ∨
      (before = inner ∧ b = a ∧ after = rest) ∨
      ∃ more, before = inner ++ a :: more ∧ rest = more ++ b :: after := by
  rcases List.append_eq_append_iff.1 h with ⟨more, rfl, hmore⟩ | ⟨more, rfl, hmore⟩
  · cases more with
    | nil =>
        cases hmore
        exact Or.inr (Or.inl ⟨List.append_nil _, rfl, rfl⟩)
    | cons m more =>
        cases hmore
        exact Or.inr (Or.inr ⟨more, rfl, rfl⟩)
  · cases more with
    | nil =>
        cases hmore
        exact Or.inr (Or.inl ⟨(List.append_nil _).symm, rfl, rfl⟩)
    | cons m more =>
        cases hmore
        exact Or.inl ⟨more, rfl, rfl⟩

/-- Whether rows are balanced is decided by their kinds. -/
theorem Survey.Balanced.congr {rows rows' : List Row} (h : Balanced rows)
    (hkinds : rows.map Row.kind = rows'.map Row.kind) : Balanced rows' := by
  induction h generalizing rows' with
  | nil =>
      rw [List.map_nil, eq_comm, List.map_eq_nil_iff] at hkinds
      rw [hkinds]
      exact .nil
  | row hbegin hend _ ih =>
      rw [List.map_cons, eq_comm, List.map_eq_cons_iff] at hkinds
      rcases hkinds with ⟨r', rest', rfl, hkind, hrest⟩
      exact .row (hkind ▸ hbegin) (hkind ▸ hend) (ih hrest.symm)
  | @block opening closing inner rest hcloses _ _ ihInner ihRest =>
      rw [List.map_cons, List.map_append, List.map_cons, eq_comm, List.map_eq_cons_iff] at hkinds
      rcases hkinds with ⟨opening', _, rfl, hopening, hkinds⟩
      rcases List.map_eq_append_iff.1 hkinds with ⟨inner', _, rfl, hinner, hkinds⟩
      rcases List.map_eq_cons_iff.1 hkinds with ⟨closing', rest', rfl, hclosing, hrest⟩
      refine .block ?_ (ihInner hinner.symm) (ihRest hrest.symm)
      rw [hopening, hclosing]
      exact hcloses

/-- Rows with another row of the same kind in the place of one are balanced as they were. -/
theorem Survey.Balanced.replace {before after : List Row} {r r' : Row}
    (h : Balanced (before ++ r :: after)) (hkind : r.kind = r'.kind) :
    Balanced (before ++ r' :: after) := by
  refine h.congr ?_
  simp only [List.map_append, List.map_cons, hkind]

namespace Node

/-- Trees that were built with and without a change of the formulas of a row. If the row makes a
    node, they differ in it alone, and otherwise not at all. -/
def DifferIn (r : Row) (place : Nat) (ns ns' : List Node) : Prop :=
  if makesNode r then DifferAt (AreOf r) place ns ns' else ns = ns'

section DifferIn

variable {r : Row} {place : Nat} {ns ns' : List Node}

theorem DifferIn.of_eq (hmakes : makesNode r = false) (h : ns = ns') : DifferIn r place ns ns' := by
  rw [DifferIn, hmakes]
  exact h

theorem DifferIn.here (hmakes : makesNode r = true) {n n' : Node} (h : AreOf r n n')
    (after : List Node) : DifferIn r 0 (n :: after) (n' :: after) := by
  rw [DifferIn, hmakes]
  exact .here h after

theorem DifferIn.behind (h : DifferIn r place ns ns') (first : Node) :
    DifferIn r (first.subtree.length + place) (first :: ns) (first :: ns') := by
  rw [DifferIn] at h ⊢
  cases hmakes : makesNode r with
  | true =>
      rw [hmakes] at h
      exact .behind first h
  | false =>
      rw [hmakes] at h
      exact congrArg (List.cons first) h

theorem DifferIn.inside (h : DifferIn r place ns ns') (i : NodeInfo) (kind : GroupKind)
    (readonly : Option String) (after : List Node) :
    DifferIn r (place + 1) (group i kind readonly ns :: after)
      (group i kind readonly ns' :: after) := by
  rw [DifferIn] at h ⊢
  cases hmakes : makesNode r with
  | true =>
      rw [hmakes] at h
      exact .inside i kind readonly h after
  | false =>
      rw [hmakes] at h
      exact congrArg (fun ns => group i kind readonly ns :: after) h

end DifferIn

/-! What the change of a row does to the nodes of items, by where the row stands. -/

section Items

variable {tables : Dictionary String Grid} {r r' : Row} {items items' inner inner' : List Item}
  {nodes nodes' : List Node} {place : Nat}

/-- The row is the first item. -/
theorem differIn_row (hr : r.SameButFormulas r') (hbegin : r.kind.isBegin = false)
    (hnodes : ofItems tables (.row r :: items) = .ok nodes)
    (hnodes' : ofItems tables (.row r' :: items) = .ok nodes') : DifferIn r 0 nodes nodes' := by
  have hmakes := Survey.makesNode_of_not_isBegin hbegin
  cases hquestion : r.kind.isQuestion with
  | true =>
      rcases ofItems_question hquestion hnodes with ⟨n, ns, hn, hns, rfl⟩
      rcases ofItems_question (hr.kind ▸ hquestion) hnodes' with ⟨n', ns', hn', hns', rfl⟩
      rw [hns] at hns'
      cases hns'
      rcases ofQuestion_eq_ok hn with ⟨i, f, rfl, hname, hline⟩
      exact .here (hmakes.trans hquestion) ⟨withoutFormulas_ofQuestion hr hn hn', hname, hline⟩ ns
  | false =>
      rw [ofItems_dropped _ hquestion] at hnodes
      rw [ofItems_dropped _ (hr.kind ▸ hquestion), hnodes] at hnodes'
      exact .of_eq (hmakes.trans hquestion) (Except.ok.inj hnodes')

/-- The row opens the first item. -/
theorem differIn_header (hr : r.SameButFormulas r') (hbegin : r.kind.isBegin = true)
    (hnodes : ofItems tables (.group r inner :: items) = .ok nodes)
    (hnodes' : ofItems tables (.group r' inner :: items) = .ok nodes') :
    DifferIn r 0 nodes nodes' := by
  rcases ofItems_group hnodes with ⟨head, ns, others, hhead, hns, hothers, rfl⟩
  rcases ofItems_group hnodes' with ⟨head', ns', others', hhead', hns', hothers', rfl⟩
  rw [hns] at hns'
  rw [hothers] at hothers'
  cases hns'
  cases hothers'
  rcases GroupHead.name_and_line_of_ofRow hhead with ⟨hname, hline⟩
  exact .here (Survey.makesNode_of_isBegin hbegin)
    ⟨GroupHead.withoutFormulas_node hr hhead hhead' ns, hname, hline⟩ others

/-- The row is inside the first item. -/
theorem differIn_inside {header : Row}
    (h : ∀ {ns ns'}, ofItems tables inner = .ok ns → ofItems tables inner' = .ok ns' →
      DifferIn r place ns ns')
    (hnodes : ofItems tables (.group header inner :: items) = .ok nodes)
    (hnodes' : ofItems tables (.group header inner' :: items) = .ok nodes') :
    DifferIn r (place + 1) nodes nodes' := by
  rcases ofItems_group hnodes with ⟨head, ns, others, hhead, hns, hothers, rfl⟩
  rcases ofItems_group hnodes' with ⟨head', ns', others', hhead', hns', hothers', rfl⟩
  rw [hhead] at hhead'
  rw [hothers] at hothers'
  cases hhead'
  cases hothers'
  exact (h hns hns').inside head.info head.kind head.readonly others

/-- The row is behind the first item, which is a row. -/
theorem differIn_behind_row {first : Row} (hbegin : first.kind.isBegin = false)
    (h : ∀ {ns ns'}, ofItems tables items = .ok ns → ofItems tables items' = .ok ns' →
      DifferIn r place ns ns')
    (hnodes : ofItems tables (.row first :: items) = .ok nodes)
    (hnodes' : ofItems tables (.row first :: items') = .ok nodes') :
    DifferIn r ([first].countP makesNode + place) nodes nodes' := by
  have hmakes := Survey.makesNode_of_not_isBegin hbegin
  cases hquestion : first.kind.isQuestion with
  | true =>
      rcases ofItems_question hquestion hnodes with ⟨n, ns, hn, hns, rfl⟩
      rcases ofItems_question hquestion hnodes' with ⟨n', ns', hn', hns', rfl⟩
      rw [hn] at hn'
      cases hn'
      rcases ofQuestion_eq_ok hn with ⟨i, f, rfl, _, _⟩
      rw [List.countP_cons_of_pos (hmakes.trans hquestion)]
      exact (h hns hns').behind (.field i f)
  | false =>
      rw [ofItems_dropped _ hquestion] at hnodes hnodes'
      rw [List.countP_cons_of_neg (Bool.eq_false_iff.1 (hmakes.trans hquestion)), List.countP_nil,
        Nat.zero_add]
      exact h hnodes hnodes'

/-- The row is behind the first item, which is a group. There are as many nodes in the group as
    there are rows in it that make one. -/
theorem differIn_behind_group {header : Row} {rows : List Row} (hrows : Balanced rows)
    (h : ∀ {ns ns'}, ofItems tables items = .ok ns → ofItems tables items' = .ok ns' →
      DifferIn r place ns ns')
    (hnodes : ofItems tables (.group header (Item.ofRows rows) :: items) = .ok nodes)
    (hnodes' : ofItems tables (.group header (Item.ofRows rows) :: items') = .ok nodes') :
    DifferIn r (rows.countP makesNode + 1 + place) nodes nodes' := by
  rcases ofItems_group hnodes with ⟨head, ns, others, hhead, hns, hothers, rfl⟩
  rcases ofItems_group hnodes' with ⟨head', ns', others', hhead', hns', hothers', rfl⟩
  rw [hhead] at hhead'
  rw [hns] at hns'
  cases hhead'
  cases hns'
  have hsize := (built_ofItems hrows hns).length_eq
  rw [← List.countP_eq_length_filter] at hsize
  have hsubtree : (head.node ns).subtree.length = rows.countP makesNode + 1 := by
    rw [GroupHead.node, subtree, List.length_cons, hsize]
  rw [← hsubtree]
  exact (h hothers hothers').behind (head.node ns)

end Items

/-- The trees of balanced rows that differ in the formulas of one row. -/
theorem differIn_ofItems {tables : Dictionary String Grid} {r r' : Row}
    (hr : r.SameButFormulas r') {rows : List Row} (h : Balanced rows) {before after : List Row}
    (hrows : rows = before ++ r :: after) {nodes nodes' : List Node}
    (hnodes : ofItems tables (Item.ofRows rows) = .ok nodes)
    (hnodes' : ofItems tables (Item.ofRows (before ++ r' :: after)) = .ok nodes') :
    DifferIn r (before.countP makesNode) nodes nodes' := by
  -- On how the rows are balanced. The row is the first one, or stands behind it; and if that one
  -- opens a group, the row is in the group, or its end, or comes after it.
  induction h generalizing before after nodes nodes' with
  | nil => exact absurd hrows.symm (by simp)
  | @row first rest hbegin hend _ ih =>
      rw [Item.ofRows_row hbegin hend] at hnodes
      cases before with
      | nil =>
          cases hrows
          rw [List.nil_append, Item.ofRows_row (hr.kind ▸ hbegin) (hr.kind ▸ hend)] at hnodes'
          exact differIn_row hr hbegin hnodes hnodes'
      | cons b before =>
          cases hrows
          rw [List.cons_append, Item.ofRows_row hbegin hend] at hnodes'
          rw [← List.singleton_append, List.countP_append]
          exact differIn_behind_row hbegin (ih rfl) hnodes hnodes'
  | @block opening closing inner rest hcloses hinner hrest ihInner ihRest =>
      have hopening := RowKind.isBegin_of_closes hcloses
      have hclosing := Survey.makesNode_of_isEnd (RowKind.isEnd_of_closes hcloses)
      rw [Item.ofRows_block hcloses hinner] at hnodes
      cases before with
      | nil =>
          cases hrows
          rw [List.nil_append, Item.ofRows_block (hr.kind ▸ hcloses) hinner] at hnodes'
          exact differIn_header hr hopening hnodes hnodes'
      | cons b before =>
          rw [List.cons_append, List.cons.injEq] at hrows
          rcases hrows with ⟨rfl, hrows⟩
          rw [List.countP_cons_of_pos (Survey.makesNode_of_isBegin hopening)]
          rcases cases_of_append_cons_eq hrows with
            ⟨more, rfl, rfl⟩ | ⟨rfl, rfl, rfl⟩ | ⟨more, rfl, rfl⟩
          · -- The row stands inside the group.
            have hrows' : opening :: before ++ r' :: (more ++ closing :: rest) =
                opening :: ((before ++ r' :: more) ++ closing :: rest) := by simp
            rw [hrows', Item.ofRows_block hcloses (hinner.replace hr.kind)] at hnodes'
            exact differIn_inside (ihInner rfl) hnodes hnodes'
          · -- The row closes the group, and its formulas are not looked at.
            rw [List.cons_append, Item.ofRows_block (hr.kind ▸ hcloses) hinner, hnodes] at hnodes'
            exact .of_eq hclosing (Except.ok.inj hnodes')
          · -- The row stands behind the group.
            have hrows' : opening :: (inner ++ closing :: more) ++ r' :: after =
                opening :: (inner ++ closing :: (more ++ r' :: after)) := by simp
            have hplace : (inner ++ closing :: more).countP makesNode + 1 =
                inner.countP makesNode + 1 + more.countP makesNode := by
              rw [List.countP_append, List.countP_cons_of_neg (Bool.eq_false_iff.1 hclosing)]
              omega
            rw [hrows', Item.ofRows_block hcloses hinner] at hnodes'
            rw [hplace]
            exact differIn_behind_group hinner (ihRest rfl) hnodes hnodes'

end Node

/-! ### The wrapped survey -/

namespace Survey

/-- One step of the wrapper: some marks, and the row. The marks and where the wrapper goes on from
    are decided by the kind of the row. -/
theorem wrapLooseFrom_cons (kind : RowKind) (depth slides : Nat) (inStretch : Bool) :
    ∃ marks depth' slides' inStretch', ∀ (r : Row) (rest : List Row), r.kind = kind →
      wrapLooseFrom depth slides inStretch (r :: rest) =
        marks ++ r :: wrapLooseFrom depth' slides' inStretch' rest := by
  by_cases hbegin : kind.isBegin = true
  · refine ⟨if inStretch then [endMark] else [], depth + 1, slides, false, ?_⟩
    rintro r rest rfl
    rw [wrapLooseFrom, if_pos hbegin]
  by_cases hend : kind.isEnd = true
  · refine ⟨[], depth - 1, slides, inStretch, ?_⟩
    rintro r rest rfl
    rw [wrapLooseFrom, if_neg hbegin, if_pos hend, List.nil_append]
  by_cases hopens : (depth = 0 && !inStretch && kind != .metadata) = true
  · refine ⟨[slideMark slides], depth, slides + 1, true, ?_⟩
    rintro r rest rfl
    rw [wrapLooseFrom, if_neg hbegin, if_neg hend, if_pos hopens, List.singleton_append]
  · refine ⟨[], depth, slides, inStretch, ?_⟩
    rintro r rest rfl
    rw [wrapLooseFrom, if_neg hbegin, if_neg hend, if_neg hopens, List.nil_append]

/-- The wrapper does the same around two rows of one kind. In front of them are the rows that
    make nodes up to there, and marks of slides. -/
theorem exists_wrapLooseFrom {r r' : Row} (hkind : r.kind = r'.kind) (before after : List Row)
    (depth slides : Nat) (inStretch : Bool) :
    ∃ front back, wrapLooseFrom depth slides inStretch (before ++ r :: after) = front ++ r :: back ∧
      wrapLooseFrom depth slides inStretch (before ++ r' :: after) = front ++ r' :: back ∧
      (wrapLooseFrom depth slides inStretch (before ++ [r])).countP makesNode =
        (front ++ [r]).countP makesNode := by
  induction before generalizing depth slides inStretch with
  | nil =>
      rcases wrapLooseFrom_cons r.kind depth slides inStretch with
        ⟨marks, depth', slides', inStretch', hstep⟩
      refine ⟨marks, wrapLooseFrom depth' slides' inStretch' after, hstep r after rfl,
        hstep r' after hkind.symm, ?_⟩
      -- At the end of the survey only the mark of an end is put in.
      have hend : (wrapLooseFrom depth' slides' inStretch' []).countP makesNode = 0 := by
        cases inStretch' <;> rfl
      rw [List.nil_append, hstep r [] rfl, List.countP_append, List.countP_append,
        List.countP_cons, hend, List.countP_cons, List.countP_nil]
  | cons b before ih =>
      rcases wrapLooseFrom_cons b.kind depth slides inStretch with
        ⟨marks, depth', slides', inStretch', hstep⟩
      rcases ih depth' slides' inStretch' with ⟨front, back, hrow, hrow', hcount⟩
      refine ⟨marks ++ b :: front, back, ?_, ?_, ?_⟩
      · simp [hstep b _ rfl, hrow]
      · simp [hstep b _ rfl, hrow']
      · simp only [List.cons_append, hstep b _ rfl, List.append_assoc, List.countP_append,
          List.countP_cons, hcount]

end Survey

namespace Form

variable {form : Form} {before after : List Row} {r r' : Row}

theorem translations_formulas (hsurvey : form.survey = before ++ r :: after)
    (hr : r.SameButFormulas r') :
    (form.withSurvey (before ++ r' :: after)).translations = form.translations := by
  refine translations_withSurvey fun language => ?_
  simp only [translation, textPairs, withSurvey, hsurvey, List.flatMap_append, List.flatMap_cons,
    hr.ofSurvey]

/-- The slides of two forms that differ in the formulas of one row. -/
theorem differAt_of_built (hsurvey : form.survey = before ++ r :: after)
    (hr : r.SameButFormulas r') {doc doc' : Document} (h : form.Accepts doc)
    (h' : (form.withSurvey (before ++ r' :: after)).Accepts doc') :
    if makesNode r then
      ∃ place, place + 1 = (Survey.wrapLoose (before ++ [r])).countP makesNode ∧
        Node.DifferAt (Node.AreOf r) place doc.nodes doc'.nodes
    else doc.nodes = doc'.nodes := by
  rcases h.built with ⟨nodes, hnodes, hnumber⟩
  rcases h'.built with ⟨nodes', hnodes', hnumber'⟩
  rcases Survey.exists_wrapLooseFrom hr.kind before after 0 0 false with
    ⟨front, back, hwrapped, hwrapped', hcount⟩
  have hbalanced := (Survey.balanced_of_checkBalance h.balanced).wrapLoose
  rw [hsurvey, Survey.wrapLoose, hwrapped] at hnodes hbalanced
  rw [withSurvey, Survey.wrapLoose, hwrapped'] at hnodes'
  have hdiffer := Node.differIn_ofItems hr hbalanced rfl hnodes hnodes'
  rw [Node.DifferIn] at hdiffer
  cases hmakes : makesNode r with
  | true =>
      rw [hmakes] at hdiffer
      refine ⟨front.countP makesNode, ?_, ?_⟩
      · rw [Survey.wrapLoose, hcount, List.countP_append, List.countP_cons_of_pos hmakes,
          List.countP_nil]
      · -- Neither step looks at attributes, so the trees go on differing in the same node.
        exact (hdiffer.map_asSlide Node.AreOf.asSlide).numberFrom Node.AreOf.number hnumber hnumber'
  | false =>
      rw [hmakes] at hdiffer
      have hsame : nodes = nodes' := hdiffer
      rw [hsame, hnumber'] at hnumber
      exact (Except.ok.inj hnumber).symm

/-- If two forms that are converted differ in the formulas of one row only, their documents
    differ in the node of that row only, and there in what formulas decide. The place of
    the node is told by the rows up to its own, with the slides that are put in among them. A row
    that makes no node makes no difference. All of this is so if one compiler is used for all
    the formulas of a form, whatever it was used for before. -/
theorem differAt_of_convert (hsurvey : form.survey = before ++ r :: after)
    (hr : r.SameButFormulas r') {doc doc' : Document} (h : form.convert.outcome = .ok doc)
    (h' : (form.withSurvey (before ++ r' :: after)).convert.outcome = .ok doc') :
    (∀ c, form.convertWith c = .ok doc ∧
        (form.withSurvey (before ++ r' :: after)).convertWith c = .ok doc') ∧
      doc.choiceLists = doc'.choiceLists ∧ doc.tags = doc'.tags ∧
      doc.translations = doc'.translations ∧
      if Survey.makesNode r then
        ∃ place, place + 1 = (Survey.wrapLoose (before ++ [r])).countP Survey.makesNode ∧
          Node.DifferAt (Node.AreOf r) place doc.nodes doc'.nodes
      else doc.nodes = doc'.nodes := by
  have haccepts := convert_eq_ok_iff.1 h
  have haccepts' := convert_eq_ok_iff.1 h'
  refine ⟨fun c => ⟨?_, ?_⟩, haccepts.listed.trans haccepts'.listed.symm, ?_, ?_,
    differAt_of_built hsurvey hr haccepts haccepts'⟩
  · rw [convertWith_eq, h]
  · rw [convertWith_eq, h']
  · have htags := haccepts'.tagged
    rw [withSurvey, haccepts.tagged] at htags
    exact Except.ok.inj htags
  · have htexts := haccepts'.translated
    rw [translations_formulas hsurvey hr, haccepts.translated] at htexts
    exact Except.ok.inj htexts

/-- A question with choices in a repeated group, with one condition or with another, and with a
    filter, a constraint and a first value or without. -/
theorem differAt_of_convert_filter :
    let before := [Row.ofCells 2 [("type", "integer"), ("name", "age"), ("label", "Age")],
      Row.ofCells 3 [("type", "begin repeat"), ("name", "visits"), ("label", "Visits")]]
    let r := Row.ofCells 4 [("type", "select_one towns"), ("name", "town"), ("label", "Town"),
      ("relevant", "${age} > 17")]
    let r' := ((((r.set "relevant" "${age} < 65").set "choice_filter" "size = 1").set
      "constraint" ". = 'p'").set "default" "'p'").set "readonly" "yes"
    let after := [Row.ofCells 5 [("type", "end repeat")],
      Row.ofCells 6 [("type", "calculate"), ("name", "next"), ("calculation", "${age} + 1")]]
    let form : Form := ⟨before ++ r :: after,
      [Row.ofCells 2 [("list name", "towns"), ("name", "p"), ("label", "Paris"), ("size", "1")]],
      [], .empty, .empty⟩
    r.SameButFormulas r' ∧ ∃ doc, form.convert.outcome = .ok doc ∧
      ∃ doc', (form.withSurvey (before ++ r' :: after)).convert.outcome = .ok doc' ∧
        (∀ c, form.convertWith c = .ok doc ∧
            (form.withSurvey (before ++ r' :: after)).convertWith c = .ok doc') ∧
          doc.choiceLists = doc'.choiceLists ∧ doc.tags = doc'.tags ∧
          doc.translations = doc'.translations ∧
          if Survey.makesNode r then
            ∃ place, place + 1 = (Survey.wrapLoose (before ++ [r])).countP Survey.makesNode ∧
              Node.DifferAt (Node.AreOf r) place doc.nodes doc'.nodes
          else doc.nodes = doc'.nodes := by
  intro before r r' after form
  have hr : r.SameButFormulas r' :=
    ((((Row.SameButFormulas.set r (by decide) _).trans (.set _ (by decide) _)).trans
      (.set _ (by decide) _)).trans (.set _ (by decide) _)).trans (.set _ (by decide) _)
  refine ⟨hr, exists_of_any (fun _ => true) ?accepted fun doc h _ =>
    exists_of_any (fun _ => true) ?accepted' fun doc' h' _ => differAt_of_convert rfl hr h h'⟩
  case accepted => decide +kernel
  case accepted' => decide +kernel

end Form

end Questionnaire
