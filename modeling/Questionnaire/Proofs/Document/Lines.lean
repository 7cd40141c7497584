import Questionnaire.Proofs.Document.Built
import Questionnaire.Proofs.Document.Walk
import Questionnaire.Proofs.Form.Rows
import Questionnaire.Proofs.Form.Translations

/-!
# The Lines of Errors

An error that names a line names one where there is a row. Every step that looks at a
row blames that row and no other, and this is said once for each step; a pass over
rows blames one of them. The rows that are put in have no line of a sheet, and there
are three places where one of them could be blamed. The marks of a slide are never
looked at by the check of the groups, which comes before; their group cannot fail,
since no cell of theirs is a formula; and their node cannot have too large a number,
since a survey has fewer rows than there are numbers.

## Main definitions

* `ConversionError.IsAbout`, `ConversionError.IsAmong`: The row, or one of the rows, that an
  error is about.
* `Node.IsTooDeep`: An error about the number of a node.
* `Node.HaveLinesOf`: Nodes with the lines of rows.
* `Form.Blames`: What an error of a conversion is about.

## Theorems

* `FailsOnly.among`, `FailsOnly.contentOf`, `FailsOnly.meetsAmong`: Errors about some rows are
  errors about more rows.
* `Survey.inner_subset_block`, `Survey.rest_subset_block`: The rows that a group and what is
  behind it are among.
* `Node.failsOnly_ofQuestion`, `GroupHead.failsOnly_ofRow`: One row.
* `Survey.failsOnly_checkTypes`, `Survey.failsOnly_checkNamesFrom`,
  `Survey.failsOnly_checkBalanceFrom`, `ChoiceLists.failsOnly_check`: The checks.
* `Node.failsOnly_ofItems_wrapped`: The tree.
* `Node.failsOnly_numberFrom_slides`: The numbers.
* `Form.failsOnly_convert`: The conversion of a form.
* `Workbook.hasRowAt_of_convert`: The conversion of a workbook.
-/

namespace Questionnaire

open Survey (Balanced Outermost Item checkBalanceFrom wrapLooseFrom)

namespace ConversionError

/-- An error that names no line but that of a row. -/
def IsAbout (r : Row) (e : ConversionError) : Prop :=
  ∀ line ∈ e.line, line = r.line

/-- An error about one of some rows. -/
def IsAmong (rows : List Row) (e : ConversionError) : Prop :=
  ∃ r ∈ rows, e.IsAbout r

/-- An error about what one of some rows has in its cells. -/
def IsContentOf (rows : List Row) (e : ConversionError) : Prop :=
  ∃ r ∈ rows, ∃ fault, e = .content r.line fault

theorem isAbout_of_line {r : Row} {e : ConversionError} (h : e.line = some r.line) :
    e.IsAbout r := by
  intro line hline
  rw [h] at hline
  exact (Option.some.inj hline).symm

theorem IsAbout.isAmong {r : Row} {rows : List Row} {e : ConversionError} (h : e.IsAbout r)
    (hr : r ∈ rows) : e.IsAmong rows :=
  ⟨r, hr, h⟩

theorem IsAmong.mono {rows rows' : List Row} {e : ConversionError} (h : e.IsAmong rows)
    (hrows : rows ⊆ rows') : e.IsAmong rows' := by
  rcases h with ⟨r, hr, habout⟩
  exact ⟨r, hrows hr, habout⟩

theorem IsContentOf.mono {rows rows' : List Row} {e : ConversionError} (h : e.IsContentOf rows)
    (hrows : rows ⊆ rows') : e.IsContentOf rows' := by
  rcases h with ⟨r, hr, fault, rfl⟩
  exact ⟨r, hrows hr, fault, rfl⟩

theorem IsContentOf.isAmong {rows : List Row} {e : ConversionError} (h : e.IsContentOf rows) :
    e.IsAmong rows := by
  rcases h with ⟨r, hr, fault, rfl⟩
  exact ⟨r, hr, isAbout_of_line rfl⟩

end ConversionError

open ConversionError (IsAbout IsAmong IsContentOf isAbout_of_line)

theorem Failure.Meets.mono {P Q : ConversionError → Prop} (hPQ : ∀ e, P e → Q e) :
    ∀ failure, Failure.Meets P failure → Failure.Meets Q failure
  | .error e, h => hPQ e h
  | .defect _, _ => trivial

/-! ### More rows -/

section Rows

variable {α : Type} {r : Row} {rows rows' : List Row}

theorem FailsOnly.among {x : Except ConversionError α} (h : FailsOnly (IsAmong rows) x)
    (hrows : rows ⊆ rows') : FailsOnly (IsAmong rows') x :=
  h.mono fun _ he => he.mono hrows

theorem FailsOnly.contentOf {x : Except ConversionError α} (h : FailsOnly (IsContentOf rows) x)
    (hrows : rows ⊆ rows') : FailsOnly (IsContentOf rows') x :=
  h.mono fun _ he => he.mono hrows

theorem FailsOnly.meetsAmong {x : Except Failure α}
    (h : FailsOnly (Failure.Meets (IsAmong rows)) x) (hrows : rows ⊆ rows') :
    FailsOnly (Failure.Meets (IsAmong rows')) x :=
  h.mono (Failure.Meets.mono fun _ he => he.mono hrows)

theorem FailsOnly.meetsAmong_of_about {x : Except Failure α}
    (h : FailsOnly (Failure.Meets (IsAbout r)) x) (hr : r ∈ rows) :
    FailsOnly (Failure.Meets (IsAmong rows)) x :=
  h.mono (Failure.Meets.mono fun _ he => he.isAmong hr)

namespace Survey

variable (opening closing : Row) (inner rest : List Row)

/-- The rows inside of a group are among those from its opening mark on. -/
theorem inner_subset_block : inner ⊆ opening :: (inner ++ closing :: rest) :=
  List.subset_cons_of_subset opening (List.subset_append_left inner (closing :: rest))

/-- So are the rows behind its closing mark. -/
theorem rest_subset_block : rest ⊆ opening :: (inner ++ closing :: rest) :=
  List.subset_cons_of_subset opening
    (List.subset_append_of_subset_right inner (List.subset_cons_self closing rest))

end Survey

end Rows

/-! ### One row -/

section Row

variable (tables : Dictionary String Grid) (r : Row)

theorem Row.failsOnly_compile (formula : String) (place : Formula.Place) :
    FailsOnly (IsAbout r) (r.compile formula place) :=
  .mapError fun _ _ => isAbout_of_line rfl

theorem Row.failsOnly_compileFilled (formula : String) (place : Formula.Place) :
    FailsOnly (IsAbout r) (r.compileFilled formula place) := by
  rw [compileFilled]
  split
  · exact failsOnly_ok _
  · exact .map _ (r.failsOnly_compile formula place)

theorem Row.failsOnly_editable : FailsOnly (IsAbout r) r.editable := by
  rw [Row.editable]
  split
  · exact failsOnly_ok _
  · exact failsOnly_ok _
  · exact failsOnly_error.2 (isAbout_of_line rfl)

theorem Validation.failsOnly_ofRow : FailsOnly (IsAbout r) (ofRow r) := by
  have hrequired : FailsOnly (IsAbout r) (requiredOfRow r) := by
    rw [requiredOfRow]
    split
    · exact failsOnly_ok _
    · exact failsOnly_ok _
    · exact failsOnly_error.2 (isAbout_of_line rfl)
  have hconstraint : FailsOnly (IsAbout r) (constraintOfRow r) :=
    .bind (r.failsOnly_compileFilled _ _) fun _ _ => failsOnly_ok _
  rw [ofRow]
  split
  · exact failsOnly_ok _
  · exact .bind hrequired fun _ _ => .bind hconstraint fun _ _ => failsOnly_ok _

theorem failsOnly_tableFault {α : Type} (name : String) (fault : TableFault) :
    FailsOnly (Failure.Meets (IsAbout r)) (tableFault name fault : Except Failure α) := by
  refine .lift (failsOnly_error.2 ?_)
  rintro line ⟨⟩

/-- A fault of the sheet behind a table has no line; one in a cell has that of the question. -/
theorem Table.failsOnly_ofGrid (name : String) (grid? : Option Grid) :
    FailsOnly (Failure.Meets (IsAbout r)) (ofGrid name r.line grid?) := by
  have hfault := fun {α} fault => failsOnly_tableFault (α := α) r name fault
  have hcolumns : ∀ headers,
      FailsOnly (IsAbout r) ((readColumns headers).mapError (.table name)) := by
    intro headers
    refine .mapError ?_
    rintro fault _ line ⟨⟩
  have hmargins : ∀ grid, FailsOnly (Failure.Meets (IsAbout r)) (readMargins name grid) := by
    intro grid
    rw [readMargins]
    split
    · exact hfault _
    · refine .bind (.assert _) fun first _ => ?_
      dsimp only
      split
      · exact hfault _
      · refine .bind (.assert _) fun headers _ => .bind (.lift (hcolumns headers)) fun _ _ =>
          .bind (.assert _) fun below _ => ?_
        split
        · exact hfault _
        · split
          · exact hfault _
          · exact failsOnly_ok _
  cases grid? with
  | none => exact hfault _
  | some grid =>
      refine .bind (hmargins grid) fun margins _ => .bind (.assert _) fun body _ => ?_
      refine .bind (.lift (.mapError ?_)) fun _ _ => failsOnly_ok _
      exact fun _ _ => isAbout_of_line rfl

theorem FieldKind.failsOnly_ofRow :
    FailsOnly (Failure.Meets (IsAbout r)) (ofRow tables r) := by
  rw [ofRow]
  split
  · rename_i kind _
    cases kind with
    | calculate => exact .lift (.map _ (r.failsOnly_compile _ _))
    | table => exact .map _ (Table.failsOnly_ofGrid r _ _)
    | range =>
        rw [ofQuestion]
        split
        · exact failsOnly_ok _
        · exact .lift (failsOnly_error.2 (isAbout_of_line rfl))
    | _ => exact failsOnly_ok _
  · exact .lift (.bind (r.failsOnly_compileFilled _ _) fun _ _ => failsOnly_ok _)
  · exact failsOnly_error.2 trivial

theorem Node.failsOnly_ofQuestion :
    FailsOnly (Failure.Meets (IsAbout r)) (ofQuestion tables r) := by
  rw [ofQuestion]
  refine .bind (.lift (r.failsOnly_compileFilled _ _)) fun _ _ => ?_
  refine .bind (.lift r.failsOnly_editable) fun _ _ => ?_
  refine .bind (.lift (Validation.failsOnly_ofRow r)) fun _ _ => ?_
  refine .bind (FieldKind.failsOnly_ofRow tables r) fun _ _ => ?_
  exact .bind (.lift (r.failsOnly_compileFilled _ _)) fun _ _ => failsOnly_ok _

theorem GroupHead.failsOnly_ofRow : FailsOnly (IsAbout r) (ofRow r) := by
  have hreadonly : FailsOnly (IsAbout r) (readonlyOfRow r) := by
    rw [readonlyOfRow]
    split
    · exact failsOnly_ok _
    · exact failsOnly_ok _
    · exact .map _ (r.failsOnly_compile _ _)
  have hkind : FailsOnly (IsAbout r) (kindOfRow r) := by
    rw [kindOfRow]
    split
    · exact failsOnly_ok _
    · split
      · exact failsOnly_ok _
      · split
        · exact failsOnly_ok _
        · exact failsOnly_error.2 (isAbout_of_line rfl)
  rw [ofRow]
  refine .bind (r.failsOnly_compileFilled _ _) fun _ _ => ?_
  exact .bind hreadonly fun _ _ => .bind hkind fun _ _ => failsOnly_ok _

end Row

/-! ### The checks -/

namespace Survey

theorem failsOnly_checkTypes (rows : List Row) :
    FailsOnly (IsContentOf rows) (checkTypes rows) := by
  induction rows with
  | nil => exact failsOnly_ok _
  | cons r rest ih =>
      rw [checkTypes]
      split
      · exact failsOnly_error.2 ⟨r, List.mem_cons_self, _, rfl⟩
      · exact ih.contentOf (List.subset_cons_self r rest)

theorem failsOnly_checkNamesFrom (seen : Dictionary String Bool) (rows : List Row) :
    FailsOnly (IsContentOf rows) (checkNamesFrom seen rows) := by
  induction rows generalizing seen with
  | nil => exact failsOnly_ok _
  | cons r rest ih =>
      rw [checkNamesFrom]
      split
      · exact failsOnly_error.2 ⟨r, List.mem_cons_self, _, rfl⟩
      · exact (ih _).contentOf (List.subset_cons_self r rest)

/-- A group that is never closed is reported at the row that opens it, which is among the open
    ones; anything else at the row that is looked at. -/
theorem failsOnly_checkBalanceFrom (opened rows : List Row) :
    FailsOnly (IsAmong (opened ++ rows)) (checkBalanceFrom opened rows) := by
  have hlater : ∀ (opened : List Row) (r : Row) (rest : List Row),
      opened ++ rest ⊆ opened ++ r :: rest := fun opened r rest =>
    ((List.sublist_cons_self r rest).append_left opened).subset
  fun_induction checkBalanceFrom opened rows with
  | case1 => exact failsOnly_ok _
  | case2 innermost outer => exact failsOnly_error.2 ⟨innermost, by simp, isAbout_of_line rfl⟩
  | case4 opened r rest _ _ ih =>
      -- The row that is looked at has become an open one.
      exact ih.among List.perm_middle.symm.subset
  | case5 r rest _ _ innermost outer _ _ ih =>
      exact ih.among (List.subset_cons_of_subset innermost (hlater outer r rest))
  | case8 opened r rest _ _ _ ih => exact ih.among (hlater opened r rest)
  | _ => exact failsOnly_error.2 ⟨_, by simp, isAbout_of_line rfl⟩

end Survey

theorem ChoiceLists.failsOnly_check (lists : ChoiceLists) (survey choices : List Row) :
    FailsOnly (fun e => IsContentOf survey e ∨ IsContentOf choices e)
      (lists.check survey choices) := by
  rw [check]
  split
  · rename_i r hfind
    exact failsOnly_error.2 (Or.inr ⟨r, List.mem_of_find?_eq_some hfind, _, rfl⟩)
  · split
    · rename_i r list hfind
      rcases List.exists_of_findSome?_eq_some hfind with ⟨r', hr', hmap⟩
      rcases Option.map_eq_some_iff.1 hmap with ⟨list', _, heq⟩
      rw [Prod.mk.injEq] at heq
      rw [heq.1] at hr'
      exact failsOnly_error.2 (Or.inl ⟨r, hr', _, rfl⟩)
    · exact failsOnly_ok _

/-! ### The tree -/

namespace Node

variable (tables : Dictionary String Grid)

theorem failsOnly_ofItems_row {P : ConversionError → Prop} {r : Row} {rest : List Item}
    (hr : FailsOnly (Failure.Meets P) (ofQuestion tables r))
    (hrest : FailsOnly (Failure.Meets P) (ofItems tables rest)) :
    FailsOnly (Failure.Meets P) (ofItems tables (.row r :: rest)) := by
  have hitem : FailsOnly (Failure.Meets P) (ofItem tables (.row r)) := by
    rw [ofItem]
    split
    · exact .map _ hr
    · exact failsOnly_ok _
  rw [ofItems]
  exact .bind hitem fun _ _ => .bind hrest fun _ _ => failsOnly_ok _

theorem failsOnly_ofItems_group {P : ConversionError → Prop} {header : Row}
    {inner rest : List Item} (hheader : FailsOnly P (GroupHead.ofRow header))
    (hinner : FailsOnly (Failure.Meets P) (ofItems tables inner))
    (hrest : FailsOnly (Failure.Meets P) (ofItems tables rest)) :
    FailsOnly (Failure.Meets P) (ofItems tables (.group header inner :: rest)) := by
  have hitem : FailsOnly (Failure.Meets P) (ofItem tables (.group header inner)) := by
    rw [ofItem]
    exact .bind (.lift hheader) fun _ _ => .bind hinner fun _ _ => failsOnly_ok _
  rw [ofItems]
  exact .bind hitem fun _ _ => .bind hrest fun _ _ => failsOnly_ok _

theorem failsOnly_ofItems {rows : List Row} (h : Balanced rows) :
    FailsOnly (Failure.Meets (IsAmong rows)) (ofItems tables (Item.ofRows rows)) := by
  induction h with
  | nil =>
      rw [Item.ofRows, ofItems]
      exact failsOnly_ok _
  | @row r rest hbegin hend _ ih =>
      rw [Item.ofRows_row hbegin hend]
      refine failsOnly_ofItems_row tables ?_ ?_
      · exact (failsOnly_ofQuestion tables r).meetsAmong_of_about List.mem_cons_self
      · exact ih.meetsAmong (List.subset_cons_self r rest)
  | @block opening closing inner rest hcloses hinner _ ihInner ihRest =>
      rw [Item.ofRows_block hcloses hinner]
      refine failsOnly_ofItems_group tables ?_ ?_ ?_
      · exact (GroupHead.failsOnly_ofRow opening).mono fun e he => he.isAmong List.mem_cons_self
      · exact ihInner.meetsAmong (Survey.inner_subset_block opening closing inner rest)
      · exact ihRest.meetsAmong (Survey.rest_subset_block opening closing inner rest)

/-- The mark of a slide that was put in gives a group, whatever its number is. -/
theorem failsOnly_slideMark {P : ConversionError → Prop} (n : Nat) :
    FailsOnly P (GroupHead.ofRow (Survey.slideMark n)) := by
  have hmark : ∃ name label, Survey.slideMark n = Survey.groupMark name label := by
    cases n <;> exact ⟨_, _, rfl⟩
  rcases hmark with ⟨name, label, hmark⟩
  rw [hmark, GroupHead.ofRow_groupMark]
  exact failsOnly_ok _

/-- The tree of a wrapped survey fails at a row of the survey. Only the header of a stretch is
    none, and it gives a group. -/
theorem failsOnly_ofItems_wrapped {rows : List Row} (h : Outermost rows) (slides : Nat) :
    FailsOnly (Failure.Meets (IsAmong rows))
      (ofItems tables (Item.ofRows (wrapLooseFrom 0 slides false rows))) := by
  induction h generalizing slides with
  | nil =>
      rw [Item.ofRows_wrapped_nil, ofItems]
      exact failsOnly_ok _
  | @metadata r rest hkind _ ih =>
      rw [Item.ofRows_wrapped_metadata hkind]
      refine failsOnly_ofItems_row tables ?_ ?_
      · exact (failsOnly_ofQuestion tables r).meetsAmong_of_about List.mem_cons_self
      · exact (ih slides).meetsAmong (List.subset_cons_self r rest)
  | @block opening closing inner rest hcloses hinner _ ih =>
      rw [Item.ofRows_wrapped_block hcloses hinner]
      refine failsOnly_ofItems_group tables ?_ ?_ ?_
      · exact (GroupHead.failsOnly_ofRow opening).mono fun e he => he.isAmong List.mem_cons_self
      · exact (failsOnly_ofItems tables hinner).meetsAmong
          (Survey.inner_subset_block opening closing inner rest)
      · exact (ih slides).meetsAmong (Survey.rest_subset_block opening closing inner rest)
  | @stretch first more after hfirst hkind hmore hafter _ ih =>
      have hrows : Balanced (first :: more) :=
        .row hfirst.1 hfirst.2 (Survey.balanced_of_isPlain hmore)
      rw [Item.ofRows_wrapped_stretch hfirst hkind hmore hafter]
      refine failsOnly_ofItems_group tables (failsOnly_slideMark slides) ?_ ?_
      · exact (failsOnly_ofItems tables hrows).meetsAmong
          (List.subset_append_left (first :: more) after)
      · exact (ih (slides + 1)).meetsAmong (List.subset_append_right (first :: more) after)

/-! ### The numbers -/

/-- An error about the number of one of some nodes. -/
def IsTooDeep (nodes : List Node) (e : ConversionError) : Prop :=
  ∃ n ∈ nodes, e = .nesting n.line (.nestedTooDeeply n.name)

theorem IsTooDeep.mono {nodes nodes' : List Node} {e : ConversionError} (h : IsTooDeep nodes e)
    (hnodes : nodes ⊆ nodes') : IsTooDeep nodes' e := by
  rcases h with ⟨n, hn, rfl⟩
  exact ⟨n, hnodes hn, rfl⟩

mutual

theorem failsOnly_number (id parent : Nat) (n : Node) :
    FailsOnly (IsTooDeep (subtrees n.nodes)) (number id parent n) := by
  match n with
  | .field i f => exact failsOnly_ok _
  | .group i kind readonly ns =>
      rw [number]
      exact .bind (failsOnly_numberFrom _ id ns) fun _ _ => failsOnly_ok _

theorem failsOnly_numberFrom (id parent : Nat) (ns : List Node) :
    FailsOnly (IsTooDeep (subtrees ns)) (numberFrom id parent ns) := by
  match ns with
  | [] => exact failsOnly_ok _
  | n :: ns =>
      rw [numberFrom, subtrees, subtree_eq]
      split
      · refine .bind ?_ fun _ _ => .bind ?_ fun _ _ => failsOnly_ok _
        · have hbelow : subtrees n.nodes ⊆ n :: (subtrees n.nodes ++ subtrees ns) :=
            List.subset_cons_of_subset n (List.subset_append_left _ _)
          exact (failsOnly_number id parent n).mono fun e he => he.mono hbelow
        · have hbehind : subtrees ns ⊆ n :: (subtrees n.nodes ++ subtrees ns) :=
            List.subset_cons_of_subset n (List.subset_append_right _ _)
          exact (failsOnly_numberFrom (id + 1) id ns).mono fun e he => he.mono hbehind
      · exact failsOnly_error.2 ⟨n, by simp, rfl⟩

end

/-- If there are numbers enough for some siblings, the error is below one of them. -/
theorem failsOnly_numberFrom_slides {id : Nat} (parent : Nat) {ns : List Node}
    (hsize : id + ns.length ≤ Number.wordBound) :
    FailsOnly (IsTooDeep (ns.flatMap fun n => subtrees n.nodes)) (numberFrom id parent ns) := by
  induction ns generalizing id parent with
  | nil => exact failsOnly_ok _
  | cons n ns ih =>
      rw [List.length_cons] at hsize
      have hid : id < Number.wordBound := by omega
      rw [numberFrom, if_pos hid, List.flatMap_cons]
      refine .bind ?_ fun _ _ => .bind ?_ fun _ _ => failsOnly_ok _
      · exact (failsOnly_number id parent n).mono fun e he =>
          he.mono (List.subset_append_left _ _)
      · exact (ih id (by omega)).mono fun e he => he.mono (List.subset_append_right _ _)

/-- Nodes of which each has the line of one of some rows. -/
def HaveLinesOf (rows : List Row) (ns : List Node) : Prop :=
  ∀ n ∈ ns, ∃ r ∈ rows, n.line = r.line

theorem HaveLinesOf.mono {rows rows' : List Row} {ns : List Node} (h : HaveLinesOf rows ns)
    (hrows : rows ⊆ rows') : HaveLinesOf rows' ns := by
  intro n hn
  rcases h n hn with ⟨r, hr, hline⟩
  exact ⟨r, hrows hr, hline⟩

theorem haveLinesOf_ofItems {tables : Dictionary String Grid} {rows : List Row}
    (h : Balanced rows) {nodes : List Node}
    (hnodes : ofItems tables (Item.ofRows rows) = .ok nodes) :
    HaveLinesOf rows (subtrees nodes) := by
  intro n hn
  have hmem := List.mem_map_of_mem (f := line) hn
  rw [map_ofItems (fun hbuilt => hbuilt.name_and_line.2) h hnodes] at hmem
  rcases List.mem_map.1 hmem with ⟨r, hr, hline⟩
  exact ⟨r, List.mem_of_mem_filter hr, hline.symm⟩

/-- There are no more slides than rows, and what they hold has the lines of rows: only a slide
    can have been built from a mark that was put in. -/
theorem lines_ofItems_wrapped {tables : Dictionary String Grid} {rows : List Row}
    (h : Outermost rows) {slides : Nat} {nodes : List Node}
    (hnodes : ofItems tables (Item.ofRows (wrapLooseFrom 0 slides false rows)) = .ok nodes) :
    nodes.length ≤ rows.length ∧
      HaveLinesOf rows (nodes.flatMap fun n => subtrees n.nodes) := by
  induction h generalizing slides nodes with
  | nil =>
      rw [Item.ofRows_wrapped_nil, ofItems] at hnodes
      cases hnodes
      exact ⟨Nat.le_refl _, List.forall_mem_nil _⟩
  | @metadata r rest hkind _ ih =>
      have hquestion : r.kind.isQuestion = false := by
        rw [hkind]
        rfl
      rw [Item.ofRows_wrapped_metadata hkind, ofItems_dropped _ hquestion] at hnodes
      rcases ih hnodes with ⟨hlength, hlines⟩
      exact ⟨Nat.le_succ_of_le hlength, hlines.mono (List.subset_cons_self r rest)⟩
  | @block opening closing inner rest hcloses hinner _ ih =>
      rw [Item.ofRows_wrapped_block hcloses hinner] at hnodes
      rcases ofItems_group hnodes with ⟨head, ns, others, _, hns, hothers, rfl⟩
      rcases ih hothers with ⟨hlength, hlines⟩
      refine ⟨?_, ?_⟩
      · simp only [List.length_cons, List.length_append]
        omega
      · rw [List.flatMap_cons, HaveLinesOf, List.forall_mem_append]
        exact ⟨(haveLinesOf_ofItems hinner hns).mono
            (Survey.inner_subset_block opening closing inner rest),
          hlines.mono (Survey.rest_subset_block opening closing inner rest)⟩
  | @stretch first more after hfirst hkind hmore hafter _ ih =>
      have hrows : Balanced (first :: more) :=
        .row hfirst.1 hfirst.2 (Survey.balanced_of_isPlain hmore)
      rw [Item.ofRows_wrapped_stretch hfirst hkind hmore hafter] at hnodes
      rcases ofItems_group hnodes with ⟨head, ns, others, _, hns, hothers, rfl⟩
      rcases ih hothers with ⟨hlength, hlines⟩
      refine ⟨?_, ?_⟩
      · simp only [List.length_cons, List.length_append]
        omega
      · rw [List.flatMap_cons, HaveLinesOf, List.forall_mem_append]
        exact ⟨(haveLinesOf_ofItems hrows hns).mono
            (List.subset_append_left (first :: more) after),
          hlines.mono (List.subset_append_right (first :: more) after)⟩

end Node

/-! ### The conversion -/

theorem Tag.failsOnly_ofRows (rows : List Row) :
    FailsOnly (IsContentOf rows) (ofRows rows).outcome := by
  induction rows with
  | nil => exact failsOnly_ok _
  | cons r rest ih =>
      have hr : FailsOnly (IsContentOf (r :: rest)) (ofRow r).outcome := by
        rw [ofRow]
        split
        · exact failsOnly_ok _
        · split
          · exact failsOnly_ok _
          · have herror : IsContentOf (r :: rest) (.content r.line (.invalidTagValue r.tagValue)) :=
              ⟨r, List.mem_cons_self, _, rfl⟩
            split
            all_goals exact failsOnly_error.2 herror
      rw [ofRows]
      simp only [Traced.outcome_bind, Traced.outcome_pure]
      have hrest := ih.contentOf (List.subset_cons_self r rest)
      exact .bind hr fun _ _ => .bind hrest fun _ _ => failsOnly_ok _

theorem TextPair.failsOnly_foldlM {P : ConversionError → Prop} {pairs : List TextPair}
    (h : ∀ p ∈ pairs, P (.content p.line p.fault)) (t : Translation) :
    FailsOnly P (pairs.foldlM addTo t) := by
  rw [foldlM_addTo]
  split
  case h_1 p hfind => exact failsOnly_error.2 (h p (List.mem_of_find?_eq_some hfind))
  case h_2 => exact failsOnly_ok _

namespace Form

variable (form : Form)

/-- Every text stands in a row of the survey or of the choices. -/
theorem isContentOf_of_mem_textPairs {language : String} {p : TextPair}
    (h : p ∈ form.textPairs language) :
    IsContentOf form.survey (.content p.line p.fault) ∨
      IsContentOf form.choices (.content p.line p.fault) := by
  rcases List.mem_append.1 h with h | h
  · rcases List.mem_flatMap.1 h with ⟨r, hr, hp⟩
    simp only [TextPair.ofSurvey, List.mem_cons, List.not_mem_nil, or_false] at hp
    refine Or.inl ⟨r, hr, .bracketsInSurvey, ?_⟩
    rcases hp with rfl | rfl | rfl | rfl <;> rfl
  · rcases List.mem_map.1 h with ⟨r, hr, rfl⟩
    exact Or.inr ⟨r, hr, .bracketsInChoices, rfl⟩

theorem failsOnly_translations :
    FailsOnly (fun e => IsContentOf form.survey e ∨ IsContentOf form.choices e)
      form.translations := by
  have hlanguages : ∀ languages, FailsOnly
      (fun e => IsContentOf form.survey e ∨ IsContentOf form.choices e)
      (form.translationsTo languages) := by
    intro languages
    induction languages with
    | nil => exact failsOnly_ok _
    | cons language rest ih =>
        rw [translationsTo, translation]
        refine .bind ?_ fun _ _ => .bind ih fun _ _ => failsOnly_ok _
        exact TextPair.failsOnly_foldlM (fun p hp => form.isContentOf_of_mem_textPairs hp) _
  exact .bind (hlanguages _) fun _ _ => failsOnly_ok _

/-- An error of the conversion of a form is about a row of the survey, or about the content of
    a row of the choices or of the settings. -/
def Blames (e : ConversionError) : Prop :=
  e.IsAmong form.survey ∨ e.IsContentOf form.choices ∨ e.IsContentOf form.settings

theorem failsOnly_check : FailsOnly form.Blames form.check := by
  refine .bind ?types fun _ _ => .bind ?names fun _ _ => ?choices
  case types =>
    exact (Survey.failsOnly_checkTypes form.survey).mono fun e he => Or.inl he.isAmong
  case names =>
    exact (Survey.failsOnly_checkNamesFrom .empty form.survey).mono fun e he => Or.inl he.isAmong
  case choices =>
    refine (ChoiceLists.failsOnly_check _ _ _).mono ?_
    rintro e (he | he)
    · exact Or.inl he.isAmong
    · exact Or.inr (Or.inl he)

theorem failsOnly_convert (hsize : form.survey.length < Number.wordBound) :
    FailsOnly (Failure.Meets form.Blames) form.convert.outcome := by
  rw [outcome_convert_wrapped]
  refine .bind (.lift form.failsOnly_check) fun _ _ => .bind (.lift ?balance) fun _ hbalance =>
    .bind ?tree fun nodes hnodes => .bind (.lift ?numbers) fun _ _ => .bind (.lift ?tags) fun _ _ =>
      .bind (.lift ?translations) fun _ _ => failsOnly_ok _
  case balance =>
    exact (Survey.failsOnly_checkBalanceFrom [] form.survey).mono fun e he => Or.inl he
  case tree =>
    have hpieces := (Survey.balanced_of_checkBalance (Failure.lift_eq_ok.1 hbalance)).outermost
    refine (Node.failsOnly_ofItems_wrapped form.tables hpieces 0).mono ?_
    exact Failure.Meets.mono fun e he => Or.inl he
  case numbers =>
    have hpieces := (Survey.balanced_of_checkBalance (Failure.lift_eq_ok.1 hbalance)).outermost
    rcases Node.lines_ofItems_wrapped hpieces hnodes with ⟨hlength, hlines⟩
    have hnumbers : 0 * idFactor + 1 + (nodes.map Node.asSlide).length ≤ Number.wordBound := by
      rw [List.length_map]
      omega
    refine (Node.failsOnly_numberFrom_slides 0 hnumbers).mono ?_
    rintro e ⟨m, hm, rfl⟩
    rw [List.flatMap_map] at hm
    simp only [Node.nodes_asSlide] at hm
    rcases hlines m hm with ⟨r, hr, hline⟩
    exact Or.inl ⟨r, hr, isAbout_of_line (congrArg some hline)⟩
  case tags =>
    exact (Tag.failsOnly_ofRows form.settings).mono fun e he => Or.inr (Or.inr he)
  case translations =>
    refine form.failsOnly_translations.mono ?_
    rintro e (he | he)
    · exact Or.inl he.isAmong
    · exact Or.inr (Or.inl he)

end Form

namespace Workbook

variable {w : Workbook} {e : ConversionError}

/-- An error of the conversion of a workbook is one of reading it, or of converting its form. -/
theorem error_of_convert (h : w.convert.outcome = .error (.error e)) :
    (∃ cause, e = .decoding cause) ∨
      ∃ form, (Form.decode w).outcome = .ok form ∧ form.convert.outcome = .error (.error e) := by
  rw [convert, Traced.outcome_bind, Traced.outcome_mapError] at h
  cases hdecode : (Form.decode w).outcome with
  | error cause =>
      rw [hdecode] at h
      cases h
      exact Or.inl ⟨cause, rfl⟩
  | ok form =>
      rw [hdecode] at h
      exact Or.inr ⟨form, rfl, h⟩

/-- The rows that an error of a workbook can be about. -/
theorem blames_of_convert
    (hsize : ∀ grid, w.rows? "survey" = some grid → grid.length < Number.wordBound)
    (h : w.convert.outcome = .error (.error e)) (hline : e.line ≠ none) :
    ∃ form, (Form.decode w).outcome = .ok form ∧ form.Blames e := by
  rcases error_of_convert h with ⟨cause, rfl⟩ | ⟨form, hform, h⟩
  · exact absurd rfl hline
  rcases Form.read_of_decode hform with ⟨⟨languages, hsurvey⟩, _, _⟩
  have hrows : form.survey.length < Number.wordBound := by
    cases hgrid : w.rows? Layout.survey.sheet with
    | some grid =>
        exact Nat.lt_of_le_of_lt (Layout.length_le_of_read hsurvey hgrid) (hsize grid hgrid)
    | none =>
        rw [Layout.read, hgrid] at hsurvey
        cases hsurvey
  exact ⟨form, hform, form.failsOnly_convert hrows _ h⟩

/-- An error that names a line names one of the survey, the choices or the settings where there
    is a row, below the header and not empty. If it is about the nesting of the survey or about
    a formula, the line is one of the survey. No error names the line 0. The survey has fewer
    than `2 ^ 63` lines, so that each of them has a number. -/
theorem hasRowAt_of_convert
    (hsize : ∀ grid, w.rows? "survey" = some grid → grid.length < 0x8000000000000000)
    (h : w.convert.outcome = .error (.error e)) :
    (∀ line, e.line = some line →
      line ≠ 0 ∧
        (w.HasRowAt "survey" line ∨ w.HasRowAt "choices" line ∨ w.HasRowAt "settings" line)) ∧
      (∀ line fault, e = .nesting line fault → w.HasRowAt "survey" line) ∧
      ∀ line error, e = .formula line error → w.HasRowAt "survey" line := by
  have hsize : ∀ grid, w.rows? "survey" = some grid → grid.length < Number.wordBound :=
    fun grid hgrid => Nat.lt_trans (hsize grid hgrid) (by decide)
  have located : ∀ line, e.line = some line →
      w.HasRowAt "survey" line ∨ ((w.HasRowAt "choices" line ∨ w.HasRowAt "settings" line) ∧
        ∃ fault, e = .content line fault) := by
    intro line hline
    have hsome : e.line ≠ none := by
      rw [hline]
      exact Option.some_ne_none line
    rcases blames_of_convert hsize h hsome with ⟨form, hform, hblames⟩
    rcases Form.read_of_decode hform with ⟨⟨_, hsurvey⟩, ⟨_, hchoices⟩, ⟨_, hsettings⟩⟩
    rcases hblames with ⟨r, hr, habout⟩ | ⟨r, hr, fault, rfl⟩ | ⟨r, hr, fault, rfl⟩
    · rcases Layout.exists_of_mem_read hsurvey hr with ⟨_, _, _, hrow⟩
      rw [habout line hline]
      exact Or.inl hrow
    · cases hline
      rcases Layout.exists_of_mem_read hchoices hr with ⟨_, _, _, hrow⟩
      exact Or.inr ⟨Or.inl hrow, fault, rfl⟩
    · cases hline
      rcases Layout.exists_of_mem_read hsettings hr with ⟨_, _, _, hrow⟩
      exact Or.inr ⟨Or.inr hrow, fault, rfl⟩
  refine ⟨fun line hline => ⟨?_, ?_⟩, ?_, ?_⟩
  · -- Lines count from one, whichever sheet it is.
    rcases located line hline with hrow | ⟨hrow | hrow, _⟩
    all_goals
      rcases hrow with ⟨_, i, _, _, rfl, _⟩
      exact Nat.succ_ne_zero i
  · rcases located line hline with hrow | ⟨hrow, _⟩
    · exact Or.inl hrow
    · exact Or.inr hrow
  · rintro line fault rfl
    rcases located line rfl with hrow | ⟨_, _, hfault⟩
    · exact hrow
    · cases hfault
  · rintro line error rfl
    rcases located line rfl with hrow | ⟨_, _, hfault⟩
    · exact hrow
    · cases hfault

/-- A question below a slide that was put in, and then groups in groups, so deep that a node has
    no number. The sheet has empty rows above and below its header. -/
theorem hasRowAt_of_convert_deep_groups :
    let w : Workbook :=
      ⟨[⟨"survey", [[], ["type", "name", "label"], ["", ""], ["text", "a", "A"],
          ["begin group", "g1"], ["begin group", "g2"], ["begin group", "g3"], [],
          ["begin group", "g4"], ["begin group", "g5"], ["begin group", "g6"],
          ["begin group", "g7"], ["text", "b", "B"], ["end group"], ["end group"],
          ["end group"], ["end group"], ["end group"], ["end group"], ["end group"]]⟩,
        ⟨"choices", [["list_name", "name", "label"]]⟩]⟩
    ∃ e, w.convert.outcome = .error (.error e) ∧ e = .nesting 13 (.nestedTooDeeply "b") ∧
      (∀ line, e.line = some line →
        line ≠ 0 ∧
          (w.HasRowAt "survey" line ∨ w.HasRowAt "choices" line ∨ w.HasRowAt "settings" line)) ∧
        (∀ line fault, e = .nesting line fault → w.HasRowAt "survey" line) ∧
        ∀ line error, e = .formula line error → w.HasRowAt "survey" line := by
  dsimp only
  refine exists_of_error (.nesting 13 (.nestedTooDeeply "b")) ?failed fun h => ⟨rfl, ?located⟩
  case failed => decide +kernel
  case located =>
    refine hasRowAt_of_convert ?_ h
    rintro grid ⟨⟩
    decide

end Workbook

end Questionnaire
