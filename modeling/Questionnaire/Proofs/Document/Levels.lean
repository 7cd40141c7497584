import Questionnaire.Proofs.Document.Conversion
import Questionnaire.Proofs.Document.Numbering
import Questionnaire.Proofs.Document.Shape
import Questionnaire.Proofs.Document.TableParts
import Questionnaire.Proofs.Form.Rows

/-!
# The Levels of a Document

Every document has the shape that the form engine expects. What a row has to give for
that is little: a repeated group only where no other group is open, which is a check
of the survey, and for a question with choices the name of their list, which the
reading of the sheet sees to. So the nodes of a group are fields and groups, and a
repeated group ends up on the outermost level, where the other groups become slides.

## Theorems

* `FieldKind.isFilled_ofRow`: The kind of a question has what it cannot do without.
* `Node.isInner_ofQuestion`, `GroupHead.kind_ofRow`: The node of one row.
* `Node.isInner_ofItems`: The nodes of balanced rows without repeated groups.
* `Node.isOutermost_ofItems`: The nodes of a wrapped survey.
* `Node.isOutermost_number`: Numbering leaves the levels as they are.
* `Workbook.isForm_of_convert`: The documents of workbooks.
-/

namespace Questionnaire

open Survey (Balanced Outermost Item checkBalanceFrom wrapLooseFrom)

/-! ### Tables -/

theorem Table.ne_nil_of_ofGrid {name : String} {line : Nat} {grid? : Option Grid} {t : Table}
    (h : ofGrid name line grid? = .ok t) : t.columns ≠ [] ∧ t.rows ≠ [] := by
  cases grid? with
  | none => cases h
  | some grid =>
      rcases ofGrid_eq_ok_iff_parts.1 h with ⟨_, hcolumns, hlabels, hrows⟩
      refine ⟨hcolumns, fun hnone => hlabels ?_⟩
      rw [← (readRows_eq_ok_iff.1 hrows).1, hnone, List.map_nil]

/-! ### The node of a row -/

theorem FieldKind.isFilled_ofRow {tables : Dictionary String Grid} {r : Row} {kind : FieldKind}
    (h : ofRow tables r = .ok kind) (hlist : r.kind.choiceList ≠ some "") : kind.IsFilled := by
  rw [ofRow] at h
  cases hkind : r.kind with
  | select several list =>
      rw [hkind] at h hlist
      rcases bind_eq_ok.1 (Failure.lift_eq_ok.1 h) with ⟨filter, _, h⟩
      cases h
      rintro rfl
      exact hlist rfl
  | question kind =>
      rw [hkind] at h
      cases kind with
      | calculate =>
          rcases map_eq_ok.1 (Failure.lift_eq_ok.1 h) with ⟨text, _, rfl⟩
          trivial
      | table =>
          rcases map_eq_ok.1 h with ⟨table, htable, rfl⟩
          exact Table.ne_nil_of_ofGrid htable
      | range =>
          dsimp only [ofQuestion] at h
          split at h
          · cases h
            trivial
          · cases h
      | text | image =>
          cases h
          split <;> trivial
      | _ =>
          cases h
          trivial
  | _ =>
      rw [hkind] at h
      cases h

/-- A row can forbid that its field is changed, but not allow it. -/
theorem Row.editable_ne {r : Row} {editable : Option Bool} (h : r.editable = .ok editable) :
    editable ≠ some true := by
  rw [Row.editable] at h
  split at h
  · cases h
    decide
  · cases h
    decide
  · cases h

namespace Node

theorem isInner_ofQuestion {tables : Dictionary String Grid} {r : Row} {n : Node}
    (h : ofQuestion tables r = .ok n) (hlist : r.kind.choiceList ≠ some "") : n.IsInner := by
  rw [ofQuestion] at h
  rcases bind_eq_ok.1 h with ⟨default, _, h⟩
  rcases bind_eq_ok.1 h with ⟨editable, heditable, h⟩
  rcases bind_eq_ok.1 h with ⟨validation, _, h⟩
  rcases bind_eq_ok.1 h with ⟨kind, hkind, h⟩
  rcases bind_eq_ok.1 h with ⟨visibility, _, h⟩
  cases h
  have hrow := Row.editable_ne (Failure.lift_eq_ok.1 heditable)
  refine .field ⟨FieldKind.isFilled_ofRow hkind hlist, ?_, ?_⟩
  · -- What the kind says comes first, and the row never says that the field can be changed.
    change kind.editable.or editable = some true ↔ kind.editable = some true
    cases hkind : kind.editable with
    | none => simpa using hrow
    | some b => rfl
  · intro htakes
    exact if_pos htakes

end Node

theorem Number.le_of_readCount? {cs : List Char} {n : Nat} (h : readCount? cs = some n) :
    n ≤ countLimit := by
  rw [readCount?] at h
  rcases Option.bind_eq_some_iff.1 h with ⟨d, _, h⟩
  rcases Option.bind_eq_some_iff.1 h with ⟨m, _, h⟩
  split at h
  case isTrue hfits =>
    cases h
    rw [Bool.and_eq_true, decide_eq_true_eq] at hfits
    exact hfits.1
  case isFalse => cases h

/-- A row opens a group, or a repeated one with a limit that fits. -/
theorem GroupHead.kind_ofRow {r : Row} {head : GroupHead} (h : ofRow r = .ok head) :
    (r.kind ≠ .beginRepeat ∧ head.kind = .group) ∨
      (r.kind = .beginRepeat ∧ ∃ limit : Option Nat, head.kind = .repeated limit ∧
        ∀ n ∈ limit, n ≤ Number.countLimit) := by
  rw [ofRow] at h
  rcases bind_eq_ok.1 h with ⟨visibility, _, h⟩
  rcases bind_eq_ok.1 h with ⟨readonly, _, h⟩
  rcases bind_eq_ok.1 h with ⟨kind, hkind, h⟩
  cases h
  rw [kindOfRow] at hkind
  split at hkind
  case isTrue hother =>
    cases hkind
    exact Or.inl ⟨bne_iff_ne.1 hother, rfl⟩
  case isFalse hrepeat =>
    refine Or.inr ⟨of_not_not fun hne => hrepeat (bne_iff_ne.2 hne), ?_⟩
    split at hkind
    case isTrue =>
      cases hkind
      refine ⟨none, rfl, ?_⟩
      rintro _ ⟨⟩
    case isFalse =>
      split at hkind
      · rename_i n hread
        cases hkind
        refine ⟨some n, rfl, ?_⟩
        rintro _ ⟨⟩
        exact Number.le_of_readCount? hread
      · cases hkind

/-! ### The nodes of a survey -/

namespace Node

/-- The nodes of balanced rows stand below a slide, if no row opens a repeated group. -/
theorem isInner_ofItems {rows : List Row} (h : Balanced rows)
    (hrepeat : ∀ r ∈ rows, r.kind ≠ .beginRepeat)
    (hlist : ∀ r ∈ rows, r.kind.choiceList ≠ some "") {tables : Dictionary String Grid}
    {nodes : List Node} (hnodes : ofItems tables (Item.ofRows rows) = .ok nodes) :
    ∀ n ∈ nodes, n.IsInner := by
  induction h generalizing nodes with
  | nil =>
      rw [Item.ofRows, ofItems] at hnodes
      cases hnodes
      exact List.forall_mem_nil _
  | @row r rest hbegin hend _ ih =>
      rw [List.forall_mem_cons] at hrepeat hlist
      rw [Item.ofRows_row hbegin hend] at hnodes
      cases hquestion : r.kind.isQuestion with
      | true =>
          rcases ofItems_question hquestion hnodes with ⟨n, ns, hn, hns, rfl⟩
          rw [List.forall_mem_cons]
          exact ⟨isInner_ofQuestion hn hlist.1, ih hrepeat.2 hlist.2 hns⟩
      | false =>
          rw [ofItems_dropped _ hquestion] at hnodes
          exact ih hrepeat.2 hlist.2 hnodes
  | @block opening closing inner rest hcloses hinner _ ihInner ihRest =>
      rw [List.forall_mem_cons, List.forall_mem_append, List.forall_mem_cons] at hrepeat hlist
      rcases hrepeat with ⟨hopening, hrepeatInner, _, hrepeatRest⟩
      rcases hlist with ⟨_, hlistInner, _, hlistRest⟩
      rw [Item.ofRows_block hcloses hinner] at hnodes
      rcases ofItems_group hnodes with ⟨head, ns, others, hhead, hns, hothers, rfl⟩
      rw [List.forall_mem_cons]
      refine ⟨?_, ihRest hrepeatRest hlistRest hothers⟩
      rcases GroupHead.kind_ofRow hhead with ⟨_, hkind⟩ | ⟨hrepeated, _⟩
      · rw [GroupHead.node, hkind]
        exact .group _ _ (ihInner hrepeatInner hlistInner hns)
      · exact absurd hrepeated hopening

/-- An outermost group of such nodes is a slide, and a repeated one may stay what it is. -/
theorem isOutermost_asSlide {r : Row} {head : GroupHead} (hhead : GroupHead.ofRow r = .ok head)
    {ns : List Node} (hns : ∀ n ∈ ns, n.IsInner) : (head.node ns).asSlide.IsOutermost := by
  rcases GroupHead.kind_ofRow hhead with ⟨_, hkind⟩ | ⟨_, limit, hkind, hlimit⟩
  · rw [GroupHead.node, hkind]
    exact @IsOutermost.mk _ .slide trivial _ _ hns
  · rw [GroupHead.node, hkind]
    exact @IsOutermost.mk _ (.repeated limit) hlimit _ _ hns

/-- The nodes of a wrapped survey, piece by piece. -/
theorem isOutermost_ofItems {rows : List Row} (h : Outermost rows)
    (hcheck : checkBalanceFrom [] rows = .ok ())
    (hlist : ∀ r ∈ rows, r.kind.choiceList ≠ some "") {tables : Dictionary String Grid}
    {slides : Nat} {nodes : List Node}
    (hnodes : ofItems tables (Item.ofRows (wrapLooseFrom 0 slides false rows)) = .ok nodes) :
    ∀ n ∈ nodes, n.asSlide.IsOutermost := by
  induction h generalizing slides nodes with
  | nil =>
      rw [Item.ofRows_wrapped_nil, ofItems] at hnodes
      cases hnodes
      exact List.forall_mem_nil _
  | @metadata r rest hkind _ ih =>
      have hbegin : r.kind.isBegin = false := by rw [hkind]; rfl
      have hend : r.kind.isEnd = false := by rw [hkind]; rfl
      have hquestion : r.kind.isQuestion = false := by rw [hkind]; rfl
      rw [Survey.checkBalanceFrom_plain hbegin hend] at hcheck
      rw [Item.ofRows_wrapped_metadata hkind, ofItems_dropped _ hquestion] at hnodes
      exact ih hcheck (List.forall_mem_cons.1 hlist).2 hnodes
  | @block opening closing inner rest hcloses hinner _ ih =>
      have hbegin := RowKind.isBegin_of_closes hcloses
      rw [List.forall_mem_cons, List.forall_mem_append, List.forall_mem_cons] at hlist
      rcases hlist with ⟨_, hlistInner, _, hlistRest⟩
      -- No group is open before, so this one may be repeated; inside none is.
      rw [Survey.checkBalanceFrom_begin hbegin, List.isEmpty_nil, Bool.not_true, Bool.and_false,
        if_neg Bool.false_ne_true] at hcheck
      rcases Survey.checkBalanceFrom_append hinner hcheck with ⟨hclosed, hrepeat⟩
      rw [Survey.checkBalanceFrom_closes hcloses] at hclosed
      rw [Item.ofRows_wrapped_block hcloses hinner] at hnodes
      rcases ofItems_group hnodes with ⟨head, ns, others, hhead, hns, hothers, rfl⟩
      rw [List.forall_mem_cons]
      exact ⟨isOutermost_asSlide hhead
          (isInner_ofItems hinner (hrepeat (List.cons_ne_nil _ _)) hlistInner hns),
        ih hclosed hlistRest hothers⟩
  | @stretch first more after hfirst hkind hmore hafter _ ih =>
      have hplain : ∀ r ∈ first :: more, Survey.IsPlain r := List.forall_mem_cons.2 ⟨hfirst, hmore⟩
      have hrows := Survey.balanced_of_isPlain hplain
      have hrepeat : ∀ r ∈ first :: more, r.kind ≠ .beginRepeat := fun r hr =>
        RowKind.ne_beginRepeat (hplain r hr).1
      rw [← List.cons_append] at hcheck hlist
      rw [List.forall_mem_append] at hlist
      rcases Survey.checkBalanceFrom_append hrows hcheck with ⟨hrest, _⟩
      rw [Item.ofRows_wrapped_stretch hfirst hkind hmore hafter] at hnodes
      rcases ofItems_group hnodes with ⟨head, ns, others, hhead, hns, hothers, rfl⟩
      rw [List.forall_mem_cons]
      exact ⟨isOutermost_asSlide hhead (isInner_ofItems hrows hrepeat hlist.1 hns),
        ih hrest hlist.2 hothers⟩

/-! ### Numbering -/

mutual

theorem isInner_number {id parent : Nat} (n : Node) (h : n.IsInner) {numbered : Node}
    (hnumber : number id parent n = .ok numbered) : numbered.IsInner := by
  match n, h with
  | .field i f, .field hfits =>
      cases hnumber
      exact .field ⟨hfits.filled, hfits.editable, hfits.label⟩
  | .group i .group readonly ns, .group _ _ hns =>
      rcases number_group_eq_ok.1 hnumber with ⟨ns', hns', rfl⟩
      exact .group _ _ (isInner_numberFrom ns hns hns')

theorem isInner_numberFrom {id parent : Nat} (ns : List Node) (h : ∀ n ∈ ns, n.IsInner)
    {numbered : List Node} (hnumber : numberFrom id parent ns = .ok numbered) :
    ∀ n ∈ numbered, n.IsInner := by
  match ns with
  | [] =>
      cases hnumber
      exact List.forall_mem_nil _
  | n :: ns =>
      rcases numberFrom_cons_eq_ok.1 hnumber with ⟨_, n', ns', hn, hns, rfl⟩
      rw [List.forall_mem_cons] at h ⊢
      exact ⟨isInner_number n h.1 hn, isInner_numberFrom ns h.2 hns⟩

end

theorem isOutermost_number {id parent : Nat} {n : Node} (h : n.IsOutermost) {numbered : Node}
    (hnumber : number id parent n = .ok numbered) : numbered.IsOutermost := by
  rcases h with ⟨i, hkind, readonly, hns⟩
  rcases number_group_eq_ok.1 hnumber with ⟨ns', hns', rfl⟩
  exact .mk _ hkind _ (isInner_numberFrom _ hns hns')

theorem isOutermost_numberFrom {id parent : Nat} {ns : List Node} (h : ∀ n ∈ ns, n.IsOutermost)
    {numbered : List Node} (hnumber : numberFrom id parent ns = .ok numbered) :
    ∀ n ∈ numbered, n.IsOutermost := by
  induction ns generalizing id parent numbered with
  | nil =>
      cases hnumber
      exact List.forall_mem_nil _
  | cons n ns ih =>
      rcases numberFrom_cons_eq_ok.1 hnumber with ⟨_, n', ns', hn, hns, rfl⟩
      rw [List.forall_mem_cons] at h ⊢
      exact ⟨isOutermost_number h.1 hn, ih h.2 hns⟩

end Node

/-! ### Documents -/

/-- The document of a form has slides on its outermost level, and fields and groups below,
    if no question lacks the name of its list. -/
theorem Form.Accepts.isOutermost {form : Form} {doc : Document} (h : form.Accepts doc)
    (hlist : ∀ r ∈ form.survey, r.kind.choiceList ≠ some "") :
    ∀ n ∈ doc.nodes, n.IsOutermost := by
  rcases h.built with ⟨nodes, hnodes, hnumber⟩
  have hpieces := (Survey.balanced_of_checkBalance h.balanced).outermost
  have hslides := Node.isOutermost_ofItems hpieces h.balanced hlist hnodes
  exact Node.isOutermost_numberFrom (List.forall_mem_map.2 hslides) hnumber

theorem Workbook.decode_of_convert {w : Workbook} {doc : Document}
    (h : w.convert.outcome = .ok doc) :
    ∃ form, (Form.decode w).outcome = .ok form ∧ form.Accepts doc := by
  rw [convert, Traced.outcome_bind, Traced.outcome_mapError] at h
  rcases bind_eq_ok.1 h with ⟨form, hform, h⟩
  exact ⟨form, mapError_eq_ok.1 hform, Form.convert_eq_ok_iff.1 h⟩

/-- The document of a workbook has the shape that the form engine expects: slides, with
    fields and groups below them, and on every node the attributes of its kind. -/
theorem Workbook.isForm_of_convert {w : Workbook} {doc : Document}
    (h : w.convert.outcome = .ok doc) : doc.json.IsForm := by
  rcases decode_of_convert h with ⟨form, hform, haccepts⟩
  exact Document.isForm_json (haccepts.isOutermost (Form.choiceList_of_decode hform))

/-- A repeated group with a limit, a group in it, and a field of every kind that has attributes of
    its own. -/
theorem Workbook.isForm_of_convert_all_levels :
    let w : Workbook :=
      ⟨[⟨"survey", [
          ["type", "name", "label", "repeat_count", "parameters", "calculation", "readonly"],
          ["note", "", "Read *this*"],
          ["begin_repeat", "visits", "Visits", " 12 "],
          ["begin group", "stay", "Stay", "", "", "", "${nights} > 1"],
          ["select one towns ", "town", "Town"],
          ["range", "nights", "Nights", "", "start=1 end=30"],
          ["calculate", "twice", "Twice", "", "", "2 * ${nights}", "yes"],
          ["end group"],
          ["end_repeat"],
          [],
          ["table", "costs", "Costs"]]⟩,
        ⟨"choices", [["list_name", "name", "label"], ["towns", "p", "Paris"]]⟩,
        ⟨"costs", [["", "number Each", "number All"], ["Travel", "", "${nights}"]]⟩]⟩
    ∃ doc, w.convert.outcome = .ok doc ∧ doc.json.IsForm := by
  dsimp only
  refine exists_of_any (fun _ => true) ?accepted fun doc h _ => isForm_of_convert h
  decide +kernel

end Questionnaire
