import Questionnaire.Proofs.Document.Conversion
import Questionnaire.Proofs.Survey.Metadata

/-!
# Forms with Data about the Interview

Data about the interview is not part of a form's document: with more of it in the survey,
wherever it stands and whatever formulas it has, the form is converted to the same
document, or refused for the same reason. The rows must not be noticed otherwise, though.
They need names that are new, and no text that could be translated, since texts are
collected from all rows of a survey.

## Main definitions

* `Row.IsSilent`: A row of data about the interview with a name and without texts.

## Theorems

* `Node.ofItems_filter`: The tree has no trace of data about the interview.
* `Form.translations_interleaved`: Nor have the translations.
* `Form.convert_interleaved`: The form is converted as it was without it.
-/

namespace Questionnaire

open Survey (Balanced Interleaved Item isKept)

/-- The columns of the texts that are shown to a person. -/
def Row.textColumns : List String :=
  ["label", "hint", "constraint_message", "required_message"]

/-- A row of data about the interview, with a name that can be written in a formula, and with no
    text to be shown in any language. -/
structure Row.IsSilent (r : Row) : Prop where
  kind : r.kind = .metadata
  named : Text.isName r.name = true
  silent : ∀ c ∈ r.columns, c.name ∉ textColumns

theorem Row.textIn_eq_empty {r : Row} {name : String} (h : ∀ c ∈ r.columns, c.name ≠ name)
    (language : String) : r.textIn language name = "" := by
  have hnone : ∀ l, r.cells.get? ⟨name, l⟩ = none := by
    intro l
    cases hget : r.cells.get? ⟨name, l⟩ with
    | none => rfl
    | some v =>
        have hmem := List.mem_map_of_mem (f := Prod.fst) ((r.cells.get?_eq_some_iff _ v).1 hget)
        exact absurd rfl (h _ hmem)
  simp [textIn, hnone]

/-! ### The tree -/

namespace Node

variable (tables : Dictionary String Grid)

/-- Data about the interview makes no node, so the tree of a survey is built without it. -/
theorem ofItems_filter {rows : List Row} (h : Balanced rows) :
    ofItems tables (Item.ofRows (rows.filter isKept)) = ofItems tables (Item.ofRows rows) := by
  induction h with
  | nil => rfl
  | @row r rest hbegin hend _ ih =>
      cases hkept : isKept r with
      | true =>
          rw [List.filter_cons_of_pos hkept, Item.ofRows_row hbegin hend,
            Item.ofRows_row hbegin hend, ofItems, ofItems, ih]
      | false =>
          have hquestion : r.kind.isQuestion = false := by
            rw [Survey.isKept_eq_false.1 hkept]
            rfl
          rw [List.filter_cons_of_neg (Bool.eq_false_iff.1 hkept), ih, Item.ofRows_row hbegin hend,
            ofItems_dropped _ hquestion]
  | @block opening closing inner rest hcloses hinner hrest ihInner ihRest =>
      have hopening := Survey.isKept_of_isBegin (RowKind.isBegin_of_closes hcloses)
      have hclosing := Survey.isKept_of_isEnd (RowKind.isEnd_of_closes hcloses)
      rw [List.filter_cons_of_pos hopening, List.filter_append,
        List.filter_cons_of_pos hclosing, Item.ofRows_block hcloses hinner.filter_isKept,
        Item.ofRows_block hcloses hinner, ofItems, ofItems, ofItem, ofItem, ihInner, ihRest]

end Node

/-! ### The translations -/

theorem TextPair.foldlM_filter (pairs : List TextPair) (t : Translation) :
    (pairs.filter isFilled).foldlM addTo t = pairs.foldlM addTo t := by
  induction pairs generalizing t with
  | nil => rfl
  | cons p pairs ih =>
      cases hfilled : p.isFilled with
      | true =>
          rw [List.filter_cons_of_pos hfilled, List.foldlM_cons, List.foldlM_cons]
          exact congrArg _ (funext ih)
      | false =>
          have hskip : p.addTo t = .ok t := by
            rw [addTo, hfilled]
            rfl
          rw [List.filter_cons_of_neg (Bool.eq_false_iff.1 hfilled), List.foldlM_cons, hskip, ih]
          rfl

/-- A silent row has no text to be translated. -/
theorem Row.IsSilent.filter_ofSurvey {r : Row} (h : r.IsSilent) (language : String) :
    (TextPair.ofSurvey language r).filter TextPair.isFilled = [] := by
  have hempty : ∀ name ∈ Row.textColumns, ∀ l, r.textIn l name = "" := fun name hname =>
    Row.textIn_eq_empty fun c hc heq => h.silent c hc (heq ▸ hname)
  simp only [Row.textColumns, List.forall_mem_cons] at hempty
  rcases hempty with ⟨hlabel, hhint, hconstraint, hrequired, -⟩
  simp [TextPair.ofSurvey, TextPair.isFilled, Row.label, Row.hint, Row.constraintMessage,
    Row.requiredMessage, hlabel, hhint, hconstraint, hrequired]

theorem Survey.Interleaved.filter_ofSurvey {added rows all : List Row}
    (h : Interleaved added rows all) (hadded : ∀ r ∈ added, r.IsSilent) (language : String) :
    (all.flatMap (TextPair.ofSurvey language)).filter TextPair.isFilled =
      (rows.flatMap (TextPair.ofSurvey language)).filter TextPair.isFilled := by
  induction h with
  | nil => rfl
  | added _ ih =>
      rw [List.forall_mem_cons] at hadded
      rw [List.flatMap_cons, List.filter_append, hadded.1.filter_ofSurvey, List.nil_append,
        ih hadded.2]
  | kept _ ih =>
      rw [List.flatMap_cons, List.flatMap_cons, List.filter_append, List.filter_append, ih hadded]

/-! ### The choices -/

/-- Data about the interview does not choose from a list. -/
theorem ChoiceLists.check_filter (lists : ChoiceLists) (survey choices : List Row) :
    lists.check (survey.filter isKept) choices = lists.check survey choices := by
  have hrefers : ∀ rows : List Row,
      ((rows.filter isKept).findSome? fun r => (lists.undeclared? r).map fun list => (r, list)) =
        rows.findSome? fun r => (lists.undeclared? r).map fun list => (r, list) := by
    intro rows
    induction rows with
    | nil => rfl
    | cons r rest ih =>
        cases hkept : isKept r with
        | true => rw [List.filter_cons_of_pos hkept, List.findSome?_cons, List.findSome?_cons, ih]
        | false =>
            have hnone : lists.undeclared? r = none := by
              rw [undeclared?, Survey.isKept_eq_false.1 hkept]
              rfl
            rw [List.filter_cons_of_neg (Bool.eq_false_iff.1 hkept), List.findSome?_cons, hnone, ih]
            rfl
  rw [check, check, hrefers]

namespace Form

variable {form : Form} {added all : List Row}

theorem translations_interleaved (h : Interleaved added form.survey all)
    (hadded : ∀ r ∈ added, r.IsSilent) :
    (form.withSurvey all).translations = form.translations := by
  refine translations_withSurvey fun language => ?_
  rw [translation, translation, ← TextPair.foldlM_filter,
    ← TextPair.foldlM_filter (form.textPairs language), textPairs, textPairs,
    List.filter_append, List.filter_append, withSurvey, h.filter_ofSurvey hadded]

/-! ### The conversion -/

theorem check_interleaved (h : Interleaved added form.survey all)
    (hadded : ∀ r ∈ added, r.IsSilent) (hdistinct : (added.map Row.name).Nodup)
    (hothers : ∀ r ∈ added, ∀ r' ∈ form.survey, r'.name ≠ r.name) :
    (form.withSurvey all).check = form.check := by
  have hkept := h.filter_isKept fun r hr => (hadded r hr).kind
  have htypes : Survey.checkTypes all = Survey.checkTypes form.survey := by
    rw [← Survey.checkTypes_filter, hkept, Survey.checkTypes_filter]
  have hnames : Survey.checkNames all = Survey.checkNames form.survey :=
    h.checkNames (fun r hr => ⟨(hadded r hr).kind, (hadded r hr).named⟩) hdistinct hothers
  have hchoices : form.choiceLists.check all form.choices =
      form.choiceLists.check form.survey form.choices := by
    rw [← ChoiceLists.check_filter, hkept, ChoiceLists.check_filter]
  rw [check, check, withSurvey, htypes, hnames]
  exact congrArg _ (funext fun _ => congrArg _ (funext fun _ => hchoices))

/-- Rows of data about the interview can be put in anywhere, as many as one likes, if their names
    are new and they have no texts: the document of the form stays the same, and so does
    the error if there is one. -/
theorem convert_interleaved (h : Interleaved added form.survey all)
    (hadded : ∀ r ∈ added, r.IsSilent) (hdistinct : (added.map Row.name).Nodup)
    (hothers : ∀ r ∈ added, ∀ r' ∈ form.survey, r'.name ≠ r.name) :
    (form.withSurvey all).convert.outcome = form.convert.outcome := by
  have hkept := h.filter_isKept fun r hr => (hadded r hr).kind
  have hbalance : Survey.checkBalance all = Survey.checkBalance form.survey := by
    rw [Survey.checkBalance, Survey.checkBalance, ← Survey.checkBalanceFrom_filter, hkept,
      Survey.checkBalanceFrom_filter]
  rw [outcome_convert_wrapped, outcome_convert_wrapped,
    check_interleaved h hadded hdistinct hothers, translations_interleaved h hadded, withSurvey,
    hbalance]
  refine congrArg _ (funext fun _ => ?_)
  cases hchecked : Survey.checkBalance form.survey with
  | error e => rfl
  | ok _ =>
      -- Both surveys are balanced now, and so are both when they are wrapped.
      have hrows := Survey.balanced_of_checkBalance hchecked
      have hall := Survey.balanced_of_checkBalance (hbalance.trans hchecked)
      have htree : Node.ofItems form.tables (Item.ofRows (Survey.wrapLoose all)) =
          Node.ofItems form.tables (Item.ofRows (Survey.wrapLoose form.survey)) := by
        rw [← Node.ofItems_filter form.tables hall.wrapLoose,
          ← Node.ofItems_filter form.tables hrows.wrapLoose, Survey.wrapLoose, Survey.wrapLoose,
          Survey.filter_wrapLooseFrom, Survey.filter_wrapLooseFrom, hkept]
      rw [htree]
      rfl

/-- Data about the interview in front, between two questions outside all groups, and inside a
    group; one of the rows has a formula that is none. -/
theorem convert_interleaved_everywhere :
    let question := fun line name => Row.ofCells line [("type", "text"), ("name", name)]
    let opening := Row.ofCells 5 [("type", "begin repeat"), ("name", "g")]
    let closing := Row.ofCells 7 [("type", "end repeat")]
    let form : Form :=
      ⟨[question 3 "a", question 4 "b", opening, question 6 "c", closing], [], [], .empty, .empty⟩
    let start := Row.ofCells 2 [("type", "start"), ("name", "s")]
    let today := Row.ofCells 9 [("type", "today"), ("name", "d"), ("relevant", "((")]
    let device := Row.ofCells 0 [("type", "deviceid"), ("name", "e"), ("required", "perhaps")]
    let all :=
      [start, question 3 "a", today, question 4 "b", opening, device, question 6 "c", closing]
    Interleaved [start, today, device] form.survey all ∧
      (∀ r ∈ [start, today, device], r.IsSilent) ∧
      (form.withSurvey all).convert.outcome = form.convert.outcome := by
  intro question opening closing form start today device all
  have hinterleaved : Interleaved [start, today, device] form.survey all :=
    Interleaved.nil.kept.kept.added.kept.kept.added.kept.added
  have hsilent : ∀ r ∈ [start, today, device], r.IsSilent := by
    simp only [List.forall_mem_cons]
    refine ⟨⟨?_, ?_, ?_⟩, ⟨?_, ?_, ?_⟩, ⟨?_, ?_, ?_⟩, List.forall_mem_nil _⟩
    all_goals decide +kernel
  refine ⟨hinterleaved, hsilent, convert_interleaved hinterleaved hsilent ?_ ?_⟩
  all_goals decide +kernel

end Form

end Questionnaire
