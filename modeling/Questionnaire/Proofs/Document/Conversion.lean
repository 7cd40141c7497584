import Questionnaire.Form.Convert
import Questionnaire.Proofs.Outcome
import Questionnaire.Proofs.Survey.Stretches

/-!
# Accepted Forms

What it means that a form is converted. The conversion is one chain of steps, most
of which can fail; `Form.Accepts` lists what each of them has to give, with the
names that later proofs use, and `Form.convert_eq_ok_iff` says that the list is
complete. So whatever is to be said about documents is said about this list, and
the chain is taken apart only here.

The group around the whole survey is gone from the list. It is built like every
group, from a row that never fails to give one, and then only its nodes are used.

## Main definitions

* `Form.Accepts`: The steps behind the document of a form.
* `Form.withSurvey`: A form with another survey.

## Theorems

* `GroupHead.ofRow_groupMark`: The group of a mark that was put in.
* `GroupHead.name_and_line_of_ofRow`, `Node.ofQuestion_eq_ok`: The name and the line of a
  node.
* `Node.ofItems_question`, `Node.ofItems_dropped`, `Node.ofItems_group`: The nodes of items.
* `Survey.outcome_divide`: What a divided survey is.
* `Form.slides_divided`, `Form.outcome_convert_wrapped`: The slides are built from the wrapped
  survey.
* `Form.convert_eq_ok_iff`: The forms that are converted, and their documents.
-/

namespace Questionnaire

theorem GroupHead.ofRow_groupMark (name label : String) :
    GroupHead.ofRow (Survey.groupMark name label) =
      .ok ⟨⟨name, label, 0, none, 0, 0⟩, .group, none⟩ := by
  have hlabel : (Survey.groupMark name label).label "" = label := by
    simp only [Row.label, Row.textIn, Survey.get?_groupMark]
    by_cases h : label = ""
    · simp [h, Column.fallbackLanguage]
    · simp [h]
  have hrelevant : (Survey.groupMark name label).relevant = "" := by
    simp [Row.relevant, Row.text, Row.textIn, Survey.get?_groupMark]
  have hreadonly : (Survey.groupMark name label).readonly = "" := by
    simp [Row.readonly, Row.text, Row.textIn, Survey.get?_groupMark]
  have hvisibility : (Survey.groupMark name label).visibility = .ok none := by
    rw [Row.visibility, Row.compileFilled, hrelevant]
    rfl
  have hread : readonlyOfRow (Survey.groupMark name label) = .ok none := by
    rw [readonlyOfRow, hreadonly]
    rfl
  have hkind : kindOfRow (Survey.groupMark name label) = .ok .group := by
    rw [kindOfRow, Survey.kind_groupMark]
    rfl
  -- No cell of the mark is a formula, so nothing can fail.
  rw [ofRow, hvisibility, hread, hkind]
  simp only [Row.info, hlabel, Survey.name_groupMark, Survey.line_groupMark]
  rfl

namespace Survey

/-- The outcome of the division: the check decides, and the rest cannot fail. -/
theorem outcome_divide (survey : List Row) :
    (divide survey).outcome = (checkBalance survey).map fun _ =>
      groupMark "global" "" :: (wrapLoose survey ++ [endMark]) := by
  rw [divide]
  simp only [Traced.outcome_bind, Traced.outcome_ofExcept]
  cases checkBalance survey <;> rfl

theorem divide_eq_ok {survey divided : List Row} (h : (divide survey).outcome = .ok divided) :
    checkBalance survey = .ok () ∧
      divided = groupMark "global" "" :: (wrapLoose survey ++ [endMark]) := by
  rw [outcome_divide] at h
  rcases map_eq_ok.1 h with ⟨_, hcheck, hdivided⟩
  exact ⟨hcheck, hdivided.symm⟩

end Survey

/-- A group has the name and the line of the row that opens it. -/
theorem GroupHead.name_and_line_of_ofRow {r : Row} {head : GroupHead}
    (h : GroupHead.ofRow r = .ok head) : head.info.name = r.name ∧ head.info.line = r.line := by
  rw [ofRow] at h
  rcases bind_eq_ok.1 h with ⟨visibility, _, h⟩
  rcases bind_eq_ok.1 h with ⟨readonly, _, h⟩
  rcases bind_eq_ok.1 h with ⟨kind, _, h⟩
  cases h
  exact ⟨rfl, rfl⟩

namespace Node

open Survey (Item)

/-- The node of a question is a field, with the name and the line of its row. -/
theorem ofQuestion_eq_ok {tables : Dictionary String Grid} {r : Row} {n : Node}
    (h : ofQuestion tables r = .ok n) :
    ∃ i f, n = field i f ∧ i.name = r.name ∧ i.line = r.line := by
  rw [ofQuestion] at h
  rcases bind_eq_ok.1 h with ⟨default, _, h⟩
  rcases bind_eq_ok.1 h with ⟨editable, _, h⟩
  rcases bind_eq_ok.1 h with ⟨validation, _, h⟩
  rcases bind_eq_ok.1 h with ⟨kind, _, h⟩
  rcases bind_eq_ok.1 h with ⟨visibility, _, h⟩
  cases h
  exact ⟨_, _, rfl, rfl, rfl⟩

/-! The nodes of items, by what the first of the items is. -/

theorem ofItems_question {tables : Dictionary String Grid} {r : Row} {items : List Item}
    {nodes : List Node} (hkind : r.kind.isQuestion = true)
    (h : ofItems tables (.row r :: items) = .ok nodes) :
    ∃ n ns, ofQuestion tables r = .ok n ∧ ofItems tables items = .ok ns ∧ nodes = n :: ns := by
  rw [ofItems, ofItem, if_pos hkind] at h
  rcases bind_eq_ok.1 h with ⟨node?, hnode, h⟩
  rcases bind_eq_ok.1 h with ⟨ns, hns, h⟩
  rcases map_eq_ok.1 hnode with ⟨n, hn, rfl⟩
  cases h
  exact ⟨n, ns, hn, hns, rfl⟩

theorem ofItems_dropped {tables : Dictionary String Grid} {r : Row} (items : List Item)
    (hkind : r.kind.isQuestion = false) :
    ofItems tables (.row r :: items) = ofItems tables items := by
  rw [ofItems, ofItem, hkind]
  cases ofItems tables items <;> rfl

theorem ofItems_group {tables : Dictionary String Grid} {header : Row}
    {inner items : List Item} {nodes : List Node}
    (h : ofItems tables (.group header inner :: items) = .ok nodes) :
    ∃ head ns rest, GroupHead.ofRow header = .ok head ∧ ofItems tables inner = .ok ns ∧
      ofItems tables items = .ok rest ∧ nodes = head.node ns :: rest := by
  rw [ofItems, ofItem] at h
  rcases bind_eq_ok.1 h with ⟨node?, hnode, h⟩
  rcases bind_eq_ok.1 h with ⟨rest, hrest, h⟩
  rcases bind_eq_ok.1 hnode with ⟨head, hhead, hnode⟩
  rcases bind_eq_ok.1 hnode with ⟨ns, hns, hnode⟩
  cases hnode
  cases h
  exact ⟨head, ns, rest, Failure.lift_eq_ok.1 hhead, hns, hrest, rfl⟩

theorem ofBlock_groupMark (tables : Dictionary String Grid) (name label : String)
    {rows : List Row} (h : Survey.Balanced rows) :
    ofBlock tables (Survey.groupMark name label :: (rows ++ [Survey.endMark])) =
      (ofItems tables (Item.ofRows rows)).map fun nodes =>
        group ⟨name, label, 0, none, 0, 0⟩ .group none nodes := by
  rw [ofBlock, Item.ofBlock_group (Survey.endMark_closes_groupMark name label) h, ofItem,
    GroupHead.ofRow_groupMark]
  cases ofItems tables (Item.ofRows rows) <;> rfl

end Node

namespace Form

/-- The form with another survey. -/
def withSurvey (form : Form) (survey : List Row) : Form :=
  { form with survey }

/-- The translations of a form are those to each of its languages. -/
theorem translations_withSurvey {form : Form} {survey : List Row}
    (h : ∀ language, (form.withSurvey survey).translation language = form.translation language) :
    (form.withSurvey survey).translations = form.translations := by
  have heach : ∀ languages,
      (form.withSurvey survey).translationsTo languages = form.translationsTo languages := by
    intro languages
    induction languages with
    | nil => rfl
    | cons language rest ih => rw [translationsTo, translationsTo, h, ih]
  rw [translations, translations, heach]
  rfl

/-- What each step of a conversion gave. -/
structure Accepts (form : Form) (doc : Document) : Prop where
  checked : form.check = .ok ()
  balanced : Survey.checkBalance form.survey = .ok ()
  /-- The nodes of the wrapped survey, numbered, are the slides. -/
  built : ∃ nodes,
    Node.ofItems form.tables (Survey.Item.ofRows (Survey.wrapLoose form.survey)) = .ok nodes ∧
      Node.numberAll 0 (nodes.map Node.asSlide) = .ok doc.nodes
  tagged : (Tag.ofRows form.settings).outcome = .ok doc.tags
  translated : form.translations = .ok doc.translations
  listed : doc.choiceLists = form.choiceLists.listed

/-- The slides of a divided survey are the nodes of the wrapped one. -/
theorem slides_divided (form : Form) {survey : List Row} (h : Survey.Balanced survey) :
    form.slides (Survey.groupMark "global" "" :: (Survey.wrapLoose survey ++ [Survey.endMark])) =
      Node.ofItems form.tables (Survey.Item.ofRows (Survey.wrapLoose survey)) >>= fun nodes =>
        Failure.lift (Node.numberAll 0 (nodes.map Node.asSlide)) := by
  rw [slides, Node.ofBlock_groupMark _ _ _ h.wrapLoose]
  cases Node.ofItems form.tables (Survey.Item.ofRows (Survey.wrapLoose survey)) <;> rfl

/-- The conversion without its notices. -/
theorem outcome_convert (form : Form) :
    form.convert.outcome = (do
      Failure.lift form.check
      let divided ← Failure.lift (Survey.divide form.survey).outcome
      let nodes ← form.slides divided
      let tags ← Failure.lift (Tag.ofRows form.settings).outcome
      let translations ← Failure.lift form.translations
      return ⟨form.choiceLists.listed, nodes, tags, translations⟩) := by
  simp only [convert, Traced.outcome_bind, Traced.outcome_ofExcept, Traced.outcome_mapError,
    Traced.outcome_note, Traced.outcome_pure]
  rfl

/-- The conversion with the check of the groups and the building of the tree one after the
    other: what is built is the wrapped survey, and the group around it is gone. -/
theorem outcome_convert_wrapped (form : Form) :
    form.convert.outcome = (do
      Failure.lift form.check
      Failure.lift (Survey.checkBalance form.survey)
      let nodes ←
        Node.ofItems form.tables (Survey.Item.ofRows (Survey.wrapLoose form.survey))
      let slides ← Failure.lift (Node.numberAll 0 (nodes.map Node.asSlide))
      let tags ← Failure.lift (Tag.ofRows form.settings).outcome
      let translations ← Failure.lift form.translations
      return ⟨form.choiceLists.listed, slides, tags, translations⟩) := by
  rw [outcome_convert]
  refine congrArg _ (funext fun _ => ?_)
  rw [Survey.outcome_divide]
  cases hbalance : Survey.checkBalance form.survey with
  | error e => rfl
  | ok _ =>
      have hslides := slides_divided form (Survey.balanced_of_checkBalance hbalance)
      change (form.slides _ >>= _) = (_ >>= _ : Except Failure Document)
      rw [hslides, bind_assoc]
      rfl

theorem convert_eq_ok_iff {form : Form} {doc : Document} :
    form.convert.outcome = .ok doc ↔ form.Accepts doc := by
  rw [outcome_convert_wrapped]
  constructor
  · intro h
    rcases bind_eq_ok.1 h with ⟨_, hcheck, h⟩
    rcases bind_eq_ok.1 h with ⟨_, hbalance, h⟩
    rcases bind_eq_ok.1 h with ⟨nodes, hnodes, h⟩
    rcases bind_eq_ok.1 h with ⟨slides, hnumber, h⟩
    rcases bind_eq_ok.1 h with ⟨tags, htags, h⟩
    rcases bind_eq_ok.1 h with ⟨translations, htranslations, h⟩
    cases h
    exact ⟨Failure.lift_eq_ok.1 hcheck, Failure.lift_eq_ok.1 hbalance,
      ⟨nodes, hnodes, Failure.lift_eq_ok.1 hnumber⟩, Failure.lift_eq_ok.1 htags,
      Failure.lift_eq_ok.1 htranslations, rfl⟩
  · rintro ⟨hcheck, hbalance, ⟨nodes, hnodes, hnumber⟩, htags, htranslations, hlists⟩
    -- The steps in their order, each with what it gives.
    refine bind_eq_ok.2 ⟨(), Failure.lift_eq_ok.2 hcheck, ?_⟩
    refine bind_eq_ok.2 ⟨(), Failure.lift_eq_ok.2 hbalance, ?_⟩
    refine bind_eq_ok.2 ⟨nodes, hnodes, ?_⟩
    refine bind_eq_ok.2 ⟨doc.nodes, Failure.lift_eq_ok.2 hnumber, ?_⟩
    refine bind_eq_ok.2 ⟨doc.tags, Failure.lift_eq_ok.2 htags, ?_⟩
    refine bind_eq_ok.2 ⟨doc.translations, Failure.lift_eq_ok.2 htranslations, ?_⟩
    rw [← hlists]
    rfl

end Form

end Questionnaire
