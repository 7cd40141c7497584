import Questionnaire.Proofs.Choices
import Questionnaire.Proofs.Document.Profile

/-!
# References to Lists

A field with choices refers to its list by name, and the document has the list, or
the choices sheet says that it comes from elsewhere. Three passes make sure of it
together. The lists are collected, with placeholders among them; the check holds
every row of the survey against the lists, and every row of the choices sheet
against the rule for labels; and the document lists what is no placeholder. The
tree adds no references of its own, since a field keeps the list of its row.

Nothing of this can be left out. If the rows of a list are deleted from a form
that was converted, then the first row of the survey that refers to it is an
error. No other check can be in the way: the checks that come before look at the
survey alone, and the other lists are what they were.

## Main definitions

* `Form.Declares`: A list that a field may refer to.
* `Form.withoutList`: A form without the rows of a list.

## Theorems

* `Form.declares_of_contains`: What the check of the lists says about one of them.
* `Form.check_withoutList`: The check once a list is deleted.
* `Form.references_of_convert`: References are closed, and no list can be left out.
-/

namespace Questionnaire

namespace Form

/-- A list that a field may refer to. Some row of the choices sheet names it; and either
    the document lists it, once and with choices that all have a label, or it is
    a single row without name and label, and the document does not list it. -/
structure Declares (form : Form) (doc : Document) (list : String) : Prop where
  named : ∃ r ∈ form.choices, r.listName = list
  given :
    (∃ choices, doc.choiceLists.filter (fun l => l.1 == list) = [(list, choices)] ∧
      choices ≠ [] ∧ ∀ c ∈ choices, c.label ≠ "") ∨
    ∃ only, form.choices.filter (fun r => r.listName == list) = [only] ∧
      only.name = "" ∧ only.label "" = "" ∧ doc.choiceLists.filter (fun l => l.1 == list) = []

/-- A form without the rows of a list. -/
def withoutList (form : Form) (list : String) : Form :=
  { form with choices := form.choices.filter fun r => r.listName != list }

/-! ### What is declared -/

/-- A placeholder is the list of a single row without name and label. -/
theorem exists_row_of_isPlaceholder {rows : List Row} {list : String}
    (h : isPlaceholder (ChoiceLists.choicesOf rows list) = true) :
    ∃ only, rows.filter (fun r => r.listName == list) = [only] ∧
      only.name = "" ∧ only.label "" = "" := by
  rcases ChoiceLists.isPlaceholder_iff.1 h with ⟨choice, hchoices, hvalue, hlabel⟩
  rcases List.map_eq_singleton_iff.1 hchoices with ⟨only, honly, rfl⟩
  exact ⟨only, honly, hvalue, hlabel⟩

/-- In a list that is no placeholder, the rows that are admitted have labels. -/
theorem label_ne_empty_of_admits {rows : List Row} {list : String}
    (hadmits : ∀ r ∈ rows, (ChoiceLists.ofRows rows).admits r = true)
    (hlist : isPlaceholder (ChoiceLists.choicesOf rows list) = false) :
    ∀ c ∈ ChoiceLists.choicesOf rows list, c.label ≠ "" := by
  intro c hc
  rcases List.mem_map.1 hc with ⟨r, hr, rfl⟩
  rcases List.mem_filter.1 hr with ⟨hr, hname⟩
  have hr := hadmits r hr
  have hnot : ((ChoiceLists.ofRows rows).get? r.listName).map isPlaceholder ≠ some true := by
    rw [beq_iff_eq.1 hname, ChoiceLists.get?_ofRows, if_neg (List.ne_nil_of_mem hc),
      Option.map_some, hlist]
    decide
  rw [ChoiceLists.admits, Bool.or_eq_true, Bool.not_eq_true'] at hr
  rcases hr with hlabel | hplaceholder
  · intro hempty
    change r.label "" = "" at hempty
    rw [hempty] at hlabel
    cases hlabel
  · exact absurd (Option.getD_eq_iff.1 hplaceholder) (by simp [hnot])

/-- A list that the check found is declared. -/
theorem declares_of_contains {form : Form} {doc : Document} (h : form.Accepts doc)
    {list : String} (hlist : form.choiceLists.contains list = true)
    (hadmits : ∀ r ∈ form.choices, form.choiceLists.admits r = true) :
    form.Declares doc list := by
  have hnamed := ChoiceLists.contains_ofRows_iff.1 hlist
  have hsome : ChoiceLists.choicesOf form.choices list ≠ [] := by
    intro hnone
    rcases hnamed with ⟨r, hr, hname⟩
    exact ChoiceLists.choicesOf_eq_nil_iff.1 hnone r hr hname
  refine ⟨hnamed, ?_⟩
  rw [h.listed, ChoiceLists.filter_listed, choiceLists, ChoiceLists.get?_ofRows, if_neg hsome]
  cases hplaceholder : isPlaceholder (ChoiceLists.choicesOf form.choices list) with
  | false =>
      refine Or.inl ⟨_, ?_, hsome, label_ne_empty_of_admits hadmits hplaceholder⟩
      simp [Option.filter, hplaceholder]
  | true =>
      rcases exists_row_of_isPlaceholder hplaceholder with ⟨only, honly, hname, hlabel⟩
      refine Or.inr ⟨only, honly, hname, hlabel, ?_⟩
      simp [Option.filter, hplaceholder]

/-- A field with choices was made from a row of the survey that refers to its list. -/
theorem exists_row_of_choice {form : Form} {doc : Document} (h : form.Accepts doc) {n : Node}
    (hn : n ∈ doc.allNodes) {list : String} (hlist : n.profile.list = some list) :
    ∃ r ∈ form.survey, r.kind.choiceList = some list := by
  have hprofile := h.profiles.subset (List.mem_map_of_mem hn)
  rw [List.mem_map] at hprofile
  rcases hprofile with ⟨r, hr, hsame⟩
  have hr' : r.kind.choiceList = some list := by
    rw [← hlist, ← hsame]
    rfl
  rcases List.mem_append.1 hr with hmark | hrow
  -- The marks of the slides that were put in refer to nothing.
  · rcases List.mem_map.1 hmark with ⟨k, _, rfl⟩
    rw [Survey.kind_slideMark] at hr'
    cases hr'
  · exact ⟨r, (List.mem_filter.1 hrow).1, hr'⟩

/-! ### Leaving out a list -/

/-- The rows that are left are admitted as before. -/
theorem admits_withoutList {form : Form} {list : String}
    (hadmits : ∀ r ∈ form.choices, form.choiceLists.admits r = true) :
    ∀ r ∈ (form.withoutList list).choices,
      (form.withoutList list).choiceLists.admits r = true := by
  intro r hr
  rcases List.mem_filter.1 hr with ⟨hr, hother⟩
  rw [ChoiceLists.admits, choiceLists, withoutList,
    ChoiceLists.get?_ofRows_filter_of_ne (bne_iff_ne.1 hother)]
  exact hadmits r hr

/-- Of what the survey refers to, only the list that was deleted is not declared. -/
theorem undeclared?_withoutList {form : Form} (list : String) {r : Row}
    (hdeclared : ∀ other, r.kind.choiceList = some other →
      form.choiceLists.contains other = true) :
    (form.withoutList list).choiceLists.undeclared? r =
      if r.kind.choiceList = some list then some list else none := by
  rw [ChoiceLists.undeclared?]
  cases hkind : r.kind.choiceList with
  | none => rfl
  | some other =>
      by_cases hother : other = list
      · subst hother
        have hgone : (form.withoutList other).choiceLists.contains other = false := by
          rw [Dictionary.contains, choiceLists, withoutList, ChoiceLists.get?_ofRows_filter_self]
          rfl
        simp [Option.filter, hgone]
      · have hkept : (form.withoutList list).choiceLists.contains other = true := by
          rw [← hdeclared other hkind, Dictionary.contains, Dictionary.contains, choiceLists,
            withoutList, ChoiceLists.get?_ofRows_filter_of_ne hother]
          rfl
        simp [Option.filter, hkept, hother]

/-- The search for what is not declared is a search for the first row of that list. -/
theorem findSome?_withoutList {form : Form} (list : String) {rows : List Row}
    (hdeclared : ∀ r ∈ rows, ∀ other, r.kind.choiceList = some other →
      form.choiceLists.contains other = true) :
    rows.findSome? (fun r =>
      ((form.withoutList list).choiceLists.undeclared? r).map fun list => (r, list)) =
        (rows.find? fun r => r.kind.choiceList == some list).map fun r => (r, list) := by
  induction rows with
  | nil => rfl
  | cons r rest ih =>
      have hr := undeclared?_withoutList list (hdeclared r List.mem_cons_self)
      have hrest := ih fun r' hr' => hdeclared r' (List.mem_cons_of_mem _ hr')
      rw [List.findSome?_cons, List.find?_cons, hr]
      by_cases hlist : r.kind.choiceList = some list
      · rw [if_pos hlist, beq_iff_eq.2 hlist]
        rfl
      · rw [if_neg hlist, beq_eq_false_iff_ne.2 hlist]
        exact hrest

/-- Without a list, the check fails at the first row that refers to it. -/
theorem check_withoutList {form : Form} (hcheck : form.check = .ok ()) {list : String}
    {first : Row} (hfirst : form.survey.find? (fun r => r.kind.choiceList == some list) =
      some first) :
    (form.withoutList list).check = .error (.content first.line (.undeclaredList list)) := by
  rcases bind_eq_ok.1 hcheck with ⟨_, htypes, hchecked⟩
  rcases bind_eq_ok.1 hchecked with ⟨_, hnames, hlists⟩
  rcases ChoiceLists.check_eq_ok_iff.1 hlists with ⟨hadmits, hdeclared⟩
  have hrows : (form.withoutList list).choices.find?
      (fun r => !(form.withoutList list).choiceLists.admits r) = none := by
    rw [List.find?_eq_none]
    intro r hr hrefused
    rw [admits_withoutList hadmits r hr] at hrefused
    cases hrefused
  have hsearch := findSome?_withoutList list hdeclared
  rw [hfirst] at hsearch
  have hfail : (form.withoutList list).choiceLists.check form.survey
      (form.withoutList list).choices = .error (.content first.line (.undeclaredList list)) := by
    rw [ChoiceLists.check, hrows, hsearch]
    rfl
  change (do
    Survey.checkTypes form.survey
    Survey.checkNames form.survey
    (form.withoutList list).choiceLists.check form.survey (form.withoutList list).choices) = _
  rw [htypes, hnames, hfail]
  rfl

theorem outcome_of_check_error {form : Form} {e : ConversionError} (h : form.check = .error e) :
    form.convert.outcome = .error (.error e) := by
  rw [outcome_convert, h]
  rfl

/-- Every list that a field of a document refers to is declared. And if the rows of a list
    that the survey refers to are deleted, the form is refused in the line of the
    first row that refers to it. -/
theorem references_of_convert {form : Form} {doc : Document}
    (h : form.convert.outcome = .ok doc) :
    (∀ n ∈ doc.allNodes, ∀ f, n.field? = some f → ∀ several list filter narrow,
      f.kind = .choice several list filter narrow → form.Declares doc list) ∧
    ∀ list, (∃ r ∈ form.survey, r.kind.choiceList = some list) →
      ∃ first, form.survey.find? (fun r => r.kind.choiceList == some list) = some first ∧
        (form.withoutList list).convert.outcome =
          .error (.error (.content first.line (.undeclaredList list))) := by
  have haccepts := convert_eq_ok_iff.1 h
  rcases bind_eq_ok.1 haccepts.checked with ⟨_, _, hchecked⟩
  rcases bind_eq_ok.1 hchecked with ⟨_, _, hlists⟩
  rcases ChoiceLists.check_eq_ok_iff.1 hlists with ⟨hadmits, hdeclared⟩
  constructor
  · intro n hn f hf several list filter narrow hkind
    have hlist : n.profile.list = some list := by
      cases n with
      | field i f' =>
          cases hf
          rw [Node.profile, hkind]
          rfl
      | group i kind readonly ns => cases hf
    rcases exists_row_of_choice haccepts hn hlist with ⟨r, hr, hrefers⟩
    exact declares_of_contains haccepts (hdeclared r hr list hrefers) hadmits
  · intro list hrefers
    have hfound : (form.survey.find? fun r => r.kind.choiceList == some list).isSome = true := by
      rw [List.find?_isSome]
      simpa using hrefers
    rcases Option.isSome_iff_exists.1 hfound with ⟨first, hfirst⟩
    exact ⟨first, hfirst, outcome_of_check_error (check_withoutList haccepts.checked hfirst)⟩

/-- Two lists in turns, of which one is a placeholder, and questions that refer to them. -/
theorem references_of_convert_placeholder :
    let form : Form := ⟨[.ofCells 2 [("type", "select_one yn"), ("name", "a")],
      .ofCells 3 [("type", "select_multiple towns"), ("name", "b")],
      .ofCells 4 [("type", "select_one yn"), ("name", "c")]],
      [.ofCells 2 [("list name", "yn"), ("name", "y"), ("label", "Yes")],
        .ofCells 3 [("list name", "towns")],
        .ofCells 4 [("list name", "yn"), ("name", "n"), ("label", "No")]], [], .empty, .empty⟩
    ∃ doc, form.convert.outcome = .ok doc ∧
      (∀ n ∈ doc.allNodes, ∀ f, n.field? = some f → ∀ several list filter narrow,
        f.kind = .choice several list filter narrow → form.Declares doc list) ∧
      ∀ list, (∃ r ∈ form.survey, r.kind.choiceList = some list) →
        ∃ first, form.survey.find? (fun r => r.kind.choiceList == some list) = some first ∧
          (form.withoutList list).convert.outcome =
            .error (.error (.content first.line (.undeclaredList list))) := by
  dsimp only
  refine exists_of_any (fun _ => true) ?accepted fun doc h _ => references_of_convert h
  decide +kernel

end Form

end Questionnaire
