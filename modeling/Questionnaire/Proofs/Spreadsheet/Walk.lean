import Questionnaire.Proofs.Outcome
import Questionnaire.Spreadsheet.SharedTexts
import Questionnaire.Spreadsheet.Worksheet

/-!
# Walks over Events

A part of a spreadsheet is read by a state that every event of its markup moves
on. What a reader makes of a whole part is put together from what it makes of the
elements, and `Leads` is the statement that does so: a stretch of events leads
from one state to another. Stretches are chained by `Leads.append`, and a chain
that covers all events of a part says what was read.

Most of what stands in a part is of no interest: the elements that only hold
others, properties, the line breaks between elements. Such an event is an aside,
for the reader of worksheets and for that of the shared texts at once, so that the
content of a string can be described before it is said where the string stands.

## Main definitions

* `Leads`: A stretch of events leads from a state to another.
* `isAside`: An event that says nothing about cells and their texts.
* `Entry`: An element, or an aside between elements.

## Theorems

* `Leads.append`: Stretches are chained.
* `foldlM_eq_error_iff`: Where a walk ends with an error.
* `outcome_readPart_eq_ok_iff`, `outcome_readPart_eq_error_iff`: What reading a part ends in.
* `outcome_readPart`: A part whose events lead to a state is read to it.
* `WorksheetState.next_aside`, `TextTableState.next_aside`: Asides are passed over.
-/

namespace Questionnaire

theorem Traced.outcome_foldlM {ε σ α : Type} (step : σ → α → Traced ε σ) (s : σ) (xs : List α) :
    (xs.foldlM step s).outcome = xs.foldlM (fun s x => (step s x).outcome) s := by
  induction xs generalizing s with
  | nil => rfl
  | cons x rest ih =>
      rw [List.foldlM_cons, List.foldlM_cons, outcome_bind]
      simp only [ih]

namespace Xml

theorem Tag.isCalled_iff {tag : Tag} {name : String} :
    tag.isCalled name = true ↔ tag.localName = Source.ofString name := by
  rw [isCalled, beq_iff_eq]

/-- An element has one name. -/
theorem Tag.not_isCalled {tag : Tag} {name : String} (h : tag.isCalled name = true)
    (other : String) (hne : Source.ofString name ≠ Source.ofString other) :
    tag.isCalled other = false := by
  rw [isCalled, isCalled_iff.1 h]
  exact beq_eq_false_iff_ne.2 hne

end Xml

namespace Spreadsheet

section Leads

variable {σ : Type} {step : σ → Xml.Event → Traced ReadError σ} {s s' s'' : σ}
  {events later : List Xml.Event}

/-- A stretch of events leads from a state to another. -/
def Leads (step : σ → Xml.Event → Traced ReadError σ) (s : σ) (events : List Xml.Event)
    (s' : σ) : Prop :=
  (events.foldlM step s).outcome = .ok s'

theorem Leads.nil : Leads step s [] s :=
  rfl

theorem Leads.cons {e : Xml.Event} (h : (step s e).outcome = .ok s')
    (hlater : Leads step s' later s'') : Leads step s (e :: later) s'' := by
  rw [Leads, List.foldlM_cons, Traced.outcome_bind, h]
  exact hlater

/-- A stretch is led through by its first event and then by the others. -/
theorem leads_cons_iff {e : Xml.Event} :
    Leads step s (e :: later) s'' ↔
      ∃ s', (step s e).outcome = .ok s' ∧ Leads step s' later s'' := by
  rw [Leads, List.foldlM_cons, Traced.outcome_bind]
  exact bind_eq_ok

/-- A walk ends with an error if a stretch leads to a state in which an event ends with it. -/
theorem foldlM_eq_error_iff {error : ReadError} :
    (events.foldlM step s).outcome = .error error ↔
      ∃ before e later s', events = before ++ e :: later ∧ Leads step s before s' ∧
        (step s' e).outcome = .error error := by
  induction events generalizing s with
  | nil =>
      refine iff_of_false (by rintro ⟨⟩) ?_
      rintro ⟨before, e, later, s', hsplit, -⟩
      exact absurd hsplit.symm (List.append_ne_nil_of_right_ne_nil _ (List.cons_ne_nil _ _))
  | cons e rest ih =>
      rw [List.foldlM_cons, Traced.outcome_bind, bind_eq_error]
      constructor
      · rintro (herror | ⟨middle, hnext, hrest⟩)
        · exact ⟨[], e, rest, s, rfl, .nil, herror⟩
        · obtain ⟨before, e', later, s', rfl, hleads, herror⟩ := ih.1 hrest
          exact ⟨e :: before, e', later, s', rfl, .cons hnext hleads, herror⟩
      · rintro ⟨before, e', later, s', hsplit, hleads, herror⟩
        cases before with
        | nil =>
            cases hsplit
            cases hleads
            exact .inl herror
        | cons first before =>
            cases hsplit
            obtain ⟨middle, hnext, hrest⟩ := leads_cons_iff.1 hleads
            exact .inr ⟨middle, hnext, ih.2 ⟨before, e', later, s', rfl, hrest, herror⟩⟩

theorem Leads.append (h : Leads step s events s') (hlater : Leads step s' later s'') :
    Leads step s (events ++ later) s'' := by
  rw [Leads, Traced.outcome_foldlM] at h hlater ⊢
  rw [List.foldlM_append, h]
  exact hlater

theorem Leads.single {e : Xml.Event} (h : (step s e).outcome = .ok s') : Leads step s [e] s' :=
  .cons h .nil

/-- A part is read to a state if its events lead there and its markup is whole. -/
theorem outcome_readPart_eq_ok_iff {part : Xml.Source} :
    (readPart step s part).outcome = .ok s' ↔
      Leads step s (Xml.Events.ofSource part).events s' ∧
        (Xml.Events.ofSource part).isWellFormed = true := by
  rw [readPart, Traced.outcome_bind, bind_eq_ok]
  constructor
  · rintro ⟨last, hleads, hend⟩
    split at hend
    case isTrue hwhole =>
      cases hend
      exact ⟨hleads, hwhole⟩
    case isFalse => cases hend
  · rintro ⟨hleads, hwhole⟩
    refine ⟨s', hleads, ?_⟩
    rw [if_pos hwhole]
    rfl

/-- An error other than that of the markup is one of an event. -/
theorem outcome_readPart_eq_error_iff {part : Xml.Source} {error : ReadError}
    (hother : error ≠ .malformed) :
    (readPart step s part).outcome = .error error ↔
      ((Xml.Events.ofSource part).events.foldlM step s).outcome = .error error := by
  rw [readPart, Traced.outcome_bind, bind_eq_error]
  refine ⟨fun h => h.resolve_right ?_, .inl⟩
  rintro ⟨last, -, hend⟩
  split at hend
  case isTrue => cases hend
  case isFalse =>
    cases hend
    exact hother rfl

/-- A part whose events lead to a state is read to it. -/
theorem outcome_readPart {part : Xml.Source} (hevents : Xml.Events.ofSource part = ⟨events, true⟩)
    (h : Leads step s events s') : (readPart step s part).outcome = .ok s' := by
  rw [outcome_readPart_eq_ok_iff, hevents]
  exact ⟨h, rfl⟩

end Leads

/-- The names of elements that say something about cells and their texts. -/
def tellingNames : List String :=
  ["row", "c", "v", "t", "si", "rPh"]

/-- Whether an event says nothing about cells and their texts. An empty text is as good
    as none. -/
def isAside : Xml.Event → Bool
  | .opening tag => tellingNames.all fun name => !tag.isCalled name
  | .closing name => tellingNames.all fun telling =>
      Xml.Tag.withoutPrefix name != Xml.Source.ofString telling
  | .empty tag => ["row", "c", "si"].all fun name => !tag.isCalled name
  | .text _ => true

theorem isAside_opening {tag : Xml.Tag} {name : String} (h : tag.isCalled name = true)
    (hname : (tellingNames.all fun telling =>
      Xml.Source.ofString name != Xml.Source.ofString telling) = true) :
    isAside (.opening tag) = true := by
  rw [isAside, List.all_eq_true]
  intro telling htelling
  rw [Xml.Tag.not_isCalled h telling (bne_iff_ne.1 (List.all_eq_true.1 hname telling htelling))]
  rfl

theorem isAside_closing {tag : Xml.Tag} {name : String} (h : tag.isCalled name = true)
    (hname : (tellingNames.all fun telling =>
      Xml.Source.ofString name != Xml.Source.ofString telling) = true) :
    isAside (.closing tag.name) = true := by
  rw [isAside]
  have hlocal : Xml.Tag.withoutPrefix tag.name = Xml.Source.ofString name :=
    Xml.Tag.isCalled_iff.1 h
  rw [hlocal]
  exact hname

/-- An element, or an aside between elements. -/
inductive Entry (α : Type)
  | aside (e : Xml.Event) (silent : isAside e = true)
  | element (x : α)

namespace Entry

variable {α : Type}

/-- The events of some entries, by the events of an element. -/
def events (ofElement : α → List Xml.Event) (entries : List (Entry α)) : List Xml.Event :=
  entries.flatMap fun
    | aside e _ => [e]
    | element x => ofElement x

/-- The elements among some entries. -/
def elements (entries : List (Entry α)) : List α :=
  entries.filterMap fun
    | aside .. => none
    | element x => some x

end Entry

namespace WorksheetState

variable {sheet : String} {shared : List String} {s : WorksheetState}

/-- No text is open. -/
structure Quiet (s : WorksheetState) : Prop where
  inValue : s.inValue = false
  inText : s.inText = false

/-- Outside of texts, asides are passed over. -/
theorem next_aside (h : s.Quiet) {e : Xml.Event} (he : isAside e = true) :
    (next sheet shared s e).outcome = .ok s := by
  cases e with
  | opening tag =>
      simp only [isAside, tellingNames, List.all_cons, List.all_nil, Bool.and_true,
        Bool.and_eq_true, Bool.not_eq_true'] at he
      rcases he with ⟨hrow, hcell, hvalue, htext, _, _⟩
      simp [next, opened, hrow, hcell, hvalue, htext]
  | closing name =>
      simp only [isAside, tellingNames, List.all_cons, List.all_nil, Bool.and_true,
        Bool.and_eq_true, bne_iff_ne, ne_eq] at he
      rcases he with ⟨hrow, hcell, hvalue, htext, _, _⟩
      simp [next, closed, hrow, hcell, hvalue, htext]
  | empty tag =>
      simp only [isAside, List.all_cons, List.all_nil, Bool.and_true, Bool.and_eq_true,
        Bool.not_eq_true'] at he
      rcases he with ⟨hrow, hcell, _⟩
      simp [next, passedEmpty, hrow, hcell]
  | text content =>
      rw [next, Traced.outcome_ofExcept, addText, h.inValue, h.inText]
      cases s.cell <;> rfl

end WorksheetState

namespace TextTableState

variable {s : TextTableState}

/-- Outside of texts, asides are passed over. -/
theorem next_aside (h : s.inText = false) {e : Xml.Event} (he : isAside e = true) :
    (next s e).outcome = .ok s := by
  cases e with
  | opening tag =>
      simp only [isAside, tellingNames, List.all_cons, List.all_nil, Bool.and_true,
        Bool.and_eq_true, Bool.not_eq_true'] at he
      rcases he with ⟨_, _, _, htext, hitem, hphonetic⟩
      simp [next, opened, htext, hitem, hphonetic]
  | closing name =>
      simp only [isAside, tellingNames, List.all_cons, List.all_nil, Bool.and_true,
        Bool.and_eq_true, bne_iff_ne, ne_eq] at he
      rcases he with ⟨_, _, _, htext, hitem, hphonetic⟩
      simp [next, closed, htext, hitem, hphonetic]
  | empty tag =>
      simp only [isAside, List.all_cons, List.all_nil, Bool.and_true, Bool.and_eq_true,
        Bool.not_eq_true'] at he
      rcases he with ⟨_, _, hitem⟩
      simp [next, hitem]
  | text content => simp [next, h]

end TextTableState

end Spreadsheet

end Questionnaire
