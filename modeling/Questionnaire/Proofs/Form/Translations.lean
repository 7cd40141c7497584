import Questionnaire.Form.Translation
import Questionnaire.Proofs.Form.Columns

/-!
# The Translations of a Form

The translations to a language are collected pair by pair, from the texts of the survey,
row by row, and then from those of the choices. A pair that lacks a text or its translation
is passed over, and a text with square brackets ends the collection.

What comes out can be said of the pairs as a whole. If some pairs are refused, the first one
is the error. If none is, the texts that have a translation are the keys, and of pairs with
one text the last one counts.

## Main definitions

* `TextPair.Filled`: A pair that has both texts.
* `TextPair.Refused`: Such a pair whose text cannot be a key.
* `TextPair.IsFirst`, `TextPair.IsLast`: The first and the last pair of some kind.
* `Translation.IsOf`: The translations that some pairs ask for.

## Theorems

* `TextPair.addTo_eq`: What one pair does.
* `TextPair.foldlM_addTo`: What several pairs do.
* `Translation.IsOf.unique`: Pairs ask for one translation of each text.
* `Form.translation_outcome`: What the translation of a form is, or why there is none.
-/

namespace Questionnaire

namespace TextPair

/-- A pair that has both a text and a translation. -/
def Filled (p : TextPair) : Prop :=
  p.source ≠ "" ∧ p.target ≠ ""

/-- A pair that has both, and whose text has a square bracket. -/
def Refused (p : TextPair) : Prop :=
  p.Filled ∧ ('[' ∈ p.source.toList ∨ ']' ∈ p.source.toList)

instance : DecidablePred Filled :=
  fun p => inferInstanceAs (Decidable (p.source ≠ "" ∧ p.target ≠ ""))

instance : DecidablePred Refused :=
  fun p => inferInstanceAs (Decidable (p.Filled ∧ _))

/-- The first of some pairs that has a property. -/
def IsFirst (P : TextPair → Prop) (pairs : List TextPair) (p : TextPair) : Prop :=
  ∃ before after, pairs = before ++ p :: after ∧ P p ∧ ∀ q ∈ before, ¬ P q

/-- The last of some pairs that has a property. -/
def IsLast (P : TextPair → Prop) (pairs : List TextPair) (p : TextPair) : Prop :=
  ∃ before after, pairs = before ++ p :: after ∧ P p ∧ ∀ q ∈ after, ¬ P q

section Search

variable {P : TextPair → Prop} [DecidablePred P] {pairs : List TextPair} {p : TextPair}

theorem find?_eq_some_iff : pairs.find? (fun q => P q) = some p ↔ IsFirst P pairs p := by
  simp only [List.find?_eq_some_iff_append, IsFirst, decide_eq_true_eq, Bool.not_eq_true',
    decide_eq_false_iff_not, ← exists_and_left, and_left_comm]

theorem find?_reverse_eq_some_iff :
    pairs.reverse.find? (fun q => P q) = some p ↔ IsLast P pairs p := by
  rw [find?_eq_some_iff]
  constructor
  · rintro ⟨after, before, hsplit, hp, hnone⟩
    refine ⟨before.reverse, after.reverse, ?_, hp, fun q hq => hnone q (List.mem_reverse.1 hq)⟩
    rw [← List.reverse_reverse pairs, hsplit]
    simp
  · rintro ⟨before, after, rfl, hp, hnone⟩
    exact ⟨after.reverse, before.reverse, by simp, hp, fun q hq => hnone q (List.mem_reverse.1 hq)⟩

end Search

theorem isFilled_iff (p : TextPair) : p.isFilled = true ↔ p.Filled := by
  rw [isFilled, Bool.and_eq_true, Bool.not_eq_true', Bool.not_eq_true', Filled, ne_eq, ne_eq,
    ← String.isEmpty_iff, ← String.isEmpty_iff, Bool.not_eq_true, Bool.not_eq_true]

theorem hasBrackets_iff (p : TextPair) :
    p.hasBrackets = true ↔ '[' ∈ p.source.toList ∨ ']' ∈ p.source.toList := by
  simp only [hasBrackets, List.any_eq_true, Bool.or_eq_true, beq_iff_eq, and_or_left, exists_or,
    exists_eq_right]

/-- A pair is refused, or put in, or passed over. -/
theorem addTo_eq (t : Translation) (p : TextPair) :
    p.addTo t =
      if p.Refused then .error (.content p.line p.fault)
      else if p.Filled then .ok (t.insert p.source p.target)
      else .ok t := by
  have hnot : (!p.isFilled) = true ↔ ¬ p.Filled := by
    rw [Bool.not_eq_true', ← isFilled_iff, Bool.not_eq_true]
  rw [addTo]
  simp only [hnot, hasBrackets_iff, Refused]
  by_cases hfilled : p.Filled
  · simp only [hfilled, not_true_eq_false, if_false, true_and, if_true]
  · simp only [hfilled, not_false_eq_true, if_true, false_and, if_false]

/-- The first pair that is refused decides; if there is none, those that are filled are put in
    one after another. -/
theorem foldlM_addTo (pairs : List TextPair) (t : Translation) :
    pairs.foldlM addTo t =
      match pairs.find? fun p => p.Refused with
      | some p => .error (.content p.line p.fault)
      | none =>
        .ok ((pairs.filter fun p => p.Filled).foldl (fun t p => t.insert p.source p.target) t) := by
  induction pairs generalizing t with
  | nil => rfl
  | cons p rest ih =>
      rw [List.foldlM_cons, addTo_eq]
      by_cases hrefused : p.Refused
      -- The error is the outcome, whatever pairs are left.
      · rw [if_pos hrefused, List.find?_cons_of_pos (by simpa using hrefused)]
        rfl
      · rw [if_neg hrefused, List.find?_cons_of_neg (by simpa using hrefused)]
        by_cases hfilled : p.Filled
        · rw [if_pos hfilled, List.filter_cons_of_pos (by simpa using hfilled), List.foldl_cons]
          exact ih _
        · rw [if_neg hfilled, List.filter_cons_of_neg (by simpa using hfilled)]
          exact ih _

end TextPair

/-- The translations that some pairs ask for: the keys are the texts that have a translation,
    and each is translated as in the last pair that has it. -/
structure Translation.IsOf (pairs : List TextPair) (t : Translation) : Prop where
  mem_keys_iff : ∀ key, key ∈ t.keys ↔ ∃ p ∈ pairs, p.Filled ∧ p.source = key
  get?_eq_some_iff : ∀ key value, t.get? key = some value ↔
    ∃ p, TextPair.IsLast (fun p => p.Filled ∧ p.source = key) pairs p ∧ p.target = value

namespace Translation

/-- Pairs ask for one translation of each text. -/
theorem IsOf.unique {pairs : List TextPair} {t t' : Translation} (h : t.IsOf pairs)
    (h' : t'.IsOf pairs) : t = t' := by
  refine Dictionary.ext_get? fun key => Option.ext fun value => ?_
  rw [h.get?_eq_some_iff, h'.get?_eq_some_iff]

/-- Pairs that are put in one after another give the translations that they ask for. -/
theorem isOf_foldl_insert (pairs : List TextPair) :
    IsOf pairs ((pairs.filter fun p => p.Filled).foldl
      (fun t p => t.insert p.source p.target) .empty) := by
  have hboth : ∀ (p : TextPair) (key : String),
      (decide (p.source = key) && decide p.Filled) = decide (p.Filled ∧ p.source = key) := by
    intro p key
    rw [Bool.and_comm, Bool.decide_and]
  have hlookup : ∀ key, ((pairs.filter fun p => p.Filled).foldl
      (fun t p => t.insert p.source p.target) Dictionary.empty).get? key =
        (pairs.reverse.find? fun p => p.Filled ∧ p.source = key).map TextPair.target := by
    intro key
    -- The last pair with this text is the first one from behind.
    rw [Dictionary.get?_foldl_insert, List.filter_filter, List.getLast?_filter]
    simp only [hboth]
    exact Option.or_none
  constructor
  · intro key
    rw [Dictionary.mem_keys_iff, hlookup, Option.isSome_map, List.find?_isSome]
    simp only [List.mem_reverse, decide_eq_true_eq]
  · intro key value
    rw [hlookup, Option.map_eq_some_iff]
    simp only [TextPair.find?_reverse_eq_some_iff]

end Translation

/-- The texts of a form are the label, the hint and the two messages of each row of the survey,
    and then the label of each row of the choices. The form is not translated to a language if
    one of them that has a translation has a square bracket, and the error is at the line of
    the first such text. Otherwise the translations are those that the texts ask for. -/
theorem Form.translation_outcome (form : Form) (language : String) :
    let pairs : List TextPair :=
      (form.survey.flatMap fun r =>
        [⟨r.line, r.label "", r.label language, .bracketsInSurvey⟩,
          ⟨r.line, r.hint "", r.hint language, .bracketsInSurvey⟩,
          ⟨r.line, r.constraintMessage "", r.constraintMessage language, .bracketsInSurvey⟩,
          ⟨r.line, r.requiredMessage "", r.requiredMessage language, .bracketsInSurvey⟩]) ++
      form.choices.map fun r => ⟨r.line, r.label "", r.label language, .bracketsInChoices⟩
    (∀ e, form.translation language = .error e ↔
      ∃ p, TextPair.IsFirst TextPair.Refused pairs p ∧ e = .content p.line p.fault) ∧
    (∀ t, form.translation language = .ok t ↔
      (∀ p ∈ pairs, ¬ p.Refused) ∧ t.IsOf pairs) := by
  intro pairs
  have hpairs : form.textPairs language = pairs := rfl
  rw [translation, TextPair.foldlM_addTo, hpairs]
  simp only [← TextPair.find?_eq_some_iff]
  -- The rest holds for any pairs.
  clear_value pairs
  cases hfind : pairs.find? fun p => p.Refused with
  | some p =>
      constructor
      · intro e
        simp only [Except.error.injEq, Option.some.injEq, exists_eq_left']
        exact eq_comm
      · intro t
        have hp := List.find?_some hfind
        exact iff_of_false (by rintro ⟨⟩) fun h =>
          h.1 p (List.mem_of_find?_eq_some hfind) (of_decide_eq_true hp)
  | none =>
      have hnone : ∀ p ∈ pairs, ¬ p.Refused := by
        simpa only [List.find?_eq_none, decide_eq_true_eq] using hfind
      constructor
      · intro e
        exact iff_of_false (by rintro ⟨⟩) (by rintro ⟨p, ⟨⟩, -⟩)
      · intro t
        rw [and_iff_right hnone, Except.ok.injEq]
        constructor
        · rintro rfl
          exact Translation.isOf_foldl_insert pairs
        · exact fun ht => (Translation.isOf_foldl_insert pairs).unique ht

/-- Where English stands in for the default language, a text in English is its own translation
    to English, and it is the key of every other one. -/
example :
    let row := Row.ofCells 2 [("label::English", "Red"), ("label::Italian (it)", "Rosso")]
    let form : Form := ⟨[], [row], [], .empty, .empty⟩
    form.translation "English" = .ok (.ofList [("Red", "Red")]) ∧
      form.translation "Italian" = .ok (.ofList [("Red", "Rosso")]) := by
  decide +kernel

end Questionnaire
