import Mathlib.Data.List.Perm.Basic
import Questionnaire.Survey.Naming

/-!
# The Rule of the Names

The rule about the names of a survey is about single rows and about pairs of rows: the
end of a group has no name, every other row is called by a name that can be written in a
formula, and two rows share one only if both are shown on a condition. It says nothing of
the order of the rows.

The check goes through the rows once and keeps one flag for a name, that of the last row
with it. The flag speaks for all of these rows, and that is what carries the induction
over the rows: as long as the rule holds, a name that was seen twice has conditions only,
so the last row says what all of them say (`Remembers`). From there one step of the check
is one row held against all before it (`MayFollow`), and the row that the check blames is
the first one behind which the rule does not hold any more.

## Main definitions

* `WellNamed`: The rule.
* `MayFollow`: The rule for one more row.
* `Remembers`: What the check keeps of the rows it has passed.
* `namingFault`: What is said about a row that breaks the rule.
* `IsMisnamed`: The error about the first row behind which the rule is broken.

## Theorems

* `wellNamed_concat_iff`: The rule, row by row.
* `WellNamed.perm`: The order of the rows makes no difference.
* `nameFault_eq`: What one step of the check decides.
* `checkNames_eq_ok_iff`: The check decides the rule.
* `checkNames_outcome`: And it blames the first row behind which the rule is broken.
-/

namespace Questionnaire

namespace Survey

/-! ### The rule -/

/-- Whether two rows do not share a name, or are both shown on a condition. The ends of
    groups have no names to share, and neither has a row without a name. -/
def KeepApart (r s : Row) : Prop :=
  r.kind.isEnd = false → s.kind.isEnd = false → r.name = s.name → r.name ≠ "" →
    r.relevant ≠ "" ∧ s.relevant ≠ ""

/-- Whether the rows of a survey are named as they should be. -/
structure WellNamed (rows : List Row) : Prop where
  /-- The end of a group has no name. -/
  ends : ∀ r ∈ rows, r.kind.isEnd = true → r.name = ""
  /-- Every other row is called by an identifier, but for notes without a name. -/
  identifiers : ∀ r ∈ rows, r.kind.isEnd = false → ¬(r.kind = .question .note ∧ r.name = "") →
    Text.isName r.name = true
  /-- Of any two rows. -/
  apart : rows.Pairwise KeepApart

/-- Whether a row may follow some rows that are named as they should be. -/
structure MayFollow (before : List Row) (r : Row) : Prop where
  ending : r.kind.isEnd = true → r.name = ""
  identifier : r.kind.isEnd = false → ¬(r.kind = .question .note ∧ r.name = "") →
    Text.isName r.name = true
  apart : ∀ s ∈ before, KeepApart s r

variable {before rows : List Row} {r : Row}

theorem KeepApart.symm {s : Row} (h : KeepApart r s) : KeepApart s r := by
  intro hs hr hname hne
  exact (h hr hs hname.symm (hname ▸ hne)).symm

/-- The rule holds behind a row if it held before and the row may follow. -/
theorem wellNamed_concat_iff :
    WellNamed (before ++ [r]) ↔ WellNamed before ∧ MayFollow before r := by
  constructor
  · rintro ⟨hends, hidentifiers, hapart⟩
    rw [List.forall_mem_append] at hends hidentifiers
    rw [List.pairwise_append] at hapart
    rcases hapart with ⟨hbefore, _, hcross⟩
    refine ⟨⟨hends.1, hidentifiers.1, hbefore⟩, ?_, ?_, ?_⟩
    · exact hends.2 r (List.mem_singleton_self r)
    · exact hidentifiers.2 r (List.mem_singleton_self r)
    · exact fun s hs => hcross s hs r (List.mem_singleton_self r)
  · rintro ⟨⟨hends, hidentifiers, hapart⟩, hending, hidentifier, hcross⟩
    refine ⟨?_, ?_, ?_⟩
    · exact List.forall_mem_append.2 ⟨hends, List.forall_mem_singleton.2 hending⟩
    · exact List.forall_mem_append.2 ⟨hidentifiers, List.forall_mem_singleton.2 hidentifier⟩
    · refine List.pairwise_append.2 ⟨hapart, List.pairwise_singleton _ _, ?_⟩
      exact fun s hs => List.forall_mem_singleton.2 (hcross s hs)

/-- Rows that a well named survey begins with are well named. -/
theorem WellNamed.of_append (h : WellNamed (before ++ rows)) : WellNamed before := by
  rcases h with ⟨hends, hidentifiers, hapart⟩
  exact ⟨fun r hr => hends r (List.mem_append_left _ hr),
    fun r hr => hidentifiers r (List.mem_append_left _ hr), (List.pairwise_append.1 hapart).1⟩

/-- The rule does not depend on the order of the rows. -/
theorem WellNamed.perm {other : List Row} (h : WellNamed rows) (hperm : rows.Perm other) :
    WellNamed other := by
  rcases h with ⟨hends, hidentifiers, hapart⟩
  exact ⟨fun r hr => hends r (hperm.mem_iff.2 hr), fun r hr => hidentifiers r (hperm.mem_iff.2 hr),
    (hperm.pairwise_iff KeepApart.symm).1 hapart⟩

/-! ### One step of the check -/

/-- The rows among some with a name that is one of a node. -/
def namesakes (rows : List Row) (name : String) : List Row :=
  rows.filter fun r => !isNameless r && r.name == name

/-- What the check keeps of the rows it has passed: the names among them, and of each name
    whether all rows with it are shown on a condition. -/
def Remembers (seen : Dictionary String Bool) (before : List Row) : Prop :=
  ∀ name, seen.get? name =
    if namesakes before name = [] then none
    else some ((namesakes before name).all isConditional)

/-- What is said about a row that breaks the rule. -/
def namingFault (r : Row) : ContentFault :=
  if r.kind.isEnd then .namedEnd
  else if Text.isName r.name then .repeatedName r.name
  else .invalidName r.name

theorem isConditional_iff : isConditional r = true ↔ r.relevant ≠ "" := by
  rw [isConditional, Bool.not_eq_true', Bool.eq_false_iff, ne_eq, String.isEmpty_iff]

theorem isNameless_iff :
    isNameless r = true ↔ r.kind.isEnd = true ∨ r.kind = .question .note ∧ r.name = "" := by
  rw [isNameless, Bool.or_eq_true, Bool.and_eq_true, beq_iff_eq, String.isEmpty_iff]

theorem ne_empty_of_isName {s : String} (h : Text.isName s = true) : s ≠ "" := by
  rintro rfl
  cases h

/-- The rows that share the name of a row with one, if that is no empty name. -/
theorem mem_namesakes_iff {s : Row} {name : String} (hne : name ≠ "") :
    s ∈ namesakes rows name ↔ s ∈ rows ∧ s.kind.isEnd = false ∧ s.name = name := by
  rw [namesakes, List.mem_filter, Bool.and_eq_true, Bool.not_eq_true', beq_iff_eq,
    Bool.eq_false_iff, ne_eq, isNameless_iff, not_or, Bool.not_eq_true]
  refine and_congr_right fun _ => ⟨?_, ?_⟩
  · rintro ⟨⟨hend, _⟩, hname⟩
    exact ⟨hend, hname⟩
  · rintro ⟨hend, rfl⟩
    exact ⟨⟨hend, fun hnote => hne hnote.2⟩, rfl⟩

/-- Behind a row the rows with its name are one more. -/
theorem namesakes_concat (rows : List Row) (r : Row) (name : String) :
    namesakes (rows ++ [r]) name =
      namesakes rows name ++ if !isNameless r && r.name == name then [r] else [] := by
  rw [namesakes, List.filter_append, List.filter_cons, List.filter_nil]
  rfl

/-- A row with a name is apart from the rows before it if all that share the name have
    conditions, and so has the row if there are any. -/
theorem forall_keepApart_iff (hend : r.kind.isEnd = false) (hne : r.name ≠ "") :
    (∀ s ∈ before, KeepApart s r) ↔
      namesakes before r.name = [] ∨
        ((namesakes before r.name).all isConditional && isConditional r) = true := by
  simp only [Bool.and_eq_true, List.all_eq_true, isConditional_iff]
  constructor
  · intro hapart
    cases hnamesakes : namesakes before r.name with
    | nil => exact Or.inl rfl
    | cons first others =>
        have hboth : ∀ s ∈ first :: others, s.relevant ≠ "" ∧ r.relevant ≠ "" := by
          intro s hs
          rw [← hnamesakes, mem_namesakes_iff hne] at hs
          rcases hs with ⟨hs, hsend, hname⟩
          exact hapart s hs hsend hend hname (hname ▸ hne)
        exact Or.inr ⟨fun s hs => (hboth s hs).1, (hboth first List.mem_cons_self).2⟩
  · intro h s hs hsend _ hname _
    have hmem : s ∈ namesakes before r.name := (mem_namesakes_iff hne).2 ⟨hs, hsend, hname⟩
    rcases h with hnil | ⟨hall, hr⟩
    · rw [hnil] at hmem
      cases hmem
    · exact ⟨hall s hmem, hr⟩

theorem mayFollow_iff_of_isEnd (hend : r.kind.isEnd = true) :
    MayFollow before r ↔ r.name = "" := by
  have hnot : r.kind.isEnd ≠ false := by rw [hend]; exact Bool.noConfusion
  exact ⟨fun h => h.ending hend, fun hname =>
    ⟨fun _ => hname, fun h => absurd h hnot, fun _ _ _ h => absurd h hnot⟩⟩

/-- A note without a name shares it with nobody. -/
theorem mayFollow_of_unnamed (hend : r.kind.isEnd = false)
    (hnote : r.kind = .question .note ∧ r.name = "") : MayFollow before r := by
  refine ⟨fun h => ?_, fun _ hnot => absurd hnote hnot, fun s _ _ _ hname hne => ?_⟩
  · rw [hend] at h
    cases h
  · exact absurd (hname.trans hnote.2) hne

theorem mayFollow_iff_of_named (hnamed : isNameless r = false) :
    MayFollow before r ↔ Text.isName r.name = true ∧
      (namesakes before r.name = [] ∨
        ((namesakes before r.name).all isConditional && isConditional r) = true) := by
  rw [Bool.eq_false_iff, ne_eq, isNameless_iff, not_or, Bool.not_eq_true] at hnamed
  rcases hnamed with ⟨hend, hnote⟩
  constructor
  · intro h
    have hname := h.identifier hend hnote
    exact ⟨hname, (forall_keepApart_iff hend (ne_empty_of_isName hname)).1 h.apart⟩
  · rintro ⟨hname, hnamesakes⟩
    refine ⟨fun h => ?_, fun _ _ => hname,
      (forall_keepApart_iff hend (ne_empty_of_isName hname)).2 hnamesakes⟩
    rw [hend] at h
    cases h

/-- One step of the check holds a row against all rows before it. -/
theorem nameFault_eq {seen : Dictionary String Bool} (h : Remembers seen before) (r : Row) :
    nameFault seen r = none ∧ MayFollow before r ∨
      nameFault seen r = some (namingFault r) ∧ ¬MayFollow before r := by
  rw [nameFault, namingFault]
  cases hend : r.kind.isEnd with
  | true =>
      rw [if_pos rfl, if_pos rfl, mayFollow_iff_of_isEnd hend, ← String.isEmpty_iff]
      cases r.name.isEmpty <;> simp
  | false =>
      rw [if_neg Bool.false_ne_true, if_neg Bool.false_ne_true]
      cases hnamed : isNameless r with
      | true =>
          have hnote := (isNameless_iff.1 hnamed).resolve_left (by simp [hend])
          exact Or.inl ⟨if_pos rfl, mayFollow_of_unnamed hend hnote⟩
      | false =>
          rw [if_neg Bool.false_ne_true, mayFollow_iff_of_named hnamed, h r.name]
          cases Text.isName r.name with
          | false => exact Or.inr ⟨rfl, fun h => Bool.false_ne_true h.1⟩
          | true =>
              rw [Bool.not_true, if_neg Bool.false_ne_true, if_pos rfl]
              by_cases hnone : namesakes before r.name = []
              · exact Or.inl ⟨by rw [if_pos hnone], rfl, Or.inl hnone⟩
              · -- The flag of the name is that of all rows with it.
                rw [if_neg hnone]
                dsimp only
                cases (namesakes before r.name).all isConditional && isConditional r with
                | true => exact Or.inl ⟨rfl, rfl, Or.inr rfl⟩
                | false => exact Or.inr ⟨rfl, fun h => h.2.elim hnone Bool.false_ne_true⟩

/-! ### The check -/

theorem remembers_empty : Remembers .empty [] := by
  intro name
  rfl

/-- A row that may follow is remembered with the rows before it. -/
theorem Remembers.concat {seen : Dictionary String Bool} (h : Remembers seen before)
    (hmay : MayFollow before r) :
    Remembers (if isNameless r then seen else seen.insert r.name (isConditional r))
      (before ++ [r]) := by
  intro name
  rw [namesakes_concat]
  cases hnamed : isNameless r with
  | true =>
      rw [if_pos rfl, h name, Bool.not_true, Bool.false_and, if_neg Bool.false_ne_true,
        List.append_nil]
  | false =>
      rw [if_neg Bool.false_ne_true, Dictionary.get?_insert, Bool.not_false, Bool.true_and]
      by_cases hname : name = r.name
      · subst hname
        have hcons : namesakes before r.name ++ [r] ≠ [] :=
          List.append_ne_nil_of_right_ne_nil _ (List.cons_ne_nil _ _)
        rw [if_pos Std.ReflCmp.compare_self, if_pos (beq_self_eq_true _), if_neg hcons,
          List.all_append, List.all_cons, List.all_nil, Bool.and_true]
        -- If the name was there before, all rows with it have conditions, and so has this one.
        rcases ((mayFollow_iff_of_named hnamed).1 hmay).2 with hnil | hall
        · rw [hnil, List.all_nil, Bool.true_and]
        · rw [hall, (Bool.and_eq_true_iff.1 hall).2]
      · have hcompare : compare name r.name ≠ .eq := fun heq =>
          hname (Std.LawfulEqCmp.eq_of_compare heq)
        rw [if_neg hcompare, h name, if_neg (fun heq => hname (beq_iff_eq.1 heq).symm),
          List.append_nil]

/-- The error about a survey whose rows are not well named. It has the line of the first row
    that breaks the rule together with the rows before it. -/
def IsMisnamed (survey : List Row) (e : ConversionError) : Prop :=
  ∃ before r after, survey = before ++ r :: after ∧ WellNamed before ∧
    ¬WellNamed (before ++ [r]) ∧ e = .content r.line (namingFault r)

/-- What the check says of the rows behind some that are well named. -/
theorem judged_checkNamesFrom {seen : Dictionary String Bool} (hbefore : WellNamed before)
    (hseen : Remembers seen before) (rows : List Row) :
    match checkNamesFrom seen rows with
    | .ok () => WellNamed (before ++ rows)
    | .error e => IsMisnamed (before ++ rows) e := by
  induction rows generalizing before seen with
  | nil =>
      rw [List.append_nil]
      exact hbefore
  | cons r rest ih =>
      rw [checkNamesFrom]
      rcases nameFault_eq hseen r with ⟨hfault, hmay⟩ | ⟨hfault, hnot⟩
      · rw [hfault]
        have hrest := ih (wellNamed_concat_iff.2 ⟨hbefore, hmay⟩) (hseen.concat hmay)
        rwa [List.append_assoc] at hrest
      · rw [hfault]
        exact ⟨before, r, rest, rfl, hbefore, fun h => hnot (wellNamed_concat_iff.1 h).2, rfl⟩

theorem IsMisnamed.not_wellNamed {survey : List Row} {e : ConversionError}
    (h : IsMisnamed survey e) : ¬WellNamed survey := by
  rcases h with ⟨before, r, after, rfl, _, hbroken, _⟩
  intro hsurvey
  rw [List.append_cons] at hsurvey
  exact hbroken hsurvey.of_append

theorem judged_checkNames (survey : List Row) :
    match checkNames survey with
    | .ok () => WellNamed survey
    | .error e => IsMisnamed survey e := by
  have hnothing : WellNamed [] := ⟨List.forall_mem_nil _, List.forall_mem_nil _, .nil⟩
  exact judged_checkNamesFrom hnothing remembers_empty survey

/-- The check of the names decides the rule. -/
theorem checkNames_eq_ok_iff {survey : List Row} :
    checkNames survey = .ok () ↔ WellNamed survey := by
  have hjudged := judged_checkNames survey
  cases hcheck : checkNames survey with
  | ok _ =>
      rw [hcheck] at hjudged
      exact iff_of_true rfl hjudged
  | error e =>
      rw [hcheck] at hjudged
      exact iff_of_false (by rintro ⟨⟩) hjudged.not_wellNamed

/-- The check of the names accepts a survey if and only if its rows are well named, in
    whatever order they come; and otherwise it blames the first row that breaks the rule
    together with the rows before it. -/
theorem checkNames_outcome (survey : List Row) :
    (checkNames survey = .ok () ↔ WellNamed survey) ∧
      (∀ other : List Row, survey.Perm other →
        (checkNames other = .ok () ↔ checkNames survey = .ok ())) ∧
      ∀ e, checkNames survey = .error e → IsMisnamed survey e := by
  refine ⟨checkNames_eq_ok_iff, fun other hperm => ?_, fun e hcheck => ?_⟩
  · rw [checkNames_eq_ok_iff, checkNames_eq_ok_iff]
    exact ⟨fun h => h.perm hperm.symm, fun h => h.perm hperm⟩
  · have hjudged := judged_checkNames survey
    rwa [hcheck] at hjudged

end Survey

end Questionnaire
