import Questionnaire.Proofs.Survey.Stretches

/-!
# The Grammar of a Survey

Which surveys pass the check of the marks, and what is said about the others. A
survey is a sequence of items: rows that are no marks, and groups with a sequence
of items between their marks. Groups may be repeated on the outermost level only,
so the grammar has two sequences, one with repeated groups and one without.

The check is a machine with a stack, and the stack is all it knows of the rows
before. `Opens` says which rows lead to which stack. From there everything is said
about the rows that are still to come: they can always be chosen so that the open
groups are closed (`Opens.startsNested`), and what the check does with them depends
on the stack alone (`Opens.checkBalanceFrom_append`). So where the check refuses a
row, the rows before it are the beginning of a survey and those up to it are not.
That is how the blame is stated: without the stack, by what a survey could still
have been.

## Main definitions

* `Nested`: Sequences of items, with or without repeated groups.
* `StartsNested`: Rows that some survey begins with.
* `Opens`: Rows behind which some groups are open.
* `IsBlamed`: The error about a survey that is no sequence of items.

## Theorems

* `Nested.checkBalanceFrom_append`: The check passes over a sequence of items.
* `Opens.startsNested`: Open groups can be closed.
* `Opens.not_startsNested`: Rows that the check refuses begin no survey.
* `judged_checkBalanceFrom`: What the check says from a stack on.
* `judged_checkBalance`: The check accepts sequences of items, and blames the first row
  that no such sequence goes on with.
-/

namespace Questionnaire

namespace Survey

/-! ### Sequences of items -/

/-- A sequence of items: rows that are no marks, and groups with a sequence of items between
    their marks. Groups are repeated on the outermost level at most. -/
inductive Nested : (outermost : Bool) → List Row → Prop
  | nil {outermost : Bool} : Nested outermost []
  | row {outermost : Bool} {r : Row} {rest : List Row} (hplain : IsPlain r)
      (hrest : Nested outermost rest) : Nested outermost (r :: rest)
  | block {outermost : Bool} {opening closing : Row} {inner rest : List Row}
      (hcloses : closing.kind.closes opening.kind = true)
      (hrepeat : opening.kind = .beginRepeat → outermost = true) (hinner : Nested false inner)
      (hrest : Nested outermost rest) : Nested outermost (opening :: (inner ++ closing :: rest))

/-- Rows that some survey begins with. -/
def StartsNested (rows : List Row) : Prop :=
  ∃ more, Nested true (rows ++ more)

variable {outermost : Bool} {before opened rows : List Row}

theorem Nested.append {rest : List Row} (h : Nested outermost rows)
    (hrest : Nested outermost rest) : Nested outermost (rows ++ rest) := by
  induction h with
  | nil => exact hrest
  | row hplain _ ih => exact .row hplain (ih hrest)
  | block hcloses hrepeat hinner _ _ ih =>
      rw [List.cons_append, List.append_assoc]
      exact .block hcloses hrepeat hinner (ih hrest)

/-- The check passes over a sequence of items, with the stack as it was. Repeated groups
    are passed where no group is open. -/
theorem Nested.checkBalanceFrom_append (h : Nested outermost rows)
    (hopened : outermost = true → opened = []) (rest : List Row) :
    checkBalanceFrom opened (rows ++ rest) = checkBalanceFrom opened rest := by
  induction h generalizing opened rest with
  | nil => rfl
  | row hplain _ ih =>
      rw [List.cons_append, checkBalanceFrom_plain hplain.1 hplain.2, ih hopened]
  | @block outermost opening closing inner after hcloses hrepeat _ _ ihInner ihAfter =>
      -- A group that is repeated is on the outermost level, where no group is open.
      have hoffer : ¬ (decide (opening.kind = .beginRepeat) && !opened.isEmpty) = true := by
        rw [Bool.and_eq_true, decide_eq_true_iff]
        rintro ⟨hkind, hopen⟩
        rw [hopened (hrepeat hkind)] at hopen
        cases hopen
      rw [List.cons_append, List.append_assoc,
        checkBalanceFrom_begin (RowKind.isBegin_of_closes hcloses), if_neg hoffer,
        ihInner (fun h => by cases h), List.cons_append, checkBalanceFrom_closes hcloses,
        ihAfter hopened]

theorem Nested.checkBalance_eq_ok (h : Nested true rows) : checkBalance rows = .ok () := by
  have hpassed : checkBalanceFrom [] (rows ++ []) = .ok () :=
    h.checkBalanceFrom_append (fun _ => rfl) []
  rwa [List.append_nil] at hpassed

/-! ### Rows behind which groups are open -/

/-- Rows behind which some groups are open, innermost first. A repeated group is the
    outermost of them. -/
inductive Opens : (rows opened : List Row) → Prop
  | nil {rows : List Row} (h : Nested true rows) : Opens rows []
  | cons {before outer inner : List Row} {innermost : Row} (hbefore : Opens before outer)
      (hbegin : innermost.kind.isBegin = true)
      (hrepeat : innermost.kind = .beginRepeat → outer = []) (hinner : Nested false inner) :
      Opens (before ++ innermost :: inner) (innermost :: outer)

namespace Opens

/-- Items behind such rows change nothing. Where a group is open none is repeated. -/
theorem append (h : Opens before opened) (hrows : Nested opened.isEmpty rows) :
    Opens (before ++ rows) opened := by
  cases h with
  | nil h => exact .nil (h.append hrows)
  | cons hbefore hbegin hrepeat hinner =>
      rw [List.append_assoc, List.cons_append]
      exact .cons hbefore hbegin hrepeat (hinner.append hrows)

/-- A mark that opens a group. -/
theorem concat_begin (h : Opens before opened) {r : Row} (hbegin : r.kind.isBegin = true)
    (hrepeat : r.kind = .beginRepeat → opened = []) : Opens (before ++ [r]) (r :: opened) :=
  .cons h hbegin hrepeat .nil

/-- A mark that closes the innermost group: that is an item now, inside the next one. -/
theorem concat_end {innermost : Row} {outer : List Row} (h : Opens before (innermost :: outer))
    {r : Row} (hcloses : r.kind.closes innermost.kind = true) : Opens (before ++ [r]) outer := by
  cases h with
  | @cons front _ inner _ hfront _ hrepeat hinner =>
      have hblock : Nested outer.isEmpty (innermost :: (inner ++ [r])) :=
        .block hcloses (fun hkind => by rw [hrepeat hkind]; rfl) hinner .nil
      have hwhole := hfront.append hblock
      rwa [List.append_assoc, List.cons_append]

/-- What the check does behind such rows depends on the open groups alone. -/
theorem checkBalanceFrom_append (h : Opens before opened) (rest : List Row) :
    checkBalanceFrom [] (before ++ rest) = checkBalanceFrom opened rest := by
  induction h generalizing rest with
  | nil h => exact h.checkBalanceFrom_append (fun _ => rfl) rest
  | @cons front outer inner innermost _ hbegin hrepeat hinner ih =>
      have hoffer : ¬ (decide (innermost.kind = .beginRepeat) && !outer.isEmpty) = true := by
        rw [Bool.and_eq_true, decide_eq_true_iff]
        rintro ⟨hkind, hopen⟩
        rw [hrepeat hkind] at hopen
        cases hopen
      rw [List.append_assoc, ih, List.cons_append, checkBalanceFrom_begin hbegin, if_neg hoffer,
        hinner.checkBalanceFrom_append (fun h => by cases h)]

/-- There is a row that closes a group. -/
theorem exists_closing {opening : Row} (h : opening.kind.isBegin = true) :
    ∃ closing : Row, closing.kind.closes opening.kind = true := by
  cases hkind : opening.kind with
  | beginGroup => exact ⟨endMark, rfl⟩
  | beginRepeat => exact ⟨.ofCells 0 [("type", "end repeat")], rfl⟩
  | _ =>
      rw [hkind] at h
      cases h

/-- Open groups can be closed one by one, with more items in the innermost. -/
theorem exists_nested (h : Opens before opened) (hrows : Nested opened.isEmpty rows) :
    ∃ more, Nested true (before ++ (rows ++ more)) := by
  induction h generalizing rows with
  | nil h => exact ⟨[], by rw [List.append_nil]; exact h.append hrows⟩
  | @cons front outer inner innermost _ hbegin hrepeat hinner ih =>
      rcases exists_closing hbegin with ⟨closing, hcloses⟩
      -- With the mark that closes it the group is an item inside the next one.
      have hblock : Nested outer.isEmpty (innermost :: (inner ++ rows ++ [closing])) :=
        .block hcloses (fun hkind => by rw [hrepeat hkind]; rfl) (hinner.append hrows) .nil
      rcases ih hblock with ⟨more, hmore⟩
      refine ⟨closing :: more, ?_⟩
      simpa only [List.append_assoc, List.cons_append, List.nil_append] using hmore

theorem startsNested (h : Opens before opened) : StartsNested before :=
  h.exists_nested .nil

/-- Rows that the check refuses with a last one begin no survey. -/
theorem not_startsNested (h : Opens before opened) {r : Row}
    (hrefused : ∀ rest, checkBalanceFrom opened (r :: rest) ≠ .ok ()) :
    ¬ StartsNested (before ++ [r]) := by
  rintro ⟨more, hmore⟩
  have hok := hmore.checkBalance_eq_ok
  rw [checkBalance, List.append_assoc, h.checkBalanceFrom_append] at hok
  exact hrefused more hok

end Opens

/-! ### What the check says -/

/-- The error about a survey that is no sequence of items. It is about the first row up to
    which the rows begin no survey; or, if there is none, about the innermost group that is
    open at the end. -/
def IsBlamed (survey : List Row) (e : ConversionError) : Prop :=
  (∃ front r rest fault, survey = front ++ r :: rest ∧ StartsNested front ∧
      ¬ StartsNested (front ++ [r]) ∧ e = .nesting r.line fault ∧
      (r.kind = .beginRepeat ∧ fault.message = "Repeats can't be nested." ∨
        r.kind.isEnd = true ∧ fault.message = "Unexpected end of group/repeat.")) ∨
    (StartsNested survey ∧ ∃ front r rest fault, survey = front ++ r :: rest ∧
      r.kind.isBegin = true ∧ Nested false rest ∧ e = .nesting r.line fault ∧
      fault.message = "Unclosed group/repeat.")

/-- What is said about a survey: that it is a sequence of items, or whom to blame. -/
def IsJudged (survey : List Row) : Except ConversionError Unit → Prop
  | .ok () => Nested true survey
  | .error e => IsBlamed survey e

/-- What the check says of the rows behind some others, by the groups that those have left
    open. The induction is on the check, so there is a case for each kind of row. -/
theorem judged_checkBalanceFrom (h : Opens before opened) :
    IsJudged (before ++ rows) (checkBalanceFrom opened rows) := by
  fun_induction checkBalanceFrom opened rows generalizing before with
  | case1 =>
      cases h with
      | nil h =>
          rw [List.append_nil]
          exact h
  | case2 innermost outer =>
      rw [List.append_nil]
      refine Or.inr ⟨h.startsNested, ?_⟩
      cases h with
      | cons _ hbegin _ hinner => exact ⟨_, _, _, _, rfl, hbegin, hinner, rfl, rfl⟩
  | case3 opened r rest hoffer =>
      have hkind : r.kind = .beginRepeat := by
        rw [Bool.and_eq_true, decide_eq_true_iff] at hoffer
        exact hoffer.1
      refine Or.inl ⟨before, r, rest, _, rfl, h.startsNested, h.not_startsNested ?_, rfl,
        Or.inl ⟨hkind, rfl⟩⟩
      intro more hok
      rw [checkBalanceFrom.eq_def] at hok
      simp only [hoffer, if_true, reduceCtorEq] at hok
  | case4 opened r rest hoffer hbegin ih =>
      have hopened : r.kind = .beginRepeat → opened = [] := by
        intro hkind
        simpa only [hkind, decide_true, Bool.true_and, Bool.not_eq_true', Bool.not_eq_false,
          List.isEmpty_iff] using hoffer
      have hrest := ih (h.concat_begin hbegin hopened)
      rwa [List.append_assoc] at hrest
  | case5 r rest _ _ innermost outer hcloses _ ih =>
      have hrest := ih (h.concat_end hcloses)
      rwa [List.append_assoc] at hrest
  -- A mark that closes another kind of group than the innermost one.
  | case6 r rest hbegin hend innermost outer hcloses hoffer =>
      refine Or.inl ⟨before, r, rest, _, rfl, h.startsNested, h.not_startsNested ?_, rfl,
        Or.inr ⟨hend, rfl⟩⟩
      intro more hok
      rw [checkBalanceFrom.eq_def] at hok
      simp only [hoffer, hbegin, hend, hcloses, if_true, if_false, reduceCtorEq] at hok
  -- A mark that closes a group where none is open.
  | case7 r rest hbegin hend hoffer =>
      refine Or.inl ⟨before, r, rest, _, rfl, h.startsNested, h.not_startsNested ?_, rfl,
        Or.inr ⟨hend, rfl⟩⟩
      intro more hok
      rw [checkBalanceFrom.eq_def] at hok
      simp only [hoffer, hbegin, hend, if_true, if_false, reduceCtorEq] at hok
  | case8 opened r rest _ hbegin hend ih =>
      have hplain : IsPlain r := ⟨Bool.eq_false_iff.2 hbegin, Bool.eq_false_iff.2 hend⟩
      have hrest := ih (h.append (.row hplain .nil))
      rwa [List.append_assoc] at hrest

/-- The check accepts sequences of items, and blames the first row that no such sequence
    goes on with. -/
theorem judged_checkBalance (survey : List Row) : IsJudged survey (checkBalance survey) := by
  have hstart : Opens [] [] := .nil .nil
  exact judged_checkBalanceFrom hstart

theorem checkBalance_eq_ok_iff {survey : List Row} :
    checkBalance survey = .ok () ↔ Nested true survey := by
  refine ⟨fun h => ?_, Nested.checkBalance_eq_ok⟩
  have hjudged := judged_checkBalance survey
  rwa [h] at hjudged

end Survey

end Questionnaire
