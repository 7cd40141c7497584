import Questionnaire.Proofs.Survey.Stretches
import Questionnaire.Survey.Naming
import Questionnaire.Survey.Typing

/-!
# Data about the Interview

Rows of data about the interview make no node, and wherever they stand the survey means
the same without them. Each pass over a survey comes to the same end if such rows are
left out first, which is one induction for each pass: none of them is a mark, so the
check of the groups passes over them; and none of them opens a stretch or ends one, so
the slides are put in around the same rows.

Names are another matter. A name may be used once, by data about the interview too, so
the check of the names can be passed only with names that are new. Two surveys are
compared, then, of which one has more rows than the other: after the rows that they
share, the check knows the same names but for those of the further rows.

## Main definitions

* `Interleaved`: A survey with more rows put in at any places.
* `isKept`: Whether a row is no data about the interview.

## Theorems

* `Interleaved.filter_isKept`: Without the data about the interview the two are the same.
* `checkTypes_filter`, `checkBalanceFrom_filter`: The checks pass over such rows.
* `filter_wrapLooseFrom`: They are carried along by the wrapper.
* `Interleaved.checkNamesFrom`: With new names they pass the check of the names.
-/

namespace Questionnaire

namespace Survey

/-- Rows of a survey with more rows put in, at any places and in their order. -/
inductive Interleaved : (added rows all : List Row) → Prop
  | nil : Interleaved [] [] []
  | added {r : Row} {added rows all : List Row} (h : Interleaved added rows all) :
      Interleaved (r :: added) rows (r :: all)
  | kept {r : Row} {added rows all : List Row} (h : Interleaved added rows all) :
      Interleaved added (r :: rows) (r :: all)

/-- Whether a row is no data about the interview. -/
def isKept (r : Row) : Bool :=
  r.kind != .metadata

theorem isKept_eq_false {r : Row} : isKept r = false ↔ r.kind = .metadata := by
  rw [isKept, bne_eq_false_iff_eq]

theorem isKept_of_ne {r : Row} {k : RowKind} (h : r.kind = k) (hk : k ≠ .metadata) :
    isKept r = true := by
  rw [isKept, h, bne_iff_ne]
  exact hk

theorem isKept_of_isBegin {r : Row} (h : r.kind.isBegin = true) : isKept r = true := by
  rw [isKept, bne_iff_ne]
  intro hkind
  rw [hkind] at h
  cases h

theorem isKept_of_isEnd {r : Row} (h : r.kind.isEnd = true) : isKept r = true := by
  rw [isKept, bne_iff_ne]
  intro hkind
  rw [hkind] at h
  cases h

/-- What has been put in is left out again. -/
theorem Interleaved.filter_isKept {added rows all : List Row} (h : Interleaved added rows all)
    (hadded : ∀ r ∈ added, r.kind = .metadata) : all.filter isKept = rows.filter isKept := by
  induction h with
  | nil => rfl
  | added _ ih =>
      rw [List.forall_mem_cons] at hadded
      rw [List.filter_cons_of_neg (Bool.eq_false_iff.1 (isKept_eq_false.2 hadded.1))]
      exact ih hadded.2
  | @kept r _ _ _ _ ih =>
      rw [List.filter_cons, List.filter_cons, ih hadded]

/-! ### Passes over a survey -/

theorem checkTypes_filter (rows : List Row) :
    checkTypes (rows.filter isKept) = checkTypes rows := by
  induction rows with
  | nil => rfl
  | cons r rest ih =>
      cases hkept : isKept r with
      | true => rw [List.filter_cons_of_pos hkept, checkTypes, checkTypes, ih]
      | false =>
          have hfault : r.kind.fault r.type = none := by
            rw [isKept_eq_false.1 hkept]
            rfl
          rw [List.filter_cons_of_neg (Bool.eq_false_iff.1 hkept), checkTypes, hfault, ih]

theorem checkBalanceFrom_filter (opened rows : List Row) :
    checkBalanceFrom opened (rows.filter isKept) = checkBalanceFrom opened rows := by
  induction rows generalizing opened with
  | nil => rfl
  | cons r rest ih =>
      cases hkept : isKept r with
      | true =>
          rw [List.filter_cons_of_pos hkept, checkBalanceFrom.eq_def,
            checkBalanceFrom.eq_def opened (r :: rest)]
          -- Whatever the row does to the open groups, the rows after it are the same.
          simp only [ih]
      | false =>
          have hkind := isKept_eq_false.1 hkept
          rw [List.filter_cons_of_neg (Bool.eq_false_iff.1 hkept), ih,
            checkBalanceFrom_plain (by rw [hkind]; rfl) (by rw [hkind]; rfl)]

theorem isKept_slideMark (n : Nat) : isKept (slideMark n) = true :=
  isKept_of_ne (kind_slideMark n) (by decide)

theorem isKept_endMark : isKept endMark = true :=
  isKept_of_ne kind_endMark (by decide)

/-- Data about the interview neither opens a stretch nor ends one. -/
theorem filter_wrapLooseFrom (depth slides : Nat) (inStretch : Bool) (rows : List Row) :
    (wrapLooseFrom depth slides inStretch rows).filter isKept =
      wrapLooseFrom depth slides inStretch (rows.filter isKept) := by
  have hend : ∀ b : Bool, (if b then [endMark] else []).filter isKept =
      if b then [endMark] else [] := by
    intro b
    cases b <;> simp [isKept_endMark]
  induction rows generalizing depth slides inStretch with
  | nil => exact hend inStretch
  | cons r rest ih =>
      cases hkept : isKept r with
      | true =>
          rw [List.filter_cons_of_pos hkept, wrapLooseFrom, wrapLooseFrom]
          split
          · rw [List.filter_append, List.filter_cons_of_pos hkept, hend, ih]
          · split
            · rw [List.filter_cons_of_pos hkept, ih]
            · split
              · rw [List.filter_cons_of_pos (isKept_slideMark slides),
                  List.filter_cons_of_pos hkept, ih]
              · rw [List.filter_cons_of_pos hkept, ih]
      | false =>
          have hdropped := Bool.eq_false_iff.1 hkept
          have hkind := isKept_eq_false.1 hkept
          have hplain : wrapLooseFrom depth slides inStretch (r :: rest) =
              r :: wrapLooseFrom depth slides inStretch rest := by
            rw [wrapLooseFrom, hkind]
            simp [RowKind.isBegin, RowKind.isEnd]
          rw [hplain, List.filter_cons_of_neg hdropped, List.filter_cons_of_neg hdropped, ih]

theorem Balanced.filter_isKept {rows : List Row} (h : Balanced rows) :
    Balanced (rows.filter isKept) := by
  induction h with
  | nil => exact .nil
  | @row r rest hbegin hend _ ih =>
      rw [List.filter_cons]
      split
      · exact .row hbegin hend ih
      · exact ih
  | @block opening closing inner rest hcloses _ _ ihInner ihRest =>
      rw [List.filter_cons_of_pos (isKept_of_isBegin (RowKind.isBegin_of_closes hcloses)),
        List.filter_append,
        List.filter_cons_of_pos (isKept_of_isEnd (RowKind.isEnd_of_closes hcloses))]
      exact .block hcloses ihInner ihRest

/-! ### Names -/

/-- A name that is new has no fault on a row of data about the interview. -/
theorem nameFault_metadata {seen : Dictionary String Bool} {r : Row} (hkind : r.kind = .metadata)
    (hname : Text.isName r.name = true) (hnew : seen.get? r.name = none) :
    nameFault seen r = none := by
  simp [nameFault, isNameless, hkind, hname, hnew, RowKind.isEnd]

/-- What is wrong with the name of a row depends on what is known of that name only. -/
theorem nameFault_congr {seen seen' : Dictionary String Bool} {r : Row}
    (h : seen'.get? r.name = seen.get? r.name) : nameFault seen' r = nameFault seen r := by
  rw [nameFault, nameFault, h]

/-- What the check knows after one more row, of a name. -/
theorem get?_insert_name (seen : Dictionary String Bool) (name other : String) (b : Bool) :
    (seen.insert name b).get? other = if other = name then some b else seen.get? other := by
  simp only [Dictionary.get?_insert, Std.LawfulEqCmp.compare_eq_iff_eq]

/-- Further rows of data about the interview pass the check of the names, if their names are
    new. Before them the check may know more names already, but none of the rows to come. -/
theorem Interleaved.checkNamesFrom {added rows all : List Row} (h : Interleaved added rows all)
    (hadded : ∀ r ∈ added, r.kind = .metadata ∧ Text.isName r.name = true)
    (hdistinct : (added.map Row.name).Nodup)
    (hothers : ∀ r ∈ added, ∀ r' ∈ rows, r'.name ≠ r.name)
    {seen seen' : Dictionary String Bool} (hnew : ∀ r ∈ added, seen'.get? r.name = none)
    (hseen : ∀ r ∈ rows, seen'.get? r.name = seen.get? r.name) :
    Survey.checkNamesFrom seen' all = Survey.checkNamesFrom seen rows := by
  induction h generalizing seen seen' with
  | nil => rfl
  | @added r added rows all _ ih =>
      rw [List.forall_mem_cons] at hadded hothers hnew
      rw [List.map_cons, List.nodup_cons] at hdistinct
      have hnamed : isNameless r = false := by
        simp [isNameless, hadded.1.1, RowKind.isEnd]
      rw [Survey.checkNamesFrom, nameFault_metadata hadded.1.1 hadded.1.2 hnew.1, hnamed,
        if_neg Bool.false_ne_true]
      refine ih hadded.2 hdistinct.2 hothers.2 ?_ ?_
      · intro r' hr'
        have hne : r'.name ≠ r.name := fun heq => hdistinct.1 (heq ▸ List.mem_map_of_mem hr')
        rw [get?_insert_name, if_neg hne]
        exact hnew.2 r' hr'
      · intro r' hr'
        rw [get?_insert_name, if_neg (hothers.1 r' hr')]
        exact hseen r' hr'
  | @kept r added rows all _ ih =>
      rw [List.forall_mem_cons] at hseen
      have hname : ∀ a ∈ added, a.name ≠ r.name := fun a ha heq =>
        hothers a ha r List.mem_cons_self heq.symm
      rw [Survey.checkNamesFrom, Survey.checkNamesFrom, nameFault_congr hseen.1]
      split
      · rfl
      · refine ih hadded hdistinct (fun a ha r' hr' => hothers a ha r' (List.mem_cons_of_mem _ hr'))
          ?_ ?_
        · intro a ha
          split
          · exact hnew a ha
          · rw [get?_insert_name, if_neg (hname a ha)]
            exact hnew a ha
        · intro r' hr'
          -- The row makes the same name known to both checks, if it has one.
          split
          · exact hseen.2 r' hr'
          · rw [get?_insert_name, get?_insert_name, hseen.2 r' hr']

theorem Interleaved.checkNames {added rows all : List Row} (h : Interleaved added rows all)
    (hadded : ∀ r ∈ added, r.kind = .metadata ∧ Text.isName r.name = true)
    (hdistinct : (added.map Row.name).Nodup)
    (hothers : ∀ r ∈ added, ∀ r' ∈ rows, r'.name ≠ r.name) :
    Survey.checkNames all = Survey.checkNames rows :=
  h.checkNamesFrom hadded hdistinct hothers (fun _ _ => rfl) fun _ _ => rfl

end Survey

end Questionnaire
