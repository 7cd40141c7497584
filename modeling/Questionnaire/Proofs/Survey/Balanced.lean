import Questionnaire.Survey.Balance
import Questionnaire.Survey.Outline

/-!
# Balanced Rows

What the check of the marks buys for the passes after it. The check walks over
the rows with a stack of open groups; the passes after it look for the end of a
group by counting, without a stack and without the kinds of the marks. What they
share is the grammar of balanced rows, so every fact about a pass is proved by
induction on a derivation in that grammar and not on the rows.

A derivation takes rows from the front: a row that is no mark, or a whole group
with its two marks. `Closes` generalizes it to the middle of a survey, where some
groups are open already: balanced rows, the mark that closes the innermost of
them, and so on outwards. That is the invariant of the check.

The counting scan does not notice balanced rows: whatever it looks for behind
them, it finds with them in front. So it stops at the very mark that the stack
would have popped, and the outline of balanced rows is read off their
derivation.

## Main definitions

* `Balanced`: Rows whose marks match.
* `Closes`: Rows that close some groups and are balanced otherwise.

## Theorems

* `Closes.prepend`: Balanced rows can be put in front.
* `closes_of_checkBalanceFrom`: What is left of a survey that passes the check.
* `balanced_of_checkBalance`: A survey that passes the check is balanced.
* `checkBalanceFrom_append`: The check passes over balanced rows, and inside a group no
  group is repeated.
* `splitBlock_append`: The scan for the end of a group passes over balanced rows.
* `takeBlock_block`: The block that a group is.
* `Item.ofRows_append_end`: The mark that ends a group adds nothing to its items.
* `Item.ofRows_block`: The items of rows that begin with a group.
-/

namespace Questionnaire

namespace RowKind

theorem isBegin_of_closes {closing opening : RowKind} (h : closing.closes opening = true) :
    opening.isBegin = true := by
  cases opening with
  | beginGroup => rfl
  | beginRepeat => rfl
  | _ => cases closing <;> cases h

theorem isEnd_of_closes {closing opening : RowKind} (h : closing.closes opening = true) :
    closing.isEnd = true := by
  cases closing with
  | endGroup => rfl
  | endRepeat => rfl
  | _ => cases opening <;> cases h

theorem not_isBegin_of_closes {closing opening : RowKind} (h : closing.closes opening = true) :
    closing.isBegin = false := by
  cases closing with
  | endGroup => rfl
  | endRepeat => rfl
  | _ => cases opening <;> cases h

theorem ne_beginRepeat {k : RowKind} (h : k.isBegin = false) : k ≠ .beginRepeat := by
  rintro rfl
  cases h

end RowKind

namespace Survey

/-- Rows whose marks match: every group is closed by a mark of its kind, and every
    closing mark closes one. -/
inductive Balanced : List Row → Prop
  | nil : Balanced []
  | row {r : Row} {rest : List Row} (hbegin : r.kind.isBegin = false)
      (hend : r.kind.isEnd = false) (hrest : Balanced rest) : Balanced (r :: rest)
  | block {opening closing : Row} {inner rest : List Row}
      (hcloses : closing.kind.closes opening.kind = true) (hinner : Balanced inner)
      (hrest : Balanced rest) : Balanced (opening :: (inner ++ closing :: rest))

namespace Balanced

theorem append {rows rest : List Row} (h : Balanced rows) (hrest : Balanced rest) :
    Balanced (rows ++ rest) := by
  induction h with
  | nil => exact hrest
  | row hbegin hend _ ih => exact row hbegin hend ih
  | @block opening closing inner after hcloses hinner _ _ ih =>
      rw [List.cons_append, List.append_assoc]
      exact block hcloses hinner ih

theorem group {opening closing : Row} {inner : List Row}
    (hcloses : closing.kind.closes opening.kind = true) (hinner : Balanced inner) :
    Balanced (opening :: (inner ++ [closing])) :=
  block hcloses hinner nil

end Balanced

/-- Rows that close the open groups, innermost first, and are balanced apart from
    that. -/
inductive Closes : (opened rows : List Row) → Prop
  | nil {rows : List Row} (h : Balanced rows) : Closes [] rows
  | cons {innermost closing : Row} {outer inner rest : List Row} (hinner : Balanced inner)
      (hcloses : closing.kind.closes innermost.kind = true) (hrest : Closes outer rest) :
      Closes (innermost :: outer) (inner ++ closing :: rest)

theorem Closes.prepend {opened before rows : List Row} (hbefore : Balanced before)
    (h : Closes opened rows) : Closes opened (before ++ rows) := by
  cases h with
  | nil h => exact .nil (hbefore.append h)
  | cons hinner hcloses hrest =>
      rw [← List.append_assoc]
      exact .cons (hbefore.append hinner) hcloses hrest

/-- The invariant of the check: the rows it has yet to see close the groups on its
    stack. -/
theorem closes_of_checkBalanceFrom {opened rows : List Row}
    (h : checkBalanceFrom opened rows = .ok ()) : Closes opened rows := by
  fun_induction checkBalanceFrom opened rows with
  | case1 => exact .nil .nil
  | case4 opened r rest _ _ ih =>
      -- The group is closed further on, so it stands whole in front of what follows.
      cases ih h with
      | cons hinner hcloses hrest =>
          have hwhole := hrest.prepend (.group hcloses hinner)
          rwa [List.cons_append, List.append_assoc] at hwhole
  -- The mark closes the innermost group, with nothing left in it.
  | case5 r rest _ _ innermost outer hcloses _ ih => exact .cons .nil hcloses (ih h)
  | case8 opened r rest _ hbegin hend ih =>
      have hrow : Balanced [r] :=
        .row (Bool.eq_false_iff.2 hbegin) (Bool.eq_false_iff.2 hend) .nil
      exact (ih h).prepend hrow
  | _ => cases h

theorem balanced_of_checkBalance {survey : List Row} (h : checkBalance survey = .ok ()) :
    Balanced survey := by
  cases closes_of_checkBalanceFrom h with
  | nil h => exact h

/-! The check, by what the first row is. -/

theorem checkBalanceFrom_plain {r : Row} (hbegin : r.kind.isBegin = false)
    (hend : r.kind.isEnd = false) (opened rest : List Row) :
    checkBalanceFrom opened (r :: rest) = checkBalanceFrom opened rest := by
  have hkind := RowKind.ne_beginRepeat hbegin
  rw [checkBalanceFrom.eq_def]
  simp only [hkind, hbegin, hend, decide_false, Bool.false_and, Bool.false_eq_true, if_false]

theorem checkBalanceFrom_begin {r : Row} (hbegin : r.kind.isBegin = true)
    (opened rest : List Row) :
    checkBalanceFrom opened (r :: rest) =
      if r.kind = .beginRepeat && !opened.isEmpty then .error (.nesting r.line .nestedRepeat)
      else checkBalanceFrom (r :: opened) rest := by
  rw [checkBalanceFrom.eq_def]
  simp only [hbegin, if_true]

theorem checkBalanceFrom_closes {closing innermost : Row}
    (hcloses : closing.kind.closes innermost.kind = true) (outer rest : List Row) :
    checkBalanceFrom (innermost :: outer) (closing :: rest) = checkBalanceFrom outer rest := by
  have hbegin := RowKind.not_isBegin_of_closes hcloses
  have hend := RowKind.isEnd_of_closes hcloses
  have hkind := RowKind.ne_beginRepeat hbegin
  rw [checkBalanceFrom.eq_def]
  simp only [hkind, hbegin, hend, hcloses, decide_false, Bool.false_and, Bool.false_eq_true,
    if_false, if_true]

/-- The check passes over balanced rows, with the stack as it was. Where a group is open,
    none of them is repeated. -/
theorem checkBalanceFrom_append {rows : List Row} (h : Balanced rows) {opened rest : List Row}
    (hcheck : checkBalanceFrom opened (rows ++ rest) = .ok ()) :
    checkBalanceFrom opened rest = .ok () ∧
      (opened ≠ [] → ∀ r ∈ rows, r.kind ≠ .beginRepeat) := by
  induction h generalizing opened rest with
  | nil =>
      refine ⟨hcheck, ?_⟩
      intro _ r hr
      cases hr
  | @row r after hbegin hend _ ih =>
      rw [List.cons_append, checkBalanceFrom_plain hbegin hend] at hcheck
      rcases ih hcheck with ⟨hrest, hafter⟩
      exact ⟨hrest, fun hopened =>
        List.forall_mem_cons.2 ⟨RowKind.ne_beginRepeat hbegin, hafter hopened⟩⟩
  | @block opening closing inner after hcloses hinner _ ihInner ihAfter =>
      rw [List.cons_append, List.append_assoc,
        checkBalanceFrom_begin (RowKind.isBegin_of_closes hcloses)] at hcheck
      split at hcheck
      case isTrue => cases hcheck
      case isFalse hoffer =>
        -- Inside, the group itself is open, and its mark takes it off the stack again.
        rcases ihInner hcheck with ⟨hclosed, hwithin⟩
        rw [List.cons_append, checkBalanceFrom_closes hcloses] at hclosed
        rcases ihAfter hclosed with ⟨hrest, hafter⟩
        refine ⟨hrest, fun hopened => ?_⟩
        rw [List.forall_mem_cons, List.forall_mem_append, List.forall_mem_cons]
        refine ⟨?_, hwithin (List.cons_ne_nil _ _),
          RowKind.ne_beginRepeat (RowKind.not_isBegin_of_closes hcloses), hafter hopened⟩
        intro hkind
        rw [hkind, List.isEmpty_eq_false_iff.2 hopened] at hoffer
        exact hoffer rfl

/-! ### Blocks -/

/-- The scan for the end of a group passes over balanced rows: it finds what it finds
    behind them, and they are part of the block. -/
theorem splitBlock_append {rows : List Row} (h : Balanced rows) (depth : Nat)
    (rest : List Row) :
    splitBlock (depth + 1) (rows ++ rest) =
      (splitBlock (depth + 1) rest).map fun (block, after) => (rows ++ block, after) := by
  induction h generalizing depth rest with
  | nil =>
      rw [List.nil_append]
      cases splitBlock (depth + 1) rest <;> rfl
  | row hbegin hend _ ih =>
      rw [List.cons_append, splitBlock]
      simp only [hbegin, hend, ih, Nat.succ_ne_zero, Bool.false_eq_true, if_false]
      cases splitBlock (depth + 1) rest <;> rfl
  | @block opening closing inner after hcloses _ _ ihInner ihAfter =>
      have hopen := RowKind.isBegin_of_closes hcloses
      have hbegin := RowKind.not_isBegin_of_closes hcloses
      have hend := RowKind.isEnd_of_closes hcloses
      rw [List.cons_append, List.append_assoc, splitBlock]
      simp only [hopen, if_true, ihInner]
      -- The scan is inside the group now, one level deeper, and meets its end first.
      rw [List.cons_append, splitBlock]
      simp only [hbegin, hend, ihAfter, if_true, Bool.false_eq_true, if_false,
        Nat.succ_ne_zero, Nat.add_eq_right, Nat.add_sub_cancel]
      cases splitBlock (depth + 1) rest with
      | error e => rfl
      | ok found => simp [Except.map]

theorem takeBlock_block {opening closing : Row} {inner : List Row}
    (hcloses : closing.kind.closes opening.kind = true) (hinner : Balanced inner)
    (rest : List Row) :
    takeBlock (opening :: (inner ++ closing :: rest)) =
      .ok (opening :: (inner ++ [closing]), rest) := by
  have hopen := RowKind.isBegin_of_closes hcloses
  have hbegin := RowKind.not_isBegin_of_closes hcloses
  have hend := RowKind.isEnd_of_closes hcloses
  have hclosed : splitBlock 1 (closing :: rest) = .ok ([closing], rest) := by
    rw [splitBlock]
    simp only [hbegin, hend, Bool.false_eq_true, if_false, if_true, Nat.succ_ne_zero]
  rw [takeBlock, splitBlock]
  -- The opening mark makes the depth one, where the scan passes over the group.
  simp only [hopen, if_true]
  rw [splitBlock_append hinner 0, hclosed]
  rfl

/-! ### Outlines -/

namespace Item

theorem ofRows_row {r : Row} (hbegin : r.kind.isBegin = false) (hend : r.kind.isEnd = false)
    (rest : List Row) : ofRows (r :: rest) = .row r :: ofRows rest := by
  rw [ofRows]
  simp only [hbegin, hend, Bool.false_eq_true, if_false]

theorem ofRows_takeBlock {r : Row} {rest block after : List Row}
    (hbegin : r.kind.isBegin = true) (h : takeBlock (r :: rest) = .ok (block, after)) :
    ofRows (r :: rest) = .group r (ofRows block.tail) :: ofRows after := by
  rw [ofRows, if_pos hbegin]
  -- The outline looks at the block with a proof, so the two are matched up by hand.
  split
  · rename_i block' after' h'
    rw [h] at h'
    cases h'
    rfl
  · rename_i defect h'
    rw [h] at h'
    cases h'

theorem ofRows_end {r : Row} (hbegin : r.kind.isBegin = false) (hend : r.kind.isEnd = true) :
    ofRows [r] = [] := by
  rw [ofRows]
  simp only [hbegin, hend, Bool.false_eq_true, if_false, if_true, List.isEmpty_nil]

theorem ofRows_append_end {rows : List Row} (h : Balanced rows) {closing : Row}
    (hbegin : closing.kind.isBegin = false) (hend : closing.kind.isEnd = true) :
    ofRows (rows ++ [closing]) = ofRows rows := by
  induction h with
  | nil =>
      rw [List.nil_append, ofRows_end hbegin hend, ofRows]
  | row hb he _ ih =>
      rw [List.cons_append, ofRows_row hb he, ofRows_row hb he, ih]
  | @block opening c inner after hcloses hinner _ _ ih =>
      have hopen := RowKind.isBegin_of_closes hcloses
      rw [List.cons_append, List.append_assoc, List.cons_append,
        ofRows_takeBlock hopen (takeBlock_block hcloses hinner _),
        ofRows_takeBlock hopen (takeBlock_block hcloses hinner _), ih]

/-- A group and what follows it: its items are those between its marks. -/
theorem ofRows_block {opening closing : Row} {inner : List Row}
    (hcloses : closing.kind.closes opening.kind = true) (hinner : Balanced inner)
    (rest : List Row) :
    ofRows (opening :: (inner ++ closing :: rest)) =
      .group opening (ofRows inner) :: ofRows rest := by
  rw [ofRows_takeBlock (RowKind.isBegin_of_closes hcloses) (takeBlock_block hcloses hinner _),
    List.tail_cons, ofRows_append_end hinner (RowKind.not_isBegin_of_closes hcloses)
      (RowKind.isEnd_of_closes hcloses)]

theorem ofBlock_group {opening closing : Row} {inner : List Row}
    (hcloses : closing.kind.closes opening.kind = true) (hinner : Balanced inner) :
    ofBlock (opening :: (inner ++ [closing])) = .group opening (ofRows inner) := by
  rw [ofBlock, if_pos (RowKind.isBegin_of_closes hcloses),
    ofRows_append_end hinner (RowKind.not_isBegin_of_closes hcloses)
      (RowKind.isEnd_of_closes hcloses)]

end Item

end Survey

end Questionnaire
