import Questionnaire.Survey.RowKind

/-!
# Blocks of Rows

A block runs from the row that opens a group to the row that closes it. Opening
and closing marks are counted without regard to their kind: that an `end repeat`
closes a `begin repeat` is checked elsewhere, on the whole survey.

Asking for a block where there is none is a defect of the caller. The rows of a
survey that passes its checks never lead there, but blocks can be asked for on
any rows, so the defects are values like others.

## Main definitions

* `Defect`: What only rows that were not checked can lead to.
* `splitBlock`: The rows up to the mark that closes the open groups.
* `takeBlock`: The block that rows begin with.

## Theorems

* `append_of_splitBlock`: A block and the rows after it are the rows.
* `ne_nil_of_splitBlock`: A block is not empty.
-/

namespace Questionnaire

/-- What only rows that were not checked, or a mistake in the conversion, can lead to. -/
inductive Defect
  /-- Rows that do not begin with the mark of a group. -/
  | notAGroup
  /-- A group that is never closed. -/
  | unclosedGroup
  /-- A closing mark with rows after it and no open group. -/
  | strayEnd
  /-- A row that is no question where a question is built. -/
  | notAQuestion (kind : RowKind)
  /-- A part of a sheet up to an index, where the sheet has only so many. -/
  | outOfRange (index length : Nat)
deriving DecidableEq, Repr

namespace Survey

/-- The rows up to the one that closes `depth` open groups, and the rows after it. -/
def splitBlock : (depth : Nat) → List Row → Except Defect (List Row × List Row)
  | _, [] => .error .unclosedGroup
  | depth, r :: rest =>
    let including (found : Except Defect (List Row × List Row)) :=
      found.map fun (block, after) => (r :: block, after)
    if r.kind.isBegin then including (splitBlock (depth + 1) rest)
    else if depth = 0 then .error .notAGroup
    else if r.kind.isEnd then
      if depth = 1 then .ok ([r], rest) else including (splitBlock (depth - 1) rest)
    else including (splitBlock depth rest)

/-- The block that rows begin with, and the rows after it. -/
def takeBlock (rows : List Row) : Except Defect (List Row × List Row) :=
  splitBlock 0 rows

theorem append_of_splitBlock {depth : Nat} {rows block after : List Row}
    (h : splitBlock depth rows = .ok (block, after)) : block ++ after = rows := by
  induction rows generalizing depth block with
  | nil => simp [splitBlock] at h
  | cons r rest ih =>
    have including : ∀ {d : Nat},
        (splitBlock d rest).map (fun (b, a) => (r :: b, a)) = .ok (block, after) →
        block ++ after = r :: rest := by
      intro d hd
      cases hs : splitBlock d rest with
      | error e =>
        rw [hs] at hd
        cases hd
      | ok found =>
        rw [hs] at hd
        rcases found with ⟨b, a⟩
        cases hd
        rw [List.cons_append, ih hs]
    rw [splitBlock] at h
    split at h
    · exact including h
    · split at h
      · cases h
      · split at h
        · split at h
          · cases h
            rfl
          · exact including h
        · exact including h

theorem ne_nil_of_splitBlock {depth : Nat} {rows block after : List Row}
    (h : splitBlock depth rows = .ok (block, after)) : block ≠ [] := by
  cases rows with
  | nil => simp [splitBlock] at h
  | cons r rest =>
    have including : ∀ {d : Nat},
        (splitBlock d rest).map (fun (b, a) => (r :: b, a)) = .ok (block, after) →
        block ≠ [] := by
      intro d hd
      cases hs : splitBlock d rest with
      | error e =>
        rw [hs] at hd
        cases hd
      | ok found =>
        rw [hs] at hd
        cases hd
        exact List.cons_ne_nil _ _
    rw [splitBlock] at h
    split at h
    · exact including h
    · split at h
      · cases h
      · split at h
        · split at h
          · cases h
            exact List.cons_ne_nil _ _
          · exact including h
        · exact including h

/-- A block and the rows after it are together as long as the rows. -/
theorem length_of_takeBlock {rows block after : List Row}
    (h : takeBlock rows = .ok (block, after)) :
    0 < block.length ∧ block.length + after.length = rows.length := by
  refine ⟨List.length_pos_iff.2 (ne_nil_of_splitBlock h), ?_⟩
  rw [← append_of_splitBlock h, List.length_append]

end Survey

end Questionnaire
