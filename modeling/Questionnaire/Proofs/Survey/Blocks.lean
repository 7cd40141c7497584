import Questionnaire.Proofs.Outcome
import Questionnaire.Proofs.Survey.Stops

/-!
# The Search for a Block

A block is searched for by counting marks, and the count is described here without
its counter: the search finds the shortest rows, from where it starts, in which as many
groups end as begin. It fails where no group begins, and where there are no such rows.

The rest of a search is a search that starts inside some groups, so the lemma behind
this is about those (`scanned_splitBlock`): up to the row that is found, never as many
groups end as are open around it, and with that row they do. One row in front changes
both counts in the way in which it changes the depth.

Being the shortest is a matter of the rows up to the end of the block, so a block is the
same however the rows go on behind it (`exists_takeBlock_append_iff`).

## Main definitions

* `IsLevel`: Rows in which as many groups end as begin.
* `IsShortest`: The shortest level rows that others begin with.

## Theorems

* `scanned_splitBlock`: What a search inside some groups finds.
* `exists_takeBlock_iff`: When rows are the block that others begin with.
* `takeBlock_eq_error_iff`: When there is no such block, and what is said then.
* `exists_takeBlock_append_iff`: A block does not depend on the rows behind it.
-/

namespace Questionnaire

namespace Survey

/-! ### Level rows -/

/-- How many groups end in rows. -/
def ends (rows : List Row) : Nat :=
  rows.countP fun r => r.kind.isEnd

/-- Rows in which as many groups end as begin. -/
def IsLevel (rows : List Row) : Prop :=
  ends rows = begins rows

/-- The shortest level rows that others begin with, no rows at all apart. -/
structure IsShortest (block rows : List Row) : Prop where
  isPrefix : block <+: rows
  ne_nil : block ≠ []
  level : IsLevel block
  least : ∀ front, front <+: rows → front ≠ [] → IsLevel front → block.length ≤ front.length

theorem begins_cons (r : Row) (rest : List Row) :
    begins (r :: rest) = begins rest + if r.kind.isBegin then 1 else 0 :=
  List.countP_cons

theorem ends_cons (r : Row) (rest : List Row) :
    ends (r :: rest) = ends rest + if r.kind.isEnd then 1 else 0 :=
  List.countP_cons

namespace IsShortest

variable {block rows : List Row}

/-- What is the shortest does not depend on how far the rows go on behind it. -/
theorem append (h : IsShortest block rows) (later : List Row) :
    IsShortest block (rows ++ later) where
  isPrefix := h.isPrefix.trans (List.prefix_append _ _)
  ne_nil := h.ne_nil
  level := h.level
  least := by
    intro front hfront hne hlevel
    rcases Nat.le_total front.length rows.length with hle | hle
    · exact h.least front (List.prefix_of_prefix_length_le hfront (List.prefix_append _ _) hle)
        hne hlevel
    · exact Nat.le_trans h.isPrefix.length_le hle

theorem of_append {later : List Row} (h : IsShortest block (rows ++ later))
    (hle : block.length ≤ rows.length) : IsShortest block rows where
  isPrefix := List.prefix_of_prefix_length_le h.isPrefix (List.prefix_append _ _) hle
  ne_nil := h.ne_nil
  level := h.level
  least := fun front hfront => h.least front (hfront.trans (List.prefix_append _ _))

theorem unique {block' : List Row} (h : IsShortest block rows) (h' : IsShortest block' rows) :
    block = block' := by
  have hlength : block.length = block'.length :=
    Nat.le_antisymm (h.least block' h'.isPrefix h'.ne_nil h'.level)
      (h'.least block h.isPrefix h.ne_nil h.level)
  exact (List.prefix_of_prefix_length_le h.isPrefix h'.isPrefix
    (Nat.le_of_eq hlength)).eq_of_length hlength

end IsShortest

/-! ### The search for a block -/

section Equations

variable {r : Row} (depth : Nat) (rest : List Row)

theorem splitBlock_begin (hbegin : r.kind.isBegin = true) :
    splitBlock depth (r :: rest) =
      (splitBlock (depth + 1) rest).map fun (block, after) => (r :: block, after) := by
  rw [splitBlock, if_pos hbegin]

theorem splitBlock_plain (hbegin : ¬ r.kind.isBegin = true) (hend : ¬ r.kind.isEnd = true) :
    splitBlock (depth + 1) (r :: rest) =
      (splitBlock (depth + 1) rest).map fun (block, after) => (r :: block, after) := by
  rw [splitBlock, if_neg hbegin, if_neg (Nat.succ_ne_zero _), if_neg hend]

theorem splitBlock_last (hbegin : ¬ r.kind.isBegin = true) (hend : r.kind.isEnd = true) :
    splitBlock 1 (r :: rest) = .ok ([r], rest) := by
  rw [splitBlock, if_neg hbegin, if_neg Nat.one_ne_zero, if_pos hend, if_pos rfl]

theorem splitBlock_end (hbegin : ¬ r.kind.isBegin = true) (hend : r.kind.isEnd = true) :
    splitBlock (depth + 2) (r :: rest) =
      (splitBlock (depth + 1) rest).map fun (block, after) => (r :: block, after) := by
  rw [splitBlock, if_neg hbegin, if_neg (Nat.succ_ne_zero _), if_pos hend, if_neg (by omega)]
  rfl

theorem takeBlock_other (hbegin : ¬ r.kind.isBegin = true) :
    takeBlock (r :: rest) = .error .notAGroup := by
  rw [takeBlock, splitBlock, if_neg hbegin, if_pos rfl]

end Equations

/-- What a search inside `depth + 1` groups finds: the first rows in which all of them end,
    or that they do not end in any. -/
def Scanned (depth : Nat) (rows : List Row) : Except Defect (List Row × List Row) → Prop
  | .ok (block, after) => block ++ after = rows ∧ ends block = depth + 1 + begins block ∧
      ∀ front, front <+: block → front ≠ block → ends front ≤ depth + begins front
  | .error defect => defect = .unclosedGroup ∧
      ∀ front, front <+: rows → ends front ≤ depth + begins front

/-- One row more in front, with its mark counted. -/
theorem Scanned.cons {r : Row} {depth depth' : Nat} {rest : List Row}
    {found : Except Defect (List Row × List Row)} (h : Scanned depth' rest found)
    (hdepth : depth' + (if r.kind.isEnd then 1 else 0) = depth + if r.kind.isBegin then 1 else 0) :
    Scanned depth (r :: rest) (found.map fun (block, after) => (r :: block, after)) := by
  have hcounts : ∀ tail, ends tail ≤ depth' + begins tail →
      ends (r :: tail) ≤ depth + begins (r :: tail) := by
    intro tail htail
    rw [ends_cons, begins_cons]
    omega
  cases found with
  | error defect =>
      refine ⟨h.1, ?_⟩
      intro front hfront
      rcases List.prefix_cons_iff.1 hfront with rfl | ⟨tail, rfl, htail⟩
      · exact Nat.zero_le _
      · exact hcounts tail (h.2 tail htail)
  | ok found =>
      rcases found with ⟨block, after⟩
      rcases h with ⟨happend, hends, hleast⟩
      refine ⟨by rw [List.cons_append, happend], by rw [ends_cons, begins_cons]; omega, ?_⟩
      intro front hfront hne
      rcases List.prefix_cons_iff.1 hfront with rfl | ⟨tail, rfl, htail⟩
      · exact Nat.zero_le _
      · exact hcounts tail (hleast tail htail fun heq => hne (heq ▸ rfl))

theorem scanned_splitBlock (depth : Nat) (rows : List Row) :
    Scanned depth rows (splitBlock (depth + 1) rows) := by
  induction rows generalizing depth with
  | nil =>
      refine ⟨rfl, ?_⟩
      intro front hfront
      rw [List.prefix_nil.1 hfront]
      exact Nat.zero_le _
  | cons r rest ih =>
      by_cases hbegin : r.kind.isBegin = true
      · have hend := Bool.eq_false_iff.1 (RowKind.not_isEnd_of_isBegin hbegin)
        rw [splitBlock_begin _ _ hbegin]
        exact (ih (depth + 1)).cons (by rw [if_pos hbegin, if_neg hend])
      · by_cases hend : r.kind.isEnd = true
        · cases depth with
          | zero =>
              -- The innermost group ends, and no other is open.
              rw [splitBlock_last _ hbegin hend]
              refine ⟨rfl, ?_, ?_⟩
              · rw [ends_cons, begins_cons, if_pos hend, if_neg hbegin]
                rfl
              · intro front hfront hne
                rcases List.prefix_cons_iff.1 hfront with rfl | ⟨tail, rfl, htail⟩
                · exact Nat.zero_le _
                · rw [List.prefix_nil.1 htail] at hne
                  exact absurd rfl hne
          | succ outer =>
              rw [splitBlock_end _ _ hbegin hend]
              exact (ih outer).cons (by rw [if_pos hend, if_neg hbegin])
        · rw [splitBlock_plain _ _ hbegin hend]
          exact (ih depth).cons (by rw [if_neg hend, if_neg hbegin])

/-- What is taken of rows that begin with the mark of a group. -/
theorem taken_of_begin {r : Row} (hbegin : r.kind.isBegin = true) (rest : List Row) :
    (∃ block after, takeBlock (r :: rest) = .ok (block, after) ∧ IsShortest block (r :: rest)) ∨
      takeBlock (r :: rest) = .error .unclosedGroup ∧
        ∀ front, front <+: r :: rest → front ≠ [] → ¬ IsLevel front := by
  have hscanned := scanned_splitBlock 0 rest
  have hend := Bool.eq_false_iff.1 (RowKind.not_isEnd_of_isBegin hbegin)
  -- Behind the mark it is ahead by one, and the counts stay apart until the group ends.
  have happart : ∀ tail, ends tail ≤ 0 + begins tail → ¬ IsLevel (r :: tail) := by
    intro tail htail hlevel
    rw [IsLevel, ends_cons, begins_cons, if_neg hend, if_pos hbegin] at hlevel
    omega
  rw [takeBlock, splitBlock_begin 0 rest hbegin]
  cases hsplit : splitBlock 1 rest with
  | error defect =>
      rw [hsplit] at hscanned
      rcases hscanned with ⟨rfl, hopen⟩
      refine Or.inr ⟨rfl, ?_⟩
      intro front hfront hne
      rcases List.prefix_cons_iff.1 hfront with rfl | ⟨tail, rfl, htail⟩
      · exact absurd rfl hne
      · exact happart tail (hopen tail htail)
  | ok found =>
      rw [hsplit] at hscanned
      rcases found with ⟨block, after⟩
      rcases hscanned with ⟨happend, hends, hleast⟩
      refine Or.inl ⟨r :: block, after, rfl, ⟨after, ?_⟩, List.cons_ne_nil _ _, ?_, ?_⟩
      · rw [List.cons_append, happend]
      · rw [IsLevel, ends_cons, begins_cons, if_neg hend, if_pos hbegin]
        omega
      · intro front hfront hne hlevel
        rcases List.prefix_cons_iff.1 hfront with rfl | ⟨tail, rfl, htail⟩
        · exact absurd rfl hne
        · -- Rows shorter than the block would be apart.
          refine Nat.le_of_not_lt fun hlt => ?_
          rw [List.length_cons, List.length_cons] at hlt
          have hblock : tail <+: block :=
            List.prefix_of_prefix_length_le htail ⟨after, happend⟩ (by omega)
          refine happart tail (hleast tail hblock ?_) hlevel
          rintro rfl
          exact Nat.lt_irrefl _ hlt

/-- Rows that begin with the mark of a group. -/
def BeginsGroup (rows : List Row) : Prop :=
  ∃ r, rows.head? = some r ∧ r.kind.isBegin = true

/-- What is taken of rows: the shortest level rows, if a group begins there and there are
    any. -/
theorem takeBlock_cases (rows : List Row) :
    (∃ block after, takeBlock rows = .ok (block, after) ∧ BeginsGroup rows ∧
      IsShortest block rows) ∨
    (takeBlock rows = .error .notAGroup ∧
      ∃ r, rows.head? = some r ∧ ¬ r.kind.isBegin = true) ∨
    (takeBlock rows = .error .unclosedGroup ∧ (rows = [] ∨ BeginsGroup rows) ∧
      ∀ front, front <+: rows → front ≠ [] → ¬ IsLevel front) := by
  cases rows with
  | nil =>
      refine Or.inr (Or.inr ⟨rfl, Or.inl rfl, ?_⟩)
      intro front hfront hne
      exact absurd (List.prefix_nil.1 hfront) hne
  | cons r rest =>
      by_cases hbegin : r.kind.isBegin = true
      · rcases taken_of_begin hbegin rest with ⟨block, after, htake, hshortest⟩ | ⟨htake, hopen⟩
        · exact Or.inl ⟨block, after, htake, ⟨r, rfl, hbegin⟩, hshortest⟩
        · exact Or.inr (Or.inr ⟨htake, Or.inr ⟨r, rfl, hbegin⟩, hopen⟩)
      · exact Or.inr (Or.inl ⟨takeBlock_other rest hbegin, r, rfl, hbegin⟩)

theorem exists_takeBlock_iff {rows block : List Row} :
    (∃ after, takeBlock rows = .ok (block, after)) ↔ BeginsGroup rows ∧ IsShortest block rows := by
  rcases takeBlock_cases rows with ⟨found, after, htake, hbegins, hshortest⟩ |
    ⟨htake, r, hhead, hbegin⟩ | ⟨htake, _, hopen⟩
  · rw [htake]
    constructor
    · rintro ⟨_, h⟩
      cases h
      exact ⟨hbegins, hshortest⟩
    · rintro ⟨_, h⟩
      exact ⟨after, by rw [h.unique hshortest]⟩
  · rw [htake]
    refine iff_of_false (by rintro ⟨_, h⟩; cases h) ?_
    rintro ⟨⟨r', hhead', hbegin'⟩, _⟩
    rw [hhead, Option.some.injEq] at hhead'
    exact hbegin (hhead' ▸ hbegin')
  · rw [htake]
    refine iff_of_false (by rintro ⟨_, h⟩; cases h) ?_
    rintro ⟨_, h⟩
    exact hopen block h.isPrefix h.ne_nil h.level

theorem takeBlock_eq_error_iff {rows : List Row} {defect : Defect} :
    takeBlock rows = .error defect ↔
      (defect = .notAGroup ∧ ∃ r, rows.head? = some r ∧ ¬ r.kind.isBegin = true) ∨
        defect = .unclosedGroup ∧ (rows = [] ∨ BeginsGroup rows) ∧
          ∀ front, front <+: rows → front ≠ [] → ¬ IsLevel front := by
  have hmark : ∀ r, rows.head? = some r → ¬ r.kind.isBegin = true →
      ¬ (rows = [] ∨ BeginsGroup rows) := by
    rintro r hhead hbegin (rfl | ⟨r', hhead', hbegin'⟩)
    · cases hhead
    · rw [hhead, Option.some.injEq] at hhead'
      exact hbegin (hhead' ▸ hbegin')
  constructor
  · intro h
    rcases takeBlock_cases rows with ⟨_, _, htake, _⟩ | ⟨htake, hother⟩ | ⟨htake, hopen⟩
    · rw [htake] at h
      cases h
    · rw [htake] at h
      cases h
      exact Or.inl ⟨rfl, hother⟩
    · rw [htake] at h
      cases h
      exact Or.inr ⟨rfl, hopen⟩
  · intro h
    rcases takeBlock_cases rows with ⟨_, _, _, hbegins, hshortest⟩ |
      ⟨htake, r, hhead, hbegin⟩ | ⟨htake, hbegins, _⟩
    · rcases h with ⟨_, r, hhead, hbegin⟩ | ⟨_, _, hopen⟩
      · exact absurd (Or.inr hbegins) (hmark r hhead hbegin)
      · exact absurd hshortest.level (hopen _ hshortest.isPrefix hshortest.ne_nil)
    · rcases h with ⟨rfl, _⟩ | ⟨_, hopen, _⟩
      · exact htake
      · exact absurd hopen (hmark r hhead hbegin)
    · rcases h with ⟨_, r, hhead, hbegin⟩ | ⟨rfl, _⟩
      · exact absurd hbegins (hmark r hhead hbegin)
      · exact htake

/-- A block is found in rows if it is found in longer ones and lies within them. -/
theorem exists_takeBlock_append_iff {rows block : List Row} (later : List Row) :
    (∃ after, takeBlock (rows ++ later) = .ok (block, after)) ∧ block.length ≤ rows.length ↔
      ∃ after, takeBlock rows = .ok (block, after) := by
  rw [exists_takeBlock_iff, exists_takeBlock_iff]
  have hbegins : rows ≠ [] → (BeginsGroup (rows ++ later) ↔ BeginsGroup rows) := by
    intro hne
    rcases List.exists_cons_of_ne_nil hne with ⟨r, rest, rfl⟩
    exact Iff.rfl
  constructor
  · rintro ⟨⟨hbegin, h⟩, hle⟩
    have hne : rows ≠ [] := by
      rintro rfl
      exact h.ne_nil (List.length_eq_zero_iff.1 (Nat.le_zero.1 hle))
    exact ⟨(hbegins hne).1 hbegin, h.of_append hle⟩
  · rintro ⟨hbegin, h⟩
    have hne : rows ≠ [] := by
      rintro rfl
      exact h.ne_nil (List.prefix_nil.1 h.isPrefix)
    exact ⟨⟨(hbegins hne).2 hbegin, h.append later⟩, h.isPrefix.length_le⟩

end Survey

end Questionnaire
