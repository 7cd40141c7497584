import Questionnaire.Document.Failure
import Questionnaire.Proofs.Survey.Blocks

/-!
# Pairs of Marks

Two passes say which mark closes a group. The check keeps the open groups on a stack
and compares kinds; the search for a block counts marks and does not look at kinds.
That they agree is what the nesting of the document rests on.

The check is told here with places: `pairings` is the check with the place of every mark
beside it, and it gives the pairs of places that the check takes off its stack. Without
the places it is the check (`map_pairingsFrom`).

The invariant is about all groups that are open: the one with `depth` others inside is
closed by the mark that a search finds inside `depth + 1` groups. A row moves the check
and all of these searches alike, so `mem_pairingsFrom_iff` is an induction on the rows. A
search that starts at a mark is one inside its group, which is the innermost then.

## Main definitions

* `pairings`: Which mark closes which, as the check has it.
* `Cursor`: A place in rows, from which blocks are taken.

## Theorems

* `map_pairingsFrom`: The pairs are those of the check.
* `mem_pairingsFrom_iff`: A mark is paired with the one that a search finds.
* `exists_pair`: Every group of a survey that passes the check is paired.
* `Cursor.takeBlock_outcome`: What is taken from a place, and that it ends with the mark
  that the check pairs with its beginning.
-/

namespace Questionnaire

namespace Survey

/-! ### The pairs of the check -/

/-- The check of the rows from a place on, after some groups were opened, innermost first
    and each with the place of its mark: the places of the marks that open and close a
    group, for every group that is closed. -/
def pairingsFrom (opened : List (Row × Nat)) (place : Nat) :
    List Row → Except ConversionError (List (Nat × Nat))
  | [] =>
    match opened with
    | [] => .ok []
    | innermost :: _ => .error (.nesting innermost.1.line .unclosedGroup)
  | r :: rest =>
    if r.kind = .beginRepeat && !opened.isEmpty then .error (.nesting r.line .nestedRepeat)
    else if r.kind.isBegin then pairingsFrom ((r, place) :: opened) (place + 1) rest
    else if r.kind.isEnd then
      match opened with
      | innermost :: outer =>
        if r.kind.closes innermost.1.kind then
          (pairingsFrom outer (place + 1) rest).map ((innermost.2, place) :: ·)
        else .error (.nesting r.line .unexpectedEnd)
      | [] => .error (.nesting r.line .unexpectedEnd)
    else pairingsFrom opened (place + 1) rest

/-- Which mark closes which in a survey, as the check has it. -/
def pairings (survey : List Row) : Except ConversionError (List (Nat × Nat)) :=
  pairingsFrom [] 0 survey

/-- Without the places it is the check. -/
theorem map_pairingsFrom (opened : List (Row × Nat)) (place : Nat) (rows : List Row) :
    (pairingsFrom opened place rows).map (fun _ => ()) =
      checkBalanceFrom (opened.map Prod.fst) rows := by
  fun_induction pairingsFrom opened place rows with
  | case1 => rfl
  | case2 => rfl
  | case3 opened place r rest hrepeat =>
      rw [checkBalanceFrom.eq_def]
      simp only [List.isEmpty_map, hrepeat]
      rfl
  | case4 opened place r rest hrepeat hbegin ih =>
      rw [checkBalanceFrom_begin hbegin, List.isEmpty_map, if_neg hrepeat, ih]
      rfl
  | case5 place r rest _ _ innermost outer hcloses _ ih =>
      rw [List.map_cons, checkBalanceFrom_closes hcloses, ← ih]
      cases pairingsFrom outer (place + 1) rest <;> rfl
  | case6 place r rest hbegin hend innermost outer hcloses hrepeat =>
      rw [List.map_cons, checkBalanceFrom.eq_def]
      simp only [List.isEmpty_cons, Bool.not_false, Bool.and_true, decide_eq_true_eq] at hrepeat
      simp only [hrepeat, hbegin, hend, hcloses, decide_false, Bool.false_and, Bool.false_eq_true,
        if_true, if_false]
      rfl
  | case7 place r rest hbegin hend _ =>
      rw [List.map_nil, checkBalanceFrom.eq_def]
      simp only [hbegin, hend, List.isEmpty_nil, Bool.not_true, Bool.and_false,
        Bool.false_eq_true, if_true, if_false]
      rfl
  | case8 opened place r rest _ hbegin hend ih =>
      rw [checkBalanceFrom_plain (Bool.eq_false_iff.2 hbegin) (Bool.eq_false_iff.2 hend), ih]

/-- A search from a place on has found rows that end at another one. -/
def EndsAt (found : Except Defect (List Row × List Row)) (place stop : Nat) : Prop :=
  ∃ block after, found = .ok (block, after) ∧ stop + 1 = place + block.length

theorem not_endsAt_error {defect : Defect} {place stop : Nat} :
    ¬ EndsAt (.error defect) place stop := by
  rintro ⟨_, _, h, _⟩
  cases h

theorem endsAt_last {r : Row} {rest : List Row} {place stop : Nat} :
    EndsAt (.ok ([r], rest)) place stop ↔ stop = place := by
  constructor
  · rintro ⟨_, _, h, hstop⟩
    cases h
    exact Nat.succ.inj hstop
  · rintro rfl
    exact ⟨_, _, rfl, rfl⟩

theorem endsAt_map {found : Except Defect (List Row × List Row)} {r : Row} {place stop : Nat} :
    EndsAt (found.map fun (block, after) => (r :: block, after)) place stop ↔
      EndsAt found (place + 1) stop := by
  cases found with
  | error defect => exact iff_of_false not_endsAt_error not_endsAt_error
  | ok found =>
      have hlength : place + (r :: found.1).length = place + 1 + found.1.length := by
        rw [List.length_cons]
        omega
      constructor
      · rintro ⟨_, _, h, hstop⟩
        cases h
        exact ⟨_, _, rfl, hstop.trans hlength⟩
      · rintro ⟨_, _, h, hstop⟩
        cases h
        exact ⟨_, _, rfl, hstop.trans hlength.symm⟩

/-- The pairs of the groups that begin in rows, as searches find them. -/
def FoundIn (place : Nat) (rows : List Row) (start stop : Nat) : Prop :=
  ∃ skipped, start = place + skipped ∧ EndsAt (takeBlock (rows.drop skipped)) start stop

/-- The pairs of the groups that are open, as searches inside them find them. -/
def FoundAround (opened : List (Row × Nat)) (place : Nat) (rows : List Row) (start stop : Nat) :
    Prop :=
  ∃ depth r, opened[depth]? = some (r, start) ∧ EndsAt (splitBlock (depth + 1) rows) place stop

theorem foundIn_cons {place : Nat} {r : Row} {rest : List Row} {start stop : Nat} :
    FoundIn place (r :: rest) start stop ↔
      start = place ∧ EndsAt (takeBlock (r :: rest)) place stop ∨
        FoundIn (place + 1) rest start stop := by
  constructor
  · rintro ⟨skipped, rfl, h⟩
    cases skipped with
    | zero => exact Or.inl ⟨rfl, h⟩
    | succ skipped =>
        refine Or.inr ⟨skipped, by omega, ?_⟩
        exact h
  · rintro (⟨rfl, h⟩ | ⟨skipped, rfl, h⟩)
    · exact ⟨0, rfl, h⟩
    · refine ⟨skipped + 1, by omega, ?_⟩
      exact h

theorem foundAround_cons {innermost : Row × Nat} {outer : List (Row × Nat)} {place : Nat}
    {rows : List Row} {start stop : Nat} :
    FoundAround (innermost :: outer) place rows start stop ↔
      innermost.2 = start ∧ EndsAt (splitBlock 1 rows) place stop ∨
        ∃ depth r, outer[depth]? = some (r, start) ∧
          EndsAt (splitBlock (depth + 2) rows) place stop := by
  constructor
  · rintro ⟨depth, r, hopened, h⟩
    cases depth with
    | zero =>
        cases hopened
        exact Or.inl ⟨rfl, h⟩
    | succ depth => exact Or.inr ⟨depth, r, hopened, h⟩
  · rintro (⟨rfl, h⟩ | ⟨depth, r, hopened, h⟩)
    · exact ⟨0, innermost.1, rfl, h⟩
    · exact ⟨depth + 1, r, hopened, h⟩

/-- Where the check pairs two marks, a search finds the second from the first one: from the
    mark itself if it is among the rows, or else inside the group that it has opened. -/
theorem mem_pairingsFrom_iff {opened : List (Row × Nat)} {place : Nat} {rows : List Row}
    {pairs : List (Nat × Nat)} (h : pairingsFrom opened place rows = .ok pairs)
    (start stop : Nat) :
    (start, stop) ∈ pairs ↔
      FoundIn place rows start stop ∨ FoundAround opened place rows start stop := by
  fun_induction pairingsFrom opened place rows generalizing pairs with
  | case1 place =>
      cases h
      refine iff_of_false List.not_mem_nil ?_
      rintro (⟨skipped, _, hfound⟩ | ⟨depth, r, hopened, _⟩)
      · rw [List.drop_nil] at hfound
        exact not_endsAt_error hfound
      · cases hopened
  | case4 opened place r rest _ hbegin ih =>
      -- The search from the mark goes on inside its group.
      rw [ih h, foundIn_cons, foundAround_cons, takeBlock, splitBlock_begin 0 rest hbegin,
        endsAt_map, eq_comm (a := place)]
      unfold FoundAround
      simp only [splitBlock_begin _ rest hbegin, endsAt_map]
      exact or_left_comm.trans or_assoc.symm
  | case5 place r rest hbegin hend innermost outer _ _ ih =>
      rcases map_eq_ok.1 h with ⟨later, hlater, rfl⟩
      rw [List.mem_cons, ih hlater, foundIn_cons, foundAround_cons, takeBlock_other rest hbegin,
        splitBlock_last rest hbegin hend, endsAt_last, Prod.mk.injEq, eq_comm (a := innermost.2)]
      unfold FoundAround
      simp only [splitBlock_end _ rest hbegin hend, endsAt_map, not_endsAt_error, and_false,
        false_or]
      exact or_left_comm
  | case8 opened place r rest _ hbegin hend ih =>
      rw [ih h, foundIn_cons, takeBlock_other rest hbegin]
      unfold FoundAround
      simp only [splitBlock_plain _ rest hbegin hend, endsAt_map, not_endsAt_error, and_false,
        false_or]
  | _ => cases h

theorem mem_pairings_iff {survey : List Row} {pairs : List (Nat × Nat)}
    (h : pairings survey = .ok pairs) {start stop : Nat} :
    (start, stop) ∈ pairs ↔ EndsAt (takeBlock (survey.drop start)) start stop := by
  rw [mem_pairingsFrom_iff h]
  constructor
  · rintro (⟨skipped, hstart, hfound⟩ | ⟨_, _, hopened, _⟩)
    · rw [Nat.zero_add] at hstart
      exact hstart ▸ hfound
    · cases hopened
  · intro hfound
    exact Or.inl ⟨start, (Nat.zero_add start).symm, hfound⟩

/-- Something is so at every mark that opens a group, where the rows begin at a place. -/
def AtBegins (P : Nat → Prop) (place : Nat) (rows : List Row) : Prop :=
  ∀ i r, rows[i]? = some r → r.kind.isBegin = true → P (place + i)

theorem AtBegins.cons {P : Nat → Prop} {place : Nat} {r : Row} {rest : List Row}
    (hrest : AtBegins P (place + 1) rest) (hfirst : r.kind.isBegin = true → P place) :
    AtBegins P place (r :: rest) := by
  intro i r' hr' hbegin
  cases i with
  | zero =>
      cases hr'
      exact hfirst hbegin
  | succ i =>
      have hlater := hrest i r' hr' hbegin
      rwa [Nat.add_assoc, Nat.add_comm 1] at hlater

/-- Every group that is open is closed, and so is every one that begins. -/
theorem exists_pair {opened : List (Row × Nat)} {place : Nat} {rows : List Row}
    {pairs : List (Nat × Nat)} (h : pairingsFrom opened place rows = .ok pairs) :
    (∀ m ∈ opened, ∃ stop, (m.2, stop) ∈ pairs) ∧
      AtBegins (fun start => ∃ stop, (start, stop) ∈ pairs) place rows := by
  fun_induction pairingsFrom opened place rows generalizing pairs with
  | case1 place =>
      refine ⟨List.forall_mem_nil _, ?_⟩
      intro i r hr
      cases hr
  | case4 opened place r rest _ _ ih =>
      rcases ih h with ⟨hopened, hrest⟩
      rcases List.forall_mem_cons.1 hopened with ⟨hself, houter⟩
      exact ⟨houter, hrest.cons fun _ => hself⟩
  | case5 place r rest hbegin _ innermost outer _ _ ih =>
      rcases map_eq_ok.1 h with ⟨later, hlater, rfl⟩
      rcases ih hlater with ⟨hopened, hrest⟩
      have hmore : ∀ start, (∃ stop, (start, stop) ∈ later) →
          ∃ stop, (start, stop) ∈ (innermost.2, place) :: later :=
        fun start ⟨stop, hstop⟩ => ⟨stop, List.mem_cons_of_mem _ hstop⟩
      refine ⟨List.forall_mem_cons.2 ⟨⟨place, List.mem_cons_self⟩, fun m hm =>
        hmore m.2 (hopened m hm)⟩, AtBegins.cons ?_ fun hr => absurd hr hbegin⟩
      exact fun i r hr hbegins => hmore _ (hrest i r hr hbegins)
  | case8 opened place r rest _ hbegin _ ih =>
      rcases ih h with ⟨hopened, hrest⟩
      exact ⟨hopened, hrest.cons fun hr => absurd hr hbegin⟩
  | _ => cases h

/-! ### Blocks at a place -/

/-- A place in rows. -/
structure Cursor where
  rows : List Row
  place : Nat

namespace Cursor

/-- The rows from the place on. -/
def rest (c : Cursor) : List Row :=
  c.rows.drop c.place

/-- The block at the place, and the place behind it. A place without a block is kept. -/
def takeBlock (c : Cursor) : Except Defect (List Row) × Cursor :=
  match Survey.takeBlock c.rest with
  | .ok (block, _) => (.ok block, { c with place := c.place + block.length })
  | .error defect => (.error defect, c)

variable {c : Cursor}

theorem eq_ok_iff {block : List Row} {c' : Cursor} :
    c.takeBlock = (.ok block, c') ↔
      (∃ after, Survey.takeBlock c.rest = .ok (block, after)) ∧
        c' = ⟨c.rows, c.place + block.length⟩ := by
  rw [takeBlock]
  cases Survey.takeBlock c.rest with
  | error defect => exact iff_of_false (by rintro ⟨⟩) (by rintro ⟨⟨_, h⟩, _⟩; cases h)
  | ok found =>
      constructor
      · rintro ⟨⟩
        exact ⟨⟨found.2, rfl⟩, rfl⟩
      · rintro ⟨⟨after, h⟩, rfl⟩
        cases h
        rfl

theorem eq_error_iff {defect : Defect} {c' : Cursor} :
    c.takeBlock = (.error defect, c') ↔ Survey.takeBlock c.rest = .error defect ∧ c' = c := by
  rw [takeBlock]
  cases Survey.takeBlock c.rest with
  | ok found => exact iff_of_false (by rintro ⟨⟩) (by rintro ⟨⟨⟩, _⟩)
  | error defect' =>
      constructor
      · rintro ⟨⟩
        exact ⟨rfl, rfl⟩
      · rintro ⟨h, rfl⟩
        cases h
        rfl

/-- The block at a place is the shortest level rows there, if a group begins at the place and
    there are any, and the place moves behind them. Otherwise it does not move, and what is
    wrong depends on whether there is a row and what it is.

    If the rows are part of a survey that passes the check, the block ends with the mark that
    the check pairs with its beginning. Every group of such a survey is paired, and a block is
    found at its mark unless the rows end before. -/
theorem takeBlock_outcome (c : Cursor) :
    (∀ block c', c.takeBlock = (.ok block, c') ↔
      BeginsGroup c.rest ∧ IsShortest block c.rest ∧ c' = ⟨c.rows, c.place + block.length⟩) ∧
    (∀ defect c', c.takeBlock = (.error defect, c') ↔ c' = c ∧
      ((defect = .notAGroup ∧ ∃ r, c.rest.head? = some r ∧ ¬ r.kind.isBegin = true) ∨
        defect = .unclosedGroup ∧ (c.rest = [] ∨ BeginsGroup c.rest) ∧
          ∀ front, front <+: c.rest → front ≠ [] → ¬ IsLevel front)) ∧
    (Defect.notAGroup.message = "not a group" ∧
      Defect.unclosedGroup.message = "group end not found") ∧
    ∀ before after, checkBalance (before ++ (c.rows ++ after)) = .ok () →
      ∃ pairs, pairings (before ++ (c.rows ++ after)) = .ok pairs ∧
        AtBegins (fun start => ∃ stop, (start, stop) ∈ pairs) 0 (before ++ (c.rows ++ after)) ∧
        ∀ stop, (before.length + c.place, stop) ∈ pairs ∧ stop < before.length + c.rows.length ↔
          ∃ block c', c.takeBlock = (.ok block, c') ∧ stop + 1 = before.length + c'.place := by
  refine ⟨?_, ?_, ⟨rfl, rfl⟩, ?_⟩
  · intro block c'
    rw [eq_ok_iff, exists_takeBlock_iff, and_assoc]
  · intro defect c'
    rw [eq_error_iff, takeBlock_eq_error_iff, and_comm]
  · intro before after hcheck
    rcases map_eq_ok.1 ((map_pairingsFrom [] 0 _).trans hcheck) with ⟨pairs, hpairs, _⟩
    refine ⟨pairs, hpairs, (exists_pair hpairs).2, ?_⟩
    intro stop
    rw [mem_pairings_iff hpairs]
    rcases Nat.lt_or_ge c.rows.length c.place with hout | hin
    · -- Past the rows nothing is taken, and nothing ends before it begins.
      refine iff_of_false ?_ ?_
      · rintro ⟨⟨block, _, _, hstop⟩, hlt⟩
        omega
      · rintro ⟨block, c', htake, _⟩
        rcases eq_ok_iff.1 htake with ⟨⟨_, hblock⟩, _⟩
        rw [rest, List.drop_eq_nil_of_le (Nat.le_of_lt hout)] at hblock
        cases hblock
    · have hdrop : (before ++ (c.rows ++ after)).drop (before.length + c.place) =
          c.rest ++ after := by
        rw [List.drop_length_add_append, List.drop_append_of_le_length hin]
        rfl
      have hlength : c.rest.length = c.rows.length - c.place := List.length_drop
      rw [hdrop]
      constructor
      · rintro ⟨⟨block, later, htake, hstop⟩, hlt⟩
        have hle : block.length ≤ c.rest.length := by omega
        have hblock := (exists_takeBlock_append_iff after).1 ⟨⟨later, htake⟩, hle⟩
        exact ⟨block, _, eq_ok_iff.2 ⟨hblock, rfl⟩, by rw [hstop, Nat.add_assoc]⟩
      · rintro ⟨block, c', htake, hstop⟩
        rcases eq_ok_iff.1 htake with ⟨hblock, rfl⟩
        rcases (exists_takeBlock_append_iff after).2 hblock with ⟨⟨later, hlater⟩, hle⟩
        refine ⟨⟨block, later, hlater, by rw [hstop, Nat.add_assoc]⟩, ?_⟩
        have hplace : stop + 1 = before.length + (c.place + block.length) := hstop
        omega

/-- A group inside another, in rows that end before the other does. -/
theorem takeBlock_outcome_inner :
    checkBalance ([groupMark "a" ""] ++ ([groupMark "b" "", endMark] ++ [endMark])) = .ok () ∧
      ∃ pairs, pairings [groupMark "a" "", groupMark "b" "", endMark, endMark] = .ok pairs ∧
        (1, 2) ∈ pairs := by
  have hcheck : checkBalance ([groupMark "a" ""] ++ ([groupMark "b" "", endMark] ++ [endMark])) =
      .ok () := rfl
  rcases (takeBlock_outcome ⟨[groupMark "b" "", endMark], 0⟩).2.2.2 _ _ hcheck with
    ⟨pairs, hpairs, _, hpaired⟩
  refine ⟨hcheck, pairs, hpairs, ((hpaired 2).2 ?_).1⟩
  exact ⟨[groupMark "b" "", endMark], ⟨_, 2⟩, by rfl, rfl⟩

end Cursor

end Survey

end Questionnaire
