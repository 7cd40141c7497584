import Questionnaire.Proofs.Survey.Stretches
import Questionnaire.Survey.Typing

/-!
# Stops on a Survey

A survey is a flat list, and what is said about the place of a row in it is said
through a walk with a stack: every mark that opens a group puts the place of the
group on the stack, and every mark that closes one takes the last place off.
The walk notes an `Entry` for every row that makes a node.

A `Stop` is an entry with the slide that a loose question stands on. The slide is
computed along the way by the counter of the wrapper. That two loose questions
share a slide if and only if no group begins between them is a fact about this
counter alone: while a stretch is open it stays, and after a mark has ended the
stretch all later slides are new ones. It is stated with the number of groups
that begin before a stop, since these numbers can be compared without saying
which of the two stops comes first.

Where the rows before a stop are balanced, or belong to one stretch, their stops do
not depend on what follows. That is what lets a tree be compared with the stops
piece by piece.

## Main definitions

* `Entry`, `entries`: What the walk over a survey notes.
* `Stop`, `stopsFrom`: The same with slides.
* `begins`: How many groups begin in rows.
* `Understood`: Rows of types that are understood.

## Theorems

* `map_entry_stopsFrom`: The walk over a survey is a map of the stops.
* `agreeOnSlide_of_mem`: When two stops share a slide.
* `stopsFrom_append_inside`, `stopsFrom_append_stretch`: Stops of rows one after another.
* `stopsFrom_block`: The stops of a group and of what follows it.
* `slide_isSome_iff`: The stops with a slide are the questions outside all groups.
-/

namespace Questionnaire

namespace Survey

/-! ### The walk over a survey -/

/-- What a walk over a survey notes of a row that makes a node. -/
structure Entry where
  row : Row
  /-- The rows before it. -/
  before : List Row
  /-- The places on the walk of the groups that are open, outermost first. -/
  opened : List Nat

/-- The walk over rows, after the rows `before`, with some groups open. `place` is the
    place of the next entry. Rows that close a group and data about the interview
    make no node. -/
def entriesFrom (before : List Row) (opened : List Nat) (place : Nat) : List Row → List Entry
  | [] => []
  | r :: rest =>
    if r.kind.isBegin then
      ⟨r, before, opened⟩ :: entriesFrom (before ++ [r]) (opened ++ [place]) (place + 1) rest
    else if r.kind.isEnd then entriesFrom (before ++ [r]) opened.dropLast place rest
    else if r.kind = .metadata then entriesFrom (before ++ [r]) opened place rest
    else ⟨r, before, opened⟩ :: entriesFrom (before ++ [r]) opened (place + 1) rest

/-- The walk over a survey. -/
def entries (survey : List Row) : List Entry :=
  entriesFrom [] [] 0 survey

/-- A row that makes a node, with what either walk notes of it. -/
structure Stop where
  row : Row
  before : List Row
  opened : List Nat
  slide : Option Nat

/-- What the walk over the survey notes of a stop. -/
def Stop.entry (s : Stop) : Entry :=
  ⟨s.row, s.before, s.opened⟩

/-- The stops of rows, with the number of slides put in so far, and whether a stretch is
    open. -/
def stopsFrom (before : List Row) (opened : List Nat) (place slides : Nat) (inStretch : Bool) :
    List Row → List Stop
  | [] => []
  | r :: rest =>
    if r.kind.isBegin then
      ⟨r, before, opened, none⟩ ::
        stopsFrom (before ++ [r]) (opened ++ [place]) (place + 1) slides false rest
    else if r.kind.isEnd then
      stopsFrom (before ++ [r]) opened.dropLast place slides inStretch rest
    else if r.kind = .metadata then
      stopsFrom (before ++ [r]) opened place slides inStretch rest
    else if opened = [] then
      let begun := if inStretch then slides else slides + 1
      ⟨r, before, [], some (begun - 1)⟩ ::
        stopsFrom (before ++ [r]) [] (place + 1) begun true rest
    else ⟨r, before, opened, none⟩ ::
      stopsFrom (before ++ [r]) opened (place + 1) slides inStretch rest

section Equations

variable (before : List Row) (opened : List Nat) (place slides : Nat) (inStretch : Bool)
  {r : Row} (rest : List Row)

theorem stopsFrom_begin (hbegin : r.kind.isBegin = true) :
    stopsFrom before opened place slides inStretch (r :: rest) =
      ⟨r, before, opened, none⟩ ::
        stopsFrom (before ++ [r]) (opened ++ [place]) (place + 1) slides false rest := by
  rw [stopsFrom, if_pos hbegin]

theorem stopsFrom_end (hbegin : r.kind.isBegin = false) (hend : r.kind.isEnd = true) :
    stopsFrom before opened place slides inStretch (r :: rest) =
      stopsFrom (before ++ [r]) opened.dropLast place slides inStretch rest := by
  rw [stopsFrom, if_neg (Bool.eq_false_iff.1 hbegin), if_pos hend]

theorem stopsFrom_metadata (hkind : r.kind = .metadata) :
    stopsFrom before opened place slides inStretch (r :: rest) =
      stopsFrom (before ++ [r]) opened place slides inStretch rest := by
  rw [stopsFrom, if_pos hkind, hkind]
  rfl

theorem stopsFrom_loose (hplain : IsPlain r) (hkind : r.kind ≠ .metadata) :
    stopsFrom before [] place slides inStretch (r :: rest) =
      ⟨r, before, [], some ((if inStretch then slides else slides + 1) - 1)⟩ ::
        stopsFrom (before ++ [r]) [] (place + 1) (if inStretch then slides else slides + 1) true
          rest := by
  rw [stopsFrom, if_neg (Bool.eq_false_iff.1 hplain.1), if_neg (Bool.eq_false_iff.1 hplain.2),
    if_neg hkind, if_pos rfl]

theorem stopsFrom_inside (hplain : IsPlain r) (hkind : r.kind ≠ .metadata) (hopened : opened ≠ []) :
    stopsFrom before opened place slides inStretch (r :: rest) =
      ⟨r, before, opened, none⟩ ::
        stopsFrom (before ++ [r]) opened (place + 1) slides inStretch rest := by
  rw [stopsFrom, if_neg (Bool.eq_false_iff.1 hplain.1), if_neg (Bool.eq_false_iff.1 hplain.2),
    if_neg hkind, if_neg hopened]

end Equations

theorem map_entry_stopsFrom (before : List Row) (opened : List Nat) (place slides : Nat)
    (inStretch : Bool) (rows : List Row) :
    (stopsFrom before opened place slides inStretch rows).map Stop.entry =
      entriesFrom before opened place rows := by
  fun_induction stopsFrom before opened place slides inStretch rows with
  | case1 before opened place slides inStretch => rfl
  | case2 before opened place slides inStretch r rest hbegin ih =>
      rw [entriesFrom, if_pos hbegin, List.map_cons, ih]
      rfl
  | case3 before opened place slides inStretch r rest hbegin hend ih =>
      rw [entriesFrom, if_neg hbegin, if_pos hend, ih]
  | case4 before opened place slides inStretch r rest hbegin hend hkind ih =>
      rw [entriesFrom, if_neg hbegin, if_neg hend, if_pos hkind, ih]
  | case5 before place slides inStretch r rest hbegin hend hkind begun ih =>
      rw [entriesFrom, if_neg hbegin, if_neg hend, if_neg hkind, List.map_cons, ih]
      rfl
  | case6 before opened place slides inStretch r rest hbegin hend hkind _ ih =>
      rw [entriesFrom, if_neg hbegin, if_neg hend, if_neg hkind, List.map_cons, ih]
      rfl

/-! ### The counter of the slides -/

/-- How many groups begin in rows. -/
def begins (rows : List Row) : Nat :=
  rows.countP fun r => r.kind.isBegin

theorem begins_append_begin {before : List Row} {r : Row} (hbegin : r.kind.isBegin = true) :
    begins (before ++ [r]) = begins before + 1 := by
  rw [begins, List.countP_append, List.countP_singleton, if_pos hbegin]
  rfl

theorem begins_append_other {before : List Row} {r : Row} (hbegin : ¬ r.kind.isBegin = true) :
    begins (before ++ [r]) = begins before := by
  rw [begins, List.countP_append, List.countP_singleton, if_neg hbegin]
  rfl

theorem begins_append_eq_iff (before between : List Row) :
    begins before = begins (before ++ between) ↔ ∀ r ∈ between, r.kind.isBegin = false := by
  rw [begins, begins, List.countP_append]
  constructor
  · intro h r hr
    -- The rows between add nothing to the count.
    have hzero : between.countP (fun r => r.kind.isBegin) = 0 := by omega
    exact Bool.eq_false_iff.2 (List.countP_eq_zero.1 hzero r hr)
  · intro h
    have hzero : between.countP (fun r => r.kind.isBegin) = 0 :=
      List.countP_eq_zero.2 fun r hr => Bool.eq_false_iff.1 (h r hr)
    omega

/-- Neither the slides nor the marks that open groups get fewer on the way. -/
theorem le_of_mem_stopsFrom {before : List Row} {opened : List Nat} {place slides : Nat}
    {inStretch : Bool} {rows : List Row} {s : Stop} {k : Nat}
    (h : s ∈ stopsFrom before opened place slides inStretch rows) (hk : s.slide = some k) :
    begins before ≤ begins s.before ∧ (if inStretch then slides - 1 else slides) ≤ k := by
  fun_induction stopsFrom before opened place slides inStretch rows with
  | case1 before opened place slides inStretch => cases h
  | case2 before opened place slides inStretch r rest hbegin ih =>
      rcases List.mem_cons.1 h with rfl | h
      · cases hk
      -- A group begins: no stretch is open behind its mark, and one mark more has passed.
      · have hrest := ih h
        rw [begins_append_begin hbegin, if_neg Bool.false_ne_true] at hrest
        split <;> omega
  | case3 before opened place slides inStretch r rest hbegin _ ih =>
      rw [← begins_append_other hbegin]
      exact ih h
  | case4 before opened place slides inStretch r rest hbegin _ _ ih =>
      rw [← begins_append_other hbegin]
      exact ih h
  | case5 before place slides inStretch r rest hbegin _ _ begun ih =>
      -- A loose question begins a slide or continues the one that is open.
      have hbegun : (if inStretch then slides - 1 else slides) ≤ begun - 1 := by
        unfold begun
        split <;> omega
      rcases List.mem_cons.1 h with rfl | h
      · cases hk
        exact ⟨Nat.le_refl _, hbegun⟩
      · have hrest := ih h
        rw [begins_append_other hbegin, if_pos rfl] at hrest
        omega
  | case6 before opened place slides inStretch r rest hbegin _ _ _ ih =>
      rcases List.mem_cons.1 h with rfl | h
      · cases hk
      · rw [← begins_append_other hbegin]
        exact ih h

/-- While a stretch is open, its slide is that of all later stops before the next group
    and of no others. -/
theorem slide_eq_iff_of_inStretch {before : List Row} {opened : List Nat}
    {place slides slide : Nat} {inStretch : Bool} {rows : List Row} {s : Stop} {k : Nat}
    (hslides : slides = slide + 1) (hstretch : inStretch = true)
    (h : s ∈ stopsFrom before opened place slides inStretch rows) (hk : s.slide = some k) :
    slide = k ↔ begins before = begins s.before := by
  fun_induction stopsFrom before opened place slides inStretch rows with
  | case1 before opened place slides inStretch => cases h
  | case2 before opened place slides inStretch r rest hbegin ih =>
      -- The group ends the stretch: later slides are new, and later stops come after it.
      rcases List.mem_cons.1 h with rfl | h
      · cases hk
      · have hlater := le_of_mem_stopsFrom h hk
        rw [begins_append_begin hbegin, if_neg Bool.false_ne_true] at hlater
        omega
  | case3 before opened place slides inStretch r rest hbegin _ ih =>
      rw [← begins_append_other hbegin]
      exact ih hslides hstretch h
  | case4 before opened place slides inStretch r rest hbegin _ _ ih =>
      rw [← begins_append_other hbegin]
      exact ih hslides hstretch h
  | case5 before place slides inStretch r rest hbegin _ _ begun ih =>
      have hbegun : begun = slide + 1 := by
        unfold begun
        rw [if_pos hstretch, hslides]
      rcases List.mem_cons.1 h with rfl | h
      · cases hk
        rw [hbegun, Nat.add_sub_cancel]
        exact iff_of_true rfl rfl
      · rw [← begins_append_other hbegin]
        exact ih hbegun rfl h
  | case6 before opened place slides inStretch r rest hbegin _ _ _ ih =>
      rcases List.mem_cons.1 h with rfl | h
      · cases hk
      · rw [← begins_append_other hbegin]
        exact ih hslides hstretch h

/-- Two stops with slides, of which as many groups begin before one as before the other if
    and only if the slides are the same. -/
def AgreeOnSlide (s t : Stop) : Prop :=
  ∀ k l, s.slide = some k → t.slide = some l → (k = l ↔ begins s.before = begins t.before)

namespace AgreeOnSlide

theorem refl (s : Stop) : AgreeOnSlide s s := by
  intro k l hk hl
  rw [hk] at hl
  cases hl
  exact iff_of_true rfl rfl

theorem symm {s t : Stop} (h : AgreeOnSlide s t) : AgreeOnSlide t s := by
  intro k l hk hl
  rw [eq_comm, h l k hl hk]
  exact eq_comm

end AgreeOnSlide

/-- A stop agrees with all later ones. Where a stretch is open, a slide has been put in for
    it, so the counter is not zero. -/
theorem pairwise_agreeOnSlide (before : List Row) (opened : List Nat) (place slides : Nat)
    (inStretch : Bool) (hslides : inStretch = true → 0 < slides) (rows : List Row) :
    (stopsFrom before opened place slides inStretch rows).Pairwise AgreeOnSlide := by
  fun_induction stopsFrom before opened place slides inStretch rows with
  | case1 before opened place slides inStretch => exact .nil
  | case2 before opened place slides inStretch r rest _ ih =>
      refine .cons ?_ (ih fun h => absurd h Bool.false_ne_true)
      intro t _ k l hk
      cases hk
  | case3 before opened place slides inStretch r rest _ _ ih => exact ih hslides
  | case4 before opened place slides inStretch r rest _ _ _ ih => exact ih hslides
  | case5 before place slides inStretch r rest hbegin _ _ begun ih =>
      have hpos : 0 < begun := by
        unfold begun
        split
        · rename_i hstretch
          exact hslides hstretch
        · omega
      refine .cons ?_ (ih fun _ => hpos)
      intro t ht k l hk hl
      cases hk
      have hbegun : begun = begun - 1 + 1 := by omega
      rw [slide_eq_iff_of_inStretch hbegun rfl ht hl, begins_append_other hbegin]
  | case6 before opened place slides inStretch r rest _ _ _ _ ih =>
      refine .cons ?_ (ih hslides)
      intro t _ k l hk
      cases hk

/-- When two stops share a slide, in whichever order they come. -/
theorem agreeOnSlide_of_mem {survey : List Row} {s t : Stop}
    (hs : s ∈ stopsFrom [] [] 0 0 false survey) (ht : t ∈ stopsFrom [] [] 0 0 false survey) :
    AgreeOnSlide s t := by
  -- To agree on a slide is symmetric, so the order of the two does not matter.
  have hpairs := pairwise_agreeOnSlide [] [] 0 0 false (by decide) survey
  exact hpairs.forall_of_forall_of_flip (fun s _ => .refl s) (hpairs.imp .symm) hs ht

/-! ### Stops of rows one after another -/

/-- A group and what follows it. The hypothesis is that the stops of what the group holds
    do not depend on what follows them. -/
theorem stopsFrom_block_of_append {opening closing : Row} {inner : List Row}
    (hcloses : closing.kind.closes opening.kind = true) {before : List Row} {opened : List Nat}
    {place slides : Nat} {stops : List Stop}
    (hinner : ∀ rest, stopsFrom (before ++ [opening]) (opened ++ [place]) (place + 1) slides false
        (inner ++ rest) =
      stops ++ stopsFrom (before ++ [opening] ++ inner) (opened ++ [place])
        (place + 1 + stops.length) slides false rest)
    (inStretch : Bool) (rest : List Row) :
    stopsFrom before opened place slides inStretch (opening :: (inner ++ closing :: rest)) =
      ⟨opening, before, opened, none⟩ ::
        (stops ++ stopsFrom (before ++ opening :: (inner ++ [closing])) opened
          (place + (stops.length + 1)) slides false rest) := by
  have hplace : place + 1 + stops.length = place + (stops.length + 1) := by omega
  have hbefore : before ++ [opening] ++ inner ++ [closing] =
      before ++ opening :: (inner ++ [closing]) := by
    simp only [List.append_assoc, List.cons_append, List.nil_append]
  rw [stopsFrom_begin _ _ _ _ _ _ (RowKind.isBegin_of_closes hcloses), hinner,
    stopsFrom_end _ _ _ _ _ _ (RowKind.not_isBegin_of_closes hcloses)
      (RowKind.isEnd_of_closes hcloses), List.dropLast_concat, hbefore, hplace]

/-- Inside a group, the stops of balanced rows do not depend on what follows them. -/
theorem stopsFrom_append_inside {rows : List Row} (h : Balanced rows) (before : List Row)
    {opened : List Nat} (hopened : opened ≠ []) (place slides : Nat) (rest : List Row) :
    stopsFrom before opened place slides false (rows ++ rest) =
      stopsFrom before opened place slides false rows ++
        stopsFrom (before ++ rows) opened
          (place + (stopsFrom before opened place slides false rows).length) slides false
          rest := by
  induction h generalizing before opened place rest with
  | nil =>
      rw [stopsFrom, List.nil_append, List.nil_append, List.append_nil]
      rfl
  | @row r rows hbegin hend _ ih =>
      have hbefore : before ++ r :: rows = before ++ [r] ++ rows := by
        rw [List.append_assoc, List.singleton_append]
      rw [List.cons_append, hbefore]
      by_cases hkind : r.kind = .metadata
      · rw [stopsFrom_metadata _ _ _ _ _ _ hkind, stopsFrom_metadata _ _ _ _ _ _ hkind,
          ih _ hopened]
      · rw [stopsFrom_inside _ _ _ _ _ _ ⟨hbegin, hend⟩ hkind hopened,
          stopsFrom_inside _ _ _ _ _ _ ⟨hbegin, hend⟩ hkind hopened, ih _ hopened,
          List.cons_append, List.length_cons, Nat.add_right_comm, Nat.add_assoc]
  | @block opening closing inner after hcloses _ _ ihInner ihAfter =>
      -- Inside the group one place more is on the stack, so the stack is not empty there.
      have hinner := ihInner (before ++ [opening]) (List.concat_ne_nil place opened) (place + 1)
      have hbefore : before ++ opening :: (inner ++ closing :: after) =
          before ++ opening :: (inner ++ [closing]) ++ after := by
        simp only [List.append_assoc, List.cons_append, List.nil_append]
      rw [List.cons_append, List.append_assoc, List.cons_append,
        stopsFrom_block_of_append hcloses hinner, stopsFrom_block_of_append hcloses hinner,
        ihAfter _ hopened, hbefore]
      simp only [List.cons_append, List.append_assoc, List.length_cons, List.length_append]
      congr 4
      omega

theorem stopsFrom_block {opening closing : Row} {inner : List Row}
    (hcloses : closing.kind.closes opening.kind = true) (hinner : Balanced inner)
    (before : List Row) (opened : List Nat) (place slides : Nat) (inStretch : Bool)
    (rest : List Row) :
    stopsFrom before opened place slides inStretch (opening :: (inner ++ closing :: rest)) =
      ⟨opening, before, opened, none⟩ ::
        (stopsFrom (before ++ [opening]) (opened ++ [place]) (place + 1) slides false inner ++
          stopsFrom (before ++ opening :: (inner ++ [closing])) opened
            (place + ((stopsFrom (before ++ [opening]) (opened ++ [place]) (place + 1) slides
              false inner).length + 1)) slides false rest) :=
  stopsFrom_block_of_append hcloses
    (stopsFrom_append_inside hinner _ (List.concat_ne_nil place opened) _ _) inStretch rest

theorem stopsFrom_append_stretch {rows : List Row} (hplain : ∀ r ∈ rows, IsPlain r)
    (before : List Row) (place slide : Nat) (rest : List Row) :
    stopsFrom before [] place (slide + 1) true (rows ++ rest) =
      stopsFrom before [] place (slide + 1) true rows ++
        stopsFrom (before ++ rows) []
          (place + (stopsFrom before [] place (slide + 1) true rows).length) (slide + 1) true
          rest := by
  induction rows generalizing before place with
  | nil =>
      rw [stopsFrom, List.nil_append, List.nil_append, List.append_nil]
      rfl
  | cons r rows ih =>
      have hr := hplain r List.mem_cons_self
      have hrows := ih fun r' hr' => hplain r' (List.mem_cons_of_mem _ hr')
      have hbefore : before ++ r :: rows = before ++ [r] ++ rows := by
        rw [List.append_assoc, List.singleton_append]
      rw [List.cons_append, hbefore]
      by_cases hkind : r.kind = .metadata
      · rw [stopsFrom_metadata _ _ _ _ _ _ hkind, stopsFrom_metadata _ _ _ _ _ _ hkind, hrows]
      · rw [stopsFrom_loose _ _ _ _ _ hr hkind, stopsFrom_loose _ _ _ _ _ hr hkind]
        simp only [if_true]
        rw [hrows, List.cons_append, List.length_cons, Nat.add_right_comm, Nat.add_assoc]

/-- Where a group begins or the survey ends, it does not matter whether a stretch is
    open. -/
theorem stopsFrom_after_stretch {after : List Row}
    (hafter : ∀ r ∈ after.head?, r.kind.isBegin = true) (before : List Row)
    (opened : List Nat) (place slides : Nat) :
    stopsFrom before opened place slides true after =
      stopsFrom before opened place slides false after := by
  cases after with
  | nil => rfl
  | cons r rest =>
      have hbegin : r.kind.isBegin = true := hafter r rfl
      rw [stopsFrom_begin _ _ _ _ _ _ hbegin, stopsFrom_begin _ _ _ _ _ _ hbegin]

/-! ### Rows of types that are understood -/

/-- Rows of types that are understood. -/
def Understood (rows : List Row) : Prop :=
  ∀ r ∈ rows, r.kind.fault r.type = none

namespace Understood

theorem head {r : Row} {rest : List Row} (h : Understood (r :: rest)) :
    r.kind.fault r.type = none :=
  h r List.mem_cons_self

theorem tail {r : Row} {rest : List Row} (h : Understood (r :: rest)) : Understood rest :=
  fun r' hr' => h r' (List.mem_cons_of_mem _ hr')

theorem left {before after : List Row} (h : Understood (before ++ after)) : Understood before :=
  fun r hr => h r (List.mem_append_left _ hr)

theorem right {before after : List Row} (h : Understood (before ++ after)) : Understood after :=
  fun r hr => h r (List.mem_append_right _ hr)

end Understood

theorem understood_of_checkTypes {survey : List Row} (h : checkTypes survey = .ok ()) :
    Understood survey := by
  intro r hr
  induction survey with
  | nil => cases hr
  | cons r' rest ih =>
      rw [checkTypes] at h
      split at h
      · cases h
      · rename_i hfault
        rcases List.mem_cons.1 hr with rfl | hr
        · exact hfault
        · exact ih h hr

theorem isQuestion_of_understood {r : Row} (h : r.kind.fault r.type = none) (hplain : IsPlain r)
    (hkind : r.kind ≠ .metadata) : r.kind.isQuestion = true := by
  rcases hplain with ⟨hbegin, hend⟩
  cases hk : r.kind with
  | question kind => rfl
  | select several list => rfl
  | metadata => exact absurd hk hkind
  | beginGroup =>
      rw [hk] at hbegin
      cases hbegin
  | beginRepeat =>
      rw [hk] at hbegin
      cases hbegin
  | endGroup =>
      rw [hk] at hend
      cases hend
  | endRepeat =>
      rw [hk] at hend
      cases hend
  | unsupported =>
      rw [hk] at h
      cases h
  | empty =>
      rw [hk] at h
      cases h
  | unknown =>
      rw [hk] at h
      cases h

/-- The stops on slides that were put in are the questions outside all groups. -/
theorem slide_isSome_iff {before : List Row} {opened : List Nat} {place slides : Nat}
    {inStretch : Bool} {rows : List Row} (hu : Understood rows) {s : Stop}
    (h : s ∈ stopsFrom before opened place slides inStretch rows) :
    s.slide.isSome = true ↔ s.row.kind.isQuestion = true ∧ s.opened = [] := by
  fun_induction stopsFrom before opened place slides inStretch rows with
  | case1 before opened place slides inStretch => cases h
  | case2 before opened place slides inStretch r rest hbegin ih =>
      rcases List.mem_cons.1 h with rfl | h
      · -- A mark has no slide and is no question.
        have hother : r.kind.isQuestion = false := by
          cases hk : r.kind with
          | beginGroup => rfl
          | beginRepeat => rfl
          | _ =>
              rw [hk] at hbegin
              cases hbegin
        simp [hother]
      · exact ih hu.tail h
  | case3 before opened place slides inStretch r rest _ _ ih => exact ih hu.tail h
  | case4 before opened place slides inStretch r rest _ _ _ ih => exact ih hu.tail h
  | case5 before place slides inStretch r rest hbegin hend hkind begun ih =>
      rcases List.mem_cons.1 h with rfl | h
      · have hplain : IsPlain r := ⟨Bool.eq_false_iff.2 hbegin, Bool.eq_false_iff.2 hend⟩
        exact iff_of_true rfl ⟨isQuestion_of_understood hu.head hplain hkind, rfl⟩
      · exact ih hu.tail h
  | case6 before opened place slides inStretch r rest _ _ _ hopened ih =>
      rcases List.mem_cons.1 h with rfl | h
      · simp [hopened]
      · exact ih hu.tail h

end Survey

end Questionnaire
