import Questionnaire.Proofs.Survey.Balanced
import Questionnaire.Survey.Slides

/-!
# Stretches of a Balanced Survey

How a balanced survey is divided into slides. The wrapper walks over the rows with
a counter of open groups and a flag that says whether a stretch of loose questions
is open. On the inside of a group neither does anything: the rows are passed on
as they are. So all that it does can be said on the outermost level, and there a
survey is a sequence of three kinds of pieces: a row of data about the
interview, a group with its marks, or a stretch. `Outermost` is the induction
principle for these pieces, and there is one equation for each of them.

A stretch takes in everything up to the next group, data about the interview
included, which is why it cannot be read off the rows one at a time: whether such
a row belongs to one depends on what came before it.

The counter of the wrapper is a natural number, and lowering it at zero would be
a mistake. `wrapStrictlyFrom` is the wrapper with that step refused. On a
survey that passes the check the two agree, because the counter is the height
of the check's stack.

## Main definitions

* `Outermost`: The pieces of a balanced survey.
* `wrapStrictlyFrom`: The wrapper with a counter that is never lowered at zero.

## Theorems

* `Balanced.outermost`: A balanced survey is made of such pieces.
* `wrapLooseFrom_append`: Inside a group nothing is put in.
* `wrapLooseFrom_block`: A group is kept as it is.
* `wrapLooseFrom_stretch`: A stretch is put into a group.
* `Balanced.wrapLoose`: A divided survey is balanced again.
* `Item.ofRows_wrapped_metadata`, `Item.ofRows_wrapped_block`, `Item.ofRows_wrapped_stretch`: Its
  items are those of the pieces.
* `wrapStrictlyFrom_of_checkBalanceFrom`: The counter is not lowered at zero.
-/

namespace Questionnaire

namespace Survey

/-! ### Pieces of the outermost level -/

/-- Whether a row is no mark of a group. -/
def IsPlain (r : Row) : Prop :=
  r.kind.isBegin = false ∧ r.kind.isEnd = false

/-- The pieces of a balanced survey, from the front. -/
inductive Outermost : List Row → Prop
  | nil : Outermost []
  /-- Data about the interview, outside all stretches. -/
  | metadata {r : Row} {rest : List Row} (hkind : r.kind = .metadata)
      (hrest : Outermost rest) : Outermost (r :: rest)
  | block {opening closing : Row} {inner rest : List Row}
      (hcloses : closing.kind.closes opening.kind = true) (hinner : Balanced inner)
      (hrest : Outermost rest) : Outermost (opening :: (inner ++ closing :: rest))
  /-- A stretch: its first row, the rows up to the next group, and those after. -/
  | stretch {first : Row} {more after : List Row} (hfirst : IsPlain first)
      (hkind : first.kind ≠ .metadata) (hmore : ∀ r ∈ more, IsPlain r)
      (hafter : ∀ r ∈ after.head?, r.kind.isBegin = true) (hrest : Outermost after) :
      Outermost (first :: (more ++ after))

/-- A balanced survey is made of pieces. A row in front may open a stretch that
    reaches into the rest, so the induction also carries how far it would. -/
theorem Balanced.outermost {rows : List Row} (h : Balanced rows) : Outermost rows := by
  have both : Outermost rows ∧ ∃ more after, rows = more ++ after ∧ (∀ r ∈ more, IsPlain r) ∧
      (∀ r ∈ after.head?, r.kind.isBegin = true) ∧ Outermost after := by
    induction h with
    | nil =>
        refine ⟨.nil, [], [], rfl, ?_, ?_, .nil⟩
        · intro r hr
          cases hr
        · intro r hr
          cases hr
    | @row r rest hbegin hend _ ih =>
        rcases ih with ⟨hrest, more, after, rfl, hmore, hafter, hout⟩
        refine ⟨?_, r :: more, after, rfl, ?_, hafter, hout⟩
        -- Data about the interview stays outside; anything else takes in what would follow it.
        · by_cases hkind : r.kind = .metadata
          · exact .metadata hkind hrest
          · exact .stretch ⟨hbegin, hend⟩ hkind hmore hafter hout
        · intro r' hr'
          rcases List.mem_cons.1 hr' with rfl | hr'
          · exact ⟨hbegin, hend⟩
          · exact hmore r' hr'
    | @block opening closing inner rest hcloses hinner _ _ ih =>
        -- A stretch in front of a group would end at once.
        have hpiece := Outermost.block hcloses hinner ih.1
        refine ⟨hpiece, [], _, rfl, ?_, ?_, hpiece⟩
        · intro r hr
          cases hr
        · intro r hr
          cases hr
          exact RowKind.isBegin_of_closes hcloses
  exact both.1

theorem balanced_of_isPlain {rows : List Row} (h : ∀ r ∈ rows, IsPlain r) : Balanced rows := by
  induction rows with
  | nil => exact .nil
  | cons r rest ih =>
      have hr := h r List.mem_cons_self
      exact .row hr.1 hr.2 (ih fun r' hr' => h r' (List.mem_cons_of_mem _ hr'))

/-! ### The wrapper on each piece -/

theorem wrapLooseFrom_append {rows : List Row} (h : Balanced rows) (depth slides : Nat)
    (rest : List Row) :
    wrapLooseFrom (depth + 1) slides false (rows ++ rest) =
      rows ++ wrapLooseFrom (depth + 1) slides false rest := by
  induction h generalizing depth rest with
  | nil => rfl
  | row hbegin hend _ ih =>
      rw [List.cons_append, wrapLooseFrom]
      simp only [hbegin, hend, ih, Nat.succ_ne_zero, decide_false, Bool.false_and,
        Bool.false_eq_true, if_false, List.cons_append]
  | @block opening closing inner after hcloses _ _ ihInner ihAfter =>
      have hopen := RowKind.isBegin_of_closes hcloses
      have hbegin := RowKind.not_isBegin_of_closes hcloses
      have hend := RowKind.isEnd_of_closes hcloses
      rw [List.cons_append, List.append_assoc, wrapLooseFrom]
      simp only [hopen, if_true, ihInner, Bool.false_eq_true, if_false, List.nil_append]
      -- The closing mark takes the depth back to where it was.
      rw [List.cons_append, wrapLooseFrom]
      simp only [hbegin, hend, ihAfter, Bool.false_eq_true, if_false, if_true,
        Nat.add_sub_cancel, List.cons_append, List.append_assoc]

/-- A group of the outermost level is kept. If a stretch is open, it ends there. -/
theorem wrapLooseFrom_block {opening closing : Row} {inner : List Row}
    (hcloses : closing.kind.closes opening.kind = true) (hinner : Balanced inner)
    (slides : Nat) (inStretch : Bool) (rest : List Row) :
    wrapLooseFrom 0 slides inStretch (opening :: (inner ++ closing :: rest)) =
      (if inStretch then [endMark] else []) ++
        opening :: (inner ++ closing :: wrapLooseFrom 0 slides false rest) := by
  have hopen := RowKind.isBegin_of_closes hcloses
  have hbegin := RowKind.not_isBegin_of_closes hcloses
  have hend := RowKind.isEnd_of_closes hcloses
  rw [wrapLooseFrom, if_pos hopen, wrapLooseFrom_append hinner]
  -- At depth one the group has passed unchanged, and its end leads back to depth zero.
  rw [wrapLooseFrom]
  simp only [hbegin, hend, Bool.false_eq_true, if_false, if_true, Nat.add_sub_cancel]

theorem wrapLooseFrom_metadata {r : Row} (hkind : r.kind = .metadata) (slides : Nat)
    (rest : List Row) :
    wrapLooseFrom 0 slides false (r :: rest) = r :: wrapLooseFrom 0 slides false rest := by
  rw [wrapLooseFrom, hkind]
  rfl

/-- An open stretch goes on to the next group, or to the end of the survey. -/
theorem wrapLooseFrom_more {more after : List Row} (hmore : ∀ r ∈ more, IsPlain r)
    (hafter : ∀ r ∈ after.head?, r.kind.isBegin = true) (slides : Nat) :
    wrapLooseFrom 0 slides true (more ++ after) =
      more ++ endMark :: wrapLooseFrom 0 slides false after := by
  induction more with
  | nil =>
      cases after with
      | nil => rfl
      | cons r rest =>
          have hbegin : r.kind.isBegin = true := hafter r rfl
          -- The group that begins here ends the stretch.
          rw [List.nil_append, List.nil_append, wrapLooseFrom, wrapLooseFrom]
          simp only [hbegin, if_true, Bool.false_eq_true, if_false, List.nil_append,
            List.cons_append]
  | cons r rest ih =>
      have hr := hmore r List.mem_cons_self
      rw [List.cons_append, wrapLooseFrom]
      simp only [hr.1, hr.2, Bool.not_true, Bool.and_false, Bool.false_and,
        Bool.false_eq_true, if_false, List.cons_append]
      rw [ih fun r' hr' => hmore r' (List.mem_cons_of_mem _ hr')]

theorem wrapLooseFrom_stretch {first : Row} {more after : List Row} (hfirst : IsPlain first)
    (hkind : first.kind ≠ .metadata) (hmore : ∀ r ∈ more, IsPlain r)
    (hafter : ∀ r ∈ after.head?, r.kind.isBegin = true) (slides : Nat) :
    wrapLooseFrom 0 slides false (first :: (more ++ after)) =
      slideMark slides ::
        (first :: more ++ endMark :: wrapLooseFrom 0 (slides + 1) false after) := by
  rw [wrapLooseFrom]
  simp only [hfirst.1, hfirst.2, bne_iff_ne.2 hkind, decide_true, Bool.not_false,
    Bool.and_self, Bool.false_eq_true, if_false, if_true]
  rw [wrapLooseFrom_more hmore hafter, List.cons_append]

/-! ### The marks put in -/

theorem get?_groupMark (name label : String) (c : Column) :
    (groupMark name label).cells.get? c =
      if c = ⟨"label", ""⟩ then (if label = "" then none else some label)
      else if c = ⟨"name", ""⟩ then (if name = "" then none else some name)
      else if c = ⟨"type", ""⟩ then some "begin group" else none := by
  have hblank : (Row.blank 0).cells.get? c = none := rfl
  have htype : Column.ofHeader "type" = ⟨"type", ""⟩ := rfl
  have hname : Column.ofHeader "name" = ⟨"name", ""⟩ := rfl
  have hlabel : Column.ofHeader "label" = ⟨"label", ""⟩ := rfl
  simp only [groupMark, Row.ofCells, List.foldl_cons, List.foldl_nil, Row.get?_set, htype,
    hname, hlabel, Std.LawfulEqCmp.compare_eq_iff_eq, hblank]
  rfl

theorem name_groupMark (name label : String) : (groupMark name label).name = name := by
  simp only [Row.name, Row.text, Row.textIn, get?_groupMark]
  by_cases h : name = ""
  · simp [h, Column.fallbackLanguage]
  · simp [h]

theorem kind_groupMark (name label : String) : (groupMark name label).kind = .beginGroup := by
  have htype : (groupMark name label).type = "begin group" := by
    simp [Row.type, Row.text, Row.textIn, get?_groupMark]
  rw [Row.kind, htype]
  rfl

theorem line_groupMark (name label : String) : (groupMark name label).line = 0 := by
  have hset : ∀ (r : Row) (header value : String), (r.set header value).line = r.line := by
    intro r header value
    rw [Row.set, Row.setColumn]
    split <;> rfl
  simp only [groupMark, Row.ofCells, List.foldl_cons, List.foldl_nil, hset]
  rfl

theorem kind_slideMark (n : Nat) : (slideMark n).kind = .beginGroup := by
  cases n <;> exact kind_groupMark _ _

theorem kind_endMark : endMark.kind = .endGroup := by
  rfl

theorem endMark_closes_slideMark (n : Nat) :
    endMark.kind.closes (slideMark n).kind = true := by
  rw [kind_endMark, kind_slideMark]
  rfl

theorem endMark_closes_groupMark (name label : String) :
    endMark.kind.closes (groupMark name label).kind = true := by
  rw [kind_endMark, kind_groupMark]
  rfl

theorem Outermost.balanced_wrapLooseFrom {rows : List Row} (h : Outermost rows) (slides : Nat) :
    Balanced (wrapLooseFrom 0 slides false rows) := by
  induction h generalizing slides with
  | nil => exact .nil
  | metadata hkind _ ih =>
      rw [wrapLooseFrom_metadata hkind]
      exact .row (by rw [hkind]; rfl) (by rw [hkind]; rfl) (ih slides)
  | block hcloses hinner _ ih =>
      rw [wrapLooseFrom_block hcloses hinner]
      exact .block hcloses hinner (ih slides)
  | stretch hfirst hkind hmore hafter _ ih =>
      -- A stretch has become a group, with one slide more for those after it.
      rw [wrapLooseFrom_stretch hfirst hkind hmore hafter]
      exact .block (endMark_closes_slideMark slides)
        (.row hfirst.1 hfirst.2 (balanced_of_isPlain hmore)) (ih (slides + 1))

theorem Balanced.wrapLoose {survey : List Row} (h : Balanced survey) :
    Balanced (wrapLoose survey) :=
  h.outermost.balanced_wrapLooseFrom 0

/-! ### The items of a divided survey, piece by piece -/

namespace Item

theorem ofRows_wrapped_nil (slides : Nat) : ofRows (wrapLooseFrom 0 slides false []) = [] := by
  rw [wrapLooseFrom, if_neg Bool.false_ne_true, ofRows]

theorem ofRows_wrapped_metadata {r : Row} (hkind : r.kind = .metadata) (slides : Nat)
    (rest : List Row) :
    ofRows (wrapLooseFrom 0 slides false (r :: rest)) =
      .row r :: ofRows (wrapLooseFrom 0 slides false rest) := by
  rw [wrapLooseFrom_metadata hkind, ofRows_row (by rw [hkind]; rfl) (by rw [hkind]; rfl)]

theorem ofRows_wrapped_block {opening closing : Row} {inner : List Row}
    (hcloses : closing.kind.closes opening.kind = true) (hinner : Balanced inner)
    (slides : Nat) (rest : List Row) :
    ofRows (wrapLooseFrom 0 slides false (opening :: (inner ++ closing :: rest))) =
      .group opening (ofRows inner) :: ofRows (wrapLooseFrom 0 slides false rest) := by
  rw [wrapLooseFrom_block hcloses hinner, if_neg Bool.false_ne_true, List.nil_append,
    ofRows_block hcloses hinner]

/-- A stretch is a group like any other, but its header is a mark that was put in. -/
theorem ofRows_wrapped_stretch {first : Row} {more after : List Row} (hfirst : IsPlain first)
    (hkind : first.kind ≠ .metadata) (hmore : ∀ r ∈ more, IsPlain r)
    (hafter : ∀ r ∈ after.head?, r.kind.isBegin = true) (slides : Nat) :
    ofRows (wrapLooseFrom 0 slides false (first :: (more ++ after))) =
      .group (slideMark slides) (ofRows (first :: more)) ::
        ofRows (wrapLooseFrom 0 (slides + 1) false after) := by
  have hrows : Balanced (first :: more) :=
    .row hfirst.1 hfirst.2 (balanced_of_isPlain hmore)
  rw [wrapLooseFrom_stretch hfirst hkind hmore hafter,
    ofRows_block (endMark_closes_slideMark slides) hrows]

end Item

/-! ### The counter of the wrapper -/

/-- The wrapper, with a counter that is not lowered at zero: that would be a closing
    mark with no open group. -/
def wrapStrictlyFrom :
    (depth slides : Nat) → (inStretch : Bool) → List Row → Except Defect (List Row)
  | _, _, inStretch, [] => .ok (if inStretch then [endMark] else [])
  | depth, slides, inStretch, r :: rest =>
    if r.kind.isBegin then
      (wrapStrictlyFrom (depth + 1) slides false rest).map fun wrapped =>
        (if inStretch then [endMark] else []) ++ r :: wrapped
    else if r.kind.isEnd then
      if depth = 0 then .error .strayEnd
      else (wrapStrictlyFrom (depth - 1) slides inStretch rest).map fun wrapped => r :: wrapped
    else if depth = 0 && !inStretch && r.kind != .metadata then
      (wrapStrictlyFrom depth (slides + 1) true rest).map fun wrapped =>
        slideMark slides :: r :: wrapped
    else (wrapStrictlyFrom depth slides inStretch rest).map fun wrapped => r :: wrapped

/-- The counter is the height of the stack of the check, so it is not zero where the
    check finds a group to close. -/
theorem wrapStrictlyFrom_of_checkBalanceFrom {opened rows : List Row}
    (h : checkBalanceFrom opened rows = .ok ()) (slides : Nat) (inStretch : Bool) :
    wrapStrictlyFrom opened.length slides inStretch rows =
      .ok (wrapLooseFrom opened.length slides inStretch rows) := by
  fun_induction checkBalanceFrom opened rows generalizing slides inStretch with
  | case1 => rfl
  | case4 opened r rest _ hbegin ih =>
      have hrest := ih h slides false
      rw [List.length_cons] at hrest
      rw [wrapStrictlyFrom, wrapLooseFrom, if_pos hbegin, if_pos hbegin, hrest]
      rfl
  | case5 r rest hbegin hend innermost outer _ _ ih =>
      have hrest := ih h slides inStretch
      -- There is a group to close, so the counter is at least one.
      rw [wrapStrictlyFrom, wrapLooseFrom, if_neg hbegin, if_neg hbegin, if_pos hend,
        if_pos hend, List.length_cons, if_neg (Nat.succ_ne_zero _), Nat.add_sub_cancel, hrest]
      rfl
  | case8 opened r rest _ hbegin hend ih =>
      rw [wrapStrictlyFrom, wrapLooseFrom, if_neg hbegin, if_neg hbegin, if_neg hend,
        if_neg hend]
      split
      · rw [ih h (slides + 1) true]
        rfl
      · rw [ih h slides inStretch]
        rfl
  | _ => cases h

end Survey

end Questionnaire
