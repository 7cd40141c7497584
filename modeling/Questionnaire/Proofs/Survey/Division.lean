import Mathlib.Data.List.Chain
import Questionnaire.Proofs.Document.Nesting
import Questionnaire.Proofs.Survey.Grammar

/-!
# The Division of a Survey

What comes out of dividing a survey into slides. A survey that is no sequence of
items is refused, and `Grammar` says who is blamed. Any other is kept row by row,
with marks put in between, and the marks make one group of members: the outermost
groups of the survey, its outermost rows of data about the interview, and the
slides around its loose questions.

That nothing is lost and nothing is moved is said of rows that remember where they
come from. A divided survey is a sequence of rows that were kept and rows that were
put in, and to leave out the latter gives the survey back.

The members are found by induction on the pieces of the survey. A slide ends with
the group behind it or with the survey, so the induction also carries what a piece
begins with.

## Main definitions

* `Placed`: A row that was kept, or one that was put in.
* `Member`: A group, a row or a slide of a divided survey.
* `Member.IsProper`: What a member holds.
* `IsDivided`: A survey as one group of members.
* `Divides`: The members of the rest of a survey, from a number of slides on.

## Theorems

* `Balanced.nested`: Balanced rows without repeated groups are a sequence of items.
* `Divides.metadata`, `Divides.block`, `Divides.stretch`: One more member.
* `Outermost.exists_divides`: The members of a survey that passes the check.
* `divide_outcome`: A survey is divided if it is a sequence of items, and only then.
-/

namespace Questionnaire

namespace Survey

/-! ### Members of a divided survey -/

/-- A row of a divided survey: one that was kept, or one that was put in. -/
inductive Placed
  | kept (r : Row)
  | putIn (r : Row)

namespace Placed

def row : Placed → Row
  | kept r | putIn r => r

/-- The row, if it is one of the survey. -/
def kept? : Placed → Option Row
  | kept r => some r
  | putIn _ => none

end Placed

/-- An outermost part of a divided survey. -/
inductive Member
  /-- Data about the interview. -/
  | metadata (r : Row)
  /-- A group of the survey. -/
  | block (opening : Row) (inner : List Row) (closing : Row)
  /-- The slide of a number: the mark that opens it, and the rows in it. -/
  | slide (number : Nat) (header : Row) (stretch : List Row)

namespace Member

/-- The rows of a member. -/
def placed : Member → List Placed
  | metadata r => [.kept r]
  | block opening inner closing => .kept opening :: (inner.map .kept ++ [.kept closing])
  | slide _ header stretch => .putIn header :: (stretch.map .kept ++ [.putIn endMark])

def isBlock : Member → Bool
  | block .. => true
  | _ => false

/-- The number of a slide. -/
def number? : Member → Option Nat
  | slide number _ _ => some number
  | _ => none

/-- A member is what it is called: a row of data about the interview, a group with its marks,
    or a slide of the right name around rows that are no marks, of which the first is no
    data about the interview. -/
def IsProper : Member → Prop
  | metadata r => r.kind = .metadata
  | block opening inner closing =>
    closing.kind.closes opening.kind = true ∧ Nested false inner
  | slide number header stretch =>
    header.kind = .beginGroup ∧ header.name = slideName number ∧
      (∀ r ∈ stretch, IsPlain r) ∧ ∃ first ∈ stretch.head?, first.kind ≠ .metadata

end Member

/-- A survey as one group of members. The slides are counted from zero, and each of them goes
    on to the next group or to the end. -/
def IsDivided (survey divided : List Row) : Prop :=
  ∃ header : Row, ∃ members : List Member,
    let placed : List Placed := .putIn header :: (members.flatMap Member.placed ++ [.putIn endMark])
    divided = placed.map Placed.row ∧ survey = placed.filterMap Placed.kept? ∧
      header.kind = .beginGroup ∧ header.name = "global" ∧ (∀ m ∈ members, m.IsProper) ∧
      members.filterMap Member.number? =
        List.range (members.filterMap Member.number?).length ∧
      members.IsChain fun m next => m.number?.isSome = true → next.isBlock = true

/-! ### The members of a survey -/

/-- Balanced rows without repeated groups are a sequence of items. -/
theorem Balanced.nested {rows : List Row} (h : Balanced rows)
    (hrepeat : ∀ r ∈ rows, r.kind ≠ .beginRepeat) : Nested false rows := by
  induction h with
  | nil => exact .nil
  | row hbegin hend _ ih =>
      exact .row ⟨hbegin, hend⟩ (ih fun r hr => hrepeat r (List.mem_cons_of_mem _ hr))
  | block hcloses _ _ ihInner ihRest =>
      rw [List.forall_mem_cons, List.forall_mem_append, List.forall_mem_cons] at hrepeat
      rcases hrepeat with ⟨hopening, hinner, _, hrest⟩
      exact .block hcloses (fun hkind => absurd hkind hopening) (ihInner hinner) (ihRest hrest)

/-- The members of the rest of a survey, whose slides are numbered from `slides` on. -/
structure Divides (slides : Nat) (rows : List Row) (members : List Member) : Prop where
  wrapped : wrapLooseFrom 0 slides false rows = (members.flatMap Member.placed).map Placed.row
  kept : (members.flatMap Member.placed).filterMap Placed.kept? = rows
  proper : ∀ m ∈ members, m.IsProper
  numbered : members.filterMap Member.number? =
    List.range' slides (members.filterMap Member.number?).length
  ended : members.IsChain fun m next => m.number?.isSome = true → next.isBlock = true
  /-- Where the rows begin with a group, so do the members. -/
  begins : (∀ r ∈ rows.head?, r.kind.isBegin = true) → ∀ m ∈ members.head?, m.isBlock = true

/-- The rows of a member with marks around it, and of those that come behind. -/
theorem map_row_enclosed (opening closing : Placed) (inner : List Row) (after : List Placed) :
    (opening :: (inner.map .kept ++ [closing]) ++ after).map Placed.row =
      opening.row :: (inner ++ closing.row :: after.map Placed.row) := by
  have hinner : (inner.map Placed.kept).map Placed.row = inner := by
    rw [List.map_map]
    exact List.map_id inner
  rw [List.map_append, List.map_cons, List.map_append, hinner]
  simp

/-- Those of them that were kept. -/
theorem filterMap_enclosed (opening closing : Placed) (inner : List Row) (after : List Placed) :
    (opening :: (inner.map .kept ++ [closing]) ++ after).filterMap Placed.kept? =
      opening.kept?.toList ++
        (inner ++ (closing.kept?.toList ++ after.filterMap Placed.kept?)) := by
  have hinner : (inner.map Placed.kept).filterMap Placed.kept? = inner := by
    rw [List.filterMap_map]
    exact List.filterMap_some
  rw [List.filterMap_append, List.filterMap_cons, List.filterMap_append, hinner]
  cases opening <;> cases closing <;> simp [Placed.kept?]

section Divides

variable {slides : Nat} {rows : List Row} {members : List Member}

theorem divides_nil (slides : Nat) : Divides slides [] [] where
  wrapped := rfl
  kept := rfl
  proper := fun m hm => by cases hm
  numbered := rfl
  ended := .nil
  begins := fun _ m hm => by cases hm

theorem Divides.metadata {r : Row} (hkind : r.kind = .metadata) (h : Divides slides rows members) :
    Divides slides (r :: rows) (.metadata r :: members) where
  wrapped := by
    rw [wrapLooseFrom_metadata hkind, h.wrapped]
    rfl
  kept := by
    rw [List.flatMap_cons, List.filterMap_append, h.kept]
    rfl
  proper := List.forall_mem_cons.2 ⟨hkind, h.proper⟩
  numbered := h.numbered
  ended := List.isChain_cons.2 ⟨fun _ _ h => Bool.noConfusion h, h.ended⟩
  begins := fun hbegin => by
    have hr := hbegin r rfl
    rw [hkind] at hr
    cases hr

theorem Divides.block {opening closing : Row} {inner : List Row}
    (hcloses : closing.kind.closes opening.kind = true) (hinner : Balanced inner)
    (hnested : Nested false inner) (h : Divides slides rows members) :
    Divides slides (opening :: (inner ++ closing :: rows))
      (.block opening inner closing :: members) where
  wrapped := by
    rw [wrapLooseFrom_block hcloses hinner, h.wrapped, List.flatMap_cons, Member.placed,
      map_row_enclosed]
    rfl
  kept := by
    rw [List.flatMap_cons, Member.placed, filterMap_enclosed, h.kept]
    rfl
  proper := List.forall_mem_cons.2 ⟨⟨hcloses, hnested⟩, h.proper⟩
  numbered := h.numbered
  ended := List.isChain_cons.2 ⟨fun _ _ h => Bool.noConfusion h, h.ended⟩
  begins := fun _ m hm => by
    cases hm
    rfl

/-- The slide takes a number, and those after it are numbered from the next one on. -/
theorem Divides.stretch {first : Row} {more : List Row} (hkind : first.kind ≠ .metadata)
    (hplain : ∀ r ∈ first :: more, IsPlain r) (hbegin : ∀ r ∈ rows.head?, r.kind.isBegin = true)
    (h : Divides (slides + 1) rows members) :
    Divides slides (first :: (more ++ rows))
      (.slide slides (slideMark slides) (first :: more) :: members) where
  wrapped := by
    rw [List.forall_mem_cons] at hplain
    rw [wrapLooseFrom_stretch hplain.1 hkind hplain.2 hbegin, h.wrapped, List.flatMap_cons,
      Member.placed, map_row_enclosed]
    rfl
  kept := by
    rw [List.flatMap_cons, Member.placed, filterMap_enclosed, h.kept]
    rfl
  proper := List.forall_mem_cons.2 ⟨⟨kind_slideMark slides, name_slideMark slides, hplain,
    first, rfl, hkind⟩, h.proper⟩
  numbered := by
    rw [List.filterMap_cons_some (rfl : Member.number? _ = some slides), List.length_cons,
      List.range'_succ, ← h.numbered]
  ended := List.isChain_cons.2 ⟨fun m hm _ => h.begins hbegin m hm, h.ended⟩
  begins := fun hbegin => by
    have hr := hbegin first rfl
    rw [(hplain first List.mem_cons_self).1] at hr
    cases hr

end Divides

/-- The members of a survey that passes the check, piece by piece. -/
theorem Outermost.exists_divides {rows : List Row} (h : Outermost rows)
    (hcheck : checkBalanceFrom [] rows = .ok ()) (slides : Nat) :
    ∃ members, Divides slides rows members := by
  induction h generalizing slides with
  | nil => exact ⟨[], divides_nil slides⟩
  | @metadata r rest hkind _ ih =>
      rw [checkBalanceFrom_plain (by rw [hkind]; rfl) (by rw [hkind]; rfl)] at hcheck
      rcases ih hcheck slides with ⟨members, hmembers⟩
      exact ⟨_, hmembers.metadata hkind⟩
  | @block opening closing inner rest hcloses hinner _ ih =>
      -- Inside, the group is open, so none of the groups there is repeated.
      rw [checkBalanceFrom_begin (RowKind.isBegin_of_closes hcloses), List.isEmpty_nil,
        Bool.not_true, Bool.and_false, if_neg Bool.false_ne_true] at hcheck
      rcases checkBalanceFrom_append hinner hcheck with ⟨hclosed, hrepeat⟩
      rw [checkBalanceFrom_closes hcloses] at hclosed
      rcases ih hclosed slides with ⟨members, hmembers⟩
      have hnested := hinner.nested (hrepeat (List.cons_ne_nil _ _))
      exact ⟨_, hmembers.block hcloses hinner hnested⟩
  | @stretch first more after hfirst hkind hmore hafter _ ih =>
      have hplain : ∀ r ∈ first :: more, IsPlain r := List.forall_mem_cons.2 ⟨hfirst, hmore⟩
      rw [← List.cons_append] at hcheck
      rcases checkBalanceFrom_append (balanced_of_isPlain hplain) hcheck with ⟨hrest, _⟩
      -- The slide has taken a number.
      rcases ih hrest (slides + 1) with ⟨members, hmembers⟩
      exact ⟨_, hmembers.stretch hkind hplain hafter⟩

theorem isDivided_of_checkBalance {survey : List Row} (h : checkBalance survey = .ok ()) :
    IsDivided survey (groupMark "global" "" :: (wrapLoose survey ++ [endMark])) := by
  rcases (balanced_of_checkBalance h).outermost.exists_divides h 0 with
    ⟨members, hwrapped, hkept, hproper, hnumbered, hended, _⟩
  refine ⟨groupMark "global" "", members, ?_, ?_, kind_groupMark _ _, name_groupMark _ _, hproper,
    ?_, hended⟩
  · rw [wrapLoose, hwrapped, List.map_cons, List.map_append]
    rfl
  · rw [List.filterMap_cons_none rfl, List.filterMap_append, hkept]
    exact (List.append_nil survey).symm
  · rw [List.range_eq_range']
    exact hnumbered

/-- A survey is divided if it is a sequence of items, and then into members; and if it is
    none, the error blames the first row that no sequence of items goes on with, or the
    innermost group that is open at the end. -/
theorem divide_outcome (survey : List Row) :
    match (divide survey).outcome with
    | .ok divided => Nested true survey ∧ IsDivided survey divided
    | .error e => ¬ Nested true survey ∧ IsBlamed survey e := by
  have hjudged := judged_checkBalance survey
  rw [outcome_divide]
  cases hcheck : checkBalance survey with
  | ok _ => exact ⟨checkBalance_eq_ok_iff.1 hcheck, isDivided_of_checkBalance hcheck⟩
  | error e =>
      rw [hcheck] at hjudged
      refine ⟨fun hnested => ?_, hjudged⟩
      rw [checkBalance_eq_ok_iff.2 hnested] at hcheck
      cases hcheck

end Survey

end Questionnaire
