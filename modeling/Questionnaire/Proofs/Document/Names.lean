import Questionnaire.Proofs.Document.Nesting
import Questionnaire.Proofs.Document.Profile
import Questionnaire.Proofs.Survey.Naming

/-!
# Names in a Document

Two nodes may have one name only if both are shown on a condition, for then their
author can see to it that one at a time is shown. The rows of a survey are
checked for that.

The slides that are put in are not checked. They are named `form`, `form1` and so
on, and they are always shown; and nothing keeps these names from the author of
a survey. So the names of a document are apart exactly if no row is called like
one of its own slides, and a survey with a single loose question called `form`
gives a document where a slide and the field on it share their name.

## Main definitions

* `Profile.Apart`, `Node.Apart`: Two nodes do not share a name, or both are shown on a
  condition.

## Theorems

* `Survey.pairwise_of_checkNames`: The rows that make nodes are apart.
* `Survey.slideName_injective`: No two slides that are put in share a name.
* `Form.apart_of_convert`: When the names of a document are apart.
* `Form.not_apart_of_question_named_form`: A document whose names are not apart.
-/

namespace Questionnaire

open Survey (makesNode slideCount slideMark)

/-- Whether two nodes of these profiles do not share a name, or are both shown on a
    condition. A note without a name shares it with nobody. -/
def Profile.Apart (p q : Profile) : Prop :=
  p.name = q.name → p.name ≠ "" → p.isConditional = true ∧ q.isConditional = true

/-- Whether two nodes do not share a name, or are both shown on a condition. -/
def Node.Apart (m n : Node) : Prop :=
  m.name = n.name → m.name ≠ "" →
    m.info.visibility.isSome = true ∧ n.info.visibility.isSome = true

theorem Profile.Apart.symm {p q : Profile} (h : p.Apart q) : q.Apart p := by
  intro hname hne
  rcases h hname.symm (hname ▸ hne) with ⟨hp, hq⟩
  exact ⟨hq, hp⟩

theorem Node.apart_iff_profile {m n : Node} : m.Apart n ↔ m.profile.Apart n.profile := by
  cases m <;> cases n <;> rfl

theorem Document.pairwise_apart_iff {doc : Document} :
    doc.allNodes.Pairwise Node.Apart ↔
      (doc.allNodes.map Node.profile).Pairwise Profile.Apart := by
  rw [List.pairwise_map]
  exact List.Pairwise.iff fun _ _ => Node.apart_iff_profile

namespace Survey

/-! ### The check of the names -/

/-- The rows of a survey that passes the check of the names are apart. -/
theorem pairwise_of_checkNames {survey : List Row} (h : checkNames survey = .ok ()) :
    ((survey.filter makesNode).map Row.profile).Pairwise Profile.Apart := by
  have hend : ∀ r : Row, makesNode r = true → r.kind.isEnd = false := by
    intro r hmakes
    cases hend : r.kind.isEnd with
    | false => rfl
    | true =>
        rw [makesNode_of_isEnd hend] at hmakes
        cases hmakes
  rw [List.pairwise_map, List.pairwise_filter]
  refine (checkNames_eq_ok_iff.1 h).apart.imp ?_
  intro r s hapart hr hs hname hne
  rcases hapart (hend r hr) (hend s hs) hname hne with ⟨hfirst, hsecond⟩
  exact ⟨isConditional_iff.2 hfirst, isConditional_iff.2 hsecond⟩

/-! ### The slides that are put in -/

theorem slideName_succ (k : Nat) : slideName (k + 1) = "form" ++ toString (k + 1) :=
  rfl

theorem slideName_ne_empty (k : Nat) : slideName k ≠ "" := by
  cases k with
  | zero => decide
  | succ k =>
      intro hempty
      have hlist := congrArg String.toList hempty
      rw [slideName_succ, String.toList_append] at hlist
      cases hlist

/-- The first slide has no number, and the numbers of the others are spelled apart. -/
theorem slideName_injective {k l : Nat} (h : slideName k = slideName l) : k = l := by
  have hspelled (n : Nat) : "form" ++ toString (n + 1) ≠ "form" := by
    intro heq
    have hlist := congrArg String.toList heq
    rw [String.toList_append] at hlist
    have hnone := List.append_right_eq_self.1 hlist
    rw [Nat.toString_eq_repr, Nat.toList_repr] at hnone
    exact Nat.toDigits_ne_nil hnone
  cases k with
  | zero =>
      cases l with
      | zero => rfl
      | succ l => exact absurd h.symm (hspelled l)
  | succ k =>
      cases l with
      | zero => exact absurd h (hspelled k)
      | succ l =>
          rw [slideName_succ, slideName_succ] at h
          have hlist := congrArg String.toList h
          rw [String.toList_append, String.toList_append, List.append_cancel_left_eq] at hlist
          rw [Nat.toString_eq_repr, Nat.toString_eq_repr, Nat.toList_repr, Nat.toList_repr] at hlist
          exact Number.toDigits_injective hlist

theorem not_isConditional_slideMark (k : Nat) : isConditional (slideMark k) = false := by
  have hmark (name label : String) : isConditional (groupMark name label) = false := by
    rw [isConditional]
    simp [Row.relevant, Row.text, Row.textIn, get?_groupMark]
  cases k <;> exact hmark _ _

theorem pairwise_slideMark (count : Nat) :
    (((List.range count).map slideMark).map Row.profile).Pairwise Profile.Apart := by
  rw [List.pairwise_map, List.pairwise_map]
  refine List.nodup_range.imp ?_
  intro k l hne hname _
  have hnames : slideName k = slideName l := by
    rw [← name_slideMark, ← name_slideMark]
    exact hname
  exact absurd (slideName_injective hnames) hne

/-- A row is apart from a slide that is put in if it is not called like it. -/
theorem apart_slideMark_iff {k : Nat} {r : Row} :
    (slideMark k).profile.Apart r.profile ↔ r.name ≠ slideName k := by
  constructor
  · intro hapart hname
    have hslide : (slideMark k).profile.name = slideName k := name_slideMark k
    rcases hapart (hslide.trans hname.symm) (hslide ▸ slideName_ne_empty k) with ⟨hshown, _⟩
    change isConditional (slideMark k) = true at hshown
    rw [not_isConditional_slideMark] at hshown
    cases hshown
  · intro hne hname _
    exact absurd (hname.symm.trans (name_slideMark k)) hne

end Survey

namespace Form

/-- The names of a document are apart if and only if no row that makes a node is called
    like one of the slides that are put into its survey. -/
theorem apart_of_convert {form : Form} {doc : Document} (h : form.convert.outcome = .ok doc) :
    doc.allNodes.Pairwise Node.Apart ↔
      ∀ r ∈ form.survey, makesNode r = true →
        ∀ k < slideCount form.survey, r.name ≠ slideName k := by
  have haccepts := convert_eq_ok_iff.1 h
  rcases bind_eq_ok.1 haccepts.checked with ⟨_, _, hchecked⟩
  rcases bind_eq_ok.1 hchecked with ⟨_, hnames, _⟩
  -- Slides are apart from slides and rows from rows, so only slides and rows are left.
  rw [Document.pairwise_apart_iff, haccepts.profiles.pairwise_iff Profile.Apart.symm,
    List.map_append, List.pairwise_append]
  constructor
  · rintro ⟨_, _, hcross⟩ r hr hmakes k hk
    refine Survey.apart_slideMark_iff.1 (hcross _ ?_ _ ?_)
    · exact List.mem_map_of_mem (List.mem_map_of_mem (List.mem_range.2 hk))
    · exact List.mem_map_of_mem (List.mem_filter.2 ⟨hr, hmakes⟩)
  · intro hne
    refine ⟨Survey.pairwise_slideMark _, Survey.pairwise_of_checkNames hnames, ?_⟩
    intro p hp q hq
    rcases List.mem_map.1 hp with ⟨mark, hmark, rfl⟩
    rcases List.mem_map.1 hmark with ⟨k, hk, rfl⟩
    rcases List.mem_map.1 hq with ⟨r, hr, rfl⟩
    rcases List.mem_filter.1 hr with ⟨hr, hmakes⟩
    exact Survey.apart_slideMark_iff.2 (hne r hr hmakes k (List.mem_range.1 hk))

/-- A question outside all groups, and two in a group that share a name. -/
theorem apart_of_convert_shared_name :
    let form : Form := ⟨[.ofCells 2 [("type", "text"), ("name", "a")],
      .ofCells 3 [("type", "begin group"), ("name", "g")],
      .ofCells 4 [("type", "text"), ("name", "b"), ("relevant", "$\x7ba\x7d = 1")],
      .ofCells 5 [("type", "date"), ("name", "b"), ("relevant", "$\x7ba\x7d = 2")],
      .ofCells 6 [("type", "end group")]], [], [], .empty, .empty⟩
    ∃ doc, form.convert.outcome = .ok doc ∧
      (doc.allNodes.Pairwise Node.Apart ↔
        ∀ r ∈ form.survey, makesNode r = true →
          ∀ k < slideCount form.survey, r.name ≠ slideName k) := by
  dsimp only
  refine exists_of_any (fun _ => true) ?accepted fun doc h _ => apart_of_convert h
  decide +kernel

/-- A single question called `form`. The slide that is put in around it has the same name,
    and both are always shown. -/
theorem not_apart_of_question_named_form :
    let form : Form :=
      ⟨[.ofCells 2 [("type", "text"), ("name", "form")]], [], [], .empty, .empty⟩
    ∃ doc, form.convert.outcome = .ok doc ∧ ¬ doc.allNodes.Pairwise Node.Apart := by
  dsimp only
  refine exists_of_any
    (fun doc => doc.allNodes.map Node.profile == [⟨"form", false, none⟩, ⟨"form", false, none⟩])
    ?computed fun doc _ hprofiles hapart => ?_
  · decide +kernel
  · rw [Document.pairwise_apart_iff, beq_iff_eq.1 hprofiles, List.pairwise_pair] at hapart
    exact Bool.false_ne_true (hapart rfl (by decide)).1

end Form

end Questionnaire
