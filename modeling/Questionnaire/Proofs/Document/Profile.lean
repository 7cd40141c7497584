import Mathlib.Data.List.Perm.Basic
import Questionnaire.Proofs.Document.Built
import Questionnaire.Proofs.Document.Identity
import Questionnaire.Proofs.Document.Walk

/-!
# What Nodes Keep of Their Rows

A node is made from a row, and three things of the row can still be told from the
node: its name, whether it is shown on a condition, and the list it chooses from.
They are its `profile`. So whatever is checked about these things on the rows of
a survey is known of the nodes of the document, and this module is the way from
the one to the other.

It is an equation between two lists. The nodes of a document in the order of the
tree, and the rows that make nodes in the order of the sheet, have the same
profiles. The rows are those of the wrapped survey, though, and the marks that
were put in are among them. Since a stretch may begin anywhere, the last step
gives up the order: up to a permutation the rows are first the marks of the
slides that were put in, and then the rows of the survey.

## Main definitions

* `Profile`: What a node and its row have in common.
* `Survey.slideCount`: How many slides are put in.

## Theorems

* `Node.profile_ofQuestion`, `GroupHead.profile_node`: A node has the profile of its row.
* `Node.profiles_ofItems`: So have all nodes of a tree.
* `Node.profiles_numberFrom`: Numbering does not change profiles.
* `Survey.perm_wrapLoose`: The rows that make the nodes of a document.
* `Form.Accepts.profiles`: The profiles of the nodes of a document.
-/

namespace Questionnaire

open Survey (Balanced Outermost isConditional)

/-- What a node and the row it was made from have in common. -/
structure Profile where
  name : String
  isConditional : Bool
  /-- The list that is chosen from. -/
  list : Option String
deriving DecidableEq, Repr

/-- The list that a field chooses from. -/
def FieldKind.choiceList : FieldKind → Option String
  | choice _ list _ _ => some list
  | _ => none

/-- What a node has of its row. -/
def Node.profile : Node → Profile
  | field i f => ⟨i.name, i.visibility.isSome, f.kind.choiceList⟩
  | group i _ _ _ => ⟨i.name, i.visibility.isSome, none⟩

/-- What a row gives to its node. -/
def Row.profile (r : Row) : Profile :=
  ⟨r.name, isConditional r, r.kind.choiceList⟩

namespace Survey

theorem choiceList_of_isBegin {r : Row} (h : r.kind.isBegin = true) :
    r.kind.choiceList = none := by
  cases hk : r.kind with
  | select several list =>
      rw [hk] at h
      cases h
  | _ => rfl

end Survey

/-! ### One node -/

theorem Row.isSome_visibility {r : Row} {visibility : Option String}
    (h : r.visibility = .ok visibility) : visibility.isSome = isConditional r := by
  rw [Row.visibility, compileFilled] at h
  rw [isConditional]
  split at h
  case isTrue hempty =>
    cases h
    rw [hempty]
    rfl
  case isFalse hfilled =>
    rcases map_eq_ok.1 h with ⟨condition, _, rfl⟩
    rw [Bool.eq_false_iff.2 hfilled]
    rfl

theorem FieldKind.choiceList_ofRow {tables : Dictionary String Grid} {r : Row} {kind : FieldKind}
    (h : ofRow tables r = .ok kind) : kind.choiceList = r.kind.choiceList := by
  rw [ofRow] at h
  cases hk : r.kind with
  | select several list =>
      rw [hk] at h
      rcases bind_eq_ok.1 (Failure.lift_eq_ok.1 h) with ⟨filter, _, h⟩
      cases h
      rfl
  | question kind =>
      rw [hk] at h
      -- No other question has choices.
      cases kind with
      | calculate =>
          rcases map_eq_ok.1 (Failure.lift_eq_ok.1 h) with ⟨text, _, rfl⟩
          rfl
      | table =>
          rcases map_eq_ok.1 h with ⟨table, _, rfl⟩
          rfl
      | range =>
          dsimp only [ofQuestion] at h
          split at h
          · cases h
            rfl
          · cases h
      | text | image =>
          cases h
          split <;> rfl
      | _ =>
          cases h
          rfl
  | _ =>
      rw [hk] at h
      cases h

theorem Node.profile_ofQuestion {tables : Dictionary String Grid} {r : Row} {n : Node}
    (h : ofQuestion tables r = .ok n) : n.profile = r.profile := by
  rw [ofQuestion] at h
  rcases bind_eq_ok.1 h with ⟨default, _, h⟩
  rcases bind_eq_ok.1 h with ⟨editable, _, h⟩
  rcases bind_eq_ok.1 h with ⟨validation, _, h⟩
  rcases bind_eq_ok.1 h with ⟨kind, hkind, h⟩
  rcases bind_eq_ok.1 h with ⟨visibility, hvisibility, h⟩
  cases h
  rw [profile, Row.profile, ← FieldKind.choiceList_ofRow hkind,
    ← Row.isSome_visibility (Failure.lift_eq_ok.1 hvisibility)]
  rfl

theorem GroupHead.profile_node {r : Row} {head : GroupHead} (hbegin : r.kind.isBegin = true)
    (h : GroupHead.ofRow r = .ok head) (nodes : List Node) :
    (head.node nodes).profile = r.profile := by
  rw [ofRow] at h
  rcases bind_eq_ok.1 h with ⟨visibility, hvisibility, h⟩
  rcases bind_eq_ok.1 h with ⟨readonly, _, h⟩
  rcases bind_eq_ok.1 h with ⟨kind, _, h⟩
  cases h
  rw [node, Node.profile, Row.profile, Survey.choiceList_of_isBegin hbegin,
    ← Row.isSome_visibility hvisibility]
  rfl

/-! ### All nodes -/

namespace Node

/-- A node has the profile of its row. -/
theorem IsBuiltFrom.profile_eq {tables : Dictionary String Grid} {r : Row} {n : Node}
    (h : IsBuiltFrom tables r n) : n.profile = r.profile := by
  cases h with
  | question _ h => exact profile_ofQuestion h
  | group hkind h ns => exact GroupHead.profile_node hkind h ns

/-- The nodes of balanced rows, in the order of the tree, have the profiles of the rows
    that make nodes. -/
theorem profiles_ofItems {rows : List Row} (h : Balanced rows)
    {tables : Dictionary String Grid} {nodes : List Node}
    (hnodes : ofItems tables (Survey.Item.ofRows rows) = .ok nodes) :
    (subtrees nodes).map profile = (rows.filter Survey.makesNode).map Row.profile :=
  map_ofItems IsBuiltFrom.profile_eq h hnodes

theorem profile_asSlide (n : Node) : n.asSlide.profile = n.profile := by
  cases n with
  | field i f => rfl
  | group i kind readonly ns => cases kind <;> rfl

theorem profiles_asSlide (nodes : List Node) :
    (subtrees (nodes.map asSlide)).map profile = (subtrees nodes).map profile := by
  induction nodes with
  | nil => rfl
  | cons n ns ih =>
      rw [List.map_cons, subtrees, subtrees, List.map_append, List.map_append, ih, subtree_eq,
        subtree_eq n, List.map_cons, List.map_cons, profile_asSlide, nodes_asSlide]

mutual

theorem profiles_number {id parent : Nat} (n : Node) {numbered : Node}
    (h : number id parent n = .ok numbered) :
    numbered.subtree.map profile = n.subtree.map profile := by
  match n with
  | field i f =>
      cases h
      rfl
  | group i kind readonly ns =>
      rcases number_group_eq_ok.1 h with ⟨ns', hns, rfl⟩
      rw [subtree, subtree, List.map_cons, List.map_cons, profiles_numberFrom ns hns]
      rfl

theorem profiles_numberFrom {id parent : Nat} (ns : List Node) {numbered : List Node}
    (h : numberFrom id parent ns = .ok numbered) :
    (subtrees numbered).map profile = (subtrees ns).map profile := by
  match ns with
  | [] =>
      cases h
      rfl
  | n :: ns =>
      rcases numberFrom_cons_eq_ok.1 h with ⟨_, n', ns', hn, hns, rfl⟩
      rw [subtrees, subtrees, List.map_append, List.map_append, profiles_number n hn,
        profiles_numberFrom ns hns]

end

end Node

/-! ### The rows behind the nodes -/

namespace Survey

/-- How many slides are put into a survey. Each has a mark at its beginning and one at
    its end. -/
def slideCount (survey : List Row) : Nat :=
  ((wrapLoose survey).length - survey.length) / 2

theorem makesNode_slideMark (n : Nat) : makesNode (slideMark n) = true := by
  rw [makesNode, kind_slideMark]
  rfl

theorem makesNode_endMark : makesNode endMark = false := by
  rw [makesNode, kind_endMark]
  rfl

/-- The rows that make nodes, once some slides have been put in and more follow. -/
theorem Outermost.exists_perm_wrapLooseFrom {rows : List Row} (h : Outermost rows)
    (slides : Nat) :
    ∃ count, (wrapLooseFrom 0 slides false rows).length = rows.length + 2 * count ∧
      ((wrapLooseFrom 0 slides false rows).filter makesNode).Perm
        ((List.range' slides count).map slideMark ++ rows.filter makesNode) := by
  induction h generalizing slides with
  | nil => exact ⟨0, rfl, .refl _⟩
  | @metadata r rest hkind _ ih =>
      have hdropped : ¬ makesNode r = true := by
        rw [makesNode, hkind]
        exact Bool.false_ne_true
      rcases ih slides with ⟨count, hlength, hperm⟩
      refine ⟨count, ?_, ?_⟩
      · rw [wrapLooseFrom_metadata hkind, List.length_cons, List.length_cons, hlength]
        omega
      · rw [wrapLooseFrom_metadata hkind, List.filter_cons_of_neg hdropped,
          List.filter_cons_of_neg hdropped]
        exact hperm
  | @block opening closing inner rest hcloses hinner _ ih =>
      have hwrapped : wrapLooseFrom 0 slides false (opening :: (inner ++ closing :: rest)) =
          (opening :: (inner ++ [closing])) ++ wrapLooseFrom 0 slides false rest := by
        rw [wrapLooseFrom_block hcloses hinner]
        simp
      have hrows : opening :: (inner ++ closing :: rest) =
          (opening :: (inner ++ [closing])) ++ rest := by
        simp
      rcases ih slides with ⟨count, hlength, hperm⟩
      refine ⟨count, ?_, ?_⟩
      · rw [hwrapped, hrows, List.length_append, List.length_append, hlength]
        omega
      -- The marks from further on move in front of the group.
      · rw [hwrapped, hrows, List.filter_append, List.filter_append]
        exact (hperm.append_left _).trans (List.perm_append_comm_assoc _ _ _)
  | @stretch first more after hfirst hkind hmore hafter _ ih =>
      rcases ih (slides + 1) with ⟨count, hlength, hperm⟩
      refine ⟨count + 1, ?_, ?_⟩
      · rw [wrapLooseFrom_stretch hfirst hkind hmore hafter]
        simp only [List.length_cons, List.length_append, hlength]
        omega
      · have hrows : first :: (more ++ after) = (first :: more) ++ after := rfl
        rw [wrapLooseFrom_stretch hfirst hkind hmore hafter,
          List.filter_cons_of_pos (makesNode_slideMark slides), List.filter_append,
          List.filter_cons_of_neg (Bool.eq_false_iff.1 makesNode_endMark), List.range'_succ,
          List.map_cons, List.cons_append, hrows, List.filter_append]
        exact ((hperm.append_left _).trans (List.perm_append_comm_assoc _ _ _)).cons _

/-- The rows that make the nodes of a wrapped survey are, in some order, the marks of the
    slides that are put in and the rows of the survey. -/
theorem perm_wrapLoose {survey : List Row} (h : Balanced survey) :
    ((wrapLoose survey).filter makesNode).Perm
      ((List.range (slideCount survey)).map slideMark ++ survey.filter makesNode) := by
  rcases h.outermost.exists_perm_wrapLooseFrom 0 with ⟨count, hlength, hperm⟩
  have hcount : slideCount survey = count := by
    rw [slideCount, wrapLoose, hlength]
    omega
  rw [hcount, List.range_eq_range']
  exact hperm

end Survey

/-- In some order, the nodes of a document have the profiles of the marks of the slides
    that were put in, and of the rows of the survey that make nodes. -/
theorem Form.Accepts.profiles {form : Form} {doc : Document} (h : form.Accepts doc) :
    (doc.allNodes.map Node.profile).Perm
      (((List.range (Survey.slideCount form.survey)).map Survey.slideMark ++
        form.survey.filter Survey.makesNode).map Row.profile) := by
  have hbalanced := Survey.balanced_of_checkBalance h.balanced
  rcases h.built with ⟨nodes, hnodes, hnumber⟩
  rw [Document.allNodes, Node.profiles_numberFrom _ hnumber, Node.profiles_asSlide,
    Node.profiles_ofItems hbalanced.wrapLoose hnodes]
  exact (Survey.perm_wrapLoose hbalanced).map _

end Questionnaire
