import Questionnaire.Form.Convert
import Questionnaire.Proofs.Document.Numbering

/-!
# Trees That Differ in One Node

Two trees can be compared node by node. Here they are the same but for one node, which is
at the same place in both, and of which something is known. The relation goes down to
that node along the siblings and groups in front of it, and everything else is one and
the same. Both passes over a finished tree, the one that makes slides and the one that
numbers the nodes, look at the kinds of nodes and at how many there are, so they
leave such a pair of trees as it was.

## Main definitions

* `Node.withoutFormulas`: A node without the attributes that formulas decide.
* `Node.DifferAt`: Nodes that are the same but for one.

## Theorems

* `Node.DifferAt.getElem?_subtrees`: The two nodes, in the order of the tree.
* `Node.DifferAt.map_asSlide`: Made into slides, the trees still differ there.
* `Node.DifferAt.numberFrom`: So do they once they are numbered.
-/

namespace Questionnaire

/-- A kind of field without its formula or filter. -/
def FieldKind.withoutFormulas : FieldKind → FieldKind
  | choice several list _ narrow => choice several list none narrow
  | formula _ => formula ""
  | kind => kind

/-- A field without what its formulas decide: its first value, whether it can be changed, what an
    answer has to satisfy, and its formula or filter. -/
def Field.withoutFormulas (f : Field) : Field :=
  { f with kind := f.kind.withoutFormulas, default := none, editable := none, validation := none }

/-- What every node has, without the condition on which it is shown. -/
def NodeInfo.withoutFormulas (i : NodeInfo) : NodeInfo :=
  { i with visibility := none }

namespace Node

/-- A node without the attributes that formulas decide. What it holds is left as it is. -/
def withoutFormulas : Node → Node
  | field i f => field i.withoutFormulas f.withoutFormulas
  | group i kind _ nodes => group i.withoutFormulas kind none nodes

/-- Nodes that are the same but for one. It comes after as many others, in the order of the tree,
    as the place says. -/
inductive DifferAt (P : Node → Node → Prop) : (place : Nat) → List Node → List Node → Prop
  | here {n n' : Node} (h : P n n') (after : List Node) : DifferAt P 0 (n :: after) (n' :: after)
  | behind (first : Node) {place : Nat} {ns ns' : List Node} (h : DifferAt P place ns ns') :
      DifferAt P (first.subtree.length + place) (first :: ns) (first :: ns')
  | inside (i : NodeInfo) (kind : GroupKind) (readonly : Option String) {place : Nat}
      {ns ns' : List Node} (h : DifferAt P place ns ns') (after : List Node) :
      DifferAt P (place + 1) (group i kind readonly ns :: after)
        (group i kind readonly ns' :: after)

variable {P Q : Node → Node → Prop} {place : Nat} {ns ns' : List Node}

/-- The nodes at the place, one of each tree. -/
theorem DifferAt.getElem?_subtrees (h : DifferAt P place ns ns') :
    ∃ n n', (subtrees ns)[place]? = some n ∧ (subtrees ns')[place]? = some n' ∧ P n n' := by
  induction h with
  | @here n n' h after =>
      refine ⟨n, n', ?_, ?_, h⟩
      · rw [subtrees, subtree_eq]
        rfl
      · rw [subtrees, subtree_eq]
        rfl
  | behind first _ ih =>
      rcases ih with ⟨n, n', hn, hn', h⟩
      refine ⟨n, n', ?_, ?_, h⟩
      all_goals
        rw [subtrees, List.getElem?_append_right (Nat.le_add_right _ _), Nat.add_sub_cancel_left]
        assumption
  | inside i kind readonly _ after ih =>
      rcases ih with ⟨n, n', hn, hn', h⟩
      refine ⟨n, n', ?_, ?_, h⟩
      all_goals
        rw [subtrees, subtree, List.cons_append, List.getElem?_cons_succ]
      · rw [List.getElem?_append_left (List.getElem?_eq_some_iff.1 hn).1, hn]
      · rw [List.getElem?_append_left (List.getElem?_eq_some_iff.1 hn').1, hn']

theorem length_subtree_asSlide (n : Node) : n.asSlide.subtree.length = n.subtree.length := by
  cases n with
  | field i f => rfl
  | group i kind readonly ns => cases kind <;> simp [asSlide, subtree]

theorem DifferAt.map_asSlide (h : DifferAt P place ns ns')
    (hP : ∀ {n n'}, P n n' → P n.asSlide n'.asSlide) :
    DifferAt P place (ns.map asSlide) (ns'.map asSlide) := by
  induction h with
  | here h after => exact .here (hP h) _
  | behind first _ ih =>
      rw [List.map_cons, List.map_cons, ← length_subtree_asSlide first]
      exact .behind _ ih
  | inside i kind readonly h after _ =>
      -- A group that becomes a slide holds what it held.
      cases kind with
      | group => exact .inside i .slide readonly h _
      | slide => exact .inside i .slide readonly h _
      | repeated limit => exact .inside i (.repeated limit) readonly h _

mutual

theorem length_subtree_number {id parent : Nat} (n : Node) {numbered : Node}
    (h : number id parent n = .ok numbered) : numbered.subtree.length = n.subtree.length := by
  match n with
  | field i f =>
      cases h
      rfl
  | group i kind readonly ns =>
      rcases number_group_eq_ok.1 h with ⟨ns', hns, rfl⟩
      rw [subtree, subtree, List.length_cons, List.length_cons, length_subtrees_numberFrom ns hns]

theorem length_subtrees_numberFrom {id parent : Nat} (ns : List Node) {numbered : List Node}
    (h : numberFrom id parent ns = .ok numbered) :
    (subtrees numbered).length = (subtrees ns).length := by
  match ns with
  | [] =>
      cases h
      rfl
  | n :: ns =>
      rcases numberFrom_cons_eq_ok.1 h with ⟨_, n', ns', hn, hns, rfl⟩
      rw [subtrees, subtrees, List.length_append, List.length_append, length_subtree_number n hn,
        length_subtrees_numberFrom ns hns]

end

/-- What is known of the two nodes may change as they are numbered, but nothing else does. -/
theorem DifferAt.numberFrom (h : DifferAt P place ns ns')
    (hPQ : ∀ {id parent n n' m m'}, P n n' → number id parent n = .ok m →
      number id parent n' = .ok m' → Q m m')
    {id parent : Nat} {ms ms' : List Node} (hns : Node.numberFrom id parent ns = .ok ms)
    (hns' : Node.numberFrom id parent ns' = .ok ms') : DifferAt Q place ms ms' := by
  induction h generalizing id parent ms ms' with
  | here h after =>
      rcases numberFrom_cons_eq_ok.1 hns with ⟨_, m, rest, hm, hrest, rfl⟩
      rcases numberFrom_cons_eq_ok.1 hns' with ⟨_, m', rest', hm', hrest', rfl⟩
      rw [hrest] at hrest'
      cases hrest'
      exact .here (hPQ h hm hm') rest
  | behind first _ ih =>
      rcases numberFrom_cons_eq_ok.1 hns with ⟨_, m, rest, hm, hrest, rfl⟩
      rcases numberFrom_cons_eq_ok.1 hns' with ⟨_, m', rest', hm', hrest', rfl⟩
      rw [hm] at hm'
      cases hm'
      -- As many nodes come first as before, so the place is the same.
      rw [← length_subtree_number first hm]
      exact .behind m (ih hrest hrest')
  | inside i kind readonly _ after ih =>
      rcases numberFrom_cons_eq_ok.1 hns with ⟨_, m, rest, hm, hrest, rfl⟩
      rcases numberFrom_cons_eq_ok.1 hns' with ⟨_, m', rest', hm', hrest', rfl⟩
      rcases number_group_eq_ok.1 hm with ⟨inner, hinner, rfl⟩
      rcases number_group_eq_ok.1 hm' with ⟨inner', hinner', rfl⟩
      rw [hrest] at hrest'
      cases hrest'
      exact .inside _ kind readonly (ih hinner hinner') rest

end Node

end Questionnaire
