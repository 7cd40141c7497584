import Questionnaire.Document.Numbering
import Questionnaire.Proofs.Outcome

/-!
# Numbered Trees

What the numbers of a numbered tree are. Siblings are numbered one after another,
and the nodes that a node holds from a thousand times its number on. So every
node claims a range of numbers for the nodes it holds, as long as they are many,
and `count_ids_numberFrom` says that nothing else decides how often a number is
given out: a number occurs once for each range that covers it.

Ranges are not kept apart. The range of a node begins a thousand after that of the
node numbered before it, so a node with more than a thousand others runs into the
next range. That is what the count law makes visible, and why it is stated with
counts: at the place where two ranges meet, membership would not tell one number
from two.

The inversion lemmas come first. A numbered tree has the shape of the tree it
came from, and each node of it tells the number it was given.

## Main definitions

* `Node.subtree`, `Node.subtrees`: All nodes of a tree, and of several.
* `Holder`: The number of a node and how many nodes it holds.
* `Holder.covers`: Whether a number is in the range of a holder.

## Theorems

* `Node.number_group_eq_ok`, `Node.numberFrom_cons_eq_ok`: What it takes to be numbered.
* `Node.info_number`: What numbering changes in a node by itself.
* `Node.count_ids_number`, `Node.count_ids_numberFrom`: How often a number is given out.
* `Node.parent_number`, `Node.parent_numberFrom`: Predecessors are nodes of the tree.
-/

namespace Questionnaire

namespace Node

/-! ### What it takes to be numbered -/

theorem number_group_eq_ok {id parent : Nat} {i : NodeInfo} {kind : GroupKind}
    {readonly : Option String} {ns : List Node} {numbered : Node} :
    number id parent (group i kind readonly ns) = .ok numbered ↔
      ∃ ns', numberFrom (id * idFactor + 1) id ns = .ok ns' ∧
        group (i.numbered id parent) kind readonly ns' = numbered := by
  rw [number, bind_eq_ok]
  constructor
  · rintro ⟨ns', hns, h⟩
    cases h
    exact ⟨ns', hns, rfl⟩
  · rintro ⟨ns', hns, rfl⟩
    exact ⟨ns', hns, rfl⟩

theorem numberFrom_cons_eq_ok {id parent : Nat} {n : Node} {ns numbered : List Node} :
    numberFrom id parent (n :: ns) = .ok numbered ↔
      id < Number.wordBound ∧ ∃ n' ns', number id parent n = .ok n' ∧
        numberFrom (id + 1) id ns = .ok ns' ∧ n' :: ns' = numbered := by
  rw [numberFrom]
  by_cases hid : id < Number.wordBound
  · rw [if_pos hid, bind_eq_ok]
    constructor
    · rintro ⟨n', hn, h⟩
      rcases bind_eq_ok.1 h with ⟨ns', hns, h⟩
      cases h
      exact ⟨hid, n', ns', hn, hns, rfl⟩
    · rintro ⟨_, n', ns', hn, hns, rfl⟩
      exact ⟨n', hn, bind_eq_ok.2 ⟨ns', hns, rfl⟩⟩
  · rw [if_neg hid]
    constructor
    · intro h
      cases h
    · rintro ⟨h, _⟩
      exact absurd h hid

/-- A number and the number of the predecessor are all that numbering changes in a
    node by itself. -/
theorem info_number {id parent : Nat} {n numbered : Node}
    (h : number id parent n = .ok numbered) : numbered.info = n.info.numbered id parent := by
  cases n with
  | field i f =>
      cases h
      rfl
  | group i kind readonly ns =>
      rcases number_group_eq_ok.1 h with ⟨ns', _, rfl⟩
      rfl

/-! ### The nodes of a tree -/

mutual

/-- A node and all nodes below it, each before those it holds. -/
def subtree : Node → List Node
  | field i f => [field i f]
  | group i kind readonly ns => group i kind readonly ns :: subtrees ns

/-- The nodes of several trees. -/
def subtrees : List Node → List Node
  | [] => []
  | n :: ns => subtree n ++ subtrees ns

end

theorem subtree_eq (n : Node) : n.subtree = n :: subtrees n.nodes := by
  cases n with
  | field i f => rw [subtree, nodes, subtrees]
  | group i kind readonly ns => rw [subtree, nodes]

end Node

/-- The number of a node, and how many nodes it holds. -/
structure Holder where
  number : Nat
  size : Nat
deriving DecidableEq, Repr

namespace Holder

/-- Whether a number is one of those that the nodes of a holder get. -/
def covers (x : Nat) (h : Holder) : Bool :=
  h.number * idFactor < x && x ≤ h.number * idFactor + h.size

theorem covers_iff {x : Nat} {h : Holder} :
    h.covers x = true ↔ h.number * idFactor < x ∧ x ≤ h.number * idFactor + h.size := by
  rw [covers, Bool.and_eq_true, decide_eq_true_iff, decide_eq_true_iff]

end Holder

namespace Node

/-- A node as a holder of others. -/
def holder (n : Node) : Holder :=
  ⟨n.id, n.nodes.length⟩

/-! ### How often a number is given out -/

mutual

/-- A number occurs in a numbered tree once as the number of its root, and once more for
    every node whose range covers it. -/
theorem count_ids_number {id parent : Nat} (n : Node) {numbered : Node}
    (h : number id parent n = .ok numbered) (x : Nat) :
    (numbered.subtree.map Node.id).count x =
      (if x = id then 1 else 0) + (numbered.subtree.map holder).countP (Holder.covers x) := by
  match n with
  | field i f =>
      cases h
      -- A field holds nothing, so its range is empty.
      have hempty : Holder.covers x ⟨id, 0⟩ = false := by
        rw [Bool.eq_false_iff, ne_eq, Holder.covers_iff]
        dsimp only
        omega
      rw [subtree, List.map_singleton, List.map_singleton, List.count_singleton,
        List.countP_singleton]
      simp only [holder, Node.id, info, NodeInfo.numbered, nodes, List.length_nil, hempty,
        beq_iff_eq, @eq_comm _ id x, Bool.false_eq_true, if_false, Nat.add_zero]
  | group i kind readonly ns =>
      rcases number_group_eq_ok.1 h with ⟨ns', hns, rfl⟩
      have hbelow := count_ids_numberFrom ns hns x
      -- The range of the node is where its own nodes are numbered.
      have hrange : Holder.covers x ⟨id, ns'.length⟩ = true ↔
          id * idFactor + 1 ≤ x ∧ x < id * idFactor + 1 + ns'.length := by
        rw [Holder.covers_iff]
        dsimp only
        omega
      rw [subtree, List.map_cons, List.map_cons, List.count_cons, List.countP_cons, hbelow]
      simp only [holder, Node.id, info, NodeInfo.numbered, nodes, hrange, beq_iff_eq,
        @eq_comm _ id x]
      omega

/-- Numbered siblings have the numbers from the first one's on, and those that their own
    nodes get. -/
theorem count_ids_numberFrom {id parent : Nat} (ns : List Node) {numbered : List Node}
    (h : numberFrom id parent ns = .ok numbered) (x : Nat) :
    ((subtrees numbered).map Node.id).count x =
      (if id ≤ x ∧ x < id + numbered.length then 1 else 0) +
        ((subtrees numbered).map holder).countP (Holder.covers x) := by
  match ns with
  | [] =>
      cases h
      rw [if_neg (by rw [List.length_nil]; omega)]
      rfl
  | n :: ns =>
      rcases numberFrom_cons_eq_ok.1 h with ⟨_, n', ns', hn, hns, rfl⟩
      have hfirst := count_ids_number n hn x
      have hothers := count_ids_numberFrom ns hns x
      -- The numbers of the siblings are that of the first one and those after it.
      have hsplit : (if id ≤ x ∧ x < id + (ns'.length + 1) then 1 else 0) =
          (if x = id then 1 else 0) +
            if id + 1 ≤ x ∧ x < id + 1 + ns'.length then 1 else 0 := by
        by_cases hx : x = id
        · rw [if_pos (by omega), if_pos hx, if_neg (by omega)]
        · rw [if_neg hx, Nat.zero_add]
          congr 1
          apply propext
          omega
      rw [subtrees, List.map_append, List.map_append, List.count_append, List.countP_append,
        hfirst, hothers, List.length_cons, hsplit]
      omega

end

/-! ### Predecessors -/

mutual

/-- The predecessor of a node of a numbered tree is the one given, or a node of the tree. -/
theorem parent_number {id parent : Nat} (n : Node) {numbered : Node}
    (h : number id parent n = .ok numbered) :
    ∀ m ∈ numbered.subtree,
      m.info.parent = parent ∨ m.info.parent ∈ numbered.subtree.map Node.id := by
  match n with
  | field i f =>
      cases h
      intro m hm
      rw [subtree, List.mem_singleton] at hm
      rw [hm]
      exact Or.inl rfl
  | group i kind readonly ns =>
      rcases number_group_eq_ok.1 h with ⟨ns', hns, rfl⟩
      intro m hm
      rw [subtree] at hm ⊢
      rcases List.mem_cons.1 hm with rfl | hm
      · exact Or.inl rfl
      · -- The first of the nodes it holds comes after the node itself.
        rcases parent_numberFrom ns hns m hm with hparent | hparent
        · rw [hparent]
          exact Or.inr List.mem_cons_self
        · exact Or.inr (List.mem_cons_of_mem _ hparent)

theorem parent_numberFrom {id parent : Nat} (ns : List Node) {numbered : List Node}
    (h : numberFrom id parent ns = .ok numbered) :
    ∀ m ∈ subtrees numbered,
      m.info.parent = parent ∨ m.info.parent ∈ (subtrees numbered).map Node.id := by
  match ns with
  | [] =>
      cases h
      intro m hm
      cases hm
  | n :: ns =>
      rcases numberFrom_cons_eq_ok.1 h with ⟨_, n', ns', hn, hns, rfl⟩
      have hid : n'.id = id := by
        rw [Node.id, info_number hn]
        rfl
      intro m hm
      rw [subtrees] at hm ⊢
      rw [List.map_append, List.mem_append]
      rcases List.mem_append.1 hm with hm | hm
      · rcases parent_number n hn m hm with hparent | hparent
        · exact Or.inl hparent
        · exact Or.inr (Or.inl hparent)
      · rcases parent_numberFrom ns hns m hm with hparent | hparent
        -- The next sibling comes after this one.
        · rw [hparent, subtree_eq, List.map_cons, hid]
          exact Or.inr (Or.inl List.mem_cons_self)
        · exact Or.inr (Or.inr hparent)

end

end Node

end Questionnaire
