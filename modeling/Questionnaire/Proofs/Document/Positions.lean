import Mathlib.Algebra.BigOperators.Ring.Finset
import Mathlib.Data.List.GetD
import Questionnaire.Proofs.Document.Numbering

/-!
# Numbers by Position

The position of a node says which of the siblings to go to on every level, from the
outermost one inwards, where siblings are counted from one. The numbering goes
through the tree once and hands numbers on from node to node. Looked at from the
outside it is a law about positions: the number of a node is its position read as
a numeral to the base a thousand, behind the number that the numbering started
with.

The law also decides when the numbering fails. Nodes are visited each before those
it holds, and a node is refused as soon as its number does not fit. So what is
blamed is the first node in that order whose number is too large, whatever comes
behind it.

The induction is on the tree, for any position of its root. The numbers that are
handed on inside the tree are those of the positions below, and `value_first`,
`value_next` and their fellows for predecessors are all that has to be known of
them.

## Main definitions

* `NodePath.value`: The number of a position.
* `NodePath.predecessor`: The sibling before a node, or the node that holds it.
* `Node.placed`, `Node.placedFrom`: The nodes of a tree with their positions.
* `Node.mapInfo`, `Node.mapInfoFrom`: What every node has, changed by its position.
* `Node.unlessExceeding`: The error about the first node whose number does not fit.

## Theorems

* `NodePath.value_concat`: One more level is one more digit.
* `Node.unlessExceeding_append`: Of what is visited, the first is blamed.
* `Node.number_eq`, `Node.numberFrom_eq`: Numbering from a position on.
* `Node.numberAll_by_position`: Numbering follows the positions, or fails at the first
  node whose number does not fit.
-/

namespace Questionnaire

/-- The position of a node: which of the siblings to go to, counted from one, level by
    level from the outermost one inwards. -/
abbrev NodePath := List Nat

namespace NodePath

/-- The number of a position, where the outermost level is below the number `root`. -/
def value (root : Nat) (path : NodePath) : Nat :=
  root * 1000 ^ path.length +
    ∑ j ∈ Finset.range path.length, path.getD j 0 * 1000 ^ (path.length - (j + 1))

/-- The position of the sibling before a node, or that of the node that holds it if it is
    the first. -/
def predecessor (path : NodePath) : NodePath :=
  match path.getLast? with
  | none => []
  | some k => if k ≤ 1 then path.dropLast else path.dropLast ++ [k - 1]

theorem value_nil (root : Nat) : value root [] = root := by
  simp [value]

/-- One more level is one more digit. -/
theorem value_concat (root : Nat) (path : NodePath) (k : Nat) :
    value root (path ++ [k]) = value root path * idFactor + k := by
  -- The digits of the levels before move one place up.
  have hbefore : ∀ j ∈ Finset.range path.length,
      (path ++ [k]).getD j 0 * 1000 ^ (path.length + 1 - (j + 1)) =
        path.getD j 0 * 1000 ^ (path.length - (j + 1)) * 1000 := by
    intro j hj
    have hj : j < path.length := Finset.mem_range.1 hj
    rw [List.getD_append _ _ _ _ hj, Nat.mul_assoc, ← Nat.pow_succ]
    congr 2
    omega
  have hlast : (path ++ [k]).getD path.length 0 = k := by
    rw [List.getD_append_right _ _ _ _ (Nat.le_refl _), Nat.sub_self, List.getD_cons_zero]
  rw [idFactor, value, value, List.length_append, List.length_singleton, Finset.sum_range_succ,
    Finset.sum_congr rfl hbefore, ← Finset.sum_mul, hlast, Nat.sub_self, Nat.pow_zero,
    Nat.mul_one, Nat.pow_succ, Nat.add_mul, Nat.mul_assoc, Nat.add_assoc]

example : value 0 [1, 2, 1] = 1002001 := by rfl

theorem value_first (root : Nat) (path : NodePath) :
    value root (path ++ [1]) = value root path * idFactor + 1 :=
  value_concat root path 1

theorem value_next (root : Nat) (path : NodePath) (k : Nat) :
    value root (path ++ [k + 1]) = value root (path ++ [k]) + 1 := by
  rw [value_concat, value_concat, Nat.add_assoc]

theorem predecessor_first (path : NodePath) : predecessor (path ++ [1]) = path := by
  simp [predecessor]

theorem predecessor_next (path : NodePath) {k : Nat} (hk : 0 < k) :
    predecessor (path ++ [k + 1]) = path ++ [k] := by
  have hnot : ¬ k + 1 ≤ 1 := by omega
  simp [predecessor, hnot]

end NodePath

/-- What every node has, with the number of its position for its own, and that of the
    position of its predecessor for its parent. Nothing else is changed. -/
def NodeInfo.numberedAt (root : Nat) (path : NodePath) (i : NodeInfo) : NodeInfo :=
  { i with id := path.value root, parent := path.predecessor.value root }

namespace Node

mutual

/-- A node at a position and all nodes below it with their positions, each before those
    it holds. -/
def placed (path : NodePath) : Node → List (NodePath × Node)
  | field i f => [(path, field i f)]
  | group i kind readonly ns => (path, group i kind readonly ns) :: placedFrom path 1 ns

/-- The same for siblings below a position. The first of them is the one of number `k`. -/
def placedFrom (path : NodePath) (k : Nat) : List Node → List (NodePath × Node)
  | [] => []
  | n :: ns => placed (path ++ [k]) n ++ placedFrom path (k + 1) ns

end

mutual

/-- A node at a position, with what every node has changed by its position, in it and in
    all nodes below it. -/
def mapInfo (change : NodePath → NodeInfo → NodeInfo) (path : NodePath) : Node → Node
  | field i f => field (change path i) f
  | group i kind readonly ns =>
    group (change path i) kind readonly (mapInfoFrom change path 1 ns)

/-- The same for siblings below a position. The first of them is the one of number `k`. -/
def mapInfoFrom (change : NodePath → NodeInfo → NodeInfo) (path : NodePath) (k : Nat) :
    List Node → List Node
  | [] => []
  | n :: ns => mapInfo change (path ++ [k]) n :: mapInfoFrom change path (k + 1) ns

end

theorem placed_eq (path : NodePath) (n : Node) :
    n.placed path = (path, n) :: placedFrom path 1 n.nodes := by
  cases n with
  | field i f => rw [placed, nodes, placedFrom]
  | group i kind readonly ns => rw [placed, nodes]

/-! ### The first node whose number does not fit -/

/-- Whether the number of a node does not fit into 64 bits. -/
def exceeds (root : Nat) (x : NodePath × Node) : Bool :=
  decide (Number.wordBound ≤ x.1.value root)

section

variable {root : Nat} {α β γ : Type}

/-- The error about the first of some nodes whose number does not fit, or else a result. -/
def unlessExceeding (root : Nat) (visited : List (NodePath × Node)) (a : α) :
    Except ConversionError α :=
  match visited.find? (exceeds root) with
  | some x => .error (.nesting x.2.line (.nestedTooDeeply x.2.name))
  | none => .ok a

theorem unlessExceeding_cons (path : NodePath) (n : Node) (visited : List (NodePath × Node))
    (a : α) :
    unlessExceeding root ((path, n) :: visited) a =
      if path.value root < Number.wordBound then unlessExceeding root visited a
      else .error (.nesting n.line (.nestedTooDeeply n.name)) := by
  rw [unlessExceeding, List.find?_cons]
  by_cases hfits : path.value root < Number.wordBound
  · have hnot : exceeds root (path, n) = false := decide_eq_false (Nat.not_le.2 hfits)
    rw [if_pos hfits, hnot]
    rfl
  · have hexceeds : exceeds root (path, n) = true := decide_eq_true (Nat.not_lt.1 hfits)
    rw [if_neg hfits, hexceeds]

/-- Of what is visited in two parts, the first is blamed. -/
theorem unlessExceeding_append (first rest : List (NodePath × Node)) (f : α → β → γ) (a : α)
    (b : β) :
    (unlessExceeding root first a >>= fun a => unlessExceeding root rest b >>= fun b =>
        Except.ok (f a b)) =
      unlessExceeding root (first ++ rest) (f a b) := by
  simp only [unlessExceeding, List.find?_append]
  cases first.find? (exceeds root) with
  | some x => rfl
  | none =>
      rw [Option.none_or]
      cases rest.find? (exceeds root) <;> rfl

end

/-! ### Numbering from a position on -/

mutual

/-- Below a node that has the number of its position, numbering follows the positions. -/
theorem number_eq (root : Nat) (path : NodePath) (n : Node) :
    number (path.value root) (path.predecessor.value root) n =
      unlessExceeding root (placedFrom path 1 n.nodes)
        (mapInfo (NodeInfo.numberedAt root) path n) := by
  match n with
  | field i f => rfl
  | group i kind readonly ns =>
      -- The first of the nodes it holds is at the first position below.
      have hbelow := numberFrom_eq root path ns Nat.one_pos
      rw [NodePath.value_first, NodePath.predecessor_first] at hbelow
      rw [number, hbelow, mapInfo, nodes, unlessExceeding, unlessExceeding]
      cases (placedFrom path 1 ns).find? (exceeds root) <;> rfl

/-- So it does for siblings from any one of them on. -/
theorem numberFrom_eq (root : Nat) (path : NodePath) {k : Nat} (ns : List Node) (hk : 0 < k) :
    numberFrom ((path ++ [k]).value root) ((path ++ [k] : NodePath).predecessor.value root) ns =
      unlessExceeding root (placedFrom path k ns)
        (mapInfoFrom (NodeInfo.numberedAt root) path k ns) := by
  match ns with
  | [] => rfl
  | n :: ns =>
      have hfirst := number_eq root (path ++ [k]) n
      -- The next sibling has the next number, and this one is its predecessor.
      have hrest := numberFrom_eq root path ns (Nat.succ_pos k)
      rw [NodePath.value_next, NodePath.predecessor_next path hk] at hrest
      rw [numberFrom, hfirst, hrest, placedFrom, mapInfoFrom, placed_eq, List.cons_append,
        unlessExceeding_cons, ← unlessExceeding_append]
      rfl

end

/-- Numbering the nodes below a number gives every node the number of its position and that
    of its predecessor, and changes nothing else; or, if there are nodes whose number does
    not fit into 64 bits, it fails with the line and the name of the first of them. -/
theorem numberAll_by_position (root : Nat) (nodes : List Node) :
    numberAll root nodes =
      match (placedFrom [] 1 nodes).find? (exceeds root) with
      | none => .ok (mapInfoFrom (NodeInfo.numberedAt root) [] 1 nodes)
      | some (_, n) => .error (.nesting n.line (.nestedTooDeeply n.name)) := by
  have hnumber := numberFrom_eq root [] nodes Nat.one_pos
  rw [NodePath.value_first, NodePath.predecessor_first, NodePath.value_nil] at hnumber
  rw [numberAll, hnumber, unlessExceeding]
  cases (placedFrom [] 1 nodes).find? (exceeds root) <;> rfl

end Node

end Questionnaire
