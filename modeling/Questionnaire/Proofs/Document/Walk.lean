import Questionnaire.Form.Convert
import Questionnaire.Proofs.Document.Numbering

/-!
# Walks over a Document

A document is a tree and a survey is a list, so to compare them both are walked
over. A walk over a document meets every node before the nodes it holds and
passes through the slides that were put in, as if the questions on them stood at
the outermost level. What it notes of a node is what the survey says too: its
name, its line, and where on the walk the nodes around it were met.

Which slides were put in cannot be told from a document, where they look like the
slides of groups. So the walk is over `Top`s, the outermost nodes with that
knowledge beside them.

A walk does not see the numbers of the nodes, nor whether an outermost group has
become a slide.

## Main definitions

* `Visit`: What a walk notes of a node.
* `Node.visits`, `Node.visitsAll`: The walk through a node, and through siblings.
* `Top`: An outermost node, and whether it is a slide that was put in.
* `walkFrom`, `walk`: The walk over a document.
* `putIn`: The slides that were put in.

## Theorems

* `Node.visits_number`, `Node.visitsAll_numberFrom`: Numbering does not change a walk.
* `Node.visits_asSlide`: Nor does making a slide of a group.
* `exists_tops_of_numberFrom`: The walk over a numbered document.
-/

namespace Questionnaire

/-- What a walk over a document notes of a node. -/
structure Visit where
  name : String
  line : Nat
  /-- The places on the walk of the nodes around it, outermost first. Slides that were
      put in have no place. -/
  around : List Nat
  /-- The slide that was put in and that holds it, counted from zero. -/
  slide : Option Nat
deriving DecidableEq

namespace Node

mutual

/-- The walk through a node whose place is `place`. -/
def visits (slide : Option Nat) (around : List Nat) (place : Nat) : Node → List Visit
  | field i _ => [⟨i.name, i.line, around, slide⟩]
  | group i _ _ ns =>
    ⟨i.name, i.line, around, slide⟩ :: visitsAll none (around ++ [place]) (place + 1) ns

/-- The walk through siblings, of which the first has the place `place`. -/
def visitsAll (slide : Option Nat) (around : List Nat) (place : Nat) : List Node → List Visit
  | [] => []
  | n :: ns =>
    visits slide around place n ++
      visitsAll slide around (place + (visits slide around place n).length) ns

end

end Node

/-- An outermost node of a document, and whether it is a slide that was put in. -/
structure Top where
  isPutIn : Bool
  node : Node

/-- The walk over the outermost nodes, after some slides that were put in. -/
def walkFrom (slides place : Nat) : List Top → List Visit
  | [] => []
  | ⟨true, n⟩ :: tops =>
    Node.visitsAll (some slides) [] place n.nodes ++
      walkFrom (slides + 1)
        (place + (Node.visitsAll (some slides) [] place n.nodes).length) tops
  | ⟨false, n⟩ :: tops =>
    n.visits none [] place ++
      walkFrom slides (place + (n.visits none [] place).length) tops

/-- The walk over a document. -/
def walk (tops : List Top) : List Visit :=
  walkFrom 0 0 tops

/-- The slides that were put in. -/
def putIn (tops : List Top) : List Node :=
  (tops.filter Top.isPutIn).map Top.node

/-! ### What a walk does not see -/

namespace Node

theorem visits_asSlide (n : Node) (slide : Option Nat) (around : List Nat) (place : Nat) :
    n.asSlide.visits slide around place = n.visits slide around place := by
  cases n with
  | field i f => rfl
  | group i kind readonly ns =>
      cases kind with
      | group => rw [asSlide, visits, visits]
      | slide => rfl
      | repeated limit => rfl

theorem nodes_asSlide (n : Node) : n.asSlide.nodes = n.nodes := by
  cases n with
  | field i f => rfl
  | group i kind readonly ns => cases kind <;> rfl

theorem info_asSlide (n : Node) : n.asSlide.info = n.info := by
  cases n with
  | field i f => rfl
  | group i kind readonly ns => cases kind <;> rfl

mutual

theorem visits_number {id parent : Nat} (n : Node) {numbered : Node}
    (h : number id parent n = .ok numbered) (slide : Option Nat) (around : List Nat)
    (place : Nat) : numbered.visits slide around place = n.visits slide around place := by
  match n with
  | field i f =>
      cases h
      rfl
  | group i kind readonly ns =>
      rcases number_group_eq_ok.1 h with ⟨ns', hns, rfl⟩
      -- The nodes below are numbered one level deeper, and a walk does not see that either.
      rw [visits, visits, visitsAll_numberFrom ns hns]
      rfl

theorem visitsAll_numberFrom {id parent : Nat} (ns : List Node) {numbered : List Node}
    (h : numberFrom id parent ns = .ok numbered) (slide : Option Nat) (around : List Nat)
    (place : Nat) :
    visitsAll slide around place numbered = visitsAll slide around place ns := by
  match ns with
  | [] =>
      cases h
      rfl
  | n :: ns =>
      rcases numberFrom_cons_eq_ok.1 h with ⟨_, n', ns', hn, hns, rfl⟩
      rw [visitsAll, visitsAll, visits_number n hn, visitsAll_numberFrom ns hns]

end

theorem visitsAll_nodes_number {id parent : Nat} {n numbered : Node}
    (h : number id parent n = .ok numbered) (slide : Option Nat) (around : List Nat)
    (place : Nat) :
    visitsAll slide around place numbered.nodes = visitsAll slide around place n.nodes := by
  cases n with
  | field i f =>
      cases h
      rfl
  | group i kind readonly ns =>
      rcases number_group_eq_ok.1 h with ⟨ns', hns, rfl⟩
      exact visitsAll_numberFrom ns hns slide around place

end Node

/-- The outermost nodes of a document, as they were before they were made slides and
    numbered. The walk is the same, and so are the names and lines of the slides that
    were put in. -/
theorem exists_tops_of_numberFrom {tops : List Top} {id parent : Nat} {numbered : List Node}
    (h : Node.numberFrom id parent ((tops.map Top.node).map Node.asSlide) = .ok numbered)
    (slides place : Nat) :
    ∃ tops', tops'.map Top.node = numbered ∧
      walkFrom slides place tops' = walkFrom slides place tops ∧
      (putIn tops').map Node.name = (putIn tops).map Node.name ∧
      (putIn tops').map Node.line = (putIn tops).map Node.line := by
  induction tops generalizing id parent numbered slides place with
  | nil =>
      cases h
      exact ⟨[], rfl, rfl, rfl, rfl⟩
  | cons top tops ih =>
      rw [List.map_cons, List.map_cons] at h
      rcases Node.numberFrom_cons_eq_ok.1 h with ⟨_, n', ns', hn, hns, rfl⟩
      -- The first node keeps its name, its line and its walk; the others follow by induction.
      rcases top with ⟨isPutIn, n⟩
      have hinfo := Node.info_number hn
      rw [Node.info_asSlide] at hinfo
      have hname : n'.name = n.name := by
        rw [Node.name, hinfo]
        rfl
      have hline : n'.line = n.line := by
        rw [Node.line, hinfo]
        rfl
      cases isPutIn with
      | true =>
          have hwalk : Node.visitsAll (some slides) [] place n'.nodes =
              Node.visitsAll (some slides) [] place n.nodes := by
            rw [Node.visitsAll_nodes_number hn, Node.nodes_asSlide]
          rcases ih hns (slides + 1)
            (place + (Node.visitsAll (some slides) [] place n.nodes).length) with
            ⟨tops', hnodes, hrest, hnames, hlines⟩
          refine ⟨⟨true, n'⟩ :: tops', ?_, ?_, ?_, ?_⟩
          · rw [List.map_cons, hnodes]
          · rw [walkFrom, walkFrom, hwalk, hrest]
          · simp only [putIn, List.filter_cons, if_true, List.map_cons] at hnames ⊢
            rw [hname, hnames]
          · simp only [putIn, List.filter_cons, if_true, List.map_cons] at hlines ⊢
            rw [hline, hlines]
      | false =>
          have hwalk : n'.visits none [] place = n.visits none [] place := by
            rw [Node.visits_number _ hn, Node.visits_asSlide]
          rcases ih hns slides (place + (n.visits none [] place).length) with
            ⟨tops', hnodes, hrest, hnames, hlines⟩
          refine ⟨⟨false, n'⟩ :: tops', ?_, ?_, ?_, ?_⟩
          · rw [List.map_cons, hnodes]
          · rw [walkFrom, walkFrom, hwalk, hrest]
          · simpa only [putIn, List.filter_cons, Bool.false_eq_true, if_false] using hnames
          · simpa only [putIn, List.filter_cons, Bool.false_eq_true, if_false] using hlines

end Questionnaire
