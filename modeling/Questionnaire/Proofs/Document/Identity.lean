import Questionnaire.Proofs.Document.Conversion
import Questionnaire.Proofs.Document.Numbering

/-!
# Numbers as Identities

When the number of a node tells it from all others. The number shows the path to a
node as long as no node holds more than a thousand others; beyond that the
numbers below a node run on into those below a later one. Whether they meet
depends on whether the later node holds anything, and on how far away it is.

`Document.IsSpacious` is the exact condition. It looks at the nodes and, as the
holder of the slides, at the document itself with the number zero. If it fails
at two holders, the first number below the later one is given out below the
earlier one too. If it holds, no two ranges meet, so a number that is given out
twice lies in one range of a number that is given out twice; and since a range
lies above its number, that can be traced down to the document, which is alone.

## Main definitions

* `Document.allNodes`: The nodes of a document, of all levels.
* `Document.holders`: The document and its nodes, by how many nodes they hold.
* `Document.IsSpacious`: No holder's numbers run into those of another.

## Theorems

* `Document.count_ids`: How often a number is given out.
* `Document.nodup_ids_iff`: Numbers are distinct in spacious documents only.
* `Document.isSpacious_of_size_le`: Up to a thousand nodes are never too many.
* `Form.ids_of_convert`: The numbers of the document of a form.
* `Form.not_nodup_ids_of_large_group`: A document whose numbers are not distinct.
-/

namespace Questionnaire

namespace Document

/-- The nodes of a document, of all levels. -/
def allNodes (doc : Document) : List Node :=
  Node.subtrees doc.nodes

/-- The numbers of the nodes. -/
def ids (doc : Document) : List Nat :=
  doc.allNodes.map Node.id

/-- The document, which holds the slides and has the number zero, and its nodes. -/
def holders (doc : Document) : List Holder :=
  ⟨0, doc.nodes.length⟩ :: doc.allNodes.map Node.holder

/-- Whether the numbers below a holder end before those below a later one begin, if the
    later one holds anything. -/
def IsSpacious (doc : Document) : Prop :=
  ∀ a ∈ doc.holders, ∀ b ∈ doc.holders, a.number < b.number → 0 < b.size →
    a.size ≤ (b.number - a.number) * idFactor

/-- Whether the slides of a document are numbered as they should be. -/
def IsNumbered (doc : Document) : Prop :=
  ∃ nodes, Node.numberAll 0 nodes = .ok doc.nodes

variable {doc : Document}

theorem number_holders (doc : Document) : doc.holders.map Holder.number = 0 :: doc.ids := by
  rw [holders, List.map_cons, List.map_map, ids]
  rfl

/-- A number is given out once for every holder whose range covers it. -/
theorem count_ids (h : doc.IsNumbered) (x : Nat) :
    doc.ids.count x = doc.holders.countP (Holder.covers x) := by
  rcases h with ⟨nodes, h⟩
  have hcount := Node.count_ids_numberFrom nodes h x
  have hrange : Holder.covers x ⟨0, doc.nodes.length⟩ = true ↔
      0 * idFactor + 1 ≤ x ∧ x < 0 * idFactor + 1 + doc.nodes.length := by
    rw [Holder.covers_iff]
    dsimp only
    omega
  -- The slides are numbered from one on, which is the range of the document.
  rw [ids, allNodes, hcount, holders, List.countP_cons, allNodes]
  simp only [hrange]
  omega

theorem zero_notMem_ids (h : doc.IsNumbered) : 0 ∉ doc.ids := by
  intro hmem
  have hpos := List.count_pos_iff.2 hmem
  -- A range begins above its holder's number, so no range covers zero.
  rw [count_ids h] at hpos
  rcases List.countP_pos_iff.1 hpos with ⟨a, _, hcovers⟩
  have := (Holder.covers_iff.1 hcovers).1
  omega

/-- Two holders whose ranges meet have the same number, if the document is spacious. -/
theorem number_eq_of_covers (h : doc.IsSpacious) {a b : Holder} (ha : a ∈ doc.holders)
    (hb : b ∈ doc.holders) {x : Nat} (hax : a.covers x = true) (hbx : b.covers x = true) :
    a.number = b.number := by
  -- Of two holders that cover a number, the earlier one reaches into the later one's range.
  have ordered : ∀ {c d : Holder}, c ∈ doc.holders → d ∈ doc.holders → c.covers x = true →
      d.covers x = true → ¬ c.number < d.number := by
    intro c d hc hd hcx hdx hlt
    rcases Holder.covers_iff.1 hcx with ⟨_, hcx⟩
    rcases Holder.covers_iff.1 hdx with ⟨hdx, hdend⟩
    have hsize := h c hc d hd hlt (by omega)
    rw [Nat.sub_mul] at hsize
    have hstart : c.number * idFactor ≤ d.number * idFactor :=
      Nat.mul_le_mul_right idFactor (Nat.le_of_lt hlt)
    omega
  have hab := ordered ha hb hax hbx
  have hba := ordered hb ha hbx hax
  omega

/-- In a spacious document every number is given out once at most: by induction on the
    number, since it is larger than that of the holder it belongs to. -/
theorem count_ids_le_one (h : doc.IsNumbered) (hspacious : doc.IsSpacious) (x : Nat) :
    doc.ids.count x ≤ 1 := by
  induction x using Nat.strongRecOn with
  | ind x ih =>
      rw [count_ids h]
      by_cases hzero : doc.holders.countP (Holder.covers x) = 0
      · omega
      · rcases List.countP_pos_iff.1 (Nat.pos_of_ne_zero hzero) with ⟨b, hb, hbx⟩
        -- All holders that cover the number have the number of this one.
        have hsame : doc.holders.countP (Holder.covers x) ≤
            doc.holders.countP fun a => a.number == b.number := by
          refine List.countP_mono_left ?_
          intro a ha hax
          exact beq_iff_eq.2 (number_eq_of_covers hspacious ha hb hax hbx)
        have hcount : (doc.holders.countP fun a => a.number == b.number) =
            (0 :: doc.ids).count b.number := by
          rw [← number_holders, List.count, List.countP_map]
          rfl
        have honce : (0 :: doc.ids).count b.number ≤ 1 := by
          rw [List.count_cons]
          by_cases hb0 : b.number = 0
          -- The holder is the document: no node has its number.
          · rw [hb0, List.count_eq_zero.2 (zero_notMem_ids h)]
            decide
          · have hlt : b.number < x := by
              have hbelow := (Holder.covers_iff.1 hbx).1
              rw [idFactor] at hbelow
              omega
            -- A smaller number, which is given out once by induction.
            have hrest := ih b.number hlt
            rw [if_neg (by rw [beq_iff_eq]; omega)]
            omega
        omega

theorem two_le_countP {p : Holder → Bool} {hs : List Holder} {a b : Holder} (ha : a ∈ hs)
    (hb : b ∈ hs) (hne : a ≠ b) (hpa : p a = true) (hpb : p b = true) : 2 ≤ hs.countP p := by
  rcases List.append_of_mem ha with ⟨before, after, rfl⟩
  have hother : 0 < before.countP p + after.countP p := by
    rcases List.mem_append.1 hb with hb | hb
    · have hpos := List.countP_pos_iff.2 ⟨b, hb, hpb⟩
      omega
    · rcases List.mem_cons.1 hb with rfl | hb
      · exact absurd rfl hne
      · have hpos := List.countP_pos_iff.2 ⟨b, hb, hpb⟩
        omega
  rw [List.countP_append, List.countP_cons, if_pos hpa]
  omega

/-- In a document that is not spacious, two holders share the first number below the later
    one of them. -/
theorem isSpacious_of_nodup (h : doc.IsNumbered) (hnodup : doc.ids.Nodup) :
    doc.IsSpacious := by
  intro a ha b hb hlt hpos
  rw [Nat.sub_mul]
  apply Nat.le_of_not_lt
  intro hcrowded
  have hstart : a.number * idFactor ≤ b.number * idFactor :=
    Nat.mul_le_mul_right idFactor (Nat.le_of_lt hlt)
  -- The earlier holder is too large to end before that number.
  have hax : a.covers (b.number * idFactor + 1) = true := by
    rw [Holder.covers_iff]
    omega
  have hbx : b.covers (b.number * idFactor + 1) = true := by
    rw [Holder.covers_iff]
    omega
  have hne : a ≠ b := by
    intro hab
    rw [hab] at hlt
    omega
  -- Two holders cover it, so it is given out twice.
  have htwice := two_le_countP ha hb hne hax hbx
  rw [← count_ids h] at htwice
  have honce := List.nodup_iff_count.1 hnodup (b.number * idFactor + 1)
  omega

theorem nodup_ids_iff (h : doc.IsNumbered) : doc.ids.Nodup ↔ doc.IsSpacious := by
  constructor
  · exact isSpacious_of_nodup h
  · intro hspacious
    exact List.nodup_iff_count.2 (count_ids_le_one h hspacious)

theorem isSpacious_of_size_le (h : ∀ a ∈ doc.holders, a.size ≤ idFactor) : doc.IsSpacious := by
  intro a ha b _ hlt _
  have hsize := h a ha
  -- Two different numbers are at least one apart.
  have hfar : 1 * idFactor ≤ (b.number - a.number) * idFactor :=
    Nat.mul_le_mul_right idFactor (by omega)
  omega

/-- Every predecessor is a node of the document, apart from that of the first slide. -/
theorem parent_mem_ids (h : doc.IsNumbered) {n : Node} (hn : n ∈ doc.allNodes)
    (hparent : n.info.parent ≠ 0) : n.info.parent ∈ doc.ids := by
  rcases h with ⟨nodes, h⟩
  rcases Node.parent_numberFrom nodes h n hn with hzero | hmem
  · exact absurd hzero hparent
  · exact hmem

end Document

namespace Form

theorem isNumbered_of_convert {form : Form} {doc : Document}
    (h : form.convert.outcome = .ok doc) : doc.IsNumbered := by
  rcases (convert_eq_ok_iff.1 h).built with ⟨nodes, _, hnumber⟩
  exact ⟨_, hnumber⟩

/-- The numbers of the nodes are distinct if and only if the document is spacious, which it
    is if neither it nor any of its nodes holds more than a thousand others. The
    predecessor of a node is zero or the number of a node, and of one only if numbers
    are distinct. -/
theorem ids_of_convert {form : Form} {doc : Document} (h : form.convert.outcome = .ok doc) :
    (doc.ids.Nodup ↔ doc.IsSpacious) ∧
      ((∀ a ∈ doc.holders, a.size ≤ idFactor) → doc.ids.Nodup) ∧
      ∀ n ∈ doc.allNodes, n.info.parent ≠ 0 →
        n.info.parent ∈ doc.ids ∧ (doc.ids.Nodup → doc.ids.count n.info.parent = 1) := by
  have hnumbered := isNumbered_of_convert h
  refine ⟨Document.nodup_ids_iff hnumbered, ?_, ?_⟩
  · intro hsize
    exact (Document.nodup_ids_iff hnumbered).2 (Document.isSpacious_of_size_le hsize)
  · intro n hn hparent
    have hmem := Document.parent_mem_ids hnumbered hn hparent
    refine ⟨hmem, ?_⟩
    intro hnodup
    have hle := List.nodup_iff_count.1 hnodup n.info.parent
    have hpos := List.count_pos_iff.2 hmem
    omega

/-- Two groups with a question each. -/
theorem ids_of_convert_two_groups :
    let form : Form := ⟨[.ofCells 2 [("type", "begin group"), ("name", "g")],
      .ofCells 3 [("type", "text"), ("name", "a")], .ofCells 4 [("type", "end group")],
      .ofCells 5 [("type", "begin group"), ("name", "h")], .ofCells 6 [("type", "note")],
      .ofCells 7 [("type", "end group")]], [], [], .empty, .empty⟩
    ∃ doc, form.convert.outcome = .ok doc ∧ (doc.ids.Nodup ↔ doc.IsSpacious) ∧
      ((∀ a ∈ doc.holders, a.size ≤ idFactor) → doc.ids.Nodup) ∧
      ∀ n ∈ doc.allNodes, n.info.parent ≠ 0 →
        n.info.parent ∈ doc.ids ∧ (doc.ids.Nodup → doc.ids.count n.info.parent = 1) := by
  dsimp only
  refine exists_of_any (fun _ => true) ?accepted fun doc h _ => ids_of_convert h
  decide +kernel

/-- A group of 1001 notes and a group of one. The last note of the first group gets the
    number of the note of the second one. -/
theorem not_nodup_ids_of_large_group :
    let form : Form := ⟨.ofCells 2 [("type", "begin group"), ("name", "g")] ::
      (List.replicate 1001 (.ofCells 3 [("type", "note")]) ++
        [.ofCells 4 [("type", "end group")], .ofCells 5 [("type", "begin group"), ("name", "h")],
          .ofCells 6 [("type", "note")], .ofCells 7 [("type", "end group")]]),
      [], [], .empty, .empty⟩
    ∃ doc, form.convert.outcome = .ok doc ∧ ¬ doc.ids.Nodup := by
  dsimp only
  refine exists_of_any (fun doc => doc.ids.count 2001 == 2) ?computed fun doc _ htwice => ?_
  · decide +kernel
  · intro hnodup
    -- The two are the 1001st note of the first group and the first one of the second.
    have honce := List.nodup_iff_count.1 hnodup 2001
    rw [beq_iff_eq.1 htwice] at honce
    omega

end Form

end Questionnaire
