import Questionnaire.Proofs.Document.Conversion
import Questionnaire.Proofs.Document.Walk
import Questionnaire.Proofs.Survey.Stops

/-!
# The Nesting of a Document

The tree of a document is the nesting of its survey. Both are walked over, the
document as in `Walk` and the survey as in `Stops`, and the walks note the same
names, lines and places in the same order.

Both walks are maps of the stops of the survey. For the survey that is how stops
are made. For the document it is proved by induction on how balanced rows are
made: first inside groups, where the builder adds and drops nothing but data
about the interview, and then for the pieces of the outermost level, where the
slides that are put in hold the stretches. What the outermost level has to carry
along is in `Walked`: besides the walk, the names of the slides that were put in
and that each of them holds something.

## Main definitions

* `slideName`: The name of a slide that is put in.
* `Mirrors`: Outermost nodes that a survey describes.
* `Walked`: Outermost nodes whose walk is a map of some stops.

## Theorems

* `visitsAll_of_balanced`: The walk inside a group is a map of the stops.
* `visitsAll_of_stretch`: So is the walk inside a slide that was put in.
* `walked_of_outermost`: So is the walk over the outermost nodes.
* `Form.mirrors_of_convert`: A document has the nesting of its survey.
-/

namespace Questionnaire

open Survey

/-! ### What a survey says about a document -/

/-- The name of the slide of a number that is put in. -/
def slideName : Nat → String
  | 0 => "form"
  | n => "form" ++ toString n

/-- Outermost nodes that a survey describes. -/
structure Mirrors (survey : List Row) (tops : List Top) : Prop where
  /-- There is one node for each row that makes one, in their order, with the name and
      the line of the row, and under the nodes of the groups that are open at it. -/
  nesting : (walk tops).map (fun v => (v.name, v.line, v.around)) =
    (entries survey).map fun e => (e.row.name, e.row.line, e.opened)
  /-- The slides that were put in hold the questions outside all groups. -/
  loose : ∀ p ∈ (walk tops).zip (entries survey),
    p.1.slide.isSome = true ↔ p.2.row.kind.isQuestion = true ∧ p.2.opened = []
  /-- Two such questions are on one slide if no group begins between them, and only
      then. -/
  shared : ∀ p ∈ (walk tops).zip (entries survey), ∀ q ∈ (walk tops).zip (entries survey),
    ∀ (k l : Nat) (between : List Row), p.1.slide = some k → q.1.slide = some l →
      q.2.before = p.2.before ++ between → (k = l ↔ ∀ r ∈ between, r.kind.isBegin = false)
  /-- None of these slides is empty. -/
  held : ∀ k < (putIn tops).length, ∃ v ∈ walk tops, v.slide = some k
  named : (putIn tops).map Node.name = (List.range (putIn tops).length).map slideName
  /-- They stand for no row of the sheet. -/
  unlined : ∀ n ∈ putIn tops, n.line = 0

/-! ### The walk over a document -/

/-- What the walk over a document notes of a stop. -/
def Survey.Stop.visit (s : Stop) : Visit :=
  ⟨s.row.name, s.row.line, s.opened, s.slide⟩

/-- A row that is no mark gives a field, or nothing if it is data about the interview. -/
theorem ofItems_plain {tables : Dictionary String Grid} {r : Row} {rest : List Row}
    {nodes : List Node} (hfault : r.kind.fault r.type = none) (hplain : IsPlain r)
    (h : Node.ofItems tables (Item.ofRows (r :: rest)) = .ok nodes) :
    (r.kind = .metadata ∧ Node.ofItems tables (Item.ofRows rest) = .ok nodes) ∨
      (r.kind ≠ .metadata ∧ ∃ i f ns, i.name = r.name ∧ i.line = r.line ∧
        Node.ofItems tables (Item.ofRows rest) = .ok ns ∧ nodes = .field i f :: ns) := by
  rw [Item.ofRows_row hplain.1 hplain.2] at h
  by_cases hkind : r.kind = .metadata
  · have hother : r.kind.isQuestion = false := by
      rw [hkind]
      rfl
    -- Data about the interview is dropped.
    rw [Node.ofItems_dropped _ hother] at h
    exact Or.inl ⟨hkind, h⟩
  · have hquestion := isQuestion_of_understood hfault hplain hkind
    rcases Node.ofItems_question hquestion h with ⟨n, ns, hn, hns, rfl⟩
    rcases Node.ofQuestion_eq_ok hn with ⟨i, f, rfl, hname, hline⟩
    exact Or.inr ⟨hkind, i, f, ns, hname, hline, hns, rfl⟩

theorem visitsAll_of_balanced {rows : List Row} (h : Balanced rows) (hu : Understood rows)
    {tables : Dictionary String Grid} {nodes : List Node}
    (hnodes : Node.ofItems tables (Item.ofRows rows) = .ok nodes) (before : List Row)
    {opened : List Nat} (hopened : opened ≠ []) (place slides : Nat) :
    Node.visitsAll none opened place nodes =
      (stopsFrom before opened place slides false rows).map Stop.visit := by
  induction h generalizing nodes before opened place with
  | nil =>
      rw [Item.ofRows, Node.ofItems] at hnodes
      cases hnodes
      rfl
  | @row r rest hbegin hend _ ih =>
      rcases ofItems_plain hu.head ⟨hbegin, hend⟩ hnodes with
        ⟨hkind, hnodes⟩ | ⟨hkind, i, f, ns, hname, hline, hns, rfl⟩
      · rw [stopsFrom_metadata _ _ _ _ _ _ hkind]
        exact ih hu.tail hnodes _ hopened _
      · rw [stopsFrom_inside _ _ _ _ _ _ ⟨hbegin, hend⟩ hkind hopened, List.map_cons,
          ← ih hu.tail hns _ hopened, Node.visitsAll, Node.visits, hname, hline]
        rfl
  | @block opening closing inner rest hcloses hinner _ ihInner ihRest =>
      rw [Item.ofRows_block hcloses hinner] at hnodes
      -- The node of the group comes first, then those of what follows it.
      rcases Node.ofItems_group hnodes with ⟨head, ns, others, hhead, hns, hothers, rfl⟩
      rcases GroupHead.name_and_line_of_ofRow hhead with ⟨hname, hline⟩
      -- Inside, the place of the group is on the stack; behind it, it is off again.
      have hwithin := ihInner hu.tail.left hns (before ++ [opening])
        (List.concat_ne_nil place opened) (place + 1)
      rw [stopsFrom_block hcloses hinner, Node.visitsAll, GroupHead.node, Node.visits, hwithin,
        ihRest hu.tail.right.tail hothers (before ++ opening :: (inner ++ [closing])) hopened,
        hname, hline]
      simp only [List.cons_append, List.map_cons, List.map_append, List.length_cons,
        List.length_map]
      rfl

theorem visitsAll_of_stretch {rows : List Row} (hplain : ∀ r ∈ rows, IsPlain r)
    (hu : Understood rows) {tables : Dictionary String Grid} {nodes : List Node}
    (hnodes : Node.ofItems tables (Item.ofRows rows) = .ok nodes) (before : List Row)
    (place slide : Nat) :
    Node.visitsAll (some slide) [] place nodes =
      (stopsFrom before [] place (slide + 1) true rows).map Stop.visit := by
  induction rows generalizing nodes before place with
  | nil =>
      rw [Item.ofRows, Node.ofItems] at hnodes
      cases hnodes
      rfl
  | cons r rest ih =>
      have hr := hplain r List.mem_cons_self
      have hrestPlain : ∀ r' ∈ rest, IsPlain r' := fun r' hr' =>
        hplain r' (List.mem_cons_of_mem _ hr')
      rcases ofItems_plain hu.head hr hnodes with
        ⟨hkind, hnodes⟩ | ⟨hkind, i, f, ns, hname, hline, hns, rfl⟩
      · rw [stopsFrom_metadata _ _ _ _ _ _ hkind]
        exact ih hrestPlain hu.tail hnodes _ _
      · rw [stopsFrom_loose _ _ _ _ _ hr hkind, List.map_cons, if_pos rfl,
          ← ih hrestPlain hu.tail hns, Node.visitsAll, Node.visits, hname, hline]
        rfl

/-- Outermost nodes whose walk is a map of some stops, after some slides and from some
    place on. -/
structure Walked (slides place : Nat) (tops : List Top) (stops : List Stop) : Prop where
  visited : walkFrom slides place tops = stops.map Stop.visit
  held : ∀ k, slides ≤ k → k < slides + (putIn tops).length →
    ∃ s ∈ stops, s.slide = some k
  named : (putIn tops).map Node.name =
    (List.range' slides (putIn tops).length).map slideName
  unlined : (putIn tops).map Node.line = List.replicate (putIn tops).length 0

namespace Walked

theorem nil (slides place : Nat) : Walked slides place [] [] := by
  refine ⟨rfl, ?_, rfl, rfl⟩
  intro k hle hlt
  rw [putIn, List.filter_nil, List.map_nil, List.length_nil] at hlt
  omega

/-- A node of the survey in front. -/
theorem kept {slides place : Nat} {n : Node} {tops : List Top} {stops rest : List Stop}
    (hn : n.visits none [] place = stops.map Stop.visit)
    (h : Walked slides (place + stops.length) tops rest) :
    Walked slides place (⟨false, n⟩ :: tops) (stops ++ rest) := by
  have hputIn : putIn (⟨false, n⟩ :: tops) = putIn tops := by
    rw [putIn, List.filter_cons_of_neg Bool.false_ne_true]
    rfl
  refine ⟨?_, ?_, ?_, ?_⟩
  · rw [walkFrom, hn, List.length_map, h.visited, List.map_append]
  · rw [hputIn]
    intro k hle hlt
    rcases h.held k hle hlt with ⟨s, hs, hk⟩
    exact ⟨s, List.mem_append_right _ hs, hk⟩
  · rw [hputIn]
    exact h.named
  · rw [hputIn]
    exact h.unlined

/-- A slide that was put in, in front. -/
theorem putIn {slides place : Nat} {n : Node} {tops : List Top} {stops rest : List Stop}
    (hn : Node.visitsAll (some slides) [] place n.nodes = stops.map Stop.visit)
    (hheld : ∃ s ∈ stops, s.slide = some slides) (hname : n.name = slideName slides)
    (hline : n.line = 0) (h : Walked (slides + 1) (place + stops.length) tops rest) :
    Walked slides place (⟨true, n⟩ :: tops) (stops ++ rest) := by
  have hputIn : Questionnaire.putIn (⟨true, n⟩ :: tops) = n :: Questionnaire.putIn tops := by
    rw [Questionnaire.putIn, List.filter_cons_of_pos rfl]
    rfl
  refine ⟨?_, ?_, ?_, ?_⟩
  · rw [walkFrom, hn, List.length_map, h.visited, List.map_append]
  · rw [hputIn, List.length_cons]
    intro k hle hlt
    -- The slide in front is the next one; the later ones are held further on.
    by_cases hk : k = slides
    · rcases hheld with ⟨s, hs, hslide⟩
      exact ⟨s, List.mem_append_left _ hs, by rw [hk, hslide]⟩
    · rcases h.held k (by omega) (by omega) with ⟨s, hs, hslide⟩
      exact ⟨s, List.mem_append_right _ hs, hslide⟩
  · rw [hputIn, List.map_cons, List.length_cons, List.range'_succ, List.map_cons, hname,
      h.named]
  · rw [hputIn, List.map_cons, List.length_cons, List.replicate_succ, hline, h.unlined]

end Walked

theorem name_slideMark (n : Nat) : (slideMark n).name = slideName n := by
  cases n <;> exact name_groupMark _ _

theorem line_slideMark (n : Nat) : (slideMark n).line = 0 := by
  cases n <;> exact line_groupMark _ _

/-- The walk over the nodes of a divided survey, piece by piece. -/
theorem walked_of_outermost {rows : List Row} (h : Outermost rows) (hu : Understood rows)
    {tables : Dictionary String Grid} {slides : Nat} {nodes : List Node}
    (hnodes : Node.ofItems tables
      (Item.ofRows (wrapLooseFrom 0 slides false rows)) = .ok nodes)
    (before : List Row) (place : Nat) :
    ∃ tops, tops.map Top.node = nodes ∧
      Walked slides place tops (stopsFrom before [] place slides false rows) := by
  induction h generalizing slides nodes before place with
  | nil =>
      rw [Item.ofRows_wrapped_nil, Node.ofItems] at hnodes
      cases hnodes
      exact ⟨[], rfl, .nil slides place⟩
  | @metadata r rest hkind _ ih =>
      have hplain : IsPlain r := by
        rw [IsPlain, hkind]
        exact ⟨rfl, rfl⟩
      -- Outside all stretches such a row stands by itself and is dropped.
      rw [wrapLooseFrom_metadata hkind] at hnodes
      rcases ofItems_plain hu.head hplain hnodes with ⟨_, hnodes⟩ | ⟨hne, _⟩
      · rw [stopsFrom_metadata _ _ _ _ _ _ hkind]
        exact ih hu.tail hnodes _ _
      · exact absurd hkind hne
  | @block opening closing inner rest hcloses hinner _ ih =>
      rw [Item.ofRows_wrapped_block hcloses hinner] at hnodes
      rcases Node.ofItems_group hnodes with ⟨head, ns, others, hhead, hns, hothers, rfl⟩
      rcases GroupHead.name_and_line_of_ofRow hhead with ⟨hname, hline⟩
      have hwithin := visitsAll_of_balanced hinner hu.tail.left hns (before ++ [opening])
        (List.concat_ne_nil place []) (place + 1) slides
      -- The group is its own top, and stands where its mark stands.
      have hgroup : (head.node ns).visits none [] place =
          (⟨opening, before, [], none⟩ :: stopsFrom (before ++ [opening]) ([] ++ [place])
            (place + 1) slides false inner : List Stop).map Stop.visit := by
        rw [GroupHead.node, Node.visits, hwithin, hname, hline]
        rfl
      rcases ih hu.tail.right.tail hothers (before ++ opening :: (inner ++ [closing])) _ with
        ⟨tops, htops, hwalked⟩
      refine ⟨⟨false, head.node ns⟩ :: tops, ?_, ?_⟩
      · rw [List.map_cons, htops]
      · rw [stopsFrom_block hcloses hinner, ← List.cons_append]
        exact .kept hgroup hwalked
  | @stretch first more after hfirst hkind hmore hafter _ ih =>
      rw [Item.ofRows_wrapped_stretch hfirst hkind hmore hafter] at hnodes
      rcases Node.ofItems_group hnodes with ⟨head, ns, others, hhead, hns, hothers, rfl⟩
      rcases GroupHead.name_and_line_of_ofRow hhead with ⟨hname, hline⟩
      rw [name_slideMark] at hname
      rw [line_slideMark] at hline
      -- The first row opens the stretch and the slide; the others find it open.
      rcases ofItems_plain hu.head hfirst hns with
        ⟨hmetadata, _⟩ | ⟨_, i, f, ns', hname', hline', hns', rfl⟩
      · exact absurd hmetadata hkind
      · have hwithin := visitsAll_of_stretch hmore hu.tail.left hns' (before ++ [first]) (place + 1)
          slides
        have hslide : Node.visitsAll (some slides) [] place (head.node (.field i f :: ns')).nodes =
            (⟨first, before, [], some slides⟩ :: stopsFrom (before ++ [first]) [] (place + 1)
              (slides + 1) true more : List Stop).map Stop.visit := by
          rw [GroupHead.node, Node.nodes, Node.visitsAll, Node.visits, hname', hline']
          exact congrArg _ hwithin
        rcases ih hu.tail.right hothers (before ++ [first] ++ more) _ with ⟨tops, htops, hwalked⟩
        refine ⟨⟨true, head.node (.field i f :: ns')⟩ :: tops, ?_, ?_⟩
        · rw [List.map_cons, htops]
        · rw [stopsFrom_loose _ _ _ _ _ hfirst hkind, if_neg Bool.false_ne_true,
            Nat.add_sub_cancel, stopsFrom_append_stretch hmore, stopsFrom_after_stretch hafter,
            ← List.cons_append, Nat.add_right_comm, Nat.add_assoc]
          exact .putIn hslide ⟨_, List.mem_cons_self, rfl⟩ hname hline hwalked

/-! ### Documents -/

/-- Outermost nodes whose walk is a map of the stops of a survey are those that the survey
    describes. -/
theorem mirrors_of_walked {survey : List Row} (hu : Understood survey) {tops : List Top}
    (h : Walked 0 0 tops (stopsFrom [] [] 0 0 false survey)) : Mirrors survey tops := by
  have hwalk : walk tops = (stopsFrom [] [] 0 0 false survey).map Stop.visit := h.visited
  have hentries : entries survey = (stopsFrom [] [] 0 0 false survey).map Stop.entry :=
    (map_entry_stopsFrom [] [] 0 0 false survey).symm
  have hzip : ∀ p ∈ (walk tops).zip (entries survey),
      ∃ s ∈ stopsFrom [] [] 0 0 false survey, p = (s.visit, s.entry) := by
    -- Both lists are maps of the stops, so they are paired stop by stop.
    rw [hwalk, hentries, List.zip_map']
    intro p hp
    rcases List.mem_map.1 hp with ⟨s, hs, rfl⟩
    exact ⟨s, hs, rfl⟩
  refine ⟨?_, ?_, ?_, ?_, ?_, ?_⟩
  · rw [hwalk, hentries, List.map_map, List.map_map]
    rfl
  · intro p hp
    rcases hzip p hp with ⟨s, hs, rfl⟩
    exact slide_isSome_iff hu hs
  · intro p hp q hq k l between hk hl hbefore
    rcases hzip p hp with ⟨s, hs, rfl⟩
    rcases hzip q hq with ⟨t, ht, rfl⟩
    have hbegins : t.before = s.before ++ between := hbefore
    rw [agreeOnSlide_of_mem hs ht k l hk hl, hbegins, begins_append_eq_iff]
  · intro k hk
    rcases h.held k (Nat.zero_le k) (by omega) with ⟨s, hs, hslide⟩
    refine ⟨s.visit, ?_, hslide⟩
    rw [hwalk]
    exact List.mem_map_of_mem hs
  · rw [h.named, List.range_eq_range']
  · intro n hn
    have hline := List.mem_map_of_mem (f := Node.line) hn
    rw [h.unlined] at hline
    exact (List.mem_replicate.1 hline).2

/-- The document of a form has the nesting of its survey: with the slides that were put
    in taken out, it has a node for each row that makes one, in their order and under
    the nodes of the groups that are open; and the slides that were put in hold the
    questions outside all groups, a new slide after each group. -/
theorem Form.mirrors_of_convert {form : Form} {doc : Document}
    (h : form.convert.outcome = .ok doc) :
    ∃ tops : List Top, tops.map Top.node = doc.nodes ∧ Mirrors form.survey tops := by
  rcases convert_eq_ok_iff.1 h with ⟨hcheck, hbalance, ⟨nodes, hnodes, hnumber⟩, _, _, _⟩
  -- The types are checked first, and so only questions and data are left between the marks.
  rcases bind_eq_ok.1 hcheck with ⟨_, htypes, _⟩
  have hu := understood_of_checkTypes htypes
  have hpieces := (balanced_of_checkBalance hbalance).outermost
  rcases walked_of_outermost hpieces hu hnodes [] 0 with ⟨tops, rfl, hwalked⟩
  -- The walk was over the nodes as they were built; numbering has not changed it.
  rcases exists_tops_of_numberFrom hnumber 0 0 with ⟨tops', htops, hwalk, hnames, hlines⟩
  have hlength : (putIn tops').length = (putIn tops).length := by
    rw [← List.length_map (f := Node.name), hnames, List.length_map]
  refine ⟨tops', htops, mirrors_of_walked hu ⟨?_, ?_, ?_, ?_⟩⟩
  · rw [hwalk, hwalked.visited]
  · rw [hlength]
    exact hwalked.held
  · rw [hnames, hlength, hwalked.named]
  · rw [hlines, hlength, hwalked.unlined]

/-- Data about the interview, a group, and questions on both sides of it. -/
theorem Form.mirrors_of_convert_two_stretches :
    let form : Form := ⟨[.ofCells 2 [("type", "start"), ("name", "s")],
      .ofCells 3 [("type", "text"), ("name", "a")], .ofCells 4 [("type", "today"), ("name", "d")],
      .ofCells 5 [("type", "begin group"), ("name", "g")], .ofCells 6 [("type", "note")],
      .ofCells 7 [("type", "end group")], .ofCells 8 [("type", "note")]], [], [], .empty, .empty⟩
    ∃ doc, form.convert.outcome = .ok doc ∧
      ∃ tops : List Top, tops.map Top.node = doc.nodes ∧ Mirrors form.survey tops := by
  dsimp only
  refine exists_of_any (fun _ => true) ?accepted fun doc h _ => mirrors_of_convert h
  decide +kernel

end Questionnaire
