import Questionnaire.Proofs.Choices
import Questionnaire.Proofs.Document.Attributes
import Questionnaire.Proofs.Document.Conversion
import Questionnaire.Proofs.Json.Printing

/-!
# Nothing Is Lost in Writing

The text of a document is valid, and it tells the document, all but the lines of the
survey that its nodes were made from. The argument has three parts that know
nothing of each other. A printed value is the value of its text, in any layout;
the value of a document tells the document, if no attribute of an author's own
has the name of a fixed one; and none has, since the choices of a form are made
without them.

A node is one object, whether it is a field or a group. It has the attributes of a
field only if it is one, and its kind has a number of its own, so the number tells
fields from groups. What a group holds is told by induction over the tree.

## Main definitions

* `Node.withoutLine`, `Document.withoutLines`: What is told of a node and of a document.
* `Node.schema`, `Document.schema`: The places of a node and of a document.
* `Style.IsOffered`: The layouts that can be asked for.

## Theorems

* `Node.withoutLine_of_same`: What the value of a node tells.
* `Document.withoutLines_of_same`: What the value of a document tells.
* `Form.Accepts.unshadowed`: The choices of a document can be told apart.
* `Form.lossless_of_convert`: Nothing is lost in writing.
-/

namespace Questionnaire

open Json

/-! ### Nodes -/

/-- What every node has, without the line it was made from. -/
def NodeInfo.withoutLine (i : NodeInfo) : NodeInfo :=
  { i with line := 0 }

namespace GroupKind

theorem code_ne_zero (k : GroupKind) : k.code ≠ 0 := by
  cases k <;> exact Nat.succ_ne_zero _

/-- A kind is told by its number and its limit. -/
theorem eq_of_code_eq {k k' : GroupKind} (hcode : k.code = k'.code)
    (hlimit : k.limit? = k'.limit?) : k = k' := by
  cases k <;> cases k'
  all_goals first | rfl | exact congrArg repeated hlimit | cases hcode

end GroupKind

namespace Node

mutual

/-- A node without the lines that it and the nodes below it were made from. -/
def withoutLine : Node → Node
  | field i f => field i.withoutLine f
  | group i kind readonly nodes => group i.withoutLine kind readonly (withoutLineAll nodes)

/-- Nodes without the lines they were made from. -/
def withoutLineAll : List Node → List Node
  | [] => []
  | n :: ns => withoutLine n :: withoutLineAll ns

end

theorem withoutLineAll_eq_map (ns : List Node) : withoutLineAll ns = ns.map withoutLine := by
  induction ns with
  | nil => rfl
  | cons n ns ih => rw [withoutLineAll, ih, List.map_cons]

theorem jsonAll_eq_map (ns : List Node) : jsonAll ns = ns.map json := by
  induction ns with
  | nil => rfl
  | cons n ns ih => rw [jsonAll, ih, List.map_cons]

theorem nodesMember?_eq (ns : List Node) :
    nodesMember? ns = optional "nodes" (list? ns json) := by
  cases ns with
  | nil => rfl
  | cons n ns =>
      rw [nodesMember?, jsonAll_eq_map]
      rfl

/-- The condition on which nothing in a node can be changed. -/
def readonly? : Node → Option String
  | field .. => none
  | group _ _ readonly _ => readonly

/-- The limit of repetitions of a node. -/
def limit? : Node → Option Nat
  | field .. => none
  | group _ kind _ _ => kind.limit?

/-- The places of a node. -/
def schema : Schema Node where
  places :=
    [("parent", fun n => some (.nat n.info.parent)),
      ("id", fun n => some (.nat n.info.id)),
      ("name", fun n => some (.string n.info.name)),
      ("label", fun n => some (.string n.info.label)),
      ("nodeType", fun n => some (.nat n.code)),
      ("visibility", fun n => n.info.visibility.map conditionJson),
      ("readonly", fun n => n.readonly?.map conditionJson),
      ("maxReps", fun n => n.limit?.map .nat)] ++
    within field? Field.places ++
    [("nodes", fun n => list? n.nodes json)]
  nodup := by decide

theorem json_eq (n : Node) : n.json = schema.object n := by
  rw [Schema.object, schema, membersAt_append, membersAt_append, membersAt_within]
  simp only [membersAt_cons, membersAt_nil, List.append_nil]
  cases n with
  -- A field leaves the places of a group empty, and a group those of a field.
  | field i f =>
      rw [json, NodeInfo.members, member?_eq, Field.members_eq]
      simp only [info, code, readonly?, limit?, field?, nodes, Option.map_none, optional_none,
        list?_nil, List.append_nil]
      rfl
  | group i kind readonly ns =>
      rw [json, NodeInfo.members, member?_eq, member?_eq, member?_eq, nodesMember?_eq]
      simp only [info, code, readonly?, limit?, field?, nodes, List.append_nil, List.append_assoc]
      rfl

/-- What is told of a node, as long as nothing is known of what it holds. -/
theorem parts_of_same {n n' : Node} (h : Same n.json n'.json) :
    n.info.withoutLine = n'.info.withoutLine ∧ n.code = n'.code ∧ n.readonly? = n'.readonly? ∧
      n.limit? = n'.limit? ∧ SameAt (within field? Field.places) n n' ∧
      Option.Rel Same (list? n.nodes json) (list? n'.nodes json) := by
  rw [json_eq, json_eq] at h
  have hplaces := schema.sameAt h
  simp only [SameAt, schema, List.forall_mem_append, List.forall_mem_cons] at hplaces
  rcases hplaces with ⟨⟨⟨hparent, hid, hname, hlabel, hcode, hvisibility, hreadonly, hlimit, -⟩,
    hfield⟩, hnodes, -⟩
  have hvisibility := eq_of_rel_map (fun _ _ => eq_of_same_single) hvisibility
  have hreadonly := eq_of_rel_map (fun _ _ => eq_of_same_single) hreadonly
  have hlimit := eq_of_rel_map (fun _ _ => same_nat_iff.1) hlimit
  have hinfo : n.info.withoutLine = n'.info.withoutLine := by
    rw [NodeInfo.withoutLine, NodeInfo.withoutLine, NodeInfo.mk.injEq]
    exact ⟨eq_of_rel_string hname, eq_of_rel_string hlabel, rfl, hvisibility,
      same_nat_iff.1 (Option.rel_some_some.1 hid), same_nat_iff.1 (Option.rel_some_some.1 hparent)⟩
  exact ⟨hinfo, same_nat_iff.1 (Option.rel_some_some.1 hcode), hreadonly, hlimit, hfield, hnodes⟩

mutual

/-- The value of a node tells the node, but not the lines. -/
theorem withoutLine_of_same (n n' : Node) (h : Same n.json n'.json) :
    n.withoutLine = n'.withoutLine := by
  rcases parts_of_same h with ⟨hinfo, hcode, hreadonly, hlimit, hfield, hnodes⟩
  -- No group has the number of a field, so nodes of different make are not equal.
  match n, n' with
  | .field i f, .field i' f' =>
      have hf := Field.eq_of_sameAt (hfield.of_within rfl rfl)
      rw [withoutLine, withoutLine, field.injEq]
      exact ⟨hinfo, hf⟩
  | .field .., .group _ kind' .. => exact absurd hcode.symm kind'.code_ne_zero
  | .group _ kind .., .field .. => exact absurd hcode kind.code_ne_zero
  | .group i kind readonly ns, .group i' kind' readonly' ns' =>
      have hns := map_eq_of_same_array (withoutLine_of_mem ns ns') (same_array_of_rel hnodes)
      rw [withoutLine, withoutLine, group.injEq, withoutLineAll_eq_map, withoutLineAll_eq_map]
      exact ⟨hinfo, GroupKind.eq_of_code_eq hcode hlimit, hreadonly, hns⟩

theorem withoutLine_of_mem (ns ns' : List Node) : ∀ n ∈ ns, ∀ n' ∈ ns', Same n.json n'.json →
    n.withoutLine = n'.withoutLine := by
  match ns with
  | [] =>
      intro n hn
      cases hn
  | first :: ns =>
      intro n hn n' hn' h
      rcases List.mem_cons.1 hn with hfirst | hn
      · rw [hfirst] at h ⊢
        exact withoutLine_of_same first n' h
      · exact withoutLine_of_mem ns ns' n hn n' hn' h

end

mutual

/-- A line leaves no trace in the value of a node. -/
theorem json_withoutLine (n : Node) : n.withoutLine.json = n.json := by
  match n with
  | .field i f => rfl
  | .group i kind readonly ns =>
      rw [withoutLine, json, json, nodesMember?_withoutLineAll ns]
      rfl

theorem nodesMember?_withoutLineAll (ns : List Node) :
    nodesMember? (withoutLineAll ns) = nodesMember? ns := by
  match ns with
  | [] => rfl
  | n :: ns =>
      rw [withoutLineAll, nodesMember?, nodesMember?, json_withoutLine n,
        jsonAll_withoutLineAll ns]

theorem jsonAll_withoutLineAll (ns : List Node) : jsonAll (withoutLineAll ns) = jsonAll ns := by
  match ns with
  | [] => rfl
  | n :: ns =>
      rw [withoutLineAll, jsonAll, jsonAll, json_withoutLine n, jsonAll_withoutLineAll ns]

end

mutual

theorem keysDistinct_json (n : Node) : KeysDistinct n.json := by
  rw [json_eq]
  refine schema.keysDistinct ?_
  simp only [DistinctAt, schema, List.forall_mem_append, List.forall_mem_cons]
  refine ⟨⟨⟨?_, ?_, ?_, ?_, ?_, ?_, ?_, ?_, List.forall_mem_nil _⟩, ?_⟩, ?_, List.forall_mem_nil _⟩
  · exact keysDistinct_of_mem_some (.integer _)
  · exact keysDistinct_of_mem_some (.integer _)
  · exact keysDistinct_of_mem_some (.string _)
  · exact keysDistinct_of_mem_some (.string _)
  · exact keysDistinct_of_mem_some (.integer _)
  · exact keysDistinct_of_mem_map (keysDistinct_single "condition") _
  · exact keysDistinct_of_mem_map (keysDistinct_single "condition") _
  · exact keysDistinct_of_mem_map (fun _ => .integer _) _
  · exact DistinctAt.within fun f _ => f.distinctAt
  · match n with
    | .field .. => exact keysDistinct_of_mem_unlessEmpty (.array (List.forall_mem_nil _))
    | .group _ _ _ ns =>
        exact keysDistinct_of_mem_unlessEmpty (keysDistinct_array (keysDistinct_of_mem ns))

theorem keysDistinct_of_mem (ns : List Node) : ∀ n ∈ ns, KeysDistinct n.json := by
  match ns with
  | [] =>
      intro n hn
      cases hn
  | first :: ns =>
      intro n hn
      rcases List.mem_cons.1 hn with hfirst | hn
      · rw [hfirst]
        exact keysDistinct_json first
      · exact keysDistinct_of_mem ns n hn

end

end Node

/-! ### Documents -/

namespace Document

/-- A document without the lines that its nodes were made from. -/
def withoutLines (d : Document) : Document :=
  { d with nodes := d.nodes.map Node.withoutLine }

/-- The choices of a document can be told apart. -/
def Unshadowed (d : Document) : Prop :=
  ∀ list ∈ d.choiceLists, ∀ c ∈ list.2, c.Unshadowed

/-- The places of a document. -/
def schema : Schema Document where
  places :=
    [("choicesOrigins", fun d => list? d.choiceLists choiceListJson),
      ("nodes", fun d => some (.array (d.nodes.map Node.json))),
      ("stringIdentifier", fun d => list? d.tags Tag.json),
      ("translations", fun d => dictionary? d.translations translationJson)]
  nodup := by decide

theorem translationsMember?_eq (d : Document) :
    d.translationsMember? = optional "translations" (dictionary? d.translations translationJson) :=
  (optional_unlessEmpty "translations" d.translations.isEmpty _).symm

theorem json_eq (d : Document) : d.json = schema.object d := by
  rw [json, listMember?_eq, member_eq, listMember?_eq, translationsMember?_eq,
    Node.jsonAll_eq_map, Schema.object, schema]
  simp only [membersAt_cons, membersAt_nil, List.append_nil, List.append_assoc]

theorem json_withoutLines (d : Document) : d.withoutLines.json = d.json := by
  rw [json, json, withoutLines, Node.jsonAll_eq_map, List.map_map, Node.jsonAll_eq_map]
  simp only [Function.comp_def, Node.json_withoutLine]
  rfl

theorem keysDistinct_json {d : Document} (hd : d.Unshadowed) : KeysDistinct d.json := by
  rw [json_eq]
  refine schema.keysDistinct ?_
  simp only [DistinctAt, schema, List.forall_mem_cons]
  refine ⟨?_, ?_, ?_, ?_, List.forall_mem_nil _⟩
  · refine keysDistinct_of_mem_unlessEmpty (keysDistinct_array fun list hlist => ?_)
    exact keysDistinct_choiceListJson (hd list hlist)
  · exact keysDistinct_of_mem_some (keysDistinct_array (Node.keysDistinct_of_mem d.nodes))
  · exact keysDistinct_of_mem_unlessEmpty (keysDistinct_array fun t _ => t.keysDistinct_json)
  · refine keysDistinct_of_mem_unlessEmpty ?_
    exact keysDistinct_entries keysDistinct_translationJson d.translations

/-- The value of a document tells the document, but not the lines. -/
theorem withoutLines_of_same {d d' : Document} (hd : d.Unshadowed) (hd' : d'.Unshadowed)
    (h : Same d.json d'.json) : d.withoutLines = d'.withoutLines := by
  rw [json_eq, json_eq] at h
  have hplaces := schema.sameAt h
  simp only [SameAt, schema, List.forall_mem_cons] at hplaces
  rcases hplaces with ⟨hlists, hnodes, htags, htranslations, -⟩
  have hlists := eq_of_same_array (fun list hlist list' hlist' =>
    eq_of_same_choiceListJson (hd list hlist) (hd' list' hlist')) (same_array_of_rel hlists)
  have hnodes := map_eq_of_same_array (Node.withoutLine_of_mem d.nodes d'.nodes)
    (Option.rel_some_some.1 hnodes)
  have htags := eq_of_same_array (fun _ _ _ _ => Tag.eq_of_same) (same_array_of_rel htags)
  have htranslations := eq_of_rel_dictionary (fun _ _ => eq_of_same_translationJson) htranslations
  rw [withoutLines, withoutLines, mk.injEq]
  exact ⟨hlists, hnodes, htags, htranslations⟩

/-- Documents that differ in lines at most have equal values, and no others have. -/
theorem same_json_iff {d d' : Document} (hd : d.Unshadowed) (hd' : d'.Unshadowed) :
    Same d.json d'.json ↔ d.withoutLines = d'.withoutLines := by
  constructor
  · exact withoutLines_of_same hd hd'
  · intro h
    rw [← json_withoutLines d, h, json_withoutLines]
    exact Same.refl _

end Document

/-! ### The choices of a form -/

/-- The choice of a row is made without the columns that take a fixed name. -/
theorem Choice.unshadowed_ofRow (r : Row) : (Choice.ofRow r).Unshadowed := by
  have hnone : ∀ key, (["value", "label"].contains key) = true →
      (Choice.ofRow r).own.get? key = none := by
    intro key hkey
    refine Dictionary.get?_ofList_eq_none ?_
    rintro e he rfl
    rw [List.mem_filter, hkey] at he
    cases he.2
  exact ⟨hnone "value" (by decide), hnone "label" (by decide)⟩

/-- Every choice of a document was made from a row. -/
theorem Form.Accepts.unshadowed {form : Form} {doc : Document} (h : form.Accepts doc) :
    doc.Unshadowed := by
  intro list hlist c hc
  rw [h.listed] at hlist
  rcases List.mem_filter.1 hlist with ⟨hentry, _⟩
  have hget := (form.choiceLists.get?_eq_some_iff list.1 list.2).2 hentry
  rw [choiceLists, ChoiceLists.get?_ofRows] at hget
  split at hget
  · cases hget
  · rw [← Option.some.inj hget] at hc
    rcases List.mem_map.1 hc with ⟨r, _, rfl⟩
    exact Choice.unshadowed_ofRow r

/-! ### The text of a document -/

namespace Json.Style

/-- The layouts that can be asked for. -/
def IsOffered (style : Style) : Prop :=
  style = compact ∨ style = tabs ∨ ∃ n, style = blanks n

theorem IsOffered.isSpaced {style : Style} (h : style.IsOffered) : style.IsSpaced := by
  rcases h with rfl | rfl | ⟨n, rfl⟩
  · trivial
  · intro c hc
    rw [List.mem_singleton.1 hc]
    rfl
  · intro c hc
    rw [List.eq_of_mem_replicate hc]
    rfl

end Json.Style

namespace Form

/-- The text of a document is valid in every layout, with one value for all of them, in which
    no object has two equal keys; and documents have equal values if they differ in the
    lines of their nodes at most, and only then. -/
theorem lossless_of_convert {form : Form} {doc : Document}
    (h : form.convert.outcome = .ok doc) :
    ∃ v : Json, (∀ style : Json.Style, style.IsOffered →
        ∀ w, Json.Spells (doc.print style) w ↔ w = v) ∧
      v.KeysDistinct ∧
      ∀ (form' : Form) (doc' : Document), form'.convert.outcome = .ok doc' →
        ∀ (style' : Json.Style) (v' : Json), style'.IsOffered →
          Json.Spells (doc'.print style') v' →
            (v.Same v' ↔ doc.withoutLines = doc'.withoutLines) := by
  have hdoc := (convert_eq_ok_iff.1 h).unshadowed
  refine ⟨doc.json, ?_, Document.keysDistinct_json hdoc, ?_⟩
  · intro style hstyle w
    have hprint := Json.spells_print hstyle.isSpaced doc.json
    constructor
    · exact fun hw => hw.unique hprint
    · rintro rfl
      exact hprint
  · intro form' doc' h' style' v' hstyle' hv'
    have hdoc' := (convert_eq_ok_iff.1 h').unshadowed
    rw [hv'.unique (Json.spells_print hstyle'.isSpaced doc'.json)]
    exact Document.same_json_iff hdoc hdoc'

/-- Characters that are escaped, a choice with a column that takes a fixed name and one that
    does not, a condition, a tag and a translation. -/
theorem lossless_of_convert_own_column :
    let form : Form := ⟨[
      .ofCells 2 [("type", "begin repeat"), ("name", "g"), ("repeat_count", "3")],
      .ofCells 3 [("type", "select_one towns"), ("name", "a"), ("required", "yes"),
        ("label", "Say \"where\"\tyou live"), ("label::French", "Où \\ habitez-vous ?")],
      .ofCells 4 [("type", "end repeat")]],
      [.ofCells 2 [("list name", "towns"), ("name", "p"), ("label", "Paris"), ("value", "x"),
        ("population", "2 million")]],
      [.ofCells 2 [("tag label", "Town"), ("tag value", "a")]], .empty,
      .ofList [("French", ())]⟩
    ∃ doc, form.convert.outcome = .ok doc ∧
      ∃ v : Json, (∀ style : Json.Style, style.IsOffered →
          ∀ w, Json.Spells (doc.print style) w ↔ w = v) ∧
        v.KeysDistinct ∧
        ∀ (form' : Form) (doc' : Document), form'.convert.outcome = .ok doc' →
          ∀ (style' : Json.Style) (v' : Json), style'.IsOffered →
            Json.Spells (doc'.print style') v' →
              (v.Same v' ↔ doc.withoutLines = doc'.withoutLines) := by
  dsimp only
  refine exists_of_any (fun _ => true) ?accepted fun doc h _ => lossless_of_convert h
  decide +kernel

end Form

end Questionnaire
