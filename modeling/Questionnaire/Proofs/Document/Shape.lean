import Questionnaire.Proofs.Document.Encoding

/-!
# The Shape of a Document

What the form engine expects of a document, said of JSON alone: which kinds of
nodes stand at which level, and which attributes go together. The engine reads
attributes and does not ask whether they belong to the kind of the node that has
them, so a document that mixes them up would be accepted and go wrong while it is
filled in.

The second part is about nodes. A node cannot mix up attributes, since each kind has
its own, so most of the shape is there whatever the node is. Four things are not:
that groups inside others are no slides, that a list has a name and a table columns
and rows, that only tables are marked as editable, and that a note has no label.
`Node.IsInner` and `Node.IsOutermost` list these, and the theorems say that they are
all that the shape depends on.

## Main definitions

* `Json.IsField`, `Json.IsInner`, `Json.IsSlide`: The objects for a field, for a node below
  a slide, and for a slide.
* `Json.IsForm`: The object for a document.
* `Field.Fits`: A field with what it cannot do without.
* `Node.IsInner`, `Node.IsOutermost`: Nodes below a slide, and slides.

## Theorems

* `Node.get?_json`, `Node.get?_json_field`, `Node.get?_json_kind`, `Node.get?_json_table`: What
  stands under a key.
* `Node.isField_json`: A field has the shape of one.
* `Node.isInner_json`, `Node.isSlide_json`: So have the nodes of both levels.
* `Document.isForm_json`: So has a document of slides.
-/

namespace Questionnaire

/-! ### Objects -/

namespace Json

/-- What stands under a key of an object. -/
def get? (v : Json) (key : String) : Option Json :=
  match v with
  | .object members => members.lookup key
  | _ => none

/-- Whether an object has a member. -/
def Has (v : Json) (key : String) : Prop :=
  (v.get? key).isSome = true

/-- The keys that only fields have. -/
def fieldKeys : List String :=
  ["fieldType", "hint", "defaultValue", "editable", "validation", "formula", "choicesOriginRef",
    "choicesFilter", "forceNarrow", "HTML", "rangeStart", "rangeEnd", "rangeStep", "columnTypes",
    "columnLabels", "rowLabels", "rows"]

/-- The keys of a range. -/
def rangeKeys : List String :=
  ["rangeStart", "rangeEnd", "rangeStep"]

/-- The keys of a table. -/
def tableKeys : List String :=
  ["columnTypes", "columnLabels", "rowLabels", "rows"]

/-- An object that has the attributes of a type of field and none of the others. Types with
    attributes of their own are the choices (4 and 5), formulas (6), notes (7), tables (11)
    and ranges (17). -/
structure FitsType (v : Json) (type : Nat) : Prop where
  formula : v.Has "formula" ↔ type = 6
  list : v.Has "choicesOriginRef" ↔ type = 4 ∨ type = 5
  named : ∀ list, v.get? "choicesOriginRef" = some list → ∃ name, name ≠ "" ∧ list = .string name
  filter : v.Has "choicesFilter" → type = 4 ∨ type = 5
  narrow : v.Has "forceNarrow" → type = 4 ∨ type = 5
  content : v.Has "HTML" → type = 7
  label : type = 7 → v.get? "label" = some (.string "")
  range : ∀ key ∈ rangeKeys, v.Has key ↔ type = 17
  table : ∀ key ∈ tableKeys, v.Has key ↔ type = 11
  filled : ∀ key ∈ tableKeys, ∀ items, v.get? key = some items →
    ∃ first rest, items = .array (first :: rest)
  editable : v.get? "editable" = some (.bool true) ↔ type = 11
  locked : type ≠ 11 → v.get? "editable" = none ∨ v.get? "editable" = some (.bool false)

/-- An object for a field. -/
structure IsField (v : Json) : Prop where
  node : v.get? "nodeType" = some (.nat 0)
  leaf : ∀ key ∈ ["readonly", "maxReps", "nodes"], ¬ v.Has key
  typed : ∃ type, v.get? "fieldType" = some (.nat type) ∧ v.FitsType type

/-- An object for a node of a type that holds others. -/
structure Holds (v : Json) (type : Nat) (held : List Json) : Prop where
  node : v.get? "nodeType" = some (.nat type)
  plain : ∀ key ∈ fieldKeys, ¬ v.Has key
  nodes : v.get? "nodes" = if held.isEmpty then none else some (.array held)

/-- An object for a node below a slide: a field, or a group (of type 2) of such nodes. -/
inductive IsInner : Json → Prop
  | field {v : Json} (h : v.IsField) : IsInner v
  | group {v : Json} {held : List Json} (h : v.Holds 2 held) (hlimit : ¬ v.Has "maxReps")
      (hheld : ∀ w ∈ held, IsInner w) : IsInner v

/-- An object for a slide (of type 3), or for a repeating one (of type 4). Only the second
    kind has a limit, and it fits into 32 bits with a sign. -/
structure IsSlide (v : Json) : Prop where
  holds : ∃ type held, (type = 3 ∨ type = 4) ∧ v.Holds type held ∧ ∀ w ∈ held, w.IsInner
  limit : ∀ limit, v.get? "maxReps" = some limit →
    v.get? "nodeType" = some (.nat 4) ∧ ∃ n, n ≤ 0x7fffffff ∧ limit = .nat n

/-- An object for a document: its nodes are slides. -/
def IsForm (v : Json) : Prop :=
  ∃ slides, v.get? "nodes" = some (.array slides) ∧ ∀ s ∈ slides, s.IsSlide

theorem has_iff {v : Json} {key : String} {value? : Option Json} (h : v.get? key = value?) :
    v.Has key ↔ value?.isSome = true := by
  rw [Has, h]

theorem Schema.get?_object {α : Type} (schema : Schema α) (place : Place α)
    (h : place ∈ schema.places) (a : α) : (schema.object a).get? place.1 = place.2 a :=
  lookup_membersAt schema.nodup h a

theorem isSome_unlessEmpty {empty : Bool} {v : Json} :
    (unlessEmpty empty v).isSome = true ↔ empty = false := by
  cases empty <;> simp [unlessEmpty]

theorem isSome_text? {text : String} : (text? text).isSome = true ↔ text ≠ "" := by
  simp [text?, isSome_unlessEmpty]

theorem isSome_switch? {on : Bool} : (switch? on).isSome = true ↔ on = true := by
  simp [switch?, isSome_unlessEmpty]

theorem isSome_list? {α : Type} {list : List α} {f : α → Json} :
    (list? list f).isSome = true ↔ list ≠ [] := by
  simp [list?, isSome_unlessEmpty]

/-- A text that is there is not empty. -/
theorem exists_of_text?_eq_some {text : String} {v : Json} (h : text? text = some v) :
    ∃ t, t ≠ "" ∧ v = .string t := by
  have hfilled : text ≠ "" := isSome_text?.1 (by rw [h]; rfl)
  rw [text?, unlessEmpty, if_neg fun hempty => hfilled (String.isEmpty_iff.1 hempty)] at h
  exact ⟨text, hfilled, (Option.some.inj h).symm⟩

/-- A list that is there has items. -/
theorem exists_of_list?_eq_some {α : Type} {list : List α} {f : α → Json} {v : Json}
    (h : list? list f = some v) : ∃ first rest, v = .array (first :: rest) := by
  cases list with
  | nil => cases h
  | cons a as =>
      cases h
      exact ⟨f a, as.map f, rfl⟩

end Json

open Json

/-! ### Nodes -/

/-- A kind of field with what it cannot do without. -/
def FieldKind.IsFilled : FieldKind → Prop
  | choice _ list _ _ => list ≠ ""
  | table t => t.columns ≠ [] ∧ t.rows ≠ []
  | _ => True

/-- A field that is as its kind has to be. -/
structure Field.Fits (i : NodeInfo) (f : Field) : Prop where
  filled : f.kind.IsFilled
  editable : f.editable = some true ↔ f.kind.editable = some true
  label : f.kind.takesLabel = true → i.label = ""

/-- A kind of node that may stand at the outermost level. -/
def GroupKind.IsOutermost : GroupKind → Prop
  | group => False
  | slide => True
  | repeated limit => ∀ n ∈ limit, n ≤ Number.countLimit

namespace Node

/-- A node below a slide: a field, or a group of such nodes. -/
inductive IsInner : Node → Prop
  | field {i : NodeInfo} {f : Field} (h : f.Fits i) : IsInner (.field i f)
  | group (i : NodeInfo) (readonly : Option String) {ns : List Node}
      (hns : ∀ n ∈ ns, IsInner n) : IsInner (.group i .group readonly ns)

/-- A slide, or a repeating one. -/
inductive IsOutermost : Node → Prop
  | mk (i : NodeInfo) {kind : GroupKind} (hkind : kind.IsOutermost) (readonly : Option String)
      {ns : List Node} (hns : ∀ n ∈ ns, IsInner n) : IsOutermost (.group i kind readonly ns)

/-! What stands under a key of a node, of a field, of a kind and of a table. -/

theorem get?_json (place : Place Node) (h : place ∈ schema.places) (n : Node) :
    n.json.get? place.1 = place.2 n := by
  rw [json_eq]
  exact schema.get?_object place h n

theorem get?_json_field (place : Place Field) (h : place ∈ Field.places) (n : Node) :
    n.json.get? place.1 = n.field?.bind place.2 := by
  refine get?_json (place.1, fun n => n.field?.bind place.2) ?_ n
  exact List.mem_append_left _ (List.mem_append_right _ (List.mem_map_of_mem h))

theorem get?_json_kind (place : Place KindAttributes) (h : place ∈ KindAttributes.places)
    (n : Node) : n.json.get? place.1 = n.field?.bind fun f => place.2 f.kind.attributes := by
  refine get?_json_field (place.1, fun f => place.2 f.kind.attributes) ?_ n
  exact List.mem_append_right _ (List.mem_map_of_mem h)

theorem get?_json_table (place : Place Table) (h : place ∈ Table.places) (n : Node) :
    n.json.get? place.1 = n.field?.bind fun f => place.2 f.kind.attributes.table := by
  refine get?_json_kind (place.1, fun a => place.2 a.table) ?_ n
  exact List.mem_append_right _ (List.mem_map_of_mem h)

end Node

/-! ### The attributes of the kinds -/

namespace FieldKind

variable (k : FieldKind)

theorem isSome_formula_iff : k.attributes.formula.isSome = true ↔ k.code = 6 := by
  cases k with
  | choice several => cases several <;> simp [attributes, code]
  | _ => simp [attributes, code]

theorem list_ne_iff {k : FieldKind} (h : k.IsFilled) :
    k.attributes.list ≠ "" ↔ k.code = 4 ∨ k.code = 5 := by
  cases k with
  | choice several list =>
      have hlist : list ≠ "" := h
      cases several <;> simp [attributes, code, hlist]
  | _ => simp [attributes, code]

theorem code_of_filter (h : k.attributes.filter.isSome = true) : k.code = 4 ∨ k.code = 5 := by
  cases k with
  | choice several => cases several <;> simp [code]
  | _ => cases h

theorem code_of_narrow (h : k.attributes.narrow = true) : k.code = 4 ∨ k.code = 5 := by
  cases k with
  | choice several => cases several <;> simp [code]
  | _ => cases h

theorem code_of_content (h : k.attributes.content ≠ "") : k.code = 7 := by
  cases k with
  | note => rfl
  | _ => exact absurd rfl h

theorem takesLabel_iff : k.takesLabel = true ↔ k.code = 7 := by
  cases k with
  | choice several => cases several <;> simp [takesLabel, code]
  | _ => simp [takesLabel, code]

theorem range_iff :
    (k.attributes.first.isSome = true ↔ k.code = 17) ∧
      (k.attributes.last.isSome = true ↔ k.code = 17) ∧
      (k.attributes.step.isSome = true ↔ k.code = 17) := by
  cases k with
  | choice several => cases several <;> simp [attributes, code]
  | _ => simp [attributes, code]

theorem table_iff {k : FieldKind} (h : k.IsFilled) :
    (k.attributes.table.columns ≠ [] ↔ k.code = 11) ∧
      (k.attributes.table.rows ≠ [] ↔ k.code = 11) := by
  cases k with
  | choice several => cases several <;> simp [attributes, code]
  | table t => simp [attributes, code, h.1, h.2]
  | _ => simp [attributes, code]

theorem editable_iff : k.editable = some true ↔ k.code = 11 := by
  cases k with
  | choice several => cases several <;> simp [editable, code]
  | _ => simp [editable, code]

end FieldKind

/-! ### Fields and groups -/

namespace Node

/-- A field has the attributes of its kind and none of the others. -/
theorem fitsType_json {i : NodeInfo} {f : Field} (h : f.Fits i) :
    (field i f).json.FitsType f.kind.code := by
  have hkind := fun place hplace => get?_json_kind place hplace (field i f)
  have htable := fun place hplace => get?_json_table place hplace (field i f)
  simp only [KindAttributes.places, List.forall_mem_append, List.forall_mem_cons] at hkind
  simp only [Table.places, List.forall_mem_cons] at htable
  rcases hkind with ⟨⟨hformula, hlist, hfilter, hnarrow, hcontent, hfirst, hlast, hstep, -⟩, -⟩
  rcases htable with ⟨htypes, hlabels, hrowLabels, hrows, -⟩
  have heditable : (field i f).json.get? "editable" = f.editable.map .bool :=
    get?_json_field ("editable", fun f => f.editable.map .bool)
      (by simp [Field.places]) _
  rcases f.kind.range_iff with ⟨hfirstIff, hlastIff, hstepIff⟩
  rcases FieldKind.table_iff h.filled with ⟨hcolumnsIff, hrowsIff⟩
  refine ⟨?formula, ?list, ?named, ?filter, ?narrow, ?content, ?label, ?range, ?table, ?filled,
    ?editable, ?locked⟩
  case formula =>
    rw [has_iff hformula]
    simp [field?, FieldKind.isSome_formula_iff]
  case list =>
    rw [has_iff hlist]
    simp [field?, isSome_text?, FieldKind.list_ne_iff h.filled]
  case named =>
    rw [hlist]
    exact fun list hitems => exists_of_text?_eq_some hitems
  case filter =>
    rw [has_iff hfilter]
    simpa [field?] using f.kind.code_of_filter
  case narrow =>
    rw [has_iff hnarrow]
    simpa [field?, isSome_switch?] using f.kind.code_of_narrow
  case content =>
    rw [has_iff hcontent]
    simpa [field?, isSome_text?] using f.kind.code_of_content
  case label =>
    intro hcode
    have hlabel : (field i f).json.get? "label" = some (.string i.label) :=
      get?_json ("label", fun n => some (.string n.info.label)) (by simp [schema]) _
    rw [hlabel, h.label (f.kind.takesLabel_iff.2 hcode)]
  case range =>
    simp only [rangeKeys, List.forall_mem_cons]
    rw [has_iff hfirst, has_iff hlast, has_iff hstep]
    simp [field?, hfirstIff, hlastIff, hstepIff]
  case table =>
    simp only [tableKeys, List.forall_mem_cons]
    rw [has_iff htypes, has_iff hlabels, has_iff hrowLabels, has_iff hrows]
    simp [field?, isSome_list?, hcolumnsIff, hrowsIff]
  case filled =>
    simp only [tableKeys, List.forall_mem_cons]
    rw [htypes, hlabels, hrowLabels, hrows]
    refine ⟨?_, ?_, ?_, ?_, List.forall_mem_nil _⟩
    all_goals exact fun items hitems => exists_of_list?_eq_some hitems
  case editable =>
    rw [heditable, ← f.kind.editable_iff, ← h.editable]
    simp
  case locked =>
    intro hcode
    rw [heditable]
    have hno : f.editable ≠ some true := fun heq => hcode (f.kind.editable_iff.1 (h.editable.1 heq))
    cases hvalue : f.editable with
    | none => exact Or.inl rfl
    | some b =>
        cases b with
        | false => exact Or.inr rfl
        | true => exact absurd hvalue hno

theorem isField_json {i : NodeInfo} {f : Field} (h : f.Fits i) : (field i f).json.IsField := by
  have hplaces := fun place hplace => get?_json place hplace (field i f)
  simp only [schema, List.forall_mem_append, List.forall_mem_cons] at hplaces
  rcases hplaces with ⟨⟨⟨-, -, -, -, hnode, -, hreadonly, hlimit, -⟩, hfield⟩, hnodes, -⟩
  have htype : (field i f).json.get? "fieldType" = some (.nat f.kind.code) :=
    get?_json_field ("fieldType", fun f => some (.nat f.kind.code))
      List.mem_cons_self _
  refine ⟨hnode, ?_, f.kind.code, htype, fitsType_json h⟩
  simp only [List.forall_mem_cons, has_iff hreadonly, has_iff hlimit, has_iff hnodes]
  simp [readonly?, limit?, nodes, list?_nil]

/-- A group has no attribute of a field. -/
theorem holds_json (i : NodeInfo) (kind : GroupKind) (readonly : Option String)
    (ns : List Node) :
    (group i kind readonly ns).json.Holds kind.code (ns.map json) := by
  have hkeys : fieldKeys = Field.places.map Prod.fst := rfl
  have hnodes : (group i kind readonly ns).json.get? "nodes" = list? ns json :=
    get?_json ("nodes", fun n => list? n.nodes json) (by simp [schema]) _
  refine ⟨?_, ?_, ?_⟩
  · exact get?_json ("nodeType", fun n => some (.nat n.code)) (by simp [schema]) _
  · intro key hkey
    rw [hkeys, List.mem_map] at hkey
    rcases hkey with ⟨place, hplace, rfl⟩
    rw [has_iff (get?_json_field place hplace _)]
    simp [field?]
  · rw [hnodes, list?, unlessEmpty, List.isEmpty_map]

theorem get?_json_limit (i : NodeInfo) (kind : GroupKind) (readonly : Option String)
    (ns : List Node) :
    (group i kind readonly ns).json.get? "maxReps" = kind.limit?.map .nat :=
  get?_json ("maxReps", fun n => n.limit?.map .nat) (by simp [schema]) _

theorem isInner_json {n : Node} (h : n.IsInner) : n.json.IsInner := by
  induction h with
  | field h => exact .field (isField_json h)
  | group i readonly _ ih =>
      refine .group (holds_json i .group readonly _) ?_ ?_
      · rw [has_iff (get?_json_limit i .group readonly _)]
        simp [GroupKind.limit?]
      · simpa using ih

theorem isSlide_json {n : Node} (h : n.IsOutermost) : n.json.IsSlide := by
  rcases h with ⟨i, hkind, readonly, hns⟩
  rename_i kind ns
  have hheld : ∀ v ∈ ns.map json, v.IsInner := by
    simpa using fun n hn => isInner_json (hns n hn)
  refine ⟨⟨kind.code, ns.map json, ?_, holds_json i kind readonly ns, hheld⟩, ?_⟩
  · cases kind with
    | group => exact hkind.elim
    | slide => exact Or.inl rfl
    | repeated limit => exact Or.inr rfl
  · intro limit hlimit
    rw [get?_json_limit] at hlimit
    cases kind with
    | repeated limit? =>
        rcases Option.map_eq_some_iff.1 hlimit with ⟨n, hn, rfl⟩
        exact ⟨(holds_json i _ readonly ns).node, n, hkind n hn, rfl⟩
    | _ => cases hlimit

end Node

theorem Document.isForm_json {d : Document} (h : ∀ n ∈ d.nodes, n.IsOutermost) :
    d.json.IsForm := by
  have hnodes : d.json.get? "nodes" = some (.array (d.nodes.map Node.json)) := by
    rw [json_eq]
    exact schema.get?_object ("nodes", fun d => some (.array (d.nodes.map Node.json)))
      (by simp [schema]) d
  refine ⟨d.nodes.map Node.json, hnodes, ?_⟩
  simpa using fun n hn => Node.isSlide_json (h n hn)

end Questionnaire
