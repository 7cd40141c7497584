import Mathlib.Data.List.Basic
import Questionnaire.Document.Json
import Questionnaire.Proofs.Json.Schema

/-!
# What the Objects of a Document Tell

Each kind of object has its places, and a few lines on what they tell together. Most
records are told part by part. Two are not. Whether an answer is required is told
apart from the text that is shown if it is missing, since the text may be empty.
And the kind of a field is told by its number. The number says which kind it is,
and then the attributes of all kinds can stand side by side, most of them absent:
what is there belongs to the kind.

The attributes of an author's own stand in the object of a choice, beside the value
and the label that every choice has. They can be told apart as long as none of
them takes one of the two names.

## Main definitions

* `KindAttributes`: The attributes of all kinds of fields, side by side.
* `FieldKind.ofCode`: A kind by its number and its attributes.
* `Choice.Unshadowed`: No attribute of an author's own has the name of a fixed one.

## Theorems

* `Rule.eq_of_same`, `Validation.eq_of_same`, `TableCell.eq_of_same`, `Tag.eq_of_same`,
  `Choice.eq_of_same`, `eq_of_same_choiceListJson`: Equal objects are made from equal records.
* `FieldKind.ofCode_code`: A kind is told by its number and its attributes.
* `Field.eq_of_sameAt`: Fields with equal attributes are equal.
-/

namespace Questionnaire

open Json

theorem switchMember?_eq (key : String) (on : Bool) :
    switchMember? key on = optional key (switch? on) :=
  match on with
  | true => rfl
  | false => rfl

/-! ### Objects with one text -/

theorem eq_of_same_single {key s t : String}
    (h : Same (.object (member key (.string s))) (.object (member key (.string t)))) : s = t := by
  have hkey := h.lookup key
  rw [member_eq, member_eq, lookup_optional, lookup_optional, if_pos rfl, if_pos rfl] at hkey
  exact eq_of_rel_string hkey

theorem keysDistinct_single (key s : String) :
    KeysDistinct (.object (member key (.string s))) := by
  refine .object (List.nodup_singleton key) ?_
  intro m hm
  rw [List.mem_singleton.1 hm]
  exact .string s

/-! ### Validations -/

namespace Rule

/-- The places of a rule. -/
def schema : Schema Rule where
  places :=
    [("condition", fun r => some (.string r.condition)),
      ("clientValidation", fun _ => some (.bool true)),
      ("errorMessage", fun r => some (.string r.message))]
  nodup := by decide

theorem json_eq (r : Rule) : r.json = schema.object r :=
  rfl

theorem keysDistinct_json (r : Rule) : KeysDistinct r.json := by
  refine schema.keysDistinct ?_
  simp only [DistinctAt, schema, List.forall_mem_cons]
  exact ⟨keysDistinct_of_mem_some (.string _), keysDistinct_of_mem_some (.bool _),
    keysDistinct_of_mem_some (.string _), List.forall_mem_nil _⟩

theorem eq_of_same {r r' : Rule} (h : Same r.json r'.json) : r = r' := by
  have hplaces := schema.sameAt h
  simp only [SameAt, schema, List.forall_mem_cons] at hplaces
  rcases hplaces with ⟨hcondition, -, hmessage, -⟩
  rcases r with ⟨condition, message⟩
  rcases r' with ⟨condition', message'⟩
  rw [mk.injEq]
  exact ⟨eq_of_rel_string hcondition, eq_of_rel_string hmessage⟩

end Rule

namespace Validation

/-- The places of what an answer has to satisfy. -/
def schema : Schema Validation where
  places :=
    [("notEmpty", fun v => switch? v.requiredMessage.isSome),
      ("notEmptyMessage", fun v => text? (v.requiredMessage.getD "")),
      ("conditions", fun v => list? v.rules Rule.json)]
  nodup := by decide

theorem json_eq (v : Validation) : v.json = schema.object v := by
  rw [json, switchMember?_eq, textMember?_eq, listMember?_eq, List.append_assoc]
  simp only [Schema.object, membersAt, schema, List.flatMap_cons, List.flatMap_nil,
    List.append_nil]

theorem keysDistinct_json (v : Validation) : KeysDistinct v.json := by
  rw [json_eq]
  refine schema.keysDistinct ?_
  simp only [DistinctAt, schema, List.forall_mem_cons]
  exact ⟨keysDistinct_of_mem_unlessEmpty (.bool _), keysDistinct_of_mem_unlessEmpty (.string _),
    keysDistinct_of_mem_unlessEmpty (keysDistinct_array fun r _ => r.keysDistinct_json),
    List.forall_mem_nil _⟩

theorem eq_of_same {v v' : Validation} (h : Same v.json v'.json) : v = v' := by
  rw [json_eq, json_eq] at h
  have hplaces := schema.sameAt h
  simp only [SameAt, schema, List.forall_mem_cons] at hplaces
  rcases hplaces with ⟨hrequired, hmessage, hrules, -⟩
  have hrules := eq_of_same_array (fun _ _ _ _ => Rule.eq_of_same) (same_array_of_rel hrules)
  have hrequired := eq_of_rel_switch hrequired
  have hmessage := eq_of_rel_text hmessage
  rcases v with ⟨message?, rules⟩
  rcases v' with ⟨message?', rules'⟩
  rw [mk.injEq]
  refine ⟨?_, hrules⟩
  -- The switch tells whether there is a message, and then the text tells which.
  cases message? with
  | none =>
      cases message?' with
      | none => rfl
      | some message' => cases hrequired
  | some message =>
      cases message?' with
      | none => cases hrequired
      | some message' => exact congrArg some hmessage

end Validation

/-! ### Tables -/

namespace TableCell

theorem keysDistinct_json (c : TableCell) : KeysDistinct c.json := by
  cases c with
  | input name => exact .string name
  | computed formula =>
      refine .object (by decide : ["formula", "editable"].Nodup) ?_
      simp only [List.forall_mem_cons]
      exact ⟨.string formula, .bool false, List.forall_mem_nil _⟩

/-- The name of an input is a text, and a formula stands in an object. -/
theorem eq_of_same {c c' : TableCell} (h : Same c.json c'.json) : c = c' := by
  cases c with
  | input name =>
      cases c' with
      | input name' => rw [same_string_iff.1 h]
      | computed formula' => cases h
  | computed formula =>
      cases c' with
      | input name' => cases h
      | computed formula' => rw [eq_of_rel_string (h.lookup "formula")]

end TableCell

/-- A list is told by the lists of two parts, if its items are told by the parts. -/
theorem eq_of_map_eq {α β γ : Type} {f : α → β} {g : α → γ} {as bs : List α}
    (hinj : Function.Injective fun a => (f a, g a)) (hf : as.map f = bs.map f)
    (hg : as.map g = bs.map g) : as = bs := by
  refine List.map_injective_iff.2 hinj ?_
  rw [← List.zip_map', ← List.zip_map', hf, hg]

namespace Table

/-- The places of a table. -/
def places : List (Place Table) :=
  [("columnTypes", fun t => list? t.columns fun c => .string c.type),
    ("columnLabels", fun t => list? t.columns fun c => .string c.label),
    ("rowLabels", fun t => list? t.rows fun r => .string r.label),
    ("rows", fun t => list? t.rows fun r => .array (r.cells.map TableCell.json))]

theorem distinctAt (t : Table) : DistinctAt places t := by
  simp only [DistinctAt, places, List.forall_mem_cons]
  refine ⟨?_, ?_, ?_, ?_, List.forall_mem_nil _⟩
  · exact keysDistinct_of_mem_unlessEmpty (keysDistinct_array fun _ _ => .string _)
  · exact keysDistinct_of_mem_unlessEmpty (keysDistinct_array fun _ _ => .string _)
  · exact keysDistinct_of_mem_unlessEmpty (keysDistinct_array fun _ _ => .string _)
  · refine keysDistinct_of_mem_unlessEmpty (keysDistinct_array fun r _ => ?_)
    exact keysDistinct_array fun c _ => c.keysDistinct_json

theorem eq_of_sameAt {t t' : Table} (h : SameAt places t t') : t = t' := by
  simp only [SameAt, places, List.forall_mem_cons] at h
  rcases h with ⟨htypes, hlabels, hrowLabels, hrows, -⟩
  have htypes := map_eq_of_same_array (g := TableColumn.type)
    (fun _ _ _ _ => same_string_iff.1) (same_array_of_rel htypes)
  have hlabels := map_eq_of_same_array (g := TableColumn.label)
    (fun _ _ _ _ => same_string_iff.1) (same_array_of_rel hlabels)
  have hrowLabels := map_eq_of_same_array (g := TableRow.label)
    (fun _ _ _ _ => same_string_iff.1) (same_array_of_rel hrowLabels)
  have hrows := map_eq_of_same_array (g := TableRow.cells)
    (fun _ _ _ _ => eq_of_same_array fun _ _ _ _ => TableCell.eq_of_same)
    (same_array_of_rel hrows)
  rcases t with ⟨columns, rows⟩
  rcases t' with ⟨columns', rows'⟩
  rw [mk.injEq]
  refine ⟨eq_of_map_eq ?_ htypes hlabels, eq_of_map_eq ?_ hrowLabels hrows⟩
  · rintro ⟨type, label⟩ ⟨type', label'⟩ heq
    cases heq
    rfl
  · rintro ⟨label, cells⟩ ⟨label', cells'⟩ heq
    cases heq
    rfl

end Table

/-! ### Kinds of fields -/

/-- The attributes of all kinds of fields, side by side. -/
structure KindAttributes where
  formula : Option String := none
  list : String := ""
  filter : Option String := none
  narrow : Bool := false
  content : String := ""
  first : Option Int := none
  last : Option Int := none
  step : Option Int := none
  table : Table := ⟨[], []⟩

namespace KindAttributes

/-- The places of the attributes. -/
def places : List (Place KindAttributes) :=
  [("formula", fun a => a.formula.map formulaJson),
    ("choicesOriginRef", fun a => text? a.list),
    ("choicesFilter", fun a => a.filter.map formulaJson),
    ("forceNarrow", fun a => switch? a.narrow),
    ("HTML", fun a => text? a.content),
    ("rangeStart", fun a => a.first.map .integer),
    ("rangeEnd", fun a => a.last.map .integer),
    ("rangeStep", fun a => a.step.map .integer)] ++
  within (fun a => some a.table) Table.places

theorem distinctAt (a : KindAttributes) : DistinctAt places a := by
  simp only [DistinctAt, places, List.forall_mem_append, List.forall_mem_cons]
  refine ⟨⟨?_, ?_, ?_, ?_, ?_, ?_, ?_, ?_, List.forall_mem_nil _⟩, ?_⟩
  · exact keysDistinct_of_mem_map (keysDistinct_single "formula") a.formula
  · exact keysDistinct_of_mem_unlessEmpty (.string _)
  · exact keysDistinct_of_mem_map (keysDistinct_single "formula") a.filter
  · exact keysDistinct_of_mem_unlessEmpty (.bool _)
  · exact keysDistinct_of_mem_unlessEmpty (.string _)
  · exact keysDistinct_of_mem_map .integer a.first
  · exact keysDistinct_of_mem_map .integer a.last
  · exact keysDistinct_of_mem_map .integer a.step
  · exact DistinctAt.within fun t _ => t.distinctAt

theorem eq_of_sameAt {a a' : KindAttributes} (h : SameAt places a a') : a = a' := by
  simp only [SameAt, places, List.forall_mem_append, List.forall_mem_cons] at h
  rcases h with ⟨⟨hformula, hlist, hfilter, hnarrow, hcontent, hfirst, hlast, hstep, -⟩, htable⟩
  -- What belongs to other kinds is absent, and is told like everything else.
  have htable := Table.eq_of_sameAt (SameAt.of_within htable rfl rfl)
  have hformula := eq_of_rel_map (fun _ _ => eq_of_same_single) hformula
  have hfilter := eq_of_rel_map (fun _ _ => eq_of_same_single) hfilter
  have hfirst := eq_of_rel_map (fun _ _ => same_integer_iff.1) hfirst
  have hlast := eq_of_rel_map (fun _ _ => same_integer_iff.1) hlast
  have hstep := eq_of_rel_map (fun _ _ => same_integer_iff.1) hstep
  rcases a with ⟨formula, list, filter, narrow, content, first, last, step, table⟩
  rcases a' with ⟨formula', list', filter', narrow', content', first', last', step', table'⟩
  rw [mk.injEq]
  exact ⟨hformula, eq_of_rel_text hlist, hfilter, eq_of_rel_switch hnarrow,
    eq_of_rel_text hcontent, hfirst, hlast, hstep, htable⟩

end KindAttributes

namespace FieldKind

/-- The attributes of a kind. -/
def attributes : FieldKind → KindAttributes
  | formula expression => { formula := some expression }
  | choice _ list filter narrow => { list, filter, narrow }
  | note content => { content }
  | range first last step => { first, last, step }
  | table t => { table := t }
  | _ => {}

theorem members_eq (k : FieldKind) :
    k.members = membersAt KindAttributes.places k.attributes := by
  simp only [KindAttributes.places, Table.places, membersAt_append, membersAt_within,
    membersAt_cons, membersAt_nil]
  cases k with
  | choice several list filter narrow =>
      rw [members, textMember?_eq, member?_eq, switchMember?_eq]
      simp only [attributes, text?_empty, list?_nil, optional_none, Option.map_none,
        List.append_assoc, List.append_nil, List.nil_append]
  | note content =>
      rw [members, textMember?_eq]
      simp only [attributes, text?_empty, switch?_false, list?_nil, optional_none, Option.map_none,
        List.append_nil, List.nil_append]
  | table t =>
      rw [members, listMember?_eq, listMember?_eq, listMember?_eq, listMember?_eq]
      simp only [attributes, text?_empty, switch?_false, optional_none, Option.map_none,
        List.append_assoc, List.append_nil, List.nil_append]
  | _ =>
      simp only [attributes, text?_empty]
      rfl

/-- The kind of a number, with the attributes that belong to it. -/
def ofCode (a : KindAttributes) : Nat → FieldKind
  | 1 => text
  | 2 => number
  | 3 => boolean
  | 4 => choice false a.list a.filter a.narrow
  | 5 => choice true a.list a.filter a.narrow
  | 6 => formula (a.formula.getD "")
  | 7 => note a.content
  | 9 => date
  | 10 => time
  | 11 => table a.table
  | 12 => location
  | 13 => barcode
  | 14 => file
  | 15 => image
  | 16 => video
  | 17 => range (a.first.getD 0) (a.last.getD 0) (a.step.getD 0)
  | 18 => signature
  | _ => string

/-- A kind is told by its number and its attributes. -/
theorem ofCode_code (k : FieldKind) : ofCode k.attributes k.code = k := by
  cases k with
  | choice several list filter narrow => cases several <;> rfl
  | _ => rfl

theorem eq_of_sameAt {k k' : FieldKind} (hcode : k.code = k'.code)
    (h : SameAt KindAttributes.places k.attributes k'.attributes) : k = k' := by
  rw [← ofCode_code k, ← ofCode_code k', hcode, KindAttributes.eq_of_sameAt h]

end FieldKind

namespace Field

/-- The places of a field. -/
def places : List (Place Field) :=
  [("fieldType", fun f => some (.nat f.kind.code)),
    ("hint", fun f => text? f.hint),
    ("defaultValue", fun f => f.default.map formulaJson),
    ("editable", fun f => f.editable.map .bool),
    ("validation", fun f => f.validation.map Validation.json)] ++
  within (fun f => some f.kind.attributes) KindAttributes.places

theorem members_eq (f : Field) : f.members = membersAt places f := by
  rw [members, member_eq, textMember?_eq, member?_eq, member?_eq, member?_eq,
    FieldKind.members_eq, places, membersAt_append, membersAt_within]
  simp only [membersAt_cons, membersAt_nil, List.append_assoc, List.append_nil]

theorem distinctAt (f : Field) : DistinctAt places f := by
  simp only [DistinctAt, places, List.forall_mem_append, List.forall_mem_cons]
  refine ⟨⟨?_, ?_, ?_, ?_, ?_, List.forall_mem_nil _⟩, ?_⟩
  · exact keysDistinct_of_mem_some (.integer _)
  · exact keysDistinct_of_mem_unlessEmpty (.string _)
  · exact keysDistinct_of_mem_map (keysDistinct_single "formula") f.default
  · exact keysDistinct_of_mem_map .bool f.editable
  · exact keysDistinct_of_mem_map Validation.keysDistinct_json f.validation
  · exact DistinctAt.within fun a _ => a.distinctAt

theorem eq_of_sameAt {f f' : Field} (h : SameAt places f f') : f = f' := by
  simp only [SameAt, places, List.forall_mem_append, List.forall_mem_cons] at h
  rcases h with ⟨⟨hcode, hhint, hdefault, heditable, hvalidation, -⟩, hkind⟩
  have hcode := same_nat_iff.1 (Option.rel_some_some.1 hcode)
  have hkind := FieldKind.eq_of_sameAt hcode (SameAt.of_within hkind rfl rfl)
  have hdefault := eq_of_rel_map (fun _ _ => eq_of_same_single) hdefault
  have heditable := eq_of_rel_map (fun _ _ => same_bool_iff.1) heditable
  have hvalidation := eq_of_rel_map (fun _ _ => Validation.eq_of_same) hvalidation
  rcases f with ⟨kind, hint, default, editable, validation⟩
  rcases f' with ⟨kind', hint', default', editable', validation'⟩
  rw [mk.injEq]
  exact ⟨hkind, eq_of_rel_text hhint, hdefault, heditable, hvalidation⟩

end Field

/-! ### Choices and tags -/

namespace Choice

/-- No attribute of an author's own has the name of one that every choice has. -/
def Unshadowed (c : Choice) : Prop :=
  c.own.get? "value" = none ∧ c.own.get? "label" = none

/-- The members of a choice. -/
def members (c : Choice) : List (String × Json) :=
  ("value", .string c.value) :: ("label", .string c.label) ::
    c.own.entries.map fun e => (e.1, .string e.2)

theorem json_eq (c : Choice) : c.json = .object c.members :=
  rfl

theorem keysDistinct_json {c : Choice} (h : c.Unshadowed) : KeysDistinct c.json := by
  refine .object ?_ ?_
  · change ("value" :: "label" :: _).Nodup
    rw [map_fst_entries, List.nodup_cons, List.nodup_cons, List.mem_cons, not_or]
    exact ⟨⟨by decide, Dictionary.notMem_keys_of_get?_eq_none h.1⟩,
      Dictionary.notMem_keys_of_get?_eq_none h.2, c.own.nodup_keys⟩
  · simp only [List.forall_mem_cons]
    exact ⟨.string _, .string _, keysDistinct_of_mem_entries .string c.own⟩

theorem lookup_members_of_ne (c : Choice) {key : String} (hvalue : key ≠ "value")
    (hlabel : key ≠ "label") : c.members.lookup key = (c.own.get? key).map .string := by
  rw [members, List.lookup_cons, beq_eq_false_iff_ne.2 hvalue, List.lookup_cons,
    beq_eq_false_iff_ne.2 hlabel]
  exact lookup_entries c.own .string key

theorem eq_of_same {c c' : Choice} (hc : c.Unshadowed) (hc' : c'.Unshadowed)
    (h : Same c.json c'.json) : c = c' := by
  rw [json_eq, json_eq] at h
  have hvalue := eq_of_rel_string (h.lookup "value")
  have hlabel := eq_of_rel_string (h.lookup "label")
  -- Under a fixed name there is nothing of the author's own, and elsewhere nothing else.
  have hown : c.own = c'.own := by
    refine Dictionary.ext_get? fun key => ?_
    by_cases hv : key = "value"
    · rw [hv, hc.1, hc'.1]
    · by_cases hl : key = "label"
      · rw [hl, hc.2, hc'.2]
      · have hkey := h.lookup key
        rw [lookup_members_of_ne c hv hl, lookup_members_of_ne c' hv hl] at hkey
        exact eq_of_rel_map (fun _ _ => same_string_iff.1) hkey
  rcases c with ⟨value, label, own⟩
  rcases c' with ⟨value', label', own'⟩
  rw [mk.injEq]
  exact ⟨hvalue, hlabel, hown⟩

end Choice

/-- The places of a list of choices. -/
def choiceListSchema : Schema (String × List Choice) where
  places :=
    [("type", fun _ => some (.string "fixed")),
      ("name", fun l => some (.string l.1)),
      ("choicesType", fun _ => some (.string "string")),
      ("choices", fun l => some (.array (l.2.map Choice.json)))]
  nodup := by decide

theorem keysDistinct_choiceListJson {l : String × List Choice} (hl : ∀ c ∈ l.2, c.Unshadowed) :
    KeysDistinct (choiceListJson l) := by
  refine choiceListSchema.keysDistinct ?_
  simp only [DistinctAt, choiceListSchema, List.forall_mem_cons]
  exact ⟨keysDistinct_of_mem_some (.string _), keysDistinct_of_mem_some (.string _),
    keysDistinct_of_mem_some (.string _),
    keysDistinct_of_mem_some (keysDistinct_array fun c hc => Choice.keysDistinct_json (hl c hc)),
    List.forall_mem_nil _⟩

theorem eq_of_same_choiceListJson {l l' : String × List Choice}
    (hl : ∀ c ∈ l.2, c.Unshadowed) (hl' : ∀ c ∈ l'.2, c.Unshadowed)
    (h : Same (choiceListJson l) (choiceListJson l')) : l = l' := by
  have hplaces := choiceListSchema.sameAt h
  simp only [SameAt, choiceListSchema, List.forall_mem_cons] at hplaces
  rcases hplaces with ⟨-, hname, -, hchoices, -⟩
  have hchoices := eq_of_same_array (fun c hc c' hc' => Choice.eq_of_same (hl c hc) (hl' c' hc'))
    (Option.rel_some_some.1 hchoices)
  exact Prod.ext (eq_of_rel_string hname) hchoices

namespace Tag

/-- The places of a tag. -/
def schema : Schema Tag where
  places :=
    [("label", fun t => some (.string t.label)),
      ("value", fun t => some (.array ([t.value].map .string)))]
  nodup := by decide

theorem keysDistinct_json (t : Tag) : KeysDistinct t.json := by
  refine schema.keysDistinct ?_
  simp only [DistinctAt, schema, List.forall_mem_cons]
  exact ⟨keysDistinct_of_mem_some (.string _),
    keysDistinct_of_mem_some (keysDistinct_array fun _ _ => .string _), List.forall_mem_nil _⟩

theorem eq_of_same {t t' : Tag} (h : Same t.json t'.json) : t = t' := by
  have hplaces := schema.sameAt h
  simp only [SameAt, schema, List.forall_mem_cons] at hplaces
  rcases hplaces with ⟨hlabel, hvalue, -⟩
  have hvalue := eq_of_same_array (fun _ _ _ _ => same_string_iff.1)
    (Option.rel_some_some.1 hvalue)
  rcases t with ⟨label, value⟩
  rcases t' with ⟨label', value'⟩
  rw [mk.injEq]
  exact ⟨eq_of_rel_string hlabel, List.head_eq_of_cons_eq hvalue⟩

end Tag

/-! ### Translations -/

theorem eq_of_same_translationJson {t t' : Translation}
    (h : Same (translationJson t) (translationJson t')) : t = t' :=
  eq_of_same_entries (fun _ _ => same_string_iff.1) h

theorem keysDistinct_translationJson (t : Translation) : KeysDistinct (translationJson t) :=
  keysDistinct_entries .string t

end Questionnaire
