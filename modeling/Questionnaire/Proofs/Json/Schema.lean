import Questionnaire.Proofs.Json.Equality

/-!
# Objects by Places

An object is made from a record place by place. A place has a key, and what stands
there is told by the record; it may be nothing, and then the member is left out.
The list of places is a schema, and it does not depend on the record. So
whether two members can have equal keys is a question about the schema, which can
be answered once; and if they cannot, every place of an equal object is equal.

Reading a place back is a matter of its kind alone: an absent text is the empty one,
an absent switch is off, an absent list has no items.

## Main definitions

* `Place`: A key and what stands there.
* `membersAt`: The members of an object that are at some places.
* `SameAt`, `DistinctAt`: What is known of equal objects, and of objects without equal keys.
* `within`: The places of a part.
* `Schema`: The places of an object.
* `text?`, `switch?`, `list?`, `dictionary?`: What stands at a place.

## Theorems

* `lookup_membersAt`: A place is found under its key.
* `Schema.sameAt`: Equal objects are equal place by place.
* `Schema.keysDistinct`: No key occurs twice.
* `eq_of_rel_text`, `eq_of_rel_switch`, `same_array_of_rel`, `eq_of_rel_dictionary`: What a
  place tells.
-/

namespace Questionnaire

namespace Json

/-- A member that is there or is not. -/
def optional (key : String) (value? : Option Json) : List (String × Json) :=
  (value?.map fun value => (key, value)).toList

theorem lookup_optional (key key' : String) (value? : Option Json) :
    (optional key' value?).lookup key = if key = key' then value? else none := by
  cases value? with
  | none => exact (ite_self _).symm
  | some v =>
      change [(key', v)].lookup key = _
      rw [List.lookup_cons]
      by_cases h : key = key'
      · rw [if_pos h, beq_iff_eq.2 h]
      · rw [if_neg h, beq_eq_false_iff_ne.2 h]
        rfl

theorem optional_none (key : String) : optional key none = [] :=
  rfl

/-- A key, and what stands there of what an object is made from. -/
abbrev Place (α : Type) :=
  String × (α → Option Json)

/-- The members of an object that are at some places. -/
def membersAt {α : Type} (places : List (Place α)) (a : α) : List (String × Json) :=
  places.flatMap fun place => optional place.1 (place.2 a)

/-- Equal things stand at some places of two values. -/
def SameAt {α : Type} (places : List (Place α)) (a b : α) : Prop :=
  ∀ place ∈ places, Option.Rel Same (place.2 a) (place.2 b)

/-- No object that stands at some places of a value has two equal keys. -/
def DistinctAt {α : Type} (places : List (Place α)) (a : α) : Prop :=
  ∀ place ∈ places, ∀ v ∈ place.2 a, KeysDistinct v

/-- The places of an object, each with a key of its own. -/
structure Schema (α : Type) where
  places : List (Place α)
  nodup : (places.map Prod.fst).Nodup

section Places

variable {α : Type}

theorem membersAt_nil (a : α) : membersAt [] a = [] :=
  rfl

theorem membersAt_cons (place : Place α) (places : List (Place α)) (a : α) :
    membersAt (place :: places) a = optional place.1 (place.2 a) ++ membersAt places a :=
  List.flatMap_cons

theorem membersAt_append (places places' : List (Place α)) (a : α) :
    membersAt (places ++ places') a = membersAt places a ++ membersAt places' a :=
  List.flatMap_append

/-- The keys of members are keys of their places, in their order. -/
theorem keys_membersAt_sublist (places : List (Place α)) (a : α) :
    ((membersAt places a).map Prod.fst).Sublist (places.map Prod.fst) := by
  induction places with
  | nil => exact List.Sublist.refl _
  | cons place places ih =>
      rw [membersAt_cons, List.map_append, List.map_cons]
      cases place.2 a with
      | none => exact ih.cons _
      | some v => exact ih.cons_cons _

theorem lookup_membersAt_of_notMem {places : List (Place α)} {key : String}
    (h : key ∉ places.map Prod.fst) (a : α) : (membersAt places a).lookup key = none := by
  rw [List.lookup_eq_none_iff]
  intro m hm
  rw [bne_iff_ne]
  rintro rfl
  exact h ((keys_membersAt_sublist places a).subset (List.mem_map_of_mem hm))

/-- A place is found under its key. -/
theorem lookup_membersAt {places : List (Place α)} (hnodup : (places.map Prod.fst).Nodup)
    {place : Place α} (hplace : place ∈ places) (a : α) :
    (membersAt places a).lookup place.1 = place.2 a := by
  induction places with
  | nil => cases hplace
  | cons first places ih =>
      rw [List.map_cons, List.nodup_cons] at hnodup
      rw [membersAt_cons, List.lookup_append, lookup_optional]
      -- The key of the first place is new, so nothing stands under it in the rest.
      rcases List.mem_cons.1 hplace with rfl | hplace
      · rw [if_pos rfl, lookup_membersAt_of_notMem hnodup.1, Option.or_none]
      · have hne : place.1 ≠ first.1 := fun heq =>
          hnodup.1 (heq ▸ List.mem_map_of_mem hplace)
        rw [if_neg hne, Option.none_or, ih hnodup.2 hplace]

end Places

section Within

variable {α β : Type} {part : α → Option β} {places : List (Place β)}

/-- The places of a part, among those of what has the part or has not. -/
def within (part : α → Option β) (places : List (Place β)) : List (Place α) :=
  places.map fun place => (place.1, fun a => (part a).bind place.2)

theorem membersAt_within (part : α → Option β) (places : List (Place β)) (a : α) :
    membersAt (within part places) a =
      match part a with
      | some b => membersAt places b
      | none => [] := by
  simp only [membersAt, within, List.flatMap_map]
  cases part a with
  | none => exact List.flatMap_eq_nil_iff.2 fun _ _ => rfl
  | some b => rfl

theorem SameAt.of_within {a a' : α} (h : SameAt (within part places) a a') {b b' : β}
    (ha : part a = some b) (ha' : part a' = some b') : SameAt places b b' := by
  intro place hplace
  have hrel := h _ (List.mem_map_of_mem hplace)
  simp only [ha, ha', Option.bind_some] at hrel
  exact hrel

theorem DistinctAt.within {a : α} (h : ∀ b, part a = some b → DistinctAt places b) :
    DistinctAt (within part places) a := by
  intro place hplace v hv
  rcases List.mem_map.1 hplace with ⟨inner, hinner, rfl⟩
  rcases Option.bind_eq_some_iff.1 hv with ⟨b, hb, hv⟩
  exact h b hb inner hinner v hv

end Within

namespace Schema

variable {α : Type} (schema : Schema α)

/-- An object with the places of a schema. -/
def object (a : α) : Json :=
  .object (membersAt schema.places a)

/-- Equal objects are equal place by place. -/
theorem sameAt {a b : α} (h : Same (schema.object a) (schema.object b)) :
    SameAt schema.places a b := by
  intro place hplace
  have hkey := h.lookup place.1
  rwa [lookup_membersAt schema.nodup hplace, lookup_membersAt schema.nodup hplace] at hkey

theorem keysDistinct {a : α} (h : DistinctAt schema.places a) :
    KeysDistinct (schema.object a) := by
  refine .object (schema.nodup.sublist (keys_membersAt_sublist schema.places a)) ?_
  intro m hm
  rcases List.mem_flatMap.1 hm with ⟨place, hplace, hm⟩
  rw [optional, Option.mem_toList, Option.map_eq_some_iff] at hm
  rcases hm with ⟨v, hv, rfl⟩
  exact h place hplace v hv

end Schema

/-! ### What stands at a place -/

/-- A value that is left out if what it was made from is empty. -/
def unlessEmpty (empty : Bool) (value : Json) : Option Json :=
  if empty then none else some value

/-- A text, left out if it is empty. -/
def text? (text : String) : Option Json :=
  unlessEmpty text.isEmpty (.string text)

/-- A switch, left out if it is off. -/
def switch? (on : Bool) : Option Json :=
  unlessEmpty (!on) (.bool true)

/-- A list, left out if it has no items. -/
def list? {α : Type} (list : List α) (f : α → Json) : Option Json :=
  unlessEmpty list.isEmpty (.array (list.map f))

/-- A dictionary, left out if it has no entries. -/
def dictionary? {α : Type} (d : Dictionary String α) (f : α → Json) : Option Json :=
  unlessEmpty d.isEmpty (.object (d.entries.map fun e => (e.1, f e.2)))

theorem text?_empty : text? "" = none := by
  rw [text?, unlessEmpty, if_pos (String.isEmpty_iff.2 rfl)]

theorem switch?_false : switch? false = none :=
  rfl

theorem list?_nil {α : Type} (f : α → Json) : list? [] f = none :=
  rfl

section Members

variable {α : Type} (key : String)

theorem optional_unlessEmpty (empty : Bool) (value : Json) :
    optional key (unlessEmpty empty value) = if empty then [] else [(key, value)] := by
  cases empty <;> rfl

theorem member_eq (value : Json) : member key value = optional key (some value) :=
  rfl

theorem member?_eq (value : Option α) (f : α → Json) :
    member? key value f = optional key (value.map f) := by
  cases value <;> rfl

theorem textMember?_eq (text : String) : textMember? key text = optional key (text? text) :=
  (optional_unlessEmpty key text.isEmpty _).symm

theorem listMember?_eq (list : List α) (f : α → Json) :
    listMember? key list f = optional key (list? list f) :=
  (optional_unlessEmpty key list.isEmpty _).symm

end Members

theorem keysDistinct_of_mem_some {v : Json} (h : KeysDistinct v) :
    ∀ w ∈ some v, KeysDistinct w := by
  rintro w ⟨⟩
  exact h

theorem keysDistinct_of_mem_unlessEmpty {empty : Bool} {v : Json} (h : KeysDistinct v) :
    ∀ w ∈ unlessEmpty empty v, KeysDistinct w := by
  intro w hw
  rw [unlessEmpty] at hw
  split at hw <;> cases hw
  exact h

theorem keysDistinct_of_mem_map {α : Type} {f : α → Json} (h : ∀ a, KeysDistinct (f a))
    (o : Option α) : ∀ w ∈ o.map f, KeysDistinct w := by
  intro w hw
  rcases Option.map_eq_some_iff.1 hw with ⟨a, _, rfl⟩
  exact h a

/-! ### What a place tells -/

/-- Two values are left out, or none of them is. -/
theorem cases_of_rel_unlessEmpty {empty empty' : Bool} {v w : Json}
    (h : Option.Rel Same (unlessEmpty empty v) (unlessEmpty empty' w)) :
    (empty = true ∧ empty' = true) ∨ (empty = false ∧ empty' = false ∧ Same v w) := by
  cases empty <;> cases empty'
  · exact Or.inr ⟨rfl, rfl, Option.rel_some_some.1 h⟩
  · cases h
  · cases h
  · exact Or.inl ⟨rfl, rfl⟩

theorem eq_of_rel_string {s t : String}
    (h : Option.Rel Same (some (.string s)) (some (.string t))) : s = t :=
  same_string_iff.1 (Option.rel_some_some.1 h)

/-- An absent text is the empty one. -/
theorem eq_of_rel_text {s t : String} (h : Option.Rel Same (text? s) (text? t)) : s = t := by
  rcases cases_of_rel_unlessEmpty h with ⟨hs, ht⟩ | ⟨_, _, h⟩
  · rw [String.isEmpty_iff.1 hs, String.isEmpty_iff.1 ht]
  · exact same_string_iff.1 h

/-- An absent switch is off. -/
theorem eq_of_rel_switch {b c : Bool} (h : Option.Rel Same (switch? b) (switch? c)) : b = c := by
  rcases cases_of_rel_unlessEmpty h with ⟨hb, hc⟩ | ⟨hb, hc, _⟩
  all_goals exact Bool.not_inj (hb.trans hc.symm)

/-- An absent list has no items. -/
theorem same_array_of_rel {α : Type} {f : α → Json} {as bs : List α}
    (h : Option.Rel Same (list? as f) (list? bs f)) :
    Same (.array (as.map f)) (.array (bs.map f)) := by
  rcases cases_of_rel_unlessEmpty h with ⟨has, hbs⟩ | ⟨_, _, h⟩
  · rw [List.isEmpty_iff.1 has, List.isEmpty_iff.1 hbs]
    exact Same.refl _
  · exact h

/-- An absent dictionary has no entries. -/
theorem eq_of_rel_dictionary {α : Type} {f : α → Json} (hf : ∀ a b, Same (f a) (f b) → a = b)
    {d d' : Dictionary String α} (h : Option.Rel Same (dictionary? d f) (dictionary? d' f)) :
    d = d' := by
  refine eq_of_same_entries hf ?_
  rcases cases_of_rel_unlessEmpty h with ⟨hd, hd'⟩ | ⟨_, _, h⟩
  · rw [List.isEmpty_iff.1 hd, List.isEmpty_iff.1 hd']
    exact Same.refl _
  · exact h

end Json

end Questionnaire
