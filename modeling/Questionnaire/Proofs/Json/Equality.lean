import Mathlib.Data.List.Forall2
import Mathlib.Data.List.Nodup
import Questionnaire.Dictionary
import Questionnaire.Json.Basic

/-!
# Equal Values

The members of an object have an order on paper only. Two values are equal if their
items are, one by one, and if under every key they have equal members or none.
That is what someone sees of a value who looks its members up, and it is all that
a reader may rely on; so what is to be told from a value has to be told from
lookups.

## Main definitions

* `KeysDistinct`: No object in a value has two equal keys.
* `Same`: Two values are equal, whatever the order of members.

## Theorems

* `Same.refl`: A value is equal to itself.
* `Same.lookup`: Equal objects have equal members.
* `map_eq_of_same_array`: What is told of each item is told of an array.
* `lookup_entries`, `eq_of_same_entries`: Dictionaries as objects.
-/

namespace Questionnaire

namespace Json

/-- No object in a value has two equal keys. -/
inductive KeysDistinct : Json → Prop
  | bool (b : Bool) : KeysDistinct (.bool b)
  | integer (n : Int) : KeysDistinct (.integer n)
  | string (s : String) : KeysDistinct (.string s)
  | array {items : List Json} (h : ∀ item ∈ items, KeysDistinct item) :
      KeysDistinct (.array items)
  | object {members : List (String × Json)} (hkeys : (members.map Prod.fst).Nodup)
      (h : ∀ m ∈ members, KeysDistinct m.2) : KeysDistinct (.object members)

/-- Two values are equal, whatever the order of members. -/
inductive Same : Json → Json → Prop
  | bool (b : Bool) : Same (.bool b) (.bool b)
  | integer (n : Int) : Same (.integer n) (.integer n)
  | string (s : String) : Same (.string s) (.string s)
  | array {items items' : List Json} (h : List.Forall₂ Same items items') :
      Same (.array items) (.array items')
  | object {members members' : List (String × Json)}
      (h : ∀ key, Option.Rel Same (members.lookup key) (members'.lookup key)) :
      Same (.object members) (.object members')

mutual

theorem Same.refl (j : Json) : j.Same j := by
  match j with
  | .bool b => exact .bool b
  | .integer n => exact .integer n
  | .string s => exact .string s
  | .array items => exact .array (Same.reflEach items)
  | .object members => exact .object (Same.reflIn members)

theorem Same.reflEach (items : List Json) : List.Forall₂ Same items items := by
  match items with
  | [] => exact .nil
  | item :: items => exact .cons (Same.refl item) (Same.reflEach items)

theorem Same.reflIn (members : List (String × Json)) (key : String) :
    Option.Rel Same (members.lookup key) (members.lookup key) := by
  match members with
  | [] => exact .none
  | (key', value) :: members =>
      rw [List.lookup_cons]
      split
      · exact .some (Same.refl value)
      · exact Same.reflIn members key

end

/-- Equal texts are equal values, and equal values are equal texts. -/
theorem same_string_iff {s t : String} : Same (.string s) (.string t) ↔ s = t := by
  constructor
  · intro h
    cases h
    rfl
  · rintro rfl
    exact .string s

theorem same_bool_iff {b c : Bool} : Same (.bool b) (.bool c) ↔ b = c := by
  constructor
  · intro h
    cases h
    rfl
  · rintro rfl
    exact .bool b

theorem same_integer_iff {m n : Int} : Same (.integer m) (.integer n) ↔ m = n := by
  constructor
  · intro h
    cases h
    rfl
  · rintro rfl
    exact .integer m

theorem same_nat_iff {m n : Nat} : Same (.nat m) (.nat n) ↔ m = n := by
  rw [nat, nat, same_integer_iff]
  exact Int.ofNat_inj

/-! ### Arrays and objects -/

theorem Same.lookup {ms ns : List (String × Json)} (h : Same (.object ms) (.object ns))
    (key : String) : Option.Rel Same (ms.lookup key) (ns.lookup key) := by
  cases h with
  | object h => exact h key

section Parts

variable {α β : Type} {f : α → Json}

/-- What is told of each item is told of an array. -/
theorem map_eq_of_same_array {g : α → β} {as bs : List α}
    (hf : ∀ a ∈ as, ∀ b ∈ bs, Same (f a) (f b) → g a = g b)
    (h : Same (.array (as.map f)) (.array (bs.map f))) : as.map g = bs.map g := by
  cases h with
  | array h =>
      rw [List.forall₂_map_left_iff, List.forall₂_map_right_iff] at h
      induction h with
      | nil => rfl
      | cons hab _ ih =>
          rw [List.map_cons, List.map_cons,
            hf _ List.mem_cons_self _ List.mem_cons_self hab, ih]
          intro a ha b hb
          exact hf a (List.mem_cons_of_mem _ ha) b (List.mem_cons_of_mem _ hb)

theorem eq_of_same_array {as bs : List α} (hf : ∀ a ∈ as, ∀ b ∈ bs, Same (f a) (f b) → a = b)
    (h : Same (.array (as.map f)) (.array (bs.map f))) : as = bs := by
  have hmap := map_eq_of_same_array (g := id) hf h
  rwa [List.map_id, List.map_id] at hmap

theorem keysDistinct_array {as : List α} (h : ∀ a ∈ as, KeysDistinct (f a)) :
    KeysDistinct (.array (as.map f)) := by
  refine .array ?_
  intro item hitem
  rcases List.mem_map.1 hitem with ⟨a, ha, rfl⟩
  exact h a ha

theorem eq_of_rel_map (hf : ∀ a b, Same (f a) (f b) → a = b) {o o' : Option α}
    (h : Option.Rel Same (o.map f) (o'.map f)) : o = o' := by
  cases o with
  | none =>
      cases o' with
      | none => rfl
      | some b => cases h
  | some a =>
      cases o' with
      | none => cases h
      | some b =>
          rw [Option.map_some, Option.map_some, Option.rel_some_some] at h
          rw [hf a b h]

end Parts

/-! ### Dictionaries -/

section Entries

variable {α : Type} {f : α → Json}

theorem lookup_entries (d : Dictionary String α) (f : α → Json) (key : String) :
    (d.entries.map fun e => (e.1, f e.2)).lookup key = (d.get? key).map f := by
  rw [Dictionary.get?]
  induction d.entries with
  | nil => rfl
  | cons e rest ih =>
      rcases e with ⟨k, v⟩
      rw [List.map_cons, List.lookup_cons, Dictionary.lookup, ih]
      by_cases h : key = k
      · subst h
        have hself : compare key key = .eq := Std.ReflCmp.compare_self
        rw [beq_self_eq_true, if_pos hself]
        rfl
      · have hne : compare key k ≠ .eq := fun heq => h (Std.LawfulEqCmp.eq_of_compare heq)
        rw [beq_eq_false_iff_ne.2 h, if_neg hne]

/-- Dictionaries that are equal as objects. -/
theorem eq_of_same_entries (hf : ∀ a b, Same (f a) (f b) → a = b) {d d' : Dictionary String α}
    (h : Same (.object (d.entries.map fun e => (e.1, f e.2)))
      (.object (d'.entries.map fun e => (e.1, f e.2)))) : d = d' := by
  refine Dictionary.ext_get? fun key => eq_of_rel_map hf ?_
  have hkey := h.lookup key
  rwa [lookup_entries, lookup_entries] at hkey

theorem map_fst_entries (d : Dictionary String α) (f : α → Json) :
    (d.entries.map fun e => (e.1, f e.2)).map Prod.fst = d.keys := by
  rw [List.map_map]
  rfl

theorem keysDistinct_of_mem_entries (hf : ∀ a, KeysDistinct (f a)) (d : Dictionary String α) :
    ∀ m ∈ d.entries.map fun e => (e.1, f e.2), KeysDistinct m.2 := by
  intro m hm
  rcases List.mem_map.1 hm with ⟨e, _, rfl⟩
  exact hf e.2

theorem keysDistinct_entries (hf : ∀ a, KeysDistinct (f a)) (d : Dictionary String α) :
    KeysDistinct (.object (d.entries.map fun e => (e.1, f e.2))) := by
  refine .object ?_ (keysDistinct_of_mem_entries hf d)
  rw [map_fst_entries]
  exact d.nodup_keys

end Entries

end Json

end Questionnaire
