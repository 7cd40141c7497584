/-!
# Dictionaries

A finite map whose entries are kept in the rising order of their keys. Wherever
the library writes a map out (the columns of a choice, the texts of a
translation, the choice lists of a document) it is written in this order, so
the order belongs to the type. It also makes equality what it should be: two
dictionaries with the same entries are equal, in whatever order they were
filled.

The entries of a sheet's row are few, so a list serves.

## Main definitions

* `Dictionary`: Entries with rising keys.
* `get?`, `insert`, `erase`: Looking up, setting and removing an entry.
* `modify`: Setting an entry from its old value.
* `ofList`: The dictionary filled from a list; a later entry wins.

## Theorems

* `get?_insert`, `get?_erase`: What a lookup finds after a change.
* `nodup_keys`: No key has two entries.
* `get?_ofList_eq_none`: What a dictionary filled from a list has not got.
* `ext_get?`: Dictionaries that answer alike are equal.
-/

namespace Questionnaire

/-- Entries in the rising order of their keys. -/
structure Dictionary (κ α : Type) [Ord κ] where
  entries : List (κ × α)
  sorted : entries.Pairwise fun a b => compare a.1 b.1 = .lt
deriving DecidableEq

namespace Dictionary

variable {κ α : Type} [Ord κ]

/-- The dictionary without entries. -/
def empty : Dictionary κ α :=
  ⟨[], List.Pairwise.nil⟩

instance : Inhabited (Dictionary κ α) :=
  ⟨empty⟩

/-- Whether there is no entry. -/
def isEmpty (d : Dictionary κ α) : Bool :=
  d.entries.isEmpty

/-- The number of entries. -/
def size (d : Dictionary κ α) : Nat :=
  d.entries.length

/-- The keys, in rising order. -/
def keys (d : Dictionary κ α) : List κ :=
  d.entries.map (·.1)

/-- The value of a key in a list of entries. -/
def lookup (k : κ) : List (κ × α) → Option α
  | [] => none
  | (k', v) :: rest => if compare k k' = .eq then some v else lookup k rest

/-- The value of a key. -/
def get? (d : Dictionary κ α) (k : κ) : Option α :=
  lookup k d.entries

/-- Whether a key has an entry. -/
def contains (d : Dictionary κ α) (k : κ) : Bool :=
  (d.get? k).isSome

/-- Entries with the one of a key set: the new entry goes before the first larger
    key, in the place of an equal one. -/
def insertEntry (k : κ) (v : α) : List (κ × α) → List (κ × α)
  | [] => [(k, v)]
  | (k', v') :: rest =>
    match compare k k' with
    | .lt => (k, v) :: (k', v') :: rest
    | .eq => (k, v) :: rest
    | .gt => (k', v') :: insertEntry k v rest

/-- Entries without the one of a key. -/
def eraseEntry (k : κ) (entries : List (κ × α)) : List (κ × α) :=
  entries.filter fun e => decide (compare k e.1 ≠ .eq)

/-- The dictionary without the entry of a key. -/
def erase (d : Dictionary κ α) (k : κ) : Dictionary κ α :=
  ⟨eraseEntry k d.entries, d.sorted.filter _⟩

theorem mem_insertEntry {k : κ} {v : α} {entries : List (κ × α)} {e : κ × α}
    (h : e ∈ insertEntry k v entries) : e = (k, v) ∨ e ∈ entries := by
  induction entries with
  | nil =>
    simp only [insertEntry, List.mem_singleton] at h
    exact Or.inl h
  | cons head rest ih =>
    rcases head with ⟨k', v'⟩
    rw [insertEntry] at h
    split at h
    · simpa only [List.mem_cons] using h
    · rcases List.mem_cons.1 h with rfl | h
      · exact Or.inl rfl
      · exact Or.inr (List.mem_cons_of_mem _ h)
    · rcases List.mem_cons.1 h with rfl | h
      · exact Or.inr List.mem_cons_self
      · rcases ih h with rfl | h
        · exact Or.inl rfl
        · exact Or.inr (List.mem_cons_of_mem _ h)

section Lawful

variable [Std.TransOrd κ] [Std.LawfulEqOrd κ]

theorem sorted_insertEntry (k : κ) (v : α) {entries : List (κ × α)}
    (h : entries.Pairwise fun a b => compare a.1 b.1 = .lt) :
    (insertEntry k v entries).Pairwise fun a b => compare a.1 b.1 = .lt := by
  induction entries with
  | nil => exact List.pairwise_singleton _ _
  | cons head rest ih =>
    rcases head with ⟨k', v'⟩
    rcases List.pairwise_cons.1 h with ⟨below, hrest⟩
    rw [insertEntry]
    split
    case h_1 hlt =>
      refine List.pairwise_cons.2 ⟨fun e he => ?_, h⟩
      rcases List.mem_cons.1 he with rfl | he
      · exact hlt
      · exact Std.TransCmp.lt_trans hlt (below e he)
    case h_2 heq =>
      obtain rfl := Std.LawfulEqCmp.eq_of_compare heq
      exact List.pairwise_cons.2 ⟨below, hrest⟩
    case h_3 hgt =>
      refine List.pairwise_cons.2 ⟨fun e he => ?_, ih hrest⟩
      rcases mem_insertEntry he with rfl | he
      · exact Std.OrientedCmp.gt_iff_lt.1 hgt
      · exact below e he

/-- The dictionary with the value of a key set. -/
def insert (d : Dictionary κ α) (k : κ) (v : α) : Dictionary κ α :=
  ⟨insertEntry k v d.entries, sorted_insertEntry k v d.sorted⟩

/-- The dictionary with the value of a key set from its old one. -/
def modify (d : Dictionary κ α) (k : κ) (f : Option α → α) : Dictionary κ α :=
  d.insert k (f (d.get? k))

/-- The dictionary filled from a list. Of entries with one key the last counts. -/
def ofList (entries : List (κ × α)) : Dictionary κ α :=
  entries.foldl (fun d e => d.insert e.1 e.2) empty

theorem lookup_insertEntry (k : κ) (v : α) (k' : κ) (entries : List (κ × α)) :
    lookup k' (insertEntry k v entries) =
      if compare k' k = .eq then some v else lookup k' entries := by
  induction entries with
  | nil => simp only [insertEntry, lookup]
  | cons head rest ih =>
    rcases head with ⟨k₀, v₀⟩
    rw [insertEntry]
    split
    case h_1 => simp only [lookup]
    case h_2 heq =>
      obtain rfl := Std.LawfulEqCmp.eq_of_compare heq
      simp only [lookup]
      split <;> rfl
    case h_3 hgt =>
      simp only [lookup, ih]
      by_cases h₀ : compare k' k₀ = .eq
      · obtain rfl := Std.LawfulEqCmp.eq_of_compare h₀
        have hne : compare k' k ≠ .eq := by
          rw [Std.OrientedCmp.gt_iff_lt.1 hgt]
          decide
        simp only [h₀, if_true, hne, if_false]
      · simp only [h₀, if_false]

theorem get?_insert (d : Dictionary κ α) (k k' : κ) (v : α) :
    (d.insert k v).get? k' = if compare k' k = .eq then some v else d.get? k' :=
  lookup_insertEntry k v k' d.entries

omit [Std.TransOrd κ] in
theorem lookup_eraseEntry (k k' : κ) (entries : List (κ × α)) :
    lookup k' (eraseEntry k entries) =
      if compare k' k = .eq then none else lookup k' entries := by
  induction entries with
  | nil => simp [eraseEntry, lookup]
  | cons head rest ih =>
    rcases head with ⟨k₀, v₀⟩
    have ih : lookup k' (rest.filter fun e => decide (compare k e.1 ≠ .eq)) = _ := ih
    by_cases hk : compare k k₀ = .eq
    · obtain rfl := Std.LawfulEqCmp.eq_of_compare hk
      simp only [eraseEntry, List.filter_cons, hk, ne_eq, not_true_eq_false, decide_false,
        Bool.false_eq_true, if_false]
      rw [ih]
      by_cases h : compare k' k = .eq
      · simp only [h, if_true]
      · simp only [lookup, h, if_false]
    · simp only [eraseEntry, List.filter_cons, hk, ne_eq, not_false_eq_true, decide_true, if_true,
        lookup]
      by_cases h₀ : compare k' k₀ = .eq
      · obtain rfl := Std.LawfulEqCmp.eq_of_compare h₀
        have hne : compare k' k ≠ .eq := by
          intro heq
          obtain rfl := Std.LawfulEqCmp.eq_of_compare heq
          exact hk heq
        simp only [h₀, if_true, hne, if_false]
      · simp only [h₀, if_false]
        exact ih

omit [Std.TransOrd κ] in
theorem get?_erase (d : Dictionary κ α) (k k' : κ) :
    (d.erase k).get? k' = if compare k' k = .eq then none else d.get? k' :=
  lookup_eraseEntry k k' d.entries

omit [Std.TransOrd κ] in
theorem lookup_eq_some_iff {entries : List (κ × α)}
    (h : entries.Pairwise fun a b => compare a.1 b.1 = .lt) (k : κ) (v : α) :
    lookup k entries = some v ↔ (k, v) ∈ entries := by
  induction entries with
  | nil => simp [lookup]
  | cons head rest ih =>
    rcases head with ⟨k₀, v₀⟩
    rcases List.pairwise_cons.1 h with ⟨below, hrest⟩
    rw [lookup, List.mem_cons]
    by_cases hk : compare k k₀ = .eq
    · obtain rfl := Std.LawfulEqCmp.eq_of_compare hk
      simp only [hk, if_true, Option.some.injEq, Prod.mk.injEq, true_and]
      constructor
      · rintro rfl
        exact Or.inl rfl
      · rintro (rfl | hmem)
        · rfl
        · have hlt : compare k k = .lt := below _ hmem
          rw [hk] at hlt
          cases hlt
    · simp only [hk, if_false, ih hrest, Prod.mk.injEq]
      constructor
      · exact Or.inr
      · rintro (⟨rfl, _⟩ | hmem)
        · exact absurd Std.ReflCmp.compare_self hk
        · exact hmem

omit [Std.TransOrd κ] in
theorem get?_eq_some_iff (d : Dictionary κ α) (k : κ) (v : α) :
    d.get? k = some v ↔ (k, v) ∈ d.entries :=
  lookup_eq_some_iff d.sorted k v

omit [Std.TransOrd κ] in
theorem mem_keys_iff {d : Dictionary κ α} {k : κ} : k ∈ d.keys ↔ (d.get? k).isSome = true := by
  constructor
  · intro hk
    rcases List.mem_map.1 hk with ⟨⟨_, v⟩, hentry, rfl⟩
    rw [(d.get?_eq_some_iff _ v).2 hentry]
    rfl
  · intro h
    rcases Option.isSome_iff_exists.1 h with ⟨v, hv⟩
    exact List.mem_map_of_mem ((d.get?_eq_some_iff k v).1 hv)

omit [Std.TransOrd κ] in
theorem notMem_keys_of_get?_eq_none {d : Dictionary κ α} {k : κ} (h : d.get? k = none) :
    k ∉ d.keys := by
  rw [mem_keys_iff, h]
  exact Bool.false_ne_true

omit [Std.TransOrd κ] in
/-- No key has two entries. -/
theorem nodup_keys (d : Dictionary κ α) : d.keys.Nodup := by
  rw [keys, List.Nodup, List.pairwise_map]
  refine d.sorted.imp ?_
  intro a b hlt heq
  have hself : compare b.1 b.1 = .eq := Std.ReflCmp.compare_self
  rw [heq, hself] at hlt
  cases hlt

/-- A dictionary has no keys but those of the list that it was filled from. -/
theorem get?_ofList_eq_none {entries : List (κ × α)} {k : κ} (h : ∀ e ∈ entries, e.1 ≠ k) :
    (ofList entries).get? k = none := by
  have hfold : ∀ d : Dictionary κ α, d.get? k = none →
      (entries.foldl (fun d e => d.insert e.1 e.2) d).get? k = none := by
    induction entries with
    | nil => exact fun d hd => hd
    | cons e rest ih =>
      intro d hd
      rw [List.forall_mem_cons] at h
      have hne : compare k e.1 ≠ .eq := fun heq =>
        h.1 (Std.LawfulEqCmp.eq_of_compare heq).symm
      exact ih h.2 _ (by rw [get?_insert, if_neg hne, hd])
  exact hfold empty rfl

theorem entries_eq_of_mem_iff : ∀ {as bs : List (κ × α)},
    (as.Pairwise fun a b => compare a.1 b.1 = .lt) →
    (bs.Pairwise fun a b => compare a.1 b.1 = .lt) →
    (∀ e, e ∈ as ↔ e ∈ bs) → as = bs
  | [], [], _, _, _ => rfl
  | [], b :: bs, _, _, h => absurd ((h b).2 List.mem_cons_self) List.not_mem_nil
  | a :: as, [], _, _, h => absurd ((h a).1 List.mem_cons_self) List.not_mem_nil
  | a :: as, b :: bs, ha, hb, h => by
    rcases List.pairwise_cons.1 ha with ⟨belowA, hta⟩
    rcases List.pairwise_cons.1 hb with ⟨belowB, htb⟩
    have irrefl : ∀ k : κ, compare k k ≠ .lt := fun k hlt => by
      have hself : compare k k = .eq := Std.ReflCmp.compare_self
      rw [hself] at hlt
      cases hlt
    have heads : a = b := by
      rcases List.mem_cons.1 ((h a).1 List.mem_cons_self) with heq | hmem
      · exact heq
      · rcases List.mem_cons.1 ((h b).2 List.mem_cons_self) with heq | hmem'
        · exact heq.symm
        · exact absurd (Std.TransCmp.lt_trans (belowA b hmem') (belowB a hmem)) (irrefl _)
    subst heads
    have tails : as = bs := by
      refine entries_eq_of_mem_iff hta htb fun e => ?_
      constructor
      · intro he
        rcases List.mem_cons.1 ((h e).1 (List.mem_cons_of_mem _ he)) with rfl | hmem
        · exact absurd (belowA e he) (irrefl _)
        · exact hmem
      · intro he
        rcases List.mem_cons.1 ((h e).2 (List.mem_cons_of_mem _ he)) with rfl | hmem
        · exact absurd (belowB e he) (irrefl _)
        · exact hmem
    rw [tails]

theorem ext_get? {d e : Dictionary κ α} (h : ∀ k, d.get? k = e.get? k) : d = e := by
  have hentries : d.entries = e.entries := by
    refine entries_eq_of_mem_iff d.sorted e.sorted fun entry => ?_
    rcases entry with ⟨k, v⟩
    rw [← get?_eq_some_iff, ← get?_eq_some_iff, h]
  cases d
  cases e
  cases hentries
  rfl

end Lawful

end Dictionary

end Questionnaire
