import Questionnaire.Choices

/-!
# The Lists of a Choices Sheet

The lists are collected row by row, in whatever order the rows of different lists
follow each other. What comes out can be said without the order of collecting:
the choices of a list are those of the rows that name it. From then on a list is
spoken of by its rows, and so deleting the rows of one list is seen to touch no
other.

A dictionary is known from its lookups, so rows that agree list by list give the
same lists. The rows of a sheet are parted by their lists, and no list sees how
the others lie between its rows.

## Main definitions

* `ChoiceLists.choicesOf`: The choices of the rows of a list.
* `ChoiceLists.IsPartition`: Lists that hold the choices of some rows, and what a
  document takes from them.

## Theorems

* `Dictionary.filter_entries`: The entries of a key.
* `ChoiceLists.get?_ofRows`: What is collected for a list.
* `ChoiceLists.mem_listed_ofRows_iff`: What a document lists.
* `ChoiceLists.isPartition_ofRows`: The rows are parted, whatever lies between the rows of
  a list.
* `ChoiceLists.check_eq_ok_iff`: What the check of the lists makes sure of.
* `ChoiceLists.get?_ofRows_filter_of_ne`, `ChoiceLists.get?_ofRows_filter_self`: The lists
  once the rows of one are deleted.
-/

namespace Questionnaire

/-- Among rising keys, a key has one entry at most. -/
theorem Dictionary.filter_entries {α : Type} (d : Dictionary String α) (k : String) :
    d.entries.filter (fun e => e.1 == k) = ((d.get? k).map fun v => (k, v)).toList := by
  rcases d with ⟨entries, hsorted⟩
  rw [get?]
  dsimp only
  induction entries with
  | nil => rfl
  | cons e rest ih =>
      rcases e with ⟨k', v⟩
      rcases List.pairwise_cons.1 hsorted with ⟨habove, hrest⟩
      rw [lookup, List.filter_cons]
      by_cases hk : k' = k
      · subst hk
        have hself : compare k' k' = .eq := Std.ReflCmp.compare_self
        have hothers : rest.filter (fun e => e.1 == k') = [] := by
          refine List.filter_eq_nil_iff.2 ?_
          intro e he hsame
          have hlt := habove e he
          rw [beq_iff_eq.1 hsame, hself] at hlt
          cases hlt
        rw [if_pos (beq_self_eq_true k'), if_pos hself, hothers]
        rfl
      · have hne : compare k k' ≠ .eq := fun heq =>
          hk (Std.LawfulEqCmp.eq_of_compare heq).symm
        rw [if_neg (fun heq => hk (beq_iff_eq.1 heq)), if_neg hne, ih hrest]

namespace ChoiceLists

/-- The choices of the rows of a list. -/
def choicesOf (rows : List Row) (list : String) : List Choice :=
  (rows.filter fun r => r.listName == list).map Choice.ofRow

theorem choicesOf_cons (r : Row) (rest : List Row) (list : String) :
    choicesOf (r :: rest) list =
      (if r.listName = list then [.ofRow r] else []) ++ choicesOf rest list := by
  rw [choicesOf, choicesOf, List.filter_cons]
  by_cases h : r.listName = list
  · rw [if_pos h, if_pos (beq_iff_eq.2 h)]
    rfl
  · rw [if_neg h, if_neg (fun heq => h (beq_iff_eq.1 heq))]
    rfl

theorem choicesOf_eq_nil_iff {rows : List Row} {list : String} :
    choicesOf rows list = [] ↔ ∀ r ∈ rows, r.listName ≠ list := by
  rw [choicesOf, List.map_eq_nil_iff, List.filter_eq_nil_iff]
  simp only [beq_iff_eq]

/-! ### Collecting the lists -/

theorem get?_addRow (lists : ChoiceLists) (r : Row) (list : String) :
    (lists.addRow r).get? list =
      if list = r.listName then some ((lists.get? r.listName).getD [] ++ [.ofRow r])
      else lists.get? list := by
  rw [addRow, Dictionary.modify, Dictionary.get?_insert]
  simp only [Std.LawfulEqCmp.compare_eq_iff_eq]

theorem get?_foldl_addRow (rows : List Row) (lists : ChoiceLists) (list : String) :
    (rows.foldl addRow lists).get? list =
      if choicesOf rows list = [] then lists.get? list
      else some ((lists.get? list).getD [] ++ choicesOf rows list) := by
  induction rows generalizing lists with
  | nil => rfl
  | cons r rest ih =>
      rw [List.foldl_cons, ih, get?_addRow, choicesOf_cons]
      by_cases h : r.listName = list
      · subst h
        have hne : [Choice.ofRow r] ++ choicesOf rest r.listName ≠ [] := List.cons_ne_nil _ _
        rw [if_pos rfl, if_pos rfl, if_neg hne]
        -- The first choice of the list is there, and perhaps no other.
        by_cases hrest : choicesOf rest r.listName = []
        · rw [if_pos hrest, hrest, List.append_nil]
        · rw [if_neg hrest, Option.getD_some, List.append_assoc]
      · rw [if_neg h, if_neg (Ne.symm h), List.nil_append]

/-- A list that some row names has the choices of its rows; other lists are not there. -/
theorem get?_ofRows (rows : List Row) (list : String) :
    (ofRows rows).get? list =
      if choicesOf rows list = [] then none else some (choicesOf rows list) := by
  rw [ofRows, get?_foldl_addRow]
  rfl

theorem contains_ofRows_iff {rows : List Row} {list : String} :
    (ofRows rows).contains list = true ↔ ∃ r ∈ rows, r.listName = list := by
  have hnamed : ¬ choicesOf rows list = [] ↔ ∃ r ∈ rows, r.listName = list := by
    rw [choicesOf_eq_nil_iff]
    simp only [ne_eq, Classical.not_forall, Classical.not_not, exists_prop]
  rw [Dictionary.contains, get?_ofRows, ← hnamed]
  by_cases h : choicesOf rows list = [] <;> simp [h]

/-- What a document lists under a name. -/
theorem filter_listed (lists : ChoiceLists) (list : String) :
    lists.listed.filter (fun l => l.1 == list) =
      (((lists.get? list).filter fun choices => !isPlaceholder choices).map
        fun choices => (list, choices)).toList := by
  have hcomm : lists.listed.filter (fun l => l.1 == list) =
      (lists.entries.filter fun l => l.1 == list).filter fun l => !isPlaceholder l.2 := by
    rw [listed, List.filter_filter, List.filter_filter]
    simp only [Bool.and_comm]
  rw [hcomm, Dictionary.filter_entries]
  cases lists.get? list with
  | none => rfl
  | some choices => cases h : isPlaceholder choices <;> simp [Option.filter, h]

/-- A placeholder is a single choice without value and label. -/
theorem isPlaceholder_iff {choices : List Choice} :
    isPlaceholder choices = true ↔
      ∃ only, choices = [only] ∧ only.value = "" ∧ only.label = "" := by
  constructor
  · intro h
    match choices with
    | [] => cases h
    | [only] =>
        rw [isPlaceholder, Bool.and_eq_true, String.isEmpty_iff, String.isEmpty_iff] at h
        exact ⟨only, rfl, h.1, h.2⟩
    | _ :: _ :: _ => cases h
  · rintro ⟨only, rfl, hvalue, hlabel⟩
    rw [isPlaceholder, hvalue, hlabel]
    rfl

/-- A document lists what is there and is no placeholder. -/
theorem mem_listed_iff {lists : ChoiceLists} {list : String} {choices : List Choice} :
    (list, choices) ∈ lists.listed ↔
      lists.get? list = some choices ∧ isPlaceholder choices = false := by
  rw [listed, List.mem_filter, ← Dictionary.get?_eq_some_iff, Bool.not_eq_true']

/-- A document lists the choices of the rows of each list that is no placeholder. -/
theorem mem_listed_ofRows_iff {rows : List Row} {list : String} {choices : List Choice} :
    (list, choices) ∈ (ofRows rows).listed ↔
      choices = choicesOf rows list ∧ choices ≠ [] ∧ isPlaceholder choices = false := by
  rw [mem_listed_iff, get?_ofRows, ← and_assoc]
  refine and_congr_left fun _ => ?_
  split
  · rename_i hnone
    refine iff_of_false (by rintro ⟨⟩) ?_
    rintro ⟨rfl, hne⟩
    exact hne hnone
  · rename_i hsome
    rw [Option.some.injEq, eq_comm]
    exact ⟨fun heq => ⟨heq, heq ▸ hsome⟩, And.left⟩

/-! ### The rows parted by their lists -/

/-- The names of what a document lists rise in the order of their code points. -/
theorem pairwise_listed (lists : ChoiceLists) :
    (lists.listed.map fun list => list.1.toList.map Char.toNat).Pairwise (· < ·) := by
  rw [List.pairwise_map]
  refine (lists.sorted.filter _).imp ?_
  intro a b hlt
  have hbefore : a.1 < b.1 := compareOfLessAndEq_eq_lt.1 hlt
  exact List.map_lt (fun _ _ h => h) (String.lt_iff.1 hbefore)

/-- Rows that agree list by list give the same lists. -/
theorem ofRows_congr {rows other : List Row}
    (h : ∀ list, other.filter (fun r => r.listName == list) =
      rows.filter fun r => r.listName == list) : ofRows other = ofRows rows := by
  refine Dictionary.ext_get? fun list => ?_
  rw [get?_ofRows, get?_ofRows, choicesOf, choicesOf, h list]

/-- Lists that part some rows: each has the choices of its rows, one for a row and in their
    order, and a document takes from them, by rising names, what is no placeholder. -/
structure IsPartition (rows : List Row) (lists : ChoiceLists) : Prop where
  collected : ∀ list, lists.get? list =
    if choicesOf rows list = [] then none else some (choicesOf rows list)
  listed : ∀ list choices, (list, choices) ∈ lists.listed ↔
    lists.get? list = some choices ∧
      ¬∃ only, choices = [only] ∧ only.value = "" ∧ only.label = ""
  rising : (lists.listed.map fun list => list.1.toList.map Char.toNat).Pairwise (· < ·)

/-- The lists of a choices sheet part its rows, and it makes no difference to them how the
    rows of different lists lie between each other. -/
theorem isPartition_ofRows (rows : List Row) :
    IsPartition rows (ofRows rows) ∧
      ∀ other : List Row, (∀ list, other.filter (fun r => r.listName == list) =
        rows.filter fun r => r.listName == list) → ofRows other = ofRows rows := by
  refine ⟨⟨get?_ofRows rows, fun list choices => ?_, pairwise_listed _⟩,
    fun other h => ofRows_congr h⟩
  rw [mem_listed_iff, ← isPlaceholder_iff, Bool.not_eq_true]

/-- Two lists whose rows lie between each other, and a placeholder that comes first or last. -/
theorem isPartition_ofRows_interleaved :
    let x : Row := .ofCells 2 [("list name", "b"), ("name", "x"), ("label", "X")]
    let y : Row := .ofCells 3 [("list name", "a"), ("name", "y"), ("label", "Y")]
    let z : Row := .ofCells 4 [("list name", "b"), ("name", "z"), ("label", "Z")]
    let later : Row := .ofCells 5 [("list name", "c")]
    (∀ list, [later, x, z, y].filter (fun r => r.listName == list) =
      [x, y, z, later].filter fun r => r.listName == list) ∧
      ofRows [later, x, z, y] = ofRows [x, y, z, later] := by
  intro x y z later
  have h : ∀ list, [later, x, z, y].filter (fun r => r.listName == list) =
      [x, y, z, later].filter fun r => r.listName == list := by
    intro list
    have hx : x.listName = "b" := by decide
    have hy : y.listName = "a" := by decide
    have hz : z.listName = "b" := by decide
    have hlater : later.listName = "c" := by decide
    simp only [List.filter_cons, List.filter_nil, hx, hy, hz, hlater]
    by_cases ha : "a" = list
    · subst ha
      rfl
    · by_cases hc : "c" = list
      · subst hc
        rfl
      -- Without the rows of these two lists both orders are the same.
      · rw [beq_eq_false_iff_ne.2 ha, beq_eq_false_iff_ne.2 hc]
        rfl
  exact ⟨h, (isPartition_ofRows _).2 _ h⟩

/-! ### The check of the lists -/

theorem check_eq_ok_iff {lists : ChoiceLists} {survey choices : List Row} :
    lists.check survey choices = .ok () ↔
      (∀ r ∈ choices, lists.admits r = true) ∧
        ∀ r ∈ survey, ∀ list, r.kind.choiceList = some list → lists.contains list = true := by
  have hadmits : choices.find? (fun r => !lists.admits r) = none ↔
      ∀ r ∈ choices, lists.admits r = true := by
    rw [List.find?_eq_none]
    simp only [Bool.not_eq_true', Bool.not_eq_false]
  have hdeclared : (survey.findSome? fun r => (lists.undeclared? r).map fun list => (r, list)) =
      none ↔ ∀ r ∈ survey, ∀ list, r.kind.choiceList = some list → lists.contains list = true := by
    rw [List.findSome?_eq_none_iff]
    simp only [Option.map_eq_none_iff, undeclared?, Option.filter_eq_none_iff, Bool.not_eq_true',
      Bool.not_eq_false]
  rw [check, ← hadmits, ← hdeclared]
  cases choices.find? fun r => !lists.admits r with
  | some r => simp
  | none =>
      cases survey.findSome? fun r => (lists.undeclared? r).map fun list => (r, list) with
      | some found => simp
      | none => simp

/-! ### The lists without one of them -/

/-- Deleting the rows of one list touches no other. -/
theorem get?_ofRows_filter_of_ne {rows : List Row} {list other : String} (h : other ≠ list) :
    (ofRows (rows.filter fun r => r.listName != list)).get? other = (ofRows rows).get? other := by
  have hsame : choicesOf (rows.filter fun r => r.listName != list) other =
      choicesOf rows other := by
    rw [choicesOf, choicesOf, List.filter_filter]
    congr 1
    refine List.filter_congr ?_
    intro r _
    by_cases hr : r.listName = other
    · rw [hr, beq_self_eq_true, Bool.true_and, bne_iff_ne.2 h]
    · rw [beq_eq_false_iff_ne.2 hr, Bool.false_and]
  rw [get?_ofRows, get?_ofRows, hsame]

theorem get?_ofRows_filter_self (rows : List Row) (list : String) :
    (ofRows (rows.filter fun r => r.listName != list)).get? list = none := by
  rw [get?_ofRows, if_pos]
  rw [choicesOf_eq_nil_iff]
  intro r hr
  exact bne_iff_ne.1 (List.mem_filter.1 hr).2

end ChoiceLists

end Questionnaire
