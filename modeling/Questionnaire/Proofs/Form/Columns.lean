import Mathlib.Data.List.Nodup
import Questionnaire.Choices
import Questionnaire.Form.Decode

/-!
# Cells under Distinct Headers

A row is filled cell by cell, and a cell can replace another one only if their
headers name one column. Where the columns of a header row are distinct, a row
therefore holds exactly the cells that are not empty (`Header.get?_row`), and the
order of the columns is lost.

The cells of a choice are kept under the texts of their columns, and there is more
to say: two columns might have one text, if a name could contain the separator or
a language could be part of a name. Columns are read from headers by their first
separator, so they do not (`Column.IsRead.header_inj`).

## Main definitions

* `Column.IsRead`: A column that a header cell may name.
* `Column.IsOwn`: A column whose cells are attributes of a choice.

## Theorems

* `get_foldl_eq_some_iff`: What is filled entry by entry.
* `Dictionary.get?_foldl_insert`: Of entries of one key the last one is there.
* `Dictionary.get?_ofList_eq_some_iff`: Entries of distinct keys are all there.
* `Column.IsRead.header_inj`: A column that was read is known by its text.
* `Header.get?_row`: What a row holds.
* `Choice.get?_own`: What a choice holds.
-/

namespace Questionnaire

/-- What is filled entry by entry, under keys that are distinct and were free, holds what the
    entries put there. -/
theorem get_foldl_eq_some_iff {ρ ε κ β : Type} (get : ρ → κ → Option β) {put : ρ → ε → ρ}
    {key : ε → κ} {value : ε → Option β} (hself : ∀ r e, get (put r e) (key e) = value e)
    (hother : ∀ r e k, k ≠ key e → get (put r e) k = get r k) {entries : List ε}
    (hkeys : (entries.map key).Nodup) (r : ρ) (hfree : ∀ e ∈ entries, get r (key e) = none)
    (k : κ) (v : β) :
    get (entries.foldl put r) k = some v ↔
      (∃ e ∈ entries, key e = k ∧ value e = some v) ∨ get r k = some v := by
  induction entries generalizing r with
  | nil => simp
  | cons e rest ih =>
      rw [List.map_cons, List.nodup_cons] at hkeys
      rw [List.forall_mem_cons] at hfree
      have hlater : ∀ e' ∈ rest, get (put r e) (key e') = none := by
        intro e' he'
        rw [hother r e _ fun heq => hkeys.1 (heq ▸ List.mem_map_of_mem he')]
        exact hfree.2 e' he'
      rw [List.foldl_cons, ih hkeys.2 _ hlater, List.exists_mem_cons_iff]
      by_cases hk : key e = k
      · subst hk
        rw [hself, hfree.1]
        simp [or_comm]
      · rw [hother r e k (Ne.symm hk)]
        simp [hk]

/-- A dictionary that is filled from entries of any keys holds the last one of each key. -/
theorem Dictionary.get?_foldl_insert {κ α β : Type} [Ord κ] [Std.TransOrd κ]
    [Std.LawfulEqOrd κ] [DecidableEq κ] (key : β → κ) (value : β → α) (xs : List β)
    (d : Dictionary κ α) (k : κ) :
    (xs.foldl (fun d x => d.insert (key x) (value x)) d).get? k =
      (((xs.filter fun x => key x = k).getLast?).map value).or (d.get? k) := by
  induction xs generalizing d with
  | nil => rfl
  | cons x rest ih =>
      rw [List.foldl_cons, ih, get?_insert]
      by_cases hk : key x = k
      · -- The entry counts if no later one has its key.
        subst hk
        rw [if_pos Std.ReflCmp.compare_self, List.filter_cons_of_pos (by simp),
          List.getLast?_cons]
        cases (rest.filter fun x' => key x' = key x).getLast? <;> rfl
      · rw [if_neg fun heq => hk (Std.LawfulEqCmp.eq_of_compare heq).symm,
          List.filter_cons_of_neg (by simpa using hk)]

/-- A dictionary that is filled from entries of distinct keys holds them all. -/
theorem Dictionary.get?_ofList_eq_some_iff {κ α : Type} [Ord κ] [Std.TransOrd κ]
    [Std.LawfulEqOrd κ] {entries : List (κ × α)} (h : (entries.map Prod.fst).Nodup) (k : κ)
    (v : α) : (ofList entries).get? k = some v ↔ (k, v) ∈ entries := by
  have hself : ∀ (d : Dictionary κ α) (e : κ × α), (d.insert e.1 e.2).get? e.1 = some e.2 := by
    intro d e
    rw [get?_insert, if_pos Std.ReflCmp.compare_self]
  have hother : ∀ (d : Dictionary κ α) (e : κ × α) (k : κ), k ≠ e.1 →
      (d.insert e.1 e.2).get? k = d.get? k := by
    intro d e k hne
    rw [get?_insert, if_neg (fun heq => hne (Std.LawfulEqCmp.eq_of_compare heq))]
  rw [ofList, get_foldl_eq_some_iff get? hself hother h empty (fun _ _ => rfl), or_iff_left]
  · constructor
    · rintro ⟨e, he, rfl, heq⟩
      cases heq
      exact he
    · exact fun he => ⟨(k, v), he, rfl, rfl⟩
  · rintro ⟨⟩

namespace Column

theorem splitSeparator_cons (c : Char) (rest : List Char) :
    splitSeparator (c :: rest) =
      if c = ':' ∧ rest.head? = some ':' then some ([], rest.tail)
      else (splitSeparator rest).map fun (before, after) => (c :: before, after) := by
  rw [splitSeparator.eq_def]
  split
  · rename_i heq
    cases heq
    rfl
  · rename_i heq
    cases heq
  · rename_i c' rest' hne heq
    cases heq
    rw [if_neg]
    rintro ⟨rfl, hhead⟩
    cases rest with
    | nil => cases hhead
    | cons d rest =>
        cases hhead
        exact hne rest rfl rfl

/-- A text is split at its first separator, wherever else there is one. -/
theorem splitSeparator_eq_some {cs before after : List Char}
    (h : splitSeparator cs = some (before, after)) :
    cs = before ++ ':' :: ':' :: after ∧ splitSeparator before = none ∧
      ∀ other, splitSeparator (before ++ ':' :: ':' :: other) = some (before, other) := by
  induction cs generalizing before with
  | nil => cases h
  | cons c rest ih =>
      rw [splitSeparator_cons] at h
      split at h
      · rename_i hfirst
        rcases hfirst with ⟨rfl, hhead⟩
        cases h
        refine ⟨?_, rfl, fun other => rfl⟩
        cases rest with
        | nil => cases hhead
        | cons d rest =>
            cases hhead
            rfl
      · rename_i hfirst
        rcases Option.map_eq_some_iff.1 h with ⟨⟨before', after'⟩, hsplit, heq⟩
        cases heq
        rcases ih hsplit with ⟨rfl, hnone, hother⟩
        -- What follows the first character begins as it did.
        have hhead : ∀ other, (before' ++ ':' :: ':' :: other).head? =
            (before' ++ ':' :: ':' :: after).head? := by
          intro other
          cases before' <;> rfl
        refine ⟨rfl, ?_, fun other => ?_⟩
        · rw [splitSeparator_cons, hnone, if_neg]
          · rfl
          · rintro ⟨rfl, hcolon⟩
            refine hfirst ⟨rfl, ?_⟩
            cases before' with
            | nil => cases hcolon
            | cons d rest => exact hcolon
        · rw [List.cons_append, splitSeparator_cons, hother other, hhead other, if_neg hfirst]
          rfl

/-- A column that a header cell may name. The first separator of its text is the one
    between name and language. -/
def IsRead (c : Column) : Prop :=
  splitSeparator c.header.toList =
    if c.language.isEmpty then none else some (c.name.toList, c.language.toList)

theorem isRead_ofHeader (header : String) : (ofHeader header).IsRead := by
  rw [ofHeader]
  cases hsplit : splitSeparator header.toList with
  | none => exact hsplit
  | some parts =>
      rcases parts with ⟨before, after⟩
      rcases splitSeparator_eq_some hsplit with ⟨_, hnone, hother⟩
      dsimp only
      generalize Text.trim (String.ofList (dropCode after)) = language
      rw [IsRead, Column.header]
      dsimp only
      split
      · rw [String.toList_ofList]
        exact hnone
      · rw [String.toList_append, String.toList_append, String.toList_ofList, List.append_assoc]
        exact hother language.toList

/-- A column that was read is known by its text. -/
theorem IsRead.header_inj {c d : Column} (hc : c.IsRead) (hd : d.IsRead)
    (h : c.header = d.header) : c = d := by
  rw [IsRead] at hc hd
  rw [← h, hc] at hd
  rcases c with ⟨name, language⟩
  rcases d with ⟨name', language'⟩
  rw [Column.header, Column.header] at h
  dsimp only at h hd
  by_cases hempty : language.isEmpty = true
  · by_cases hempty' : language'.isEmpty = true
    · rw [if_pos hempty, if_pos hempty'] at h
      rw [h, String.isEmpty_iff.1 hempty, String.isEmpty_iff.1 hempty']
    · rw [if_pos hempty, if_neg hempty'] at hd
      cases hd
  · by_cases hempty' : language'.isEmpty = true
    · rw [if_neg hempty, if_pos hempty'] at hd
      cases hd
    · rw [if_neg hempty, if_neg hempty', Option.some.injEq, Prod.mk.injEq, String.toList_inj,
        String.toList_inj] at hd
      rw [hd.1, hd.2]

/-- A column whose cells are attributes of a choice: its author's own. -/
def IsOwn (c : Column) : Prop :=
  c.name ∉ ["list name", "name", "label"] ∧ c.header ≠ "value"

/-- A column without a language has its name as its text, and no other one is that of
    labels. -/
theorem header_ne_label {c : Column} (h : c.name ≠ "label") : c.header ≠ "label" := by
  rw [header]
  split
  · exact h
  · intro heq
    have hcolon : ':' ∈ (c.name ++ "::" ++ c.language).toList := by
      rw [String.toList_append, String.toList_append]
      exact List.mem_append_left _ (List.mem_append_right _ List.mem_cons_self)
    rw [heq] at hcolon
    revert hcolon
    decide

end Column

/-! ### What a row holds -/

/-- A row that is filled under distinct columns holds the cells that are not empty. -/
theorem Row.get?_ofCells {cells : List (String × String)}
    (h : (cells.map fun e => Column.ofHeader e.1).Nodup) (line : Nat) (c : Column) (v : String) :
    (ofCells line cells).cells.get? c = some v ↔
      ∃ e ∈ cells, Column.ofHeader e.1 = c ∧ e.2 = v ∧ v ≠ "" := by
  have hself : ∀ (r : Row) (e : String × String), (r.set e.1 e.2).cells.get?
      (Column.ofHeader e.1) = if e.2 = "" then none else some e.2 := by
    intro r e
    rw [get?_set, if_pos Std.ReflCmp.compare_self]
  have hother : ∀ (r : Row) (e : String × String) (c : Column), c ≠ Column.ofHeader e.1 →
      (r.set e.1 e.2).cells.get? c = r.cells.get? c := by
    intro r e c hne
    rw [get?_set, if_neg (fun heq => hne (Std.LawfulEqCmp.eq_of_compare heq))]
  have hfilled : ∀ text : String,
      (if text = "" then none else some text) = some v ↔ text = v ∧ v ≠ "" := by
    intro text
    by_cases hempty : text = ""
    · rw [if_pos hempty, hempty]
      simp only [reduceCtorEq, false_iff, not_and, ne_eq, Classical.not_not]
      exact fun heq => heq.symm
    · rw [if_neg hempty, Option.some.injEq]
      exact ⟨fun heq => ⟨heq, heq ▸ hempty⟩, And.left⟩
  rw [ofCells, get_foldl_eq_some_iff (fun r c => r.cells.get? c) hself hother h (blank line)
    (fun _ _ => rfl), or_iff_left (by rintro ⟨⟩)]
  simp only [hfilled]

/-- The text that is kept of a cell in a column. Types are brought into one spelling. -/
def keptText (c : Column) (text : String) : String :=
  if c.name = "type" then usualType text else text

namespace Header

/-- The cells of a header name different columns. Empty cells name none. -/
def Distinct (h : Header) : Prop :=
  ((h.filter fun cell => !cell.isEmpty).map Column.ofHeader).Nodup

/-- Under distinct columns, a row holds what is kept of the cells that have a header. -/
theorem get?_row {h : Header} (hdistinct : h.Distinct) (line : Nat) (cells : List String)
    (c : Column) (v : String) :
    (h.row line cells).cells.get? c = some v ↔
      ∃ e ∈ h.zip cells, e.1 ≠ "" ∧ Column.ofHeader e.1 = c ∧ keptText c e.2 = v ∧ v ≠ "" := by
  have hkept : ∀ e : String × String,
      (if (Column.ofHeader e.1).name = "type" then (e.1, usualType e.2) else (e.1, e.2)) =
        (e.1, keptText (Column.ofHeader e.1) e.2) := by
    intro e
    rw [keptText]
    split <;> rfl
  have hcolumns : (((h.zip cells).filter fun e => !e.1.isEmpty).map
      fun e => Column.ofHeader e.1).Nodup := by
    have hsub : (((h.zip cells).filter fun e => !e.1.isEmpty).map Prod.fst).Sublist
        (h.filter fun cell => !cell.isEmpty) := by
      have hfilter := List.filter_map (f := Prod.fst) (p := fun cell : String => !cell.isEmpty)
        (l := h.zip cells)
      have hfirst : (h.zip cells).map Prod.fst = h.take (min h.length cells.length) := by
        rw [List.zip_eq_zip_take_min, List.map_fst_zip]
        simp
      rw [hfirst] at hfilter
      exact hfilter ▸ (List.take_sublist _ _).filter _
    have hmapped := hsub.map Column.ofHeader
    rw [List.map_map] at hmapped
    exact hmapped.nodup hdistinct
  rw [row]
  simp only [hkept]
  rw [Row.get?_ofCells]
  · simp only [List.mem_map, List.mem_filter, Bool.not_eq_true', ← Bool.not_eq_true,
      String.isEmpty_iff]
    constructor
    · rintro ⟨_, ⟨e, ⟨he, hnamed⟩, rfl⟩, rfl, htext, hfilled⟩
      exact ⟨e, he, hnamed, rfl, htext, hfilled⟩
    · rintro ⟨e, he, hnamed, rfl, htext, hfilled⟩
      exact ⟨_, ⟨e, ⟨he, hnamed⟩, rfl⟩, rfl, htext, hfilled⟩
  · rw [List.map_map]
    exact hcolumns

/-- The line of a row is all that depends on it. -/
theorem row_eq_withLine (h : Header) (line : Nat) (cells : List String) :
    h.row line cells = (h.row 0 cells).withLine line := by
  have hset : ∀ (r : Row) (header value : String),
      (r.withLine line).set header value = (r.set header value).withLine line := by
    intro r header value
    rw [Row.set, Row.set, Row.setColumn, Row.setColumn]
    split <;> rfl
  have hfold : ∀ (entries : List (String × String)) (r : Row),
      entries.foldl (fun r cell => r.set cell.1 cell.2) (r.withLine line) =
        (entries.foldl (fun r cell => r.set cell.1 cell.2) r).withLine line := by
    intro entries
    induction entries with
    | nil => exact fun r => rfl
    | cons e rest ih =>
        intro r
        rw [List.foldl_cons, hset, ih, List.foldl_cons]
  exact hfold _ (.blank 0)

end Header

/-! ### What a choice holds -/

/-- A choice holds the cells of its author's own columns, under their texts. -/
theorem Choice.get?_own {r : Row} (hread : ∀ c ∈ r.columns, c.IsRead) (k v : String) :
    (Choice.ofRow r).own.get? k = some v ↔
      ∃ c, c.IsOwn ∧ c.header = k ∧ r.cells.get? c = some v := by
  have hkeys : (r.ownCells.map Prod.fst).Nodup := by
    have hcolumns : ((r.cells.entries.filter fun e =>
        !(["list name", "name", "label"].contains e.1.name)).map Prod.fst).Nodup :=
      (List.filter_sublist.map _).nodup r.cells.nodup_keys
    have hmapped := hcolumns.map_on (f := Column.header) (by
      intro c hc d hd heq
      refine (hread c ?_).header_inj (hread d ?_) heq
      · exact (List.filter_sublist.map _).subset hc
      · exact (List.filter_sublist.map _).subset hd)
    rw [List.map_map] at hmapped
    rwa [Row.ownCells, List.map_map]
  rw [ofRow, Dictionary.get?_ofList_eq_some_iff ((List.filter_sublist.map _).nodup hkeys)]
  simp only [Row.ownCells, List.mem_filter, List.mem_map, Dictionary.get?_eq_some_iff,
    Bool.not_eq_true', List.contains_eq_mem, decide_eq_false_iff_not]
  constructor
  · rintro ⟨⟨⟨c, text⟩, ⟨hentry, hname⟩, heq⟩, hkey⟩
    cases heq
    refine ⟨c, ⟨hname, ?_⟩, rfl, hentry⟩
    rintro heq
    simp [heq] at hkey
  · rintro ⟨c, ⟨hname, hvalue⟩, rfl, hentry⟩
    refine ⟨⟨(c, v), ⟨hentry, hname⟩, rfl⟩, ?_⟩
    have hlabel : c.header ≠ "label" := by
      refine Column.header_ne_label ?_
      rintro heq
      simp [heq] at hname
    simp [hvalue, hlabel]

end Questionnaire
