import Questionnaire.Spreadsheet.Worksheet

/-!
# Grids of Cells

A grid is laid out row by row from cells in any order, and each row is as long as
its own cells need. What a grid is, as far as anyone can ask for cells, does not
depend on the layout: `cell_gridOf` says that at every position there is the text
of the last cell that stands there. The layout shows only in the lengths, and
those are as small as they can be: where all cells have a text, a row ends with
a text and the grid ends with a row.

## Main definitions

* `textOfLast`: The text of the last cell at a position.

## Theorems

* `cell_gridOf`: The text of a grid at a position.
* `getLast?_of_mem_gridOf`, `getLast?_gridOf`: A grid holds no more than it has to.
* `textOfLast_eq`: The last cell at a position, where all cells there agree.
-/

namespace Questionnaire

namespace Spreadsheet

variable {cells : List Cell}

/-- The text of the last cell at a position, empty if there is none. -/
def textOfLast (cells : List Cell) (p : CellPosition) : String :=
  (((cells.filter fun c => c.position == p).getLast?).map Cell.text).getD ""

/-! ### How many rows and columns there are -/

theorem le_foldl_max (f : Cell → Nat) (start : Nat) (cells : List Cell) :
    start ≤ cells.foldl (fun n c => max n (f c)) start ∧
      ∀ c ∈ cells, f c ≤ cells.foldl (fun n c => max n (f c)) start := by
  induction cells generalizing start with
  | nil => exact ⟨Nat.le_refl _, List.forall_mem_nil _⟩
  | cons c rest ih =>
      rcases ih (max start (f c)) with ⟨hstart, hrest⟩
      rw [List.foldl_cons, List.forall_mem_cons]
      exact ⟨by omega, by omega, hrest⟩

theorem foldl_max_eq (f : Cell → Nat) (start : Nat) (cells : List Cell) :
    cells.foldl (fun n c => max n (f c)) start = start ∨
      ∃ c ∈ cells, cells.foldl (fun n c => max n (f c)) start = f c := by
  induction cells generalizing start with
  | nil => exact Or.inl rfl
  | cons c rest ih =>
      rw [List.foldl_cons]
      rcases ih (max start (f c)) with hmax | ⟨c', hc', heq⟩
      · rw [hmax]
        rcases Nat.le_total start (f c) with hle | hle
        · exact Or.inr ⟨c, List.mem_cons_self, Nat.max_eq_right hle⟩
        · exact Or.inl (Nat.max_eq_left hle)
      · exact Or.inr ⟨c', List.mem_cons_of_mem _ hc', heq⟩

theorem lt_rowCount {c : Cell} (h : c ∈ cells) : c.position.row < rowCount cells :=
  (le_foldl_max (fun c => c.position.row + 1) 0 cells).2 c h

theorem lt_columnCount {c : Cell} (h : c ∈ cells) : c.position.column < columnCount cells :=
  (le_foldl_max (fun c => c.position.column + 1) 0 cells).2 c h

/-- The last row is that of a cell. -/
theorem exists_rowCount (h : rowCount cells ≠ 0) :
    ∃ c ∈ cells, rowCount cells = c.position.row + 1 :=
  (foldl_max_eq (fun c => c.position.row + 1) 0 cells).resolve_left h

/-- The last column is that of a cell. -/
theorem exists_columnCount (h : columnCount cells ≠ 0) :
    ∃ c ∈ cells, columnCount cells = c.position.column + 1 :=
  (foldl_max_eq (fun c => c.position.column + 1) 0 cells).resolve_left h

/-! ### What a grid holds -/

theorem textAt_eq_textOfLast (cells : List Cell) (row column : Nat) :
    textAt (cells.filter fun c => c.position.row == row) column =
      textOfLast cells ⟨row, column⟩ := by
  have hposition : ∀ c : Cell, (c.position.column == column && c.position.row == row) =
      (c.position == ⟨row, column⟩) := by
    rintro ⟨⟨r, k⟩, text⟩
    rw [Bool.eq_iff_iff, Bool.and_eq_true, beq_iff_eq, beq_iff_eq, beq_iff_eq,
      CellPosition.mk.injEq, and_comm]
  rw [textAt, textOfLast, List.filter_filter]
  simp only [hposition]

theorem textOfLast_eq_empty {p : CellPosition} (h : ∀ c ∈ cells, c.position ≠ p) :
    textOfLast cells p = "" := by
  have hnone : cells.filter (fun c => c.position == p) = [] := by
    refine List.filter_eq_nil_iff.2 ?_
    intro c hc hsame
    exact h c hc (beq_iff_eq.1 hsame)
  rw [textOfLast, hnone]
  rfl

theorem exists_of_mem {c : Cell} (h : c ∈ cells) :
    ∃ last ∈ cells, last.position = c.position ∧ textOfLast cells c.position = last.text := by
  rw [textOfLast]
  cases hlast : (cells.filter fun c' => c'.position == c.position).getLast? with
  | none =>
      have hmem : c ∈ cells.filter fun c' => c'.position == c.position :=
        List.mem_filter.2 ⟨h, beq_self_eq_true _⟩
      rw [List.getLast?_eq_none_iff.1 hlast] at hmem
      cases hmem
  | some last =>
      rcases List.mem_filter.1 (List.mem_of_getLast? hlast) with ⟨hmem, hposition⟩
      exact ⟨last, hmem, beq_iff_eq.1 hposition, rfl⟩

/-- The text at a position where all cells have the same text, and where there is a cell
    unless that text is empty. -/
theorem textOfLast_eq {p : CellPosition} {text : String}
    (hall : ∀ c ∈ cells, c.position = p → c.text = text)
    (hsome : text ≠ "" → ∃ c ∈ cells, c.position = p) : textOfLast cells p = text := by
  by_cases hexists : ∃ c ∈ cells, c.position = p
  · rcases hexists with ⟨c, hc, rfl⟩
    rcases exists_of_mem hc with ⟨last, hlast, hposition, htext⟩
    rw [htext, hall last hlast hposition]
  · have hempty : text = "" :=
      Decidable.byContradiction fun hne => hexists (hsome hne)
    rw [hempty]
    exact textOfLast_eq_empty fun c hc hposition => hexists ⟨c, hc, hposition⟩

/-- The text of a grid at a position is that of the last cell there. -/
theorem cell_gridOf (cells : List Cell) (row column : Nat) :
    (gridOf cells).cell row column = textOfLast cells ⟨row, column⟩ := by
  rw [Grid.cell, gridOf, List.getD_eq_getElem?_getD, List.getD_eq_getElem?_getD,
    List.getElem?_map]
  by_cases hrow : row < rowCount cells
  · rw [List.getElem?_range hrow, Option.map_some, Option.getD_some, rowOf, List.getElem?_map]
    by_cases hcolumn : column < columnCount (cells.filter fun c => c.position.row == row)
    · rw [List.getElem?_range hcolumn, Option.map_some, Option.getD_some,
        textAt_eq_textOfLast]
    · -- A cell of the row in this column would make the row longer.
      rw [List.getElem?_eq_none (by rw [List.length_range]; omega), Option.map_none,
        Option.getD_none, textOfLast_eq_empty]
      rintro c hc hposition
      refine hcolumn (Nat.lt_of_le_of_lt (Nat.le_of_eq ?_) (lt_columnCount (c := c) ?_))
      · rw [hposition]
      · rw [List.mem_filter, hposition]
        exact ⟨hc, beq_self_eq_true row⟩
  · have hnone : (List.range (rowCount cells))[row]? = none :=
      List.getElem?_eq_none (by rw [List.length_range]; omega)
    rw [hnone, Option.map_none, Option.getD_none, List.getElem?_nil, Option.getD_none,
      textOfLast_eq_empty]
    rintro c hc hposition
    exact hrow (Nat.lt_of_le_of_lt (Nat.le_of_eq (by rw [hposition])) (lt_rowCount hc))

theorem getLast?_map_range {α : Type} (f : Nat → α) (n : Nat) :
    ((List.range n).map f).getLast? = if n = 0 then none else some (f (n - 1)) := by
  cases n with
  | zero => rfl
  | succ n =>
      rw [List.range_succ, List.map_append, List.map_singleton, List.getLast?_concat,
        if_neg (Nat.succ_ne_zero n)]
      rfl

/-- Where all cells have a text, no row ends with an empty text. -/
theorem getLast?_of_mem_gridOf (hfilled : ∀ c ∈ cells, c.text ≠ "") :
    ∀ texts ∈ gridOf cells, texts.getLast? ≠ some "" := by
  intro texts htexts hlast
  rcases List.mem_map.1 htexts with ⟨row, _, rfl⟩
  rw [rowOf, getLast?_map_range] at hlast
  split at hlast
  · cases hlast
  · rename_i hcount
    -- The column of the last cell in the row is the last one.
    rcases exists_columnCount hcount with ⟨c, hc, hcolumn⟩
    rcases List.mem_filter.1 hc with ⟨hmem, hrow⟩
    have hposition : c.position = ⟨row, c.position.column⟩ := by
      rw [← beq_iff_eq.1 hrow]
    rcases exists_of_mem hmem with ⟨last, hlastMem, _, htext⟩
    refine hfilled last hlastMem ?_
    rw [← htext, hposition, ← textAt_eq_textOfLast]
    rwa [hcolumn, Nat.add_sub_cancel, Option.some.injEq] at hlast

/-- The last row of a grid is not empty. -/
theorem getLast?_gridOf (cells : List Cell) : (gridOf cells).getLast? ≠ some [] := by
  intro hlast
  rw [gridOf, getLast?_map_range] at hlast
  split at hlast
  · cases hlast
  · rename_i hcount
    rcases exists_rowCount hcount with ⟨c, hc, hrow⟩
    rw [hrow, Nat.add_sub_cancel, Option.some.injEq, rowOf, List.map_eq_nil_iff,
      List.range_eq_nil] at hlast
    have hmem : c ∈ cells.filter fun c' => c'.position.row == c.position.row :=
      List.mem_filter.2 ⟨hc, beq_self_eq_true _⟩
    have hcolumn := lt_columnCount hmem
    omega

end Spreadsheet

end Questionnaire
