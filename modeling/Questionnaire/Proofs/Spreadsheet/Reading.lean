import Questionnaire.Proofs.Spreadsheet.Grid
import Questionnaire.Proofs.Spreadsheet.Listing

/-!
# The Reading of Worksheets

The reader goes through a worksheet with a row and a column where a cell without a
reference would stand. `leads_cell` is what it makes of one cell, and the positions
of a listing count along in just that way, so `leads_cells` and `leads_rows` follow
by induction on the entries. What is left is a grid of the cells in the order of the
listing, and nothing of that order shows in the grid (`Listing.grid_of_shows`).

A cell whose position, or whose next one, is not a number of 64 bits would end the
reading, as would such a row, so there must be none.

## Main definitions

* `WorksheetState.between`: The state between cells.
* `found`: The cells that are found in a listing.

## Theorems

* `WorksheetState.leads_cell`: What the reader makes of a cell.
* `Listing.outcome_readWorksheet`, `Listing.exists_grid`: What is read from a worksheet.
* `Listing.grid_of_shows`: The texts that a worksheet lists are those of its grid.
-/

namespace Questionnaire

namespace Spreadsheet

/-! ### The text of a cell -/

variable {sheet : String} {shared : List String}

theorem trim_toDigits (n : Nat) :
    Text.trim (String.ofList (Nat.toDigits 10 n)) = String.ofList (Nat.toDigits 10 n) := by
  have hall : ∀ c ∈ Nat.toDigits 10 n, Text.isBlank c = false := fun c hc =>
    Text.isBlank_of_isDigit (Nat.isDigit_of_mem_toDigits (by decide) (by decide) hc)
  have hdrop : ∀ cs : List Char, (∀ c ∈ cs, Text.isBlank c = false) →
      cs.dropWhile Text.isBlank = cs := by
    intro cs hcs
    cases cs with
    | nil => rfl
    | cons c rest => exact Text.skipBlanks_eq_self (hcs c List.mem_cons_self)
  rw [Text.trim, String.toList_ofList, Text.skipBlanks, hdrop _ hall, Text.trimEnd,
    hdrop _ fun c hc => hall c (List.mem_reverse.1 hc), List.reverse_reverse]

/-- The texts that cells are read as, by their types and what is written in them. -/
def AreRead (shared : List String) (text : CellElement → String) : Prop :=
  ∀ c p, (cellText shared ⟨p, c.type?, c.written⟩).outcome = .ok (text c)

/-- What is written in a cell is read as some text. An index without a shared text is no
    error. -/
theorem exists_cellText (shared : List String) (type? : Option String) (cs : List Char) :
    ∃ text, ∀ p, (cellText shared ⟨p, type?, cs⟩).outcome = .ok text := by
  unfold cellText
  dsimp only
  split
  · unfold sharedText
    dsimp only
    split
    · exact ⟨_, fun _ => rfl⟩
    · exact ⟨"", fun _ => rfl⟩
  all_goals exact ⟨_, fun _ => rfl⟩

theorem exists_areRead (shared : List String) : ∃ text, AreRead shared text :=
  ⟨_, fun c => (exists_cellText shared c.type? c.written).choose_spec⟩

/-- The text of a cell is the one that it shows. -/
theorem CellElement.Shows.outcome_cellText {c : CellElement} {text : String}
    (h : c.Shows shared text) (p : CellPosition) :
    (cellText shared ⟨p, c.type?, c.written⟩).outcome = .ok text := by
  cases h with
  | blank hempty =>
      rw [hempty, cellText]
      split
      · have hnone : (Number.readNatural? (Text.trim (String.ofList [])).toList).bind
            (shared[·]?) = none := rfl
        unfold sharedText
        dsimp only
        rw [hnone]
        rfl
      all_goals rfl
  | inline htype hescaped =>
      rw [htype, ← String.ofList_toList (s := text), ← escapedAs_iff.1 hescaped]
      rfl
  | shared htype hindex hdigits hget =>
      have hread : (Number.readNatural? (Text.trim (String.ofList c.written)).toList).bind
          (shared[·]?) = some text := by
        rw [hdigits, trim_toDigits, String.toList_ofList, Number.readNatural?_toDigits hindex,
          Option.bind_some, hget]
      rw [htype, cellText]
      unfold sharedText
      dsimp only
      rw [hread]
      rfl

/-! ### The reader on its way through a listing -/

/-- The cells that are found in some places, without the empty ones. -/
def found (text : CellElement → String) (places : List (CellPosition × CellElement)) :
    List Cell :=
  (places.map fun c => ⟨c.1, text c.2⟩).filter fun c => !c.text.isEmpty

theorem found_append (text : CellElement → String)
    (places later : List (CellPosition × CellElement)) :
    found text (places ++ later) = found text places ++ found text later := by
  rw [found, List.map_append, List.filter_append]
  rfl

namespace WorksheetState

/-- The state between cells. -/
def between (cells : List Cell) (row column : Nat) : WorksheetState :=
  ⟨cells, row, column, none, false, false⟩

theorem successor_eq {n : Nat} (h : n + 1 < Number.wordBound) : successor n = .ok (n + 1) :=
  if_pos h

theorem gathers_cellPart (part : CellPart) :
    (inCell sheet shared).Gathers part.events part.written := by
  cases part with
  | value t => exact gathers_value t
  | inline tag called item =>
      intro s hs
      have hopening : (next sheet shared s (.opening tag)).outcome = .ok s :=
        next_aside hs.1 (isAside_opening called (by decide))
      have hclosing : (inCell sheet shared).Gathers [.closing tag.name] [] :=
        gathers_aside (isAside_closing called (by decide))
      have hitem := (gathers_item item).append hclosing
      rw [List.append_nil] at hitem
      exact .cons hopening (hitem s hs)

/-- The position of a cell is read as it is written. -/
theorem openCell_eq {c : CellElement} {cells : List Cell} {row column : Nat}
    (hcounted : (c.reference?.getD ⟨row, column⟩).IsCounted) :
    (between cells row column).openCell sheet c.tag =
      .ok ⟨c.reference?.getD ⟨row, column⟩, c.type?, []⟩ := by
  rw [openCell, c.refers]
  cases hreference : c.reference? with
  | none => rfl
  | some p =>
      rw [hreference] at hcounted
      dsimp only [Option.map_some]
      rw [CellPosition.ofReference?_reference (p := p) hcounted]
      rfl

variable {text : CellElement → String}

/-- The opening tag of a cell opens it. -/
theorem next_openCell {c : CellElement} {cells : List Cell} {row column : Nat}
    (hcounted : (c.reference?.getD ⟨row, column⟩).IsCounted) :
    (next sheet shared (between cells row column) (.opening c.tag)).outcome =
      .ok { between cells row column with
        cell := some ⟨c.reference?.getD ⟨row, column⟩, c.type?, []⟩ } := by
  have hrow := Xml.Tag.not_isCalled c.called "row" (by decide)
  simp only [next, opened, hrow, c.called, openCell_eq hcounted, Traced.outcome_ofExcept]
  rfl

/-- The tag of an empty cell moves on to the next column. -/
theorem next_emptyCell {c : CellElement} {cells : List Cell} {row column : Nat}
    (hcounted : (c.reference?.getD ⟨row, column⟩).IsCounted) :
    (next sheet shared (between cells row column) (.empty c.tag)).outcome =
      .ok (between cells row ((c.reference?.getD ⟨row, column⟩).column + 1)) := by
  have hrow := Xml.Tag.not_isCalled c.called "row" (by decide)
  have hnext := successor_eq hcounted.column
  rw [next, Traced.outcome_ofExcept, passedEmpty, hrow, if_neg Bool.false_ne_true,
    if_pos c.called, openCell_eq hcounted]
  change (successor _ >>= fun column => _) = _
  rw [hnext]
  rfl

/-- The closing tag of a cell adds it, unless its text is empty. -/
theorem next_closeCell {c : CellElement} {text : String} {cells : List Cell} {row column : Nat}
    {p : CellPosition} (hcounted : p.IsCounted)
    (htext : (cellText shared ⟨p, c.type?, c.written⟩).outcome = .ok text) :
    (next sheet shared
        { between cells row column with cell := some ⟨p, c.type?, c.written⟩ }
        (.closing c.tag.name)).outcome =
      .ok (between (if text.isEmpty then cells else ⟨p, text⟩ :: cells) row (p.column + 1)) := by
  have hlocal : Xml.Tag.withoutPrefix c.tag.name = Xml.Source.ofString "c" :=
    Xml.Tag.isCalled_iff.1 c.called
  have hnames : Xml.Source.ofString "c" ≠ Xml.Source.ofString "v" ∧
      Xml.Source.ofString "c" ≠ Xml.Source.ofString "t" := by decide
  have hnext := successor_eq hcounted.column
  rw [next, hlocal, closed, if_neg hnames.1, if_neg hnames.2, if_pos rfl]
  simp only [closeCell, Traced.outcome_bind, Traced.outcome_ofExcept, hnext, htext]
  rfl

variable {text : CellElement → String}

/-- A cell is added where it stands, and the next one stands behind it. -/
theorem leads_cell (htext : AreRead shared text) (c : CellElement) (cells : List Cell)
    (row column : Nat)
    (hcounted : (c.reference?.getD ⟨row, column⟩).IsCounted) :
    Leads (next sheet shared) (between cells row column) c.events
      (between ((found text [(c.reference?.getD ⟨row, column⟩, c)]).reverse ++ cells) row
        ((c.reference?.getD ⟨row, column⟩).column + 1)) := by
  have hadded : ∀ p, (found text [(p, c)]).reverse ++ cells =
      if (text c).isEmpty then cells else ⟨p, text c⟩ :: cells := by
    intro p
    rw [found, List.map_singleton, List.filter_cons, List.filter_nil]
    cases (text c).isEmpty <;> rfl
  rw [hadded, CellElement.events]
  cases hcontent : c.content? with
  | none =>
      -- The reader adds no cell here, and the cell shows the empty text.
      have hwritten : c.written = [] := by
        rw [CellElement.written, hcontent]
        rfl
      have hempty : text c = "" := by
        have hshows : c.Shows shared "" := .blank hwritten
        have hblank := hshows.outcome_cellText ⟨row, column⟩
        rw [htext] at hblank
        exact Except.ok.inj hblank
      rw [hempty]
      exact .single (next_emptyCell hcounted)
  | some parts =>
      have hparts : (inCell sheet shared).Gathers (Entry.events CellPart.events parts)
          ((Entry.elements parts).flatMap CellPart.written) :=
        Gatherer.gathers_entries (fun _ => gathers_aside) gathers_cellPart parts
      have hwritten : (Entry.elements parts).flatMap CellPart.written = c.written := by
        rw [CellElement.written, hcontent]
        rfl
      rw [hwritten] at hparts
      exact .cons (next_openCell hcounted)
        ((hparts _ ⟨⟨rfl, rfl⟩, rfl⟩).append (.single (next_closeCell hcounted (htext c _))))

/-- The cells of a row are added where they stand. -/
theorem leads_cells (sheet : String) (htext : AreRead shared text)
    (entries : List (Entry CellElement)) (cells : List Cell) (row column : Nat)
    (hcounted : ∀ c ∈ CellElement.placed row column (Entry.elements entries), c.1.IsCounted) :
    ∃ column', Leads (next sheet shared) (between cells row column)
      (Entry.events CellElement.events entries)
      (between ((found text
        (CellElement.placed row column (Entry.elements entries))).reverse ++ cells)
        row column') := by
  induction entries generalizing cells column with
  | nil => exact ⟨column, .nil⟩
  | cons entry rest ih =>
      cases entry with
      | aside e silent =>
          rcases ih cells column hcounted with ⟨column', hrest⟩
          exact ⟨column', .cons (next_aside ⟨rfl, rfl⟩ silent) hrest⟩
      | element c =>
          rcases List.forall_mem_cons.1 hcounted with ⟨hcell, hlater⟩
          rcases ih _ _ hlater with ⟨column', hrest⟩
          -- The reader keeps the cells in reverse, so a later cell comes before this one.
          have hwhole := (leads_cell htext c cells row column hcell).append hrest
          rw [← List.append_assoc, ← List.reverse_append, ← found_append] at hwhole
          exact ⟨column', hwhole⟩

theorem rowIndex?_eq (r : RowElement) {row : Nat}
    (hcounted : r.number?.getD row + 1 < Number.wordBound) : rowIndex? r.tag = r.number? := by
  rw [rowIndex?, r.numbers]
  cases hnumber : r.number? with
  | none => rfl
  | some n =>
      rw [hnumber] at hcounted
      rw [Option.map_some, Option.bind_some, Nat.toString_eq_repr, Nat.toList_repr,
        Number.readNatural?_toDigits (n := n + 1) hcounted]
      rfl

/-- The cells of a row are added, and the next row stands below it. -/
theorem leads_row (sheet : String) (htext : AreRead shared text) (r : RowElement)
    (cells : List Cell) (row column : Nat)
    (hcounted : r.number?.getD row + 1 < Number.wordBound)
    (hcells : ∀ c ∈ CellElement.placed (r.number?.getD row) 0 r.cells, c.1.IsCounted) :
    ∃ column', Leads (next sheet shared) (between cells row column) r.events
      (between ((found text
        (CellElement.placed (r.number?.getD row) 0 r.cells)).reverse ++ cells)
        (r.number?.getD row + 1) column') := by
  have hindex := rowIndex?_eq r hcounted
  have hnext := successor_eq hcounted
  rw [RowElement.events]
  rw [RowElement.cells] at hcells ⊢
  cases hbody : r.cells? with
  | none =>
      refine ⟨0, .single ?_⟩
      simp only [next, passedEmpty, r.called, if_true, hindex, Traced.outcome_ofExcept]
      change (successor (r.number?.getD row) >>= fun row => _) = _
      rw [hnext]
      rfl
  | some entries =>
      rw [hbody] at hcells
      rcases leads_cells sheet htext entries cells (r.number?.getD row) 0 hcells with
        ⟨column', hentries⟩
      have hopening : (next sheet shared (between cells row column)
          (.opening r.tag)).outcome = .ok (between cells (r.number?.getD row) 0) := by
        rw [next, Traced.outcome_ofExcept, opened, if_pos r.called, hindex]
        rfl
      have hclosing : ∀ cells, (next sheet shared
          (between cells (r.number?.getD row) column') (.closing r.tag.name)).outcome =
            .ok (between cells (r.number?.getD row + 1) column') := by
        intro cells
        have hlocal : Xml.Tag.withoutPrefix r.tag.name = Xml.Source.ofString "row" :=
          Xml.Tag.isCalled_iff.1 r.called
        have hnames : Xml.Source.ofString "row" ≠ Xml.Source.ofString "v" ∧
            Xml.Source.ofString "row" ≠ Xml.Source.ofString "t" ∧
            Xml.Source.ofString "row" ≠ Xml.Source.ofString "c" := by decide
        rw [next, hlocal, closed, if_neg hnames.1, if_neg hnames.2.1, if_neg hnames.2.2,
          if_pos rfl, Traced.outcome_bind, Traced.outcome_ofExcept]
        change (successor (r.number?.getD row) >>= fun row => _) = _
        rw [hnext]
        rfl
      exact ⟨column', .cons hopening (hentries.append (.single (hclosing _)))⟩

/-- The cells of a worksheet are added where they stand. -/
theorem leads_rows (sheet : String) (htext : AreRead shared text)
    (entries : List (Entry RowElement)) (cells : List Cell) (row column : Nat)
    (hrows : ∀ r ∈ RowElement.numbered row (Entry.elements entries),
      r.1 + 1 < Number.wordBound)
    (hcells : ∀ c ∈ Listing.cellsOf (RowElement.numbered row (Entry.elements entries)),
      c.1.IsCounted) :
    ∃ row' column', Leads (next sheet shared) (between cells row column)
      (Entry.events RowElement.events entries)
      (between ((found text (Listing.cellsOf
        (RowElement.numbered row (Entry.elements entries)))).reverse ++ cells) row' column') := by
  induction entries generalizing cells row column with
  | nil => exact ⟨row, column, .nil⟩
  | cons entry rest ih =>
      cases entry with
      | aside e silent =>
          rcases ih cells row column hrows hcells with ⟨row', column', hrest⟩
          exact ⟨row', column', .cons (next_aside ⟨rfl, rfl⟩ silent) hrest⟩
      | element r =>
          rcases List.forall_mem_cons.1 hrows with ⟨hrow, hlaterRows⟩
          rcases List.forall_mem_append.1 hcells with ⟨hcell, hlaterCells⟩
          rcases leads_row sheet htext r cells row column hrow hcell with
            ⟨column', hfirst⟩
          rcases ih _ _ column' hlaterRows hlaterCells with ⟨row', column'', hrest⟩
          have hwhole := hfirst.append hrest
          rw [← List.append_assoc, ← List.reverse_append, ← found_append] at hwhole
          exact ⟨row', column'', hwhole⟩

end WorksheetState

namespace Listing

variable {a : Archive} {path : String} {part : Xml.Source} {w : Listing}

/-- A worksheet is read as the grid of its cells. -/
theorem outcome_readWorksheet {text : CellElement → String} (hpart : a.get? path = some part)
    (hevents : Xml.Events.ofSource part = ⟨w.events, true⟩) (hcounted : w.IsCounted)
    (htext : AreRead shared text) :
    (readWorksheet a shared sheet path).outcome = .ok (gridOf (found text w.cells)) := by
  have hleads : ∃ row column, Leads (WorksheetState.next sheet shared) .start w.events
      (.between (found text w.cells).reverse row column) := by
    have hrows := WorksheetState.leads_rows sheet htext w [] 0 0 hcounted.rows
      hcounted.cells
    rwa [List.append_nil] at hrows
  rcases hleads with ⟨row, column, hleads⟩
  -- There are as many rows as the last one has before and with it, and that is counted.
  have hrows : rowCount (found text w.cells).reverse < Number.wordBound := by
    by_cases hzero : rowCount (found text w.cells).reverse = 0
    · rw [hzero]
      decide
    · rcases exists_rowCount hzero with ⟨c, hc, hcount⟩
      rcases List.mem_map.1 (List.mem_filter.1 (List.mem_reverse.1 hc)).1 with ⟨place, hplace, rfl⟩
      rw [hcount]
      exact (hcounted.cells place hplace).row
  rw [readWorksheet, Archive.require, hpart, Traced.outcome_bind, Traced.outcome_ofExcept]
  change ((readPart (WorksheetState.next sheet shared) .start part) >>= fun s => _).outcome = _
  rw [Traced.outcome_bind, outcome_readPart hevents hleads]
  change (if rowCount (found text w.cells).reverse < Number.wordBound then
    (return gridOf (found text w.cells).reverse.reverse) else _ :
      Traced ReadError Grid).outcome = _
  rw [if_pos hrows, List.reverse_reverse]
  rfl

/-- A worksheet has a grid, no larger than it has to be, and where all cells at a position
    that show something show the same text it is the text of the grid there. -/
theorem exists_grid (sheet : String) (shared : List String) (hpart : a.get? path = some part)
    (hevents : Xml.Events.ofSource part = ⟨w.events, true⟩) (hcounted : w.IsCounted) :
    ∃ g, (readWorksheet a shared sheet path).outcome = .ok g ∧
      (∀ p text, (∀ c ∈ w.cells, c.1 = p → c.2.Shows shared text ∨ c.2.Shows shared "") →
        (text ≠ "" → ∃ c ∈ w.cells, c.1 = p ∧ c.2.Shows shared text) →
          g.cell p.row p.column = text) ∧
      (∀ row ∈ g, row.getLast? ≠ some "") ∧ g.getLast? ≠ some [] := by
  rcases exists_areRead shared with ⟨read, hread⟩
  have hshown : ∀ c text, CellElement.Shows shared c text → read c = text := by
    intro c text hshows
    have houtcome := hshows.outcome_cellText ⟨0, 0⟩
    rw [hread] at houtcome
    exact Except.ok.inj houtcome
  have hfilled : ∀ c ∈ found read w.cells, c.text ≠ "" := by
    intro c hc hempty
    have hkept := (List.mem_filter.1 hc).2
    rw [hempty] at hkept
    cases hkept
  refine ⟨_, outcome_readWorksheet hpart hevents hcounted hread, ?_,
    getLast?_of_mem_gridOf hfilled, getLast?_gridOf _⟩
  intro p text hall hsome
  rw [cell_gridOf]
  refine textOfLast_eq ?_ ?_
  · intro c hc hposition
    have hnonempty := hfilled c hc
    rcases List.mem_map.1 (List.mem_filter.1 hc).1 with ⟨place, hmem, rfl⟩
    -- A cell that shows nothing is not found.
    rcases hall place hmem hposition with hshows | hblank
    · exact hshown place.2 text hshows
    · exact absurd (hshown place.2 "" hblank) hnonempty
  · intro hne
    rcases hsome hne with ⟨place, hmem, hposition, hshows⟩
    refine ⟨⟨place.1, read place.2⟩, List.mem_filter.2 ⟨List.mem_map.2 ⟨place, hmem, rfl⟩, ?_⟩,
      hposition⟩
    rw [hshown place.2 text hshows, Bool.not_eq_true', ← Bool.not_eq_true, String.isEmpty_iff]
    exact hne

/-- The texts that a worksheet lists, in whatever order and with or without references,
    are the texts of its grid. Cells that show nothing may stand everywhere, also where
    another cell shows a text. There is no other text, no row ends with an empty text, and
    the last row is not empty. -/
theorem grid_of_shows {texts : CellPosition → String} (hpart : a.get? path = some part)
    (hevents : Xml.Events.ofSource part = ⟨w.events, true⟩) (hcounted : w.IsCounted)
    (hshows : ∀ c ∈ w.cells, c.2.Shows shared (texts c.1) ∨ c.2.Shows shared "")
    (hall : ∀ p, texts p ≠ "" → ∃ c ∈ w.cells, c.1 = p ∧ c.2.Shows shared (texts p)) :
    ∃ g, (readWorksheet a shared sheet path).outcome = .ok g ∧
      (∀ row column, g.cell row column = texts ⟨row, column⟩) ∧
      (∀ row ∈ g, row.getLast? ≠ some "") ∧ g.getLast? ≠ some [] := by
  rcases exists_grid sheet shared hpart hevents hcounted with
    ⟨g, hg, hcell, htight⟩
  refine ⟨g, hg, ?_, htight⟩
  intro row column
  refine hcell ⟨row, column⟩ _ ?_ (hall ⟨row, column⟩)
  intro c hc hposition
  rw [← hposition]
  exact hshows c hc

/-- A text in one piece, between tags without attributes. -/
def plainText (name : String) (called : (Xml.Tag.mk (.ofString name) []).isCalled name = true)
    (text : Xml.Source) (cs : List Char) (resolved : Xml.resolve text = some cs) :
    TextElement name where
  tag := ⟨.ofString name, []⟩
  called := called
  pieces := [(text, cs)]
  resolved := by
    intro p hp
    rw [List.mem_singleton.1 hp]
    exact resolved

/-- A text of a string, in one piece. -/
def plainString (text : Xml.Source) (cs : List Char) (resolved : Xml.resolve text = some cs) :
    TextElement "t" :=
  plainText "t" rfl text cs resolved

/-- A cell that holds a string, at a position or behind the cell before it. -/
def stringCell (reference? : Option CellPosition) (attributes : List (Xml.Source × Xml.Source))
    (refers : (Xml.Tag.mk (.ofString "c") attributes).attribute? "r" =
      reference?.map CellPosition.reference) (item : List (Entry ItemPart)) : CellElement where
  tag := ⟨.ofString "c", attributes⟩
  called := rfl
  reference? := reference?
  refers := refers
  content? := some [.element (.inline ⟨.ofString "is", []⟩ rfl item)]

/-- A cell that holds a string, without a reference. -/
def nextCell (item : List (Entry ItemPart)) : CellElement :=
  stringCell none [(.ofString "t", .ofString "inlineStr")] rfl item

/-- A row without a number. -/
def nextRow (cells? : Option (List (Entry CellElement))) : RowElement where
  tag := ⟨.ofString "row", []⟩
  called := rfl
  number? := none
  numbers := rfl
  cells? := cells?

/-- A cell that holds nothing, at a position or behind the cell before it. -/
def emptyCell (reference? : Option CellPosition) (attributes : List (Xml.Source × Xml.Source))
    (refers : (Xml.Tag.mk (.ofString "c") attributes).attribute? "r" =
      reference?.map CellPosition.reference) : CellElement where
  tag := ⟨.ofString "c", attributes⟩
  called := rfl
  reference? := reference?
  refers := refers
  content? := none

/-- The markup of a worksheet with cells in the second row, and with cells of the first and
    the second row that are written in the fourth. The last one holds nothing and stands
    where there is a text. -/
def mixedPart : Xml.Source :=
  .ofString ("<row r=\"2\"><c r=\"C2\" t=\"inlineStr\"><is><t>_x0041_&amp;</t></is></c><c/>" ++
    "<c t=\"inlineStr\"><is><t>b</t></is></c></row><row/>" ++
    "<row><c r=\"B1\" t=\"inlineStr\"><is><t>c</t></is></c><c r=\"E2\"/></row>")

/-- The cell with a reference, in the second row. -/
def cellC2 : CellElement :=
  stringCell (some ⟨1, 2⟩)
    [(.ofString "r", .ofString "C2"), (.ofString "t", .ofString "inlineStr")] (by decide +kernel)
    [.element (.text (plainString (.ofString "_x0041_&amp;") "_x0041_&".toList
      (by decide +kernel)))]

/-- The empty cell behind it. -/
def cellD2 : CellElement :=
  emptyCell none [] rfl

/-- The cell behind the empty one. -/
def cellE2 : CellElement :=
  nextCell [.element (.text (plainString (.ofString "b") ['b'] (by decide +kernel)))]

/-- The cell of the first row. -/
def cellB1 : CellElement :=
  stringCell (some ⟨0, 1⟩)
    [(.ofString "r", .ofString "B1"), (.ofString "t", .ofString "inlineStr")] (by decide +kernel)
    [.element (.text (plainString (.ofString "c") ['c'] (by decide +kernel)))]

/-- The cell that holds nothing where there is a text. -/
def emptyE2 : CellElement :=
  emptyCell (some ⟨1, 4⟩) [(.ofString "r", .ofString "E2")] (by decide +kernel)

/-- The worksheet as a listing. -/
def mixed : Listing :=
  [.element
    { tag := ⟨.ofString "row", [(.ofString "r", .ofString "2")]⟩, called := rfl,
      number? := some 1, numbers := by decide +kernel,
      cells? := some [.element cellC2, .element cellD2, .element cellE2] },
    .element (nextRow none), .element (nextRow (some [.element cellB1, .element emptyE2]))]

/-- The texts that the worksheet lists. -/
def mixedTexts (p : CellPosition) : String :=
  if p = ⟨1, 2⟩ then "A&" else if p = ⟨1, 4⟩ then "b" else if p = ⟨0, 1⟩ then "c" else ""

theorem grid_of_shows_mixed :
    ∃ g, (readWorksheet (.ofList [("1.xml", mixedPart)]) [] "survey" "1.xml").outcome = .ok g ∧
      (∀ row column, g.cell row column = mixedTexts ⟨row, column⟩) ∧
      (∀ row ∈ g, row.getLast? ≠ some "") ∧ g.getLast? ≠ some [] := by
  have hrows : mixed.rows.map Prod.fst = [1, 2, 3] := rfl
  have hcells : mixed.cells =
      [(⟨1, 2⟩, cellC2), (⟨1, 3⟩, cellD2), (⟨1, 4⟩, cellE2), (⟨0, 1⟩, cellB1),
        (⟨1, 4⟩, emptyE2)] := rfl
  have hC2 : cellC2.Shows [] "A&" :=
    .inline (by decide +kernel) (escapedAs_iff.2 (by decide))
  have hE2 : cellE2.Shows [] "b" :=
    .inline (by decide +kernel) (escapedAs_iff.2 (by decide))
  have hB1 : cellB1.Shows [] "c" :=
    .inline (by decide +kernel) (escapedAs_iff.2 (by decide))
  refine grid_of_shows (w := mixed) rfl (by decide +kernel) ⟨?_, ?_⟩ ?_ ?_
  · have hall : ∀ n ∈ [1, 2, 3], n + 1 < Number.wordBound := by decide
    intro r hr
    exact hall r.1 (hrows ▸ List.mem_map_of_mem hr)
  · rw [hcells]
    have hcounted : ∀ row < 2, ∀ column < 5, (CellPosition.mk row column).IsCounted := by
      intro row hrow column hcolumn
      exact ⟨Nat.lt_of_lt_of_le (Nat.succ_lt_succ hrow) (by decide),
        Nat.lt_of_lt_of_le (Nat.succ_lt_succ hcolumn) (by decide)⟩
    simp only [List.forall_mem_cons]
    exact ⟨hcounted 1 (by decide) 2 (by decide), hcounted 1 (by decide) 3 (by decide),
      hcounted 1 (by decide) 4 (by decide), hcounted 0 (by decide) 1 (by decide),
      hcounted 1 (by decide) 4 (by decide), List.forall_mem_nil _⟩
  · rw [hcells]
    simp only [List.forall_mem_cons]
    exact ⟨.inl hC2, .inr (.blank rfl), .inl hE2, .inl hB1, .inr (.blank rfl),
      List.forall_mem_nil _⟩
  · intro p hne
    rw [hcells]
    unfold mixedTexts at hne
    split at hne
    case isTrue h =>
      subst h
      exact ⟨(⟨1, 2⟩, cellC2), by simp, rfl, hC2⟩
    case isFalse =>
      split at hne
      case isTrue h =>
        subst h
        exact ⟨(⟨1, 4⟩, cellE2), by simp, rfl, hE2⟩
      case isFalse =>
        split at hne
        case isTrue h =>
          subst h
          exact ⟨(⟨0, 1⟩, cellB1), by simp, rfl, hB1⟩
        case isFalse => exact absurd rfl hne

end Listing

end Spreadsheet

end Questionnaire
