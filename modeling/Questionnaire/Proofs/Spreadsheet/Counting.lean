import Questionnaire.Proofs.Spreadsheet.Reading
import Questionnaire.Proofs.Spreadsheet.Spellings

/-!
# Counting in Worksheets

Rows without a number and cells without a reference are counted, from where the row or
the cell before them stands. The reader counts with numbers of 64 bits. Here the same is
counted with numbers that have no end, by the tags alone: `Counters` knows nothing of
texts, of types and of what is kept. The reader counts along as long as the numbers fit,
and it goes past the last number exactly where these counters do, `Moves`.

A number or a reference in a tag is never the last number itself, for both are counted
from one and stand for the one before. But what comes behind one may be counted past it:
a row with the largest number leaves room for one row behind it and no more. So the
numbers do not always fit, and `readWorksheet_counting` says when they do not. Whatever
is given in tags has to be so large that the elements behind it make up the difference;
a worksheet whose positions leave room for its elements is safe.

Behind the last event there is one more number to be found, that of the rows. The grid
has a row for every row up to the last cell that is kept, and the number of them is
again one more than a row. There is no such thing for the columns, because the column
behind a cell is counted when the cell ends.

## Main definitions

* `Counters`: Where a reader stands, in numbers without end.
* `Counters.after`: The counters after some events.
* `Counters.Within`: Counters whose numbers are below a bound.
* `WorksheetState.Moves`: How an event may end.
* `Overruns`: The ways in which counting goes past the last number.

## Theorems

* `WorksheetState.moves_next`: What an event does to the counters of the reader.
* `WorksheetState.Within.of_leads`: The reader counts along.
* `WorksheetState.foldlM_eq_overflow_iff`: The reader overruns where the counters do.
* `not_overruns_of_room`: Counting does not overrun where there is room.
* `readWorksheet_counting`: When a worksheet is counted past the last number.
* `rows_behind_the_last`: A worksheet that is.
-/

namespace Questionnaire

namespace Spreadsheet

/-- Where a row without a number and a cell without a reference stand, and where the open
    cell does, if one is open. The numbers have no end. -/
structure Counters where
  row : Nat
  column : Nat
  cell : Option CellPosition

namespace Counters

variable {c : Counters} {n : Nat} {tag : Xml.Tag}

/-- Nothing has been counted. -/
def start : Counters :=
  ⟨0, 0, none⟩

/-- The position of the cell that a tag begins. -/
def position? (c : Counters) (tag : Xml.Tag) : Option CellPosition :=
  match tag.attribute? "r" with
  | none => some ⟨c.row, c.column⟩
  | some reference => CellPosition.ofReference? reference.toList

/-- The counters after an event. -/
def next (c : Counters) : Xml.Event → Counters
  | .opening tag =>
    if tag.isCalled "row" then { c with row := (rowIndex? tag).getD c.row, column := 0 }
    else if tag.isCalled "c" then { c with cell := (c.position? tag).or c.cell }
    else c
  | .empty tag =>
    if tag.isCalled "row" then { c with row := (rowIndex? tag).getD c.row + 1, column := 0 }
    else if tag.isCalled "c" then
      { c with column := (c.position? tag).elim c.column (·.column + 1) }
    else c
  | .text _ => c
  | .closing name =>
    if Xml.Tag.withoutPrefix name = Xml.Source.ofString "c" then
      { c with column := c.cell.elim c.column (·.column + 1), cell := none }
    else if Xml.Tag.withoutPrefix name = Xml.Source.ofString "row" then
      { c with row := c.row + 1 }
    else c

/-- The counters after some events. -/
def after (events : List Xml.Event) : Counters :=
  events.foldl next start

/-! The counters after an event, by what it is about. -/

section Next

variable {name : Xml.Source}

theorem next_openRow (h : tag.isCalled "row" = true) :
    c.next (.opening tag) = ⟨(rowIndex? tag).getD c.row, 0, c.cell⟩ := by
  rw [next, if_pos h]

theorem next_openCell (hrow : ¬tag.isCalled "row" = true) (h : tag.isCalled "c" = true) :
    c.next (.opening tag) = ⟨c.row, c.column, (c.position? tag).or c.cell⟩ := by
  rw [next, if_neg hrow, if_pos h]

theorem next_openOther (hrow : ¬tag.isCalled "row" = true) (h : ¬tag.isCalled "c" = true) :
    c.next (.opening tag) = c := by
  rw [next, if_neg hrow, if_neg h]

theorem next_emptyRow (h : tag.isCalled "row" = true) :
    c.next (.empty tag) = ⟨(rowIndex? tag).getD c.row + 1, 0, c.cell⟩ := by
  rw [next, if_pos h]

theorem next_emptyCell (hrow : ¬tag.isCalled "row" = true) (h : tag.isCalled "c" = true) :
    c.next (.empty tag) = ⟨c.row, (c.position? tag).elim c.column (·.column + 1), c.cell⟩ := by
  rw [next, if_neg hrow, if_pos h]

theorem next_emptyOther (hrow : ¬tag.isCalled "row" = true) (h : ¬tag.isCalled "c" = true) :
    c.next (.empty tag) = c := by
  rw [next, if_neg hrow, if_neg h]

theorem next_closeCell (h : Xml.Tag.withoutPrefix name = Xml.Source.ofString "c") :
    c.next (.closing name) = ⟨c.row, c.cell.elim c.column (·.column + 1), none⟩ := by
  rw [next, if_pos h]

theorem next_closeRow (h : Xml.Tag.withoutPrefix name = Xml.Source.ofString "row") :
    c.next (.closing name) = ⟨c.row + 1, c.column, c.cell⟩ := by
  rw [next, h, if_neg (by decide), if_pos rfl]

theorem next_closeOther (hcell : Xml.Tag.withoutPrefix name ≠ Xml.Source.ofString "c")
    (hrow : Xml.Tag.withoutPrefix name ≠ Xml.Source.ofString "row") :
    c.next (.closing name) = c := by
  rw [next, if_neg hcell, if_neg hrow]

end Next

/-! ### Counters below a bound -/

/-- The positions that a tag gives are below a bound. -/
structure Gives (n : Nat) (tag : Xml.Tag) : Prop where
  row : ∀ row ∈ rowIndex? tag, row < n
  cell : ∀ reference ∈ tag.attribute? "r", ∀ p ∈ CellPosition.ofReference? reference.toList,
    p.row < n ∧ p.column < n

instance : Decidable (Gives n tag) :=
  decidable_of_iff
    ((∀ row ∈ rowIndex? tag, row < n) ∧
      ∀ reference ∈ tag.attribute? "r", ∀ p ∈ CellPosition.ofReference? reference.toList,
        p.row < n ∧ p.column < n)
    ⟨fun h => ⟨h.1, h.2⟩, fun h => ⟨h.row, h.cell⟩⟩

/-- The positions that an event gives are below a bound. -/
def EventGives (n : Nat) : Xml.Event → Prop
  | .opening tag | .empty tag => Gives n tag
  | .closing _ | .text _ => True

instance : DecidablePred (EventGives n)
  | .opening tag | .empty tag => inferInstanceAs (Decidable (Gives n tag))
  | .closing _ | .text _ => inferInstanceAs (Decidable True)

theorem Gives.mono (h : Gives n tag) {m : Nat} (hle : n ≤ m) : Gives m tag where
  row row hrow := Nat.lt_of_lt_of_le (h.row row hrow) hle
  cell reference hreference p hp :=
    have hlt := h.cell reference hreference p hp
    ⟨Nat.lt_of_lt_of_le hlt.1 hle, Nat.lt_of_lt_of_le hlt.2 hle⟩

theorem EventGives.mono {e : Xml.Event} (h : EventGives n e) {m : Nat} (hle : n ≤ m) :
    EventGives m e := by
  cases e with
  | opening tag => exact Gives.mono h hle
  | empty tag => exact Gives.mono h hle
  | closing name => trivial
  | text content => trivial

/-- No tag gives the last number of 64 bits or one past it. -/
theorem gives_wordBound (tag : Xml.Tag) : Gives Number.wordBound tag where
  row row h := by
    have hone : 1 < Number.wordBound := by decide
    obtain ⟨r, -, hr⟩ := Option.bind_eq_some_iff.1 h
    obtain ⟨m, hm, rfl⟩ := Option.map_eq_some_iff.1 hr
    have hlt := of_decide_eq_true (Option.filter_eq_some_iff.1 hm).2
    omega
  cell reference _ p h := by
    have hcounted := (CellPosition.isSpelled_of_ofReference? h).1
    exact ⟨Nat.lt_of_succ_lt hcounted.row, Nat.lt_of_succ_lt hcounted.column⟩

/-- The numbers of the counters are below a bound. -/
structure Within (c : Counters) (n : Nat) : Prop where
  row : c.row < n
  column : c.column < n
  cell : ∀ p ∈ c.cell, p.row < n ∧ p.column < n

theorem within_start (h : 0 < n) : start.Within n :=
  ⟨h, h, fun p hp => by cases hp⟩

namespace Within

variable {e : Xml.Event}

theorem mono (h : c.Within n) {m : Nat} (hle : n ≤ m) : c.Within m :=
  ⟨Nat.lt_of_lt_of_le h.row hle, Nat.lt_of_lt_of_le h.column hle, fun p hp =>
    ⟨Nat.lt_of_lt_of_le (h.cell p hp).1 hle, Nat.lt_of_lt_of_le (h.cell p hp).2 hle⟩⟩

theorem rowIndex (h : c.Within n) (hgives : Gives n tag) : (rowIndex? tag).getD c.row < n := by
  rcases hrow : rowIndex? tag with _ | row
  case none => exact h.row
  case some => exact hgives.row row hrow

theorem position (h : c.Within n) (hgives : Gives n tag) :
    ∀ p ∈ c.position? tag, p.row < n ∧ p.column < n := by
  intro p hp
  rw [position?] at hp
  split at hp
  case h_1 =>
    cases hp
    exact ⟨h.row, h.column⟩
  case h_2 reference hreference => exact hgives.cell reference hreference p hp

/-- An opening tag goes to a position and counts nothing. -/
theorem next_opening (h : c.Within n) (hgives : Gives n tag) :
    (c.next (.opening tag)).Within n := by
  by_cases hrow : tag.isCalled "row" = true
  · rw [next_openRow hrow]
    exact ⟨h.rowIndex hgives, Nat.zero_lt_of_lt h.row, h.cell⟩
  by_cases hcell : tag.isCalled "c" = true
  · rw [next_openCell hrow hcell]
    refine ⟨h.row, h.column, fun p hp => ?_⟩
    rcases hposition : c.position? tag with _ | q
    · rw [hposition] at hp
      exact h.cell p hp
    · rw [hposition] at hp
      obtain rfl : q = p := Option.some.inj hp
      exact h.position hgives q hposition
  · rwa [next_openOther hrow hcell]

/-- An event counts one further at most. -/
theorem next (h : c.Within n) (hgives : EventGives n e) : (c.next e).Within (n + 1) := by
  have hone := h.mono (Nat.le_add_right n 1)
  cases e with
  | text content => exact hone
  | opening tag => exact (h.next_opening hgives).mono (Nat.le_add_right n 1)
  | empty tag =>
      by_cases hrow : tag.isCalled "row" = true
      · rw [next_emptyRow hrow]
        exact ⟨Nat.succ_lt_succ (h.rowIndex hgives), Nat.succ_pos n, hone.cell⟩
      by_cases hcell : tag.isCalled "c" = true
      · rw [next_emptyCell hrow hcell]
        refine ⟨hone.row, ?_, hone.cell⟩
        rcases hposition : c.position? tag with _ | p
        · exact hone.column
        · exact Nat.succ_lt_succ (h.position hgives p hposition).2
      · rwa [next_emptyOther hrow hcell]
  | closing name =>
      by_cases hcell : Xml.Tag.withoutPrefix name = Xml.Source.ofString "c"
      · rw [next_closeCell hcell]
        refine ⟨hone.row, ?_, fun p hp => by cases hp⟩
        rcases hopen : c.cell with _ | p
        · exact hone.column
        · exact Nat.succ_lt_succ (h.cell p hopen).2
      by_cases hrow : Xml.Tag.withoutPrefix name = Xml.Source.ofString "row"
      · rw [next_closeRow hrow]
        exact ⟨Nat.succ_lt_succ h.row, hone.column, hone.cell⟩
      · rwa [next_closeOther hcell hrow]

end Within

end Counters

namespace WorksheetState

open Counters (Gives EventGives gives_wordBound)

variable {sheet : String} {shared : List String} {s s' : WorksheetState} {e : Xml.Event}

/-- Where a reader stands. -/
def counters (s : WorksheetState) : Counters :=
  ⟨s.row, s.column, s.cell.map OpenCell.position⟩

/-! ### One event -/

/-- What an event makes of the cells that are kept. -/
inductive Keeps (s s' : WorksheetState) : Prop
  | same (h : s'.cells = s.cells)
  | one (p : CellPosition) (text : String) (isOpen : s.counters.cell = some p)
      (column : s'.column = p.column + 1) (h : s'.cells = ⟨p, text⟩ :: s.cells)

/-- How an event may end: with a reader that has counted as it should and whose numbers
    still fit, with a number that does not fit, or with an error of another kind. -/
inductive Moves (s : WorksheetState) (e : Xml.Event) : Except ReadError WorksheetState → Prop
  | on (s' : WorksheetState) (counted : s'.counters = s.counters.next e) (keeps : Keeps s s')
      (fits : s.counters.Within Number.wordBound → (s.counters.next e).Within Number.wordBound) :
      Moves s e (.ok s')
  | past (overrun : ¬(s.counters.next e).Within Number.wordBound) :
      Moves s e (.error .positionOverflow)
  | faulty (error : ReadError) (other : error ≠ .positionOverflow)
      (fits : s.counters.Within Number.wordBound → (s.counters.next e).Within Number.wordBound) :
      Moves s e (.error error)

/-- An event that is not counted. -/
theorem Moves.still (hnext : s.counters.next e = s.counters) (hcounters : s'.counters = s.counters)
    (hcells : s'.cells = s.cells) : Moves s e (.ok s') :=
  .on s' (hcounters.trans hnext.symm) (.same hcells) fun h => by rwa [hnext]

/-- An event that is counted by the number after another. -/
theorem Moves.count {n : Nat} {f : Nat → WorksheetState}
    (counted : (f (n + 1)).counters = s.counters.next e) (keeps : Keeps s (f (n + 1)))
    (fits : s.counters.Within Number.wordBound → n + 1 < Number.wordBound →
      (s.counters.next e).Within Number.wordBound)
    (overrun : (s.counters.next e).Within Number.wordBound → n + 1 < Number.wordBound) :
    Moves s e (successor n >>= fun m => .ok (f m)) := by
  rw [successor]
  split
  case isTrue hlt => exact .on _ counted keeps fun h => fits h hlt
  case isFalse hpast => exact .past (mt overrun hpast)

theorem openCell_eq_elim (tag : Xml.Tag) :
    s.openCell sheet tag =
      (s.counters.position? tag).elim
        (.error (.cellReference sheet ((tag.attribute? "r").getD "")))
        fun p => .ok ⟨p, tag.attribute? "t", []⟩ := by
  rw [openCell, Counters.position?]
  rcases tag.attribute? "r" with _ | reference
  case none => rfl
  case some =>
    dsimp only
    rcases CellPosition.ofReference? reference.toList with _ | p <;> rfl

theorem moves_opening (tag : Xml.Tag) : Moves s (.opening tag) (s.opened sheet tag) := by
  have hfits : s.counters.Within Number.wordBound →
      (s.counters.next (.opening tag)).Within Number.wordBound := fun h =>
    h.next_opening (gives_wordBound tag)
  rw [opened]
  split
  case isTrue hrow =>
    have hnext := Counters.next_openRow (c := s.counters) hrow
    exact .on _ hnext.symm (.same rfl) hfits
  case isFalse hrow =>
    split
    case isTrue hcell =>
      have hnext := Counters.next_openCell (c := s.counters) hrow hcell
      rw [openCell_eq_elim]
      rcases hposition : s.counters.position? tag with _ | p
      -- A reference that is none ends the reading, but not by a number.
      case none => exact .faulty _ (by rintro ⟨⟩) hfits
      case some =>
        rw [hposition] at hnext
        exact .on _ hnext.symm (.same rfl) hfits
    case isFalse hcell =>
      have hnext := Counters.next_openOther (c := s.counters) hrow hcell
      split
      · exact .still hnext rfl rfl
      · split
        · exact .still hnext rfl rfl
        · exact .still hnext rfl rfl

theorem moves_empty (tag : Xml.Tag) : Moves s (.empty tag) (s.passedEmpty sheet tag) := by
  rw [passedEmpty]
  split
  case isTrue hrow =>
    have hnext := Counters.next_emptyRow (c := s.counters) hrow
    refine .count hnext.symm (.same rfl) (fun h hlt => ?_) fun h => ?_
    · rw [hnext]
      exact ⟨hlt, Nat.zero_lt_of_lt h.row, h.cell⟩
    · rw [hnext] at h
      exact h.row
  case isFalse hrow =>
    split
    case isTrue hcell =>
      have hnext := Counters.next_emptyCell (c := s.counters) hrow hcell
      rw [openCell_eq_elim]
      rcases hposition : s.counters.position? tag with _ | p
      case none =>
        rw [hposition] at hnext
        exact .faulty _ (by rintro ⟨⟩) fun h => by rwa [hnext]
      case some =>
        rw [hposition] at hnext
        refine .count hnext.symm (.same rfl) (fun h hlt => ?_) fun h => ?_
        · rw [hnext]
          exact ⟨h.row, hlt, h.cell⟩
        · rw [hnext] at h
          exact h.column
    case isFalse hcell =>
      exact .still (Counters.next_emptyOther hrow hcell) rfl rfl

theorem moves_text (content : Xml.Source) : Moves s (.text content) (s.addText content) := by
  rw [addText]
  split
  case h_1 => exact .still rfl rfl rfl
  case h_2 cell hcell =>
    split
    case isTrue =>
      rw [resolveText]
      rcases Xml.resolve content with _ | cs
      case none => exact .faulty _ (by rintro ⟨⟩) id
      case some =>
        refine .still rfl ?_ rfl
        rw [counters, counters, hcell]
        rfl
    case isFalse => exact .still rfl rfl rfl

theorem moves_closeCell {name : Xml.Source}
    (h : Xml.Tag.withoutPrefix name = Xml.Source.ofString "c") :
    Moves s (.closing name) (s.closeCell shared).outcome := by
  have hnext := Counters.next_closeCell (c := s.counters) h
  rw [closeCell]
  split
  case h_1 hnone =>
    refine .still ?_ rfl rfl
    rw [hnext, counters, hnone]
    rfl
  case h_2 cell hcell =>
    obtain ⟨text, htext⟩ := exists_cellText shared cell.type cell.text
    have hopen : s.counters.cell = some cell.position := by
      rw [counters, hcell]
      rfl
    rw [hopen] at hnext
    simp only [Traced.outcome_bind, Traced.outcome_ofExcept, htext]
    -- The next column is counted whether the cell is kept or not.
    refine .count hnext.symm ?_ (fun h hlt => ?_) fun h => ?_
    · by_cases hempty : text.isEmpty = true
      · exact .same (if_pos hempty)
      · exact .one cell.position text hopen rfl (if_neg hempty)
    · rw [hnext]
      exact ⟨h.row, hlt, fun p hp => by cases hp⟩
    · rw [hnext] at h
      exact h.column

theorem moves_closing (name : Xml.Source) :
    Moves s (.closing name) (s.closed shared (Xml.Tag.withoutPrefix name)).outcome := by
  -- The ends of texts are told apart first, and they count nothing.
  have hnames : Xml.Source.ofString "v" ≠ Xml.Source.ofString "c" ∧
      Xml.Source.ofString "v" ≠ Xml.Source.ofString "row" ∧
      Xml.Source.ofString "t" ≠ Xml.Source.ofString "c" ∧
      Xml.Source.ofString "t" ≠ Xml.Source.ofString "row" := by decide
  rw [closed]
  split
  case isTrue hvalue =>
    exact .still (Counters.next_closeOther (hvalue ▸ hnames.1) (hvalue ▸ hnames.2.1)) rfl rfl
  case isFalse =>
    split
    case isTrue htext =>
      exact .still (Counters.next_closeOther (htext ▸ hnames.2.2.1) (htext ▸ hnames.2.2.2)) rfl rfl
    case isFalse =>
      split
      case isTrue hcell => exact moves_closeCell hcell
      case isFalse hcell =>
        split
        case isTrue hrow =>
          have hnext := Counters.next_closeRow (c := s.counters) hrow
          simp only [Traced.outcome_bind, Traced.outcome_ofExcept]
          refine .count hnext.symm (.same rfl) (fun h hlt => ?_) fun h => ?_
          · rw [hnext]
            exact ⟨hlt, h.column, h.cell⟩
          · rw [hnext] at h
            exact h.row
        case isFalse hrow => exact .still (Counters.next_closeOther hcell hrow) rfl rfl

/-- Every event ends in one of these ways. -/
theorem moves_next (sheet : String) (shared : List String) (s : WorksheetState) (e : Xml.Event) :
    Moves s e (next sheet shared s e).outcome := by
  cases e with
  | opening tag => exact moves_opening tag
  | empty tag => exact moves_empty tag
  | text content => exact moves_text content
  | closing name => exact moves_closing name

theorem next_eq_overflow_iff (h : s.counters.Within Number.wordBound) :
    (next sheet shared s e).outcome = .error .positionOverflow ↔
      ¬(s.counters.next e).Within Number.wordBound := by
  have hmoves := moves_next sheet shared s e
  revert hmoves
  generalize (next sheet shared s e).outcome = outcome
  rintro (⟨s', _, _, fits⟩ | ⟨overrun⟩ | ⟨error, other, fits⟩)
  · exact iff_of_false (by rintro ⟨⟩) (not_not_intro (fits h))
  · exact iff_of_true rfl overrun
  · exact iff_of_false (fun heq => other (Except.error.inj heq)) (not_not_intro (fits h))

theorem counters_of_next (h : (next sheet shared s e).outcome = .ok s') :
    s'.counters = s.counters.next e ∧ Keeps s s' ∧
      (s.counters.Within Number.wordBound → s'.counters.Within Number.wordBound) := by
  have hmoves := moves_next sheet shared s e
  rw [h] at hmoves
  cases hmoves with
  | on _ counted keeps fits => exact ⟨counted, keeps, fun h => counted ▸ fits h⟩

/-! ### A run of the reader -/

/-- The positions of a reader are below a bound, and so are the columns behind the cells that
    are kept. -/
structure Within (s : WorksheetState) (n : Nat) : Prop where
  counters : s.counters.Within n
  cells : ∀ c ∈ s.cells, c.position.row < n ∧ c.position.column + 1 < n

theorem within_start {n : Nat} (h : 0 < n) : start.Within n :=
  ⟨Counters.within_start h, List.forall_mem_nil _⟩

theorem Within.keeps {m n : Nat} (h : s.Within m) (hle : m ≤ n) (hkeeps : Keeps s s')
    (hcounters : s'.counters.Within n) : s'.Within n := by
  have hcells : ∀ c ∈ s.cells, c.position.row < n ∧ c.position.column + 1 < n := fun c hc =>
    ⟨Nat.lt_of_lt_of_le (h.cells c hc).1 hle, Nat.lt_of_lt_of_le (h.cells c hc).2 hle⟩
  refine ⟨hcounters, ?_⟩
  cases hkeeps with
  | same hsame =>
      rw [hsame]
      exact hcells
  | one p text isOpen column hone =>
      rw [hone, List.forall_mem_cons]
      -- The column behind the new cell is the one that the counters are at.
      have hrow := Nat.lt_of_lt_of_le (h.counters.cell p isOpen).1 hle
      exact ⟨⟨hrow, column ▸ hcounters.column⟩, hcells⟩

/-- The reader counts along, and its numbers fit. -/
theorem Within.of_leads {events : List Xml.Event} (h : s.Within Number.wordBound)
    (hleads : Leads (next sheet shared) s events s') :
    s'.counters = events.foldl Counters.next s.counters ∧ s'.Within Number.wordBound := by
  induction events generalizing s with
  | nil =>
      cases hleads
      exact ⟨rfl, h⟩
  | cons e rest ih =>
      obtain ⟨middle, hnext, hrest⟩ := leads_cons_iff.1 hleads
      obtain ⟨hcounters, hkeeps, hfits⟩ := counters_of_next hnext
      rw [List.foldl_cons, ← hcounters]
      exact ih (h.keeps (Nat.le_refl _) hkeeps (hfits h.counters)) hrest

/-- Every event counts one further at most, from numbers below a bound that the tags keep to. -/
theorem Within.of_leads_of_gives {bound n : Nat} {events : List Xml.Event} (h : s.Within n)
    (hbound : bound ≤ n) (hgives : ∀ e ∈ events, EventGives bound e)
    (hleads : Leads (next sheet shared) s events s') : s'.Within (n + events.length) := by
  -- The bound on the numbers grows with the events, the one on the tags stays.
  induction events generalizing s n with
  | nil =>
      cases hleads
      exact h
  | cons e rest ih =>
      rw [List.forall_mem_cons] at hgives
      obtain ⟨middle, hnext, hrest⟩ := leads_cons_iff.1 hleads
      obtain ⟨hcounters, hkeeps, -⟩ := counters_of_next hnext
      have hmiddle : middle.Within (n + 1) := by
        refine h.keeps (Nat.le_add_right n 1) hkeeps ?_
        rw [hcounters]
        exact h.counters.next (hgives.1.mono hbound)
      have hlast := ih hmiddle (Nat.le_succ_of_le hbound) hgives.2 hrest
      rwa [List.length_cons, Nat.add_comm rest.length, ← Nat.add_assoc]

/-- The reader goes past the last number where the counters do, if nothing else has ended
    the reading before. -/
theorem foldlM_eq_overflow_iff {events : List Xml.Event} (h : s.Within Number.wordBound) :
    (events.foldlM (next sheet shared) s).outcome = .error .positionOverflow ↔
      ∃ before e later s', events = before ++ e :: later ∧
        Leads (next sheet shared) s before s' ∧
          ¬((before ++ [e]).foldl Counters.next s.counters).Within Number.wordBound := by
  rw [foldlM_eq_error_iff]
  refine exists_congr fun before => exists_congr fun e => exists_congr fun later =>
    exists_congr fun s' => and_congr_right fun _ => and_congr_right fun hleads => ?_
  obtain ⟨hcounters, hwithin⟩ := h.of_leads hleads
  rw [next_eq_overflow_iff hwithin.counters, hcounters, List.foldl_append]
  rfl

end WorksheetState

/-! ### A worksheet -/

section Worksheet

variable {sheet : String} {shared : List String}

/-- The ways in which counting goes past the last number of 64 bits: at an event, if the
    events before it are read without an error, or at the row below a cell, if all events
    are read and the cell is kept. -/
inductive Overruns (sheet : String) (shared : List String) (events : Xml.Events) : Prop
  | at_event (before : List Xml.Event) (e : Xml.Event) (later : List Xml.Event)
      (s : WorksheetState) (split : events.events = before ++ e :: later)
      (leads : Leads (WorksheetState.next sheet shared) .start before s)
      (overrun : ¬(Counters.after (before ++ [e])).Within Number.wordBound)
  | below_cell (s : WorksheetState) (c : Cell) (complete : events.isWellFormed = true)
      (leads : Leads (WorksheetState.next sheet shared) .start events.events s)
      (kept : c ∈ s.cells) (overrun : ¬c.position.row + 1 < Number.wordBound)

theorem start_within_wordBound : WorksheetState.start.Within Number.wordBound :=
  WorksheetState.within_start (by decide)

/-- Cells have too many rows if and only if the row below one of them has too large a number. -/
theorem not_rowCount_lt_iff {cells : List Cell} :
    ¬rowCount cells < Number.wordBound ↔ ∃ c ∈ cells, ¬c.position.row + 1 < Number.wordBound := by
  constructor
  · intro hpast
    have hzero : rowCount cells ≠ 0 := by
      intro hzero
      rw [hzero] at hpast
      exact hpast (by decide)
    obtain ⟨c, hc, hcount⟩ := exists_rowCount hzero
    exact ⟨c, hc, hcount ▸ hpast⟩
  · rintro ⟨c, hc, hpast⟩ hlt
    exact hpast (Nat.lt_of_le_of_lt (lt_rowCount hc) hlt)

/-- A worksheet ends in a number that does not fit if and only if its counting overruns. -/
theorem readWorksheet_eq_overflow_iff {a : Archive} {path : String} {part : Xml.Source}
    (hpart : a.require path = .ok part) :
    (readWorksheet a shared sheet path).outcome = .error .positionOverflow ↔
      Overruns sheet shared (Xml.Events.ofSource part) := by
  rw [readWorksheet, Traced.outcome_bind, Traced.outcome_ofExcept, hpart]
  change ((readPart (WorksheetState.next sheet shared) .start part) >>= fun s => _).outcome = _ ↔ _
  rw [Traced.outcome_bind, bind_eq_error, outcome_readPart_eq_error_iff (by rintro ⟨⟩),
    WorksheetState.foldlM_eq_overflow_iff start_within_wordBound]
  constructor
  · rintro (⟨before, e, later, s, hsplit, hleads, hoverrun⟩ | ⟨s, hread, hend⟩)
    · exact .at_event before e later s hsplit hleads hoverrun
    · obtain ⟨hleads, hwhole⟩ := outcome_readPart_eq_ok_iff.1 hread
      split at hend
      case isTrue => cases hend
      case isFalse hrows =>
        obtain ⟨c, hc, hpast⟩ := not_rowCount_lt_iff.1 hrows
        exact .below_cell s c hwhole hleads hc hpast
  · rintro (⟨before, e, later, s, hsplit, hleads, hoverrun⟩ | ⟨s, c, hwhole, hleads, hc, hpast⟩)
    · exact .inl ⟨before, e, later, s, hsplit, hleads, hoverrun⟩
    · refine .inr ⟨s, outcome_readPart_eq_ok_iff.2 ⟨hleads, hwhole⟩, ?_⟩
      rw [if_neg (not_rowCount_lt_iff.2 ⟨c, hc, hpast⟩)]
      rfl

/-- Counting does not overrun where the positions in the tags leave room for the events. -/
theorem not_overruns_of_room {events : Xml.Events} {bound : Nat} (hpos : 0 < bound)
    (hgives : ∀ e ∈ events.events, Counters.EventGives bound e)
    (hroom : bound + events.events.length < Number.wordBound) : ¬Overruns sheet shared events := by
  have hstart : WorksheetState.start.Within bound := WorksheetState.within_start hpos
  rintro (⟨before, e, later, s, hsplit, hleads, hoverrun⟩ | ⟨s, c, -, hleads, hc, hpast⟩)
  · rw [hsplit] at hgives hroom
    rw [List.forall_mem_append, List.forall_mem_cons] at hgives
    rw [List.length_append, List.length_cons] at hroom
    have hs := hstart.of_leads_of_gives (Nat.le_refl bound) hgives.1 hleads
    have hcounters := (start_within_wordBound.of_leads hleads).1
    refine hoverrun ?_
    rw [Counters.after, List.foldl_append]
    change (Counters.next (before.foldl Counters.next WorksheetState.start.counters) e).Within _
    rw [← hcounters]
    have hnext := hs.counters.next (hgives.2.1.mono (Nat.le_add_right bound before.length))
    exact hnext.mono (by omega)
  · have hs := hstart.of_leads_of_gives (Nat.le_refl bound) hgives hleads
    exact hpast (Nat.lt_of_le_of_lt (hs.cells c hc).1 hroom)

/-- A worksheet ends in a number past the last one of 64 bits if and only if its rows or its
    cells are counted past it, or the row below a cell is past it. As long as the reader goes
    on, its numbers are the counted ones and they fit. They fit to the end if the positions in
    the tags leave room for the events. -/
theorem readWorksheet_counting {a : Archive} {path : String} {part : Xml.Source}
    (sheet : String) (shared : List String) (hpart : a.require path = .ok part) :
    ((readWorksheet a shared sheet path).outcome = .error .positionOverflow ↔
      Overruns sheet shared (Xml.Events.ofSource part)) ∧
    (∀ before later s, (Xml.Events.ofSource part).events = before ++ later →
      Leads (WorksheetState.next sheet shared) .start before s →
        s.counters = Counters.after before ∧ s.Within Number.wordBound) ∧
    ∀ bound, 0 < bound →
      (∀ e ∈ (Xml.Events.ofSource part).events, Counters.EventGives bound e) →
      bound + (Xml.Events.ofSource part).events.length < Number.wordBound →
        (readWorksheet a shared sheet path).outcome ≠ .error .positionOverflow := by
  refine ⟨readWorksheet_eq_overflow_iff hpart, ?_, ?_⟩
  · intro before _ s _ hleads
    exact start_within_wordBound.of_leads hleads
  · intro bound hpos hgives hroom hpast
    exact not_overruns_of_room hpos hgives hroom ((readWorksheet_eq_overflow_iff hpart).1 hpast)

/-- A worksheet whose rows leave room for what is behind them. -/
def roomyPart : Xml.Source :=
  .ofString "<row r=\"9\"/><row><c r=\"C8\"><v>1</v></c><c/></row>"

theorem readWorksheet_counting_roomy :
    (readWorksheet (.ofList [("1.xml", roomyPart)]) [] "survey" "1.xml").outcome ≠
      .error .positionOverflow := by
  have hpart : Archive.require (.ofList [("1.xml", roomyPart)]) "1.xml" = .ok roomyPart := rfl
  obtain ⟨-, -, hroom⟩ := readWorksheet_counting "survey" [] hpart
  exact hroom 9 (by decide) (by decide +kernel) (by decide +kernel)

/-- Behind the row with the largest number, there is no number left for another one. -/
theorem rows_behind_the_last :
    (readWorksheet (.ofList [("1.xml", .ofString "<row r=\"18446744073709551615\"/><row/>")]) []
      "survey" "1.xml").outcome = .error .positionOverflow :=
  eq_error_of_decide (by decide +kernel)

end Worksheet

end Spreadsheet

end Questionnaire
