import Questionnaire.Proofs.Spreadsheet.Walk

/-!
# The Content of Strings

A string of a spreadsheet is made of text elements. They stand by themselves or in
runs that give them a look, and they may stand in phonetic runs, which tell how
the rest is pronounced. The same content is found in two places: inside a cell,
and as an item of the table of shared texts. Each place has a reader of its own,
with flags of its own, and what they make of one content can be compared only if
the content is described apart from both.

So an item is a list of parts, and two texts are read off it: all that is written
in it, and what is written outside of phonetic runs. The reader of a cell finds
the first and the reader of the table finds the second.

Both readers gather characters, in whatever they keep of a text, and that is all
that counts for how their steps are put together. A `Gatherer` is a reader in the
states where it does so. The open text of a cell and the cell around it are two of
them, and a phonetic run is one for the reader of the table, which gathers there
and keeps nothing.

## Main definitions

* `TextElement`: A text between its tags, in the pieces that it is read in.
* `ItemPart`: What a string is made of.
* `writtenIn`, `plainIn`: All texts of a string, and those outside of phonetic runs.
* `Gatherer`, `Gatherer.Gathers`: A reader that gathers characters from events.

## Theorems

* `Gatherer.gathers_entries`: Elements are gathered one after the other.
* `WorksheetState.gathers_item`: What is found in an open cell.
* `TextTableState.gathers_item`: What is found in an open item of the table.
-/

namespace Questionnaire

namespace Spreadsheet

/-- A text between its tags. Comments and the like divide it into pieces. -/
structure TextElement (name : String) where
  tag : Xml.Tag
  called : tag.isCalled name = true
  /-- The pieces as they are written, with the characters that they stand for. -/
  pieces : List (Xml.Source × List Char)
  resolved : ∀ p ∈ pieces, Xml.resolve p.1 = some p.2

namespace TextElement

variable {name : String}

/-- The events of the pieces of a text. -/
def pieceEvents (t : TextElement name) : List Xml.Event :=
  t.pieces.flatMap fun p => [.text p.1]

/-- The events of a text. -/
def events (t : TextElement name) : List Xml.Event :=
  .opening t.tag :: (t.pieceEvents ++ [.closing t.tag.name])

/-- The characters of a text. -/
def chars (t : TextElement name) : List Char :=
  t.pieces.flatMap Prod.snd

end TextElement

/-- A part of a string: a text, or a phonetic run of texts. The tags of other runs only
    stand around their texts. -/
inductive ItemPart
  | text (t : TextElement "t")
  | phonetic (tag : Xml.Tag) (called : tag.isCalled "rPh" = true)
      (inner : List (Entry (TextElement "t")))

namespace ItemPart

/-- The events of a part. -/
def events : ItemPart → List Xml.Event
  | text t => t.events
  | phonetic tag _ inner =>
      .opening tag :: (Entry.events TextElement.events inner ++ [.closing tag.name])

/-- All that is written in a part. -/
def written : ItemPart → List Char
  | text t => t.chars
  | phonetic _ _ inner => (Entry.elements inner).flatMap TextElement.chars

/-- What is written in a part outside of phonetic runs. -/
def plain : ItemPart → List Char
  | text t => t.chars
  | phonetic .. => []

end ItemPart

/-- All that is written in a string. -/
def writtenIn (item : List (Entry ItemPart)) : List Char :=
  (Entry.elements item).flatMap ItemPart.written

/-- What is written in a string outside of phonetic runs. -/
def plainIn (item : List (Entry ItemPart)) : List Char :=
  (Entry.elements item).flatMap ItemPart.plain

/-! ### Readers that gather characters -/

/-- A reader in the states in which it gathers characters. -/
structure Gatherer {σ : Type} (step : σ → Xml.Event → Traced ReadError σ) where
  IsReady : σ → Prop
  /-- The state after some characters are gathered. -/
  add : σ → List Char → σ
  add_nil : ∀ s, add s [] = s
  add_add : ∀ s cs ds, add (add s cs) ds = add s (cs ++ ds)
  isReady_add : ∀ s cs, IsReady s → IsReady (add s cs)

namespace Gatherer

variable {σ α : Type} {step : σ → Xml.Event → Traced ReadError σ} {g : Gatherer step}

/-- Some characters are gathered from some events. -/
def Gathers (g : Gatherer step) (events : List Xml.Event) (cs : List Char) : Prop :=
  ∀ s, g.IsReady s → Leads step s events (g.add s cs)

theorem gathers_nil : g.Gathers [] [] := by
  intro s _
  rw [g.add_nil]
  exact .nil

theorem Gathers.append {events later : List Xml.Event} {cs ds : List Char}
    (h : g.Gathers events cs) (hlater : g.Gathers later ds) :
    g.Gathers (events ++ later) (cs ++ ds) := by
  intro s hs
  rw [← g.add_add]
  exact (h s hs).append (hlater _ (g.isReady_add s cs hs))

theorem gathers_flatMap {events : α → List Xml.Event} {chars : α → List Char} {xs : List α}
    (h : ∀ x ∈ xs, g.Gathers (events x) (chars x)) :
    g.Gathers (xs.flatMap events) (xs.flatMap chars) := by
  induction xs with
  | nil => exact gathers_nil
  | cons x rest ih =>
      rw [List.forall_mem_cons] at h
      exact h.1.append (ih h.2)

/-- Asides between elements add nothing to what is gathered. -/
theorem gathers_entries {events : α → List Xml.Event} {chars : α → List Char}
    (haside : ∀ e, isAside e = true → g.Gathers [e] [])
    (h : ∀ x, g.Gathers (events x) (chars x)) (entries : List (Entry α)) :
    g.Gathers (Entry.events events entries) ((Entry.elements entries).flatMap chars) := by
  induction entries with
  | nil => exact gathers_nil
  | cons entry rest ih =>
      cases entry with
      | aside e silent => exact (haside e silent).append ih
      | element x => exact (h x).append ih

theorem gathers_pieces {name : String}
    (hpiece : ∀ source cs, Xml.resolve source = some cs → g.Gathers [.text source] cs)
    (t : TextElement name) : g.Gathers t.pieceEvents t.chars :=
  gathers_flatMap fun p hp => hpiece p.1 p.2 (t.resolved p hp)

end Gatherer

/-! ### Inside a cell -/

namespace WorksheetState

variable (sheet : String) (shared : List String) (s : WorksheetState)

/-- The state after characters are added to the text of the open cell. -/
def adding (cs : List Char) : WorksheetState :=
  { s with cell := s.cell.map fun cell => { cell with text := cell.text ++ cs } }

theorem adding_nil : s.adding [] = s := by
  rcases s with ⟨cells, row, column, _ | cell, inValue, inText⟩
  · rfl
  · simp [adding]

theorem adding_adding (cs ds : List Char) : (s.adding cs).adding ds = s.adding (cs ++ ds) := by
  rcases s with ⟨cells, row, column, _ | cell, inValue, inText⟩
  · rfl
  · simp [adding]

/-- An open cell, outside of its texts. -/
def inCell : Gatherer (next sheet shared) where
  IsReady s := s.Quiet ∧ s.cell.isSome = true
  add := adding
  add_nil := adding_nil
  add_add := adding_adding
  isReady_add s _ h := ⟨⟨h.1.inValue, h.1.inText⟩, by simpa [adding] using h.2⟩

/-- An open text. -/
def openText : Gatherer (next sheet shared) where
  IsReady s := (s.inValue || s.inText) = true
  add := adding
  add_nil := adding_nil
  add_add := adding_adding
  isReady_add _ _ h := h

variable {sheet shared}

theorem gathers_aside {e : Xml.Event} (he : isAside e = true) :
    (inCell sheet shared).Gathers [e] [] := by
  intro s hs
  rw [(inCell sheet shared).add_nil]
  exact .single (next_aside hs.1 he)

theorem gathers_piece (source : Xml.Source) (cs : List Char)
    (h : Xml.resolve source = some cs) :
    (openText sheet shared).Gathers [.text source] cs := by
  rintro ⟨cells, row, column, cell, inValue, inText⟩ hs
  have hopen : (inValue || inText) = true := hs
  refine .single ?_
  rw [next, Traced.outcome_ofExcept, addText]
  cases cell with
  | none => rfl
  | some cell =>
      dsimp only
      rw [if_pos hopen, resolveText, h]
      rfl

/-- A text element adds its characters. -/
theorem gathers_text (t : TextElement "t") : (inCell sheet shared).Gathers t.events t.chars := by
  rintro ⟨cells, row, column, cell, inValue, inText⟩ ⟨⟨hvalue, htext⟩, hcell⟩
  cases hvalue
  cases htext
  have hopening : (next sheet shared ⟨cells, row, column, cell, false, false⟩
      (.opening t.tag)).outcome = .ok ⟨cells, row, column, cell, false, true⟩ := by
    have hrow := Xml.Tag.not_isCalled t.called "row" (by decide)
    have hc := Xml.Tag.not_isCalled t.called "c" (by decide)
    have hv := Xml.Tag.not_isCalled t.called "v" (by decide)
    simp only [next, opened, hrow, hc, hv, t.called, Traced.outcome_ofExcept]
    simpa using hcell
  have hclosing : ∀ s, (next sheet shared s (.closing t.tag.name)).outcome =
      .ok { s with inText := false } := by
    intro s
    have hlocal : Xml.Tag.withoutPrefix t.tag.name = Xml.Source.ofString "t" :=
      Xml.Tag.isCalled_iff.1 t.called
    have hv : Xml.Source.ofString "t" ≠ Xml.Source.ofString "v" := by decide
    simp [next, closed, hlocal, hv]
  exact .cons hopening
    (.append (Gatherer.gathers_pieces gathers_piece t _ rfl) (.single (hclosing _)))

/-- So does a value. -/
theorem gathers_value (t : TextElement "v") :
    (inCell sheet shared).Gathers t.events t.chars := by
  rintro ⟨cells, row, column, cell, inValue, inText⟩ ⟨⟨hvalue, htext⟩, hcell⟩
  cases hvalue
  cases htext
  have hopening : (next sheet shared ⟨cells, row, column, cell, false, false⟩
      (.opening t.tag)).outcome = .ok ⟨cells, row, column, cell, true, false⟩ := by
    have hrow := Xml.Tag.not_isCalled t.called "row" (by decide)
    have hc := Xml.Tag.not_isCalled t.called "c" (by decide)
    simp only [next, opened, hrow, hc, t.called, Traced.outcome_ofExcept]
    simpa using hcell
  have hclosing : ∀ s, (next sheet shared s (.closing t.tag.name)).outcome =
      .ok { s with inValue := false } := by
    intro s
    have hlocal : Xml.Tag.withoutPrefix t.tag.name = Xml.Source.ofString "v" :=
      Xml.Tag.isCalled_iff.1 t.called
    simp [next, closed, hlocal]
  exact .cons hopening
    (.append (Gatherer.gathers_pieces gathers_piece t _ rfl) (.single (hclosing _)))

/-- The tags of a phonetic run mean nothing inside a cell. -/
theorem gathers_part (part : ItemPart) :
    (inCell sheet shared).Gathers part.events part.written := by
  cases part with
  | text t => exact gathers_text t
  | phonetic tag called inner =>
      have hinner : (inCell sheet shared).Gathers (Entry.events TextElement.events inner)
          ((Entry.elements inner).flatMap TextElement.chars) :=
        Gatherer.gathers_entries (fun _ => gathers_aside) gathers_text inner
      intro s hs
      have hlocal : Xml.Tag.withoutPrefix tag.name = Xml.Source.ofString "rPh" :=
        Xml.Tag.isCalled_iff.1 called
      have hopening : (next sheet shared s (.opening tag)).outcome = .ok s := by
        have hrow := Xml.Tag.not_isCalled called "row" (by decide)
        have hc := Xml.Tag.not_isCalled called "c" (by decide)
        have hv := Xml.Tag.not_isCalled called "v" (by decide)
        have ht := Xml.Tag.not_isCalled called "t" (by decide)
        simp [next, opened, hrow, hc, hv, ht]
      have hclosing : ∀ s, (next sheet shared s (.closing tag.name)).outcome = .ok s := by
        intro s
        have hnames : Xml.Source.ofString "rPh" ≠ Xml.Source.ofString "v" ∧
            Xml.Source.ofString "rPh" ≠ Xml.Source.ofString "t" ∧
            Xml.Source.ofString "rPh" ≠ Xml.Source.ofString "c" ∧
            Xml.Source.ofString "rPh" ≠ Xml.Source.ofString "row" := by decide
        simp [next, closed, hlocal, hnames]
      exact .cons hopening ((hinner s hs).append (.single (hclosing _)))

/-- All that is written in a string is added to the text of the cell that it stands in. -/
theorem gathers_item (item : List (Entry ItemPart)) :
    (inCell sheet shared).Gathers (Entry.events ItemPart.events item) (writtenIn item) :=
  Gatherer.gathers_entries (fun _ => gathers_aside) gathers_part item

end WorksheetState

/-! ### Inside the table of shared texts -/

namespace TextTableState

variable (s : TextTableState)

/-- The state after characters are added to the text of the open item. -/
def adding (cs : List Char) : TextTableState :=
  { s with current := s.current ++ cs }

theorem adding_nil : s.adding [] = s := by
  simp [adding]

theorem adding_adding (cs ds : List Char) : (s.adding cs).adding ds = s.adding (cs ++ ds) := by
  simp [adding]

/-- An open item, outside of its texts and of phonetic runs. -/
structure IsPlain : Prop where
  inItem : s.inItem = true
  inText : s.inText = false
  inPhonetic : s.inPhonetic = false

/-- An open item, outside of its texts and of phonetic runs. -/
def plainItem : Gatherer next where
  IsReady := IsPlain
  add := adding
  add_nil := adding_nil
  add_add := adding_adding
  isReady_add _ _ h := ⟨h.inItem, h.inText, h.inPhonetic⟩

/-- An open text. -/
def openText : Gatherer next where
  IsReady s := s.inText = true
  add := adding
  add_nil := adding_nil
  add_add := adding_adding
  isReady_add _ _ h := h

/-- An open phonetic run. Nothing is kept of its texts. -/
def openPhonetic : Gatherer next where
  IsReady s := s.inText = false ∧ s.inPhonetic = true
  add s _ := s
  add_nil _ := rfl
  add_add _ _ _ := rfl
  isReady_add _ _ h := h

theorem gathers_piece (source : Xml.Source) (cs : List Char)
    (h : Xml.resolve source = some cs) : openText.Gathers [.text source] cs := by
  intro s hs
  have hopen : s.inText = true := hs
  refine .single ?_
  rw [next, if_pos hopen, resolveText, h]
  rfl

theorem next_closeText {tag : Xml.Tag} (h : tag.isCalled "t" = true) :
    (next s (.closing tag.name)).outcome = .ok { s with inText := false } := by
  have hlocal : Xml.Tag.withoutPrefix tag.name = Xml.Source.ofString "t" :=
    Xml.Tag.isCalled_iff.1 h
  have hitem : Xml.Source.ofString "t" ≠ Xml.Source.ofString "si" := by decide
  have hphonetic : Xml.Source.ofString "t" ≠ Xml.Source.ofString "rPh" := by decide
  simp [next, closed, hlocal, hitem, hphonetic]

/-- A text element adds its characters. -/
theorem gathers_text (t : TextElement "t") : plainItem.Gathers t.events t.chars := by
  rintro ⟨texts, current, inItem, inText, inPhonetic⟩ ⟨hitem, htext, hphonetic⟩
  cases hitem
  cases htext
  cases hphonetic
  have hopening : (next ⟨texts, current, true, false, false⟩ (.opening t.tag)).outcome =
      .ok ⟨texts, current, true, true, false⟩ := by
    have hsi := Xml.Tag.not_isCalled t.called "si" (by decide)
    have hrPh := Xml.Tag.not_isCalled t.called "rPh" (by decide)
    simp [next, opened, hsi, hrPh, t.called]
  exact .cons hopening
    (.append (Gatherer.gathers_pieces gathers_piece t _ rfl) (.single (next_closeText _ t.called)))

/-- A text element of a phonetic run is not opened, so its pieces are passed over. -/
theorem gathers_phoneticText (t : TextElement "t") :
    openPhonetic.Gathers t.events t.chars := by
  have hpiece : ∀ (source : Xml.Source) (cs : List Char), Xml.resolve source = some cs →
      openPhonetic.Gathers [.text source] cs :=
    fun source _ _ s hs => .single (next_aside (e := .text source) hs.1 rfl)
  rintro ⟨texts, current, inItem, inText, inPhonetic⟩ ⟨htext, hphonetic⟩
  cases htext
  cases hphonetic
  have hopening : (next ⟨texts, current, inItem, false, true⟩ (.opening t.tag)).outcome =
      .ok ⟨texts, current, inItem, false, true⟩ := by
    have hsi := Xml.Tag.not_isCalled t.called "si" (by decide)
    have hrPh := Xml.Tag.not_isCalled t.called "rPh" (by decide)
    simp [next, opened, hsi, hrPh]
  exact .cons hopening
    (.append (Gatherer.gathers_pieces hpiece t _ ⟨rfl, rfl⟩) (.single (next_closeText _ t.called)))

theorem gathers_part (part : ItemPart) : plainItem.Gathers part.events part.plain := by
  cases part with
  | text t => exact gathers_text t
  | phonetic tag called inner =>
      have haside : ∀ e, isAside e = true → openPhonetic.Gathers [e] [] :=
        fun _ he s hs => .single (next_aside hs.1 he)
      have hinner : openPhonetic.Gathers (Entry.events TextElement.events inner)
          ((Entry.elements inner).flatMap TextElement.chars) :=
        Gatherer.gathers_entries haside gathers_phoneticText inner
      rintro ⟨texts, current, inItem, inText, inPhonetic⟩ ⟨hitem, htext, hphonetic⟩
      cases hitem
      cases htext
      cases hphonetic
      have hlocal : Xml.Tag.withoutPrefix tag.name = Xml.Source.ofString "rPh" :=
        Xml.Tag.isCalled_iff.1 called
      have hopening : (next ⟨texts, current, true, false, false⟩ (.opening tag)).outcome =
          .ok ⟨texts, current, true, false, true⟩ := by
        have hsi := Xml.Tag.not_isCalled called "si" (by decide)
        simp [next, opened, hsi, called]
      have hclosing : (next ⟨texts, current, true, false, true⟩ (.closing tag.name)).outcome =
          .ok ⟨texts, current, true, false, false⟩ := by
        have hsi : Xml.Source.ofString "rPh" ≠ Xml.Source.ofString "si" := by decide
        simp [next, closed, hlocal, hsi]
      -- The flag is as it was before the run.
      rw [ItemPart.plain, plainItem.add_nil]
      exact .cons hopening ((hinner _ ⟨rfl, rfl⟩).append (.single hclosing))

/-- What is written in a string outside of phonetic runs is added to the item that it is. -/
theorem gathers_item (item : List (Entry ItemPart)) :
    plainItem.Gathers (Entry.events ItemPart.events item) (plainIn item) := by
  refine Gatherer.gathers_entries ?_ gathers_part item
  intro e he s hs
  rw [plainItem.add_nil]
  exact .single (next_aside hs.inText he)

end TextTableState

end Spreadsheet

end Questionnaire
