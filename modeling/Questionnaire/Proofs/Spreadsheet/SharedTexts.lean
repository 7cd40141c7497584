import Questionnaire.Proofs.Spreadsheet.Reading

/-!
# Strings in Two Places

A string is read the same way in the table of shared texts and inside a cell, except
that the reader of the table knows phonetic runs and the reader of cells does not. A
cell that holds a string and a cell that refers to it in the table therefore show the
same text if no phonetic run has a text, and `not_same_text_of_phonetic` is a
worksheet where they do not.

## Main definitions

* `TextTable`: The table of shared texts as it is written.
* `CellElement.Holds`, `CellElement.RefersTo`: A string in a cell, and in the table.

## Theorems

* `TextTable.outcome_readSharedTexts`: What is read from the table.
* `texts_of_item`: What two cells show, one with a string and one that refers to it.
* `not_same_text_of_phonetic`: They may show different texts.
-/

namespace Questionnaire

namespace Spreadsheet

/-- An item of the table of shared texts as it is written. -/
structure TableItem where
  tag : Xml.Tag
  called : tag.isCalled "si" = true
  /-- The string, unless the element is empty by its tag. -/
  content? : Option (List (Entry ItemPart))

namespace TableItem

/-- The events of an item. -/
def events (i : TableItem) : List Xml.Event :=
  match i.content? with
  | none => [.empty i.tag]
  | some item => .opening i.tag :: (Entry.events ItemPart.events item ++ [.closing i.tag.name])

/-- The text of an item. -/
def text (i : TableItem) : String :=
  String.ofList (unescape (plainIn (i.content?.getD [])))

end TableItem

/-- The table of shared texts as it is written. -/
abbrev TextTable := List (Entry TableItem)

namespace TextTable

/-- The events of the table. -/
def events (t : TextTable) : List Xml.Event :=
  Entry.events TableItem.events t

/-- The texts of the table. -/
def texts (t : TextTable) : List String :=
  (Entry.elements t).map TableItem.text

end TextTable

namespace TextTableState

/-- The state between items. -/
def between (texts : List String) (current : List Char) : TextTableState :=
  ⟨texts, current, false, false, false⟩

/-- An item is added with its text. -/
theorem leads_tableItem (i : TableItem) (texts : List String) (current : List Char) :
    ∃ current', Leads next (between texts current) i.events
      (between (i.text :: texts) current') := by
  rw [TableItem.events, TableItem.text]
  cases hcontent : i.content? with
  | none =>
      refine ⟨current, .single ?_⟩
      rw [next, Traced.outcome_pure, if_pos i.called]
      rfl
  | some item =>
      have hlocal : Xml.Tag.withoutPrefix i.tag.name = Xml.Source.ofString "si" :=
        Xml.Tag.isCalled_iff.1 i.called
      have hopening : (next (between texts current) (.opening i.tag)).outcome =
          .ok ⟨texts, [], true, false, false⟩ := by
        rw [next, Traced.outcome_pure, opened, if_pos i.called]
        rfl
      have hclosing : (next ⟨texts, plainIn item, true, false, false⟩
          (.closing i.tag.name)).outcome =
            .ok (between (String.ofList (unescape (plainIn item)) :: texts) (plainIn item)) := by
        rw [next, Traced.outcome_pure, hlocal, closed, if_pos rfl]
        rfl
      exact ⟨plainIn item, .cons hopening
        (.append (gathers_item item _ ⟨rfl, rfl, rfl⟩) (.single hclosing))⟩

/-- The items of the table are added in order. -/
theorem leads_table (entries : List (Entry TableItem)) (texts : List String)
    (current : List Char) :
    ∃ current', Leads next (between texts current) (Entry.events TableItem.events entries)
      (between ((TextTable.texts entries).reverse ++ texts) current') := by
  induction entries generalizing texts current with
  | nil => exact ⟨current, .nil⟩
  | cons entry rest ih =>
      cases entry with
      | aside e silent =>
          rcases ih texts current with ⟨current', hrest⟩
          exact ⟨current', .cons (next_aside rfl silent) hrest⟩
      | element i =>
          rcases leads_tableItem i texts current with ⟨between', hitem⟩
          rcases ih (i.text :: texts) between' with ⟨current', hrest⟩
          have htexts : (TextTable.texts (.element i :: rest)).reverse ++ texts =
              (TextTable.texts rest).reverse ++ i.text :: texts := by
            change (i.text :: TextTable.texts rest).reverse ++ texts = _
            rw [List.reverse_cons, List.append_assoc, List.singleton_append]
          rw [htexts]
          exact ⟨current', hitem.append hrest⟩

end TextTableState

/-- The table is read as the texts of its items. -/
theorem TextTable.outcome_readSharedTexts {a : Archive} {part : Xml.Source} {t : TextTable}
    (hpart : a.get? sharedTextsPath = some part)
    (hevents : Xml.Events.ofSource part = ⟨t.events, true⟩) :
    (readSharedTexts a).outcome = .ok t.texts := by
  rcases TextTableState.leads_table t [] [] with ⟨current, hleads⟩
  rw [List.append_nil] at hleads
  rw [readSharedTexts, hpart]
  change (readPart TextTableState.next .start part >>= fun s => _).outcome = _
  rw [Traced.outcome_bind]
  change ((readPart TextTableState.next (.between [] []) part).outcome >>= fun s => _) = _
  rw [outcome_readPart hevents hleads]
  change Except.ok t.texts.reverse.reverse = _
  rw [List.reverse_reverse]

/-! ### A string in a cell and in the table -/

namespace CellElement

/-- A cell holds a string. -/
def Holds (c : CellElement) (item : List (Entry ItemPart)) : Prop :=
  c.type? = some "inlineStr" ∧
    ∃ tag called, Entry.elements (c.content?.getD []) = [.inline tag called item]

/-- A cell refers to a string by the index of an item. -/
def RefersTo (c : CellElement) (t : TextTable) (item : List (Entry ItemPart)) : Prop :=
  c.type? = some "s" ∧ ∃ index i, index < Number.wordBound ∧
    c.written = Nat.toDigits 10 index ∧ (Entry.elements t)[index]? = some i ∧
    i.content? = some item

theorem Holds.shows {c : CellElement} {item : List (Entry ItemPart)} (h : c.Holds item)
    (shared : List String) : c.Shows shared (String.ofList (unescape (writtenIn item))) := by
  rcases h with ⟨htype, tag, called, hcontent⟩
  have hwritten : c.written = writtenIn item := by
    rw [written, hcontent, List.flatMap_singleton]
    rfl
  refine .inline htype ?_
  rw [String.toList_ofList, hwritten]
  exact escapedAs_unescape _

theorem RefersTo.shows {c : CellElement} {t : TextTable} {item : List (Entry ItemPart)}
    (h : c.RefersTo t item) : c.Shows t.texts (String.ofList (unescape (plainIn item))) := by
  rcases h with ⟨htype, index, i, hindex, hdigits, hget, hcontent⟩
  refine .shared htype hindex hdigits ?_
  rw [TextTable.texts, List.getElem?_map, hget, Option.map_some, TableItem.text, hcontent]
  rfl

end CellElement

/-- A cell that holds a string shows all that is written in it, and a cell that refers to
    the same string shows what is written in it outside of phonetic runs, both as what
    they are the escaped form of. The texts are the same if phonetic runs have none. -/
theorem texts_of_item {sheet : String} {a : Archive} {path : String}
    {tablePart part : Xml.Source} {t : TextTable} {w : Listing}
    {item : List (Entry ItemPart)} {p q : CellPosition} {c d : CellElement}
    (htablePart : a.get? sharedTextsPath = some tablePart)
    (htable : Xml.Events.ofSource tablePart = ⟨t.events, true⟩)
    (hpart : a.get? path = some part)
    (hevents : Xml.Events.ofSource part = ⟨w.events, true⟩) (hcounted : w.IsCounted)
    (hc : ∀ c', (p, c') ∈ w.cells ↔ c' = c) (hholds : c.Holds item)
    (hd : ∀ d', (q, d') ∈ w.cells ↔ d' = d) (hrefers : d.RefersTo t item) :
    ∃ shared g, (readSharedTexts a).outcome = .ok shared ∧
      (readWorksheet a shared sheet path).outcome = .ok g ∧
      EscapedAs (g.cell p.row p.column).toList (writtenIn item) ∧
      EscapedAs (g.cell q.row q.column).toList (plainIn item) ∧
      ((∀ i ∈ Entry.elements item, i.written = i.plain) →
        g.cell p.row p.column = g.cell q.row q.column) := by
  rcases Listing.exists_grid sheet t.texts hpart hevents hcounted with
    ⟨g, hg, hcell, _⟩
  -- A cell that is alone at its position decides about the text there.
  have halone : ∀ p c text, (∀ c', (p, c') ∈ w.cells ↔ c' = c) → c.Shows t.texts text →
      g.cell p.row p.column = text := by
    intro p c text halone hshows
    refine hcell p text ?_ fun _ => ⟨(p, c), (halone c).2 rfl, rfl, hshows⟩
    rintro ⟨p', c'⟩ hmem rfl
    rw [(halone c').1 hmem]
    exact Or.inl hshows
  have hinline := halone p c _ hc (hholds.shows t.texts)
  have hshared := halone q d _ hd hrefers.shows
  refine ⟨t.texts, g, t.outcome_readSharedTexts htablePart htable, hg, ?_, ?_, ?_⟩
  · rw [hinline, String.toList_ofList]
    exact escapedAs_unescape _
  · rw [hshared, String.toList_ofList]
    exact escapedAs_unescape _
  · intro hsilent
    have hsame : writtenIn item = plainIn item := by
      rw [writtenIn, plainIn, List.flatMap_def, List.flatMap_def, List.map_congr_left hsilent]
    rw [hinline, hshared, hsame]

/-- A text with its pronunciation. -/
def pronounced : List (Entry ItemPart) :=
  [.element (.text (Listing.plainString [.char 'a'] ['a'] (by decide +kernel))),
    .element (.phonetic ⟨.ofString "rPh", []⟩ rfl
      [.element (Listing.plainString [.char 'b'] ['b'] (by decide +kernel))])]

/-- A cell that holds it. -/
def pronouncedCell : CellElement :=
  Listing.nextCell pronounced

/-- A cell that refers to it in the table. -/
def pronouncedReference : CellElement where
  tag := ⟨.ofString "c", [(.ofString "t", .ofString "s")]⟩
  called := rfl
  reference? := none
  refers := rfl
  content? := some [.element
    (.value (Listing.plainText "v" rfl [.char '0'] ['0'] (by decide +kernel)))]

/-- The table. -/
def pronouncedTable : TextTable :=
  [.element { tag := ⟨.ofString "si", []⟩, called := rfl, content? := some pronounced }]

/-- The worksheet with both cells. -/
def pronouncedListing : Listing :=
  [.element (Listing.nextRow (some [.element pronouncedCell, .element pronouncedReference]))]

theorem holds_pronouncedCell : pronouncedCell.Holds pronounced :=
  ⟨by decide +kernel, ⟨.ofString "is", []⟩, rfl, rfl⟩

theorem refersTo_pronouncedReference :
    pronouncedReference.RefersTo pronouncedTable pronounced :=
  ⟨by decide +kernel, 0, ⟨⟨.ofString "si", []⟩, rfl, some pronounced⟩, by decide, rfl, rfl, rfl⟩

/-- The markup of the table and of the worksheet. -/
def pronouncedParts : Archive :=
  .ofList [("1.xml", .ofString ("<row><c t=\"inlineStr\"><is><t>a</t><rPh><t>b</t></rPh></is>" ++
      "</c><c t=\"s\"><v>0</v></c></row>")),
    (sharedTextsPath, .ofString "<si><t>a</t><rPh><t>b</t></rPh></si>")]

theorem texts_of_pronounced :
    ∃ shared g, (readSharedTexts pronouncedParts).outcome = .ok shared ∧
      (readWorksheet pronouncedParts shared "survey" "1.xml").outcome = .ok g ∧
      EscapedAs (g.cell 0 0).toList (writtenIn pronounced) ∧
      EscapedAs (g.cell 0 1).toList (plainIn pronounced) ∧
      ((∀ i ∈ Entry.elements pronounced, i.written = i.plain) → g.cell 0 0 = g.cell 0 1) := by
  have hrows : pronouncedListing.rows.map Prod.fst = [0] := rfl
  have hcells : pronouncedListing.cells =
      [(⟨0, 0⟩, pronouncedCell), (⟨0, 1⟩, pronouncedReference)] := rfl
  refine texts_of_item (p := ⟨0, 0⟩) (q := ⟨0, 1⟩) (c := pronouncedCell)
    (d := pronouncedReference) (t := pronouncedTable) (w := pronouncedListing)
    rfl (by decide +kernel) rfl (by decide +kernel) ⟨?_, ?_⟩ ?_ holds_pronouncedCell ?_
    refersTo_pronouncedReference
  · intro r hr
    have hzero := hrows ▸ List.mem_map_of_mem (f := Prod.fst) hr
    rw [List.mem_singleton.1 hzero]
    decide
  · rw [hcells]
    simp only [List.forall_mem_cons]
    exact ⟨⟨by decide, by decide⟩, ⟨by decide, by decide⟩, List.forall_mem_nil _⟩
  · simp [hcells]
  · simp [hcells]

/-- A string with a phonetic run is read as two texts: the pronunciation is a part of the
    text of a cell that holds it, and no part of the shared text. -/
theorem not_same_text_of_phonetic :
    pronouncedCell.Holds pronounced ∧ pronouncedReference.RefersTo pronouncedTable pronounced ∧
      (readSharedTexts pronouncedParts).outcome.toOption = some ["a"] ∧
      (readWorksheet pronouncedParts ["a"] "survey" "1.xml").outcome.toOption =
        some [["ab", "a"]] :=
  ⟨holds_pronouncedCell, refersTo_pronouncedReference, by decide +kernel, by decide +kernel⟩

end Spreadsheet

end Questionnaire
