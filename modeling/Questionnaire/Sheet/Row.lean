import Questionnaire.Dictionary
import Questionnaire.Sheet.Column

/-!
# Rows

A row of a sheet holds the texts of its cells by column, and the line it was
read from. Empty cells are not kept, so a row knows only what was filled in, and
two rows with the same filled cells are equal.

A lookup for the default language falls back on the English column. A lookup for
any other language finds that language or nothing.

The second half names the columns that the three sheets of a form are read by.

## Main definitions

* `Row`: A line and the filled cells.
* `Row.set`: A row with one more cell, or one less.
* `Row.textIn`, `Row.text`: A cell in a language, and in the default one.

## Theorems

* `get?_set`: What a row holds after a cell is set.
-/

namespace Questionnaire

/-- A row of a sheet: the line it was read from, and its filled cells. Rows that
    no sheet holds have the line 0. -/
structure Row where
  line : Nat
  cells : Dictionary Column String
  filled : ∀ e ∈ cells.entries, e.2 ≠ ""
deriving DecidableEq

namespace Row

/-- A row without cells. -/
def blank (line : Nat) : Row :=
  ⟨line, .empty, fun _ h => absurd h List.not_mem_nil⟩

instance : Inhabited Row :=
  ⟨blank 0⟩

/-- A row with the cell of a column set; the empty text removes the cell. -/
def setColumn (r : Row) (c : Column) (value : String) : Row :=
  if h : value = "" then
    ⟨r.line, r.cells.erase c, fun e he => r.filled e (List.mem_filter.1 he).1⟩
  else
    ⟨r.line, r.cells.insert c value, fun e he => by
      rcases Dictionary.mem_insertEntry he with rfl | he
      · exact h
      · exact r.filled e he⟩

/-- A row with the cell under a header set. -/
def set (r : Row) (header value : String) : Row :=
  r.setColumn (.ofHeader header) value

/-- The row of a list of headers and cells, set in their order. -/
def ofCells (line : Nat) (cells : List (String × String)) : Row :=
  cells.foldl (fun r cell => r.set cell.1 cell.2) (blank line)

/-- The row as read from another line. -/
def withLine (r : Row) (line : Nat) : Row :=
  { r with line }

/-- Whether no cell is filled. -/
def isEmpty (r : Row) : Bool :=
  r.cells.isEmpty

/-- The columns of the filled cells, in order. -/
def columns (r : Row) : List Column :=
  r.cells.keys

/-- The text of a column in a language, or nothing. The default language falls
    back on the English column. -/
def textIn (r : Row) (language name : String) : String :=
  let found :=
    if language.isEmpty then
      (r.cells.get? ⟨name, ""⟩).or (r.cells.get? ⟨name, Column.fallbackLanguage⟩)
    else r.cells.get? ⟨name, language⟩
  found.getD ""

/-- The text of a column in the default language. -/
def text (r : Row) (name : String) : String :=
  r.textIn "" name

theorem get?_setColumn (r : Row) (c c' : Column) (value : String) :
    (r.setColumn c value).cells.get? c' =
      if compare c' c = .eq then (if value = "" then none else some value)
      else r.cells.get? c' := by
  unfold setColumn
  by_cases h : value = ""
  · simp only [h, dif_pos, if_true, Dictionary.get?_erase]
  · simp only [h, dif_neg, not_false_eq_true, if_false, Dictionary.get?_insert]

theorem get?_set (r : Row) (header value : String) (c : Column) :
    (r.set header value).cells.get? c =
      if compare c (.ofHeader header) = .eq then (if value = "" then none else some value)
      else r.cells.get? c :=
  get?_setColumn r _ c value

/-! ### The columns of the survey -/

/-- What a row of the survey is: a question of some type, or a mark of a group. -/
def type (r : Row) : String :=
  r.text "type"

/-- The name of a question, a group or a choice. -/
def name (r : Row) : String :=
  r.text "name"

/-- The text shown for a question, a group or a choice. -/
def label (r : Row) (language : String) : String :=
  r.textIn language "label"

/-- The text shown to help with an answer. -/
def hint (r : Row) (language : String) : String :=
  r.textIn language "hint"

/-- The formula that says when a question or group is shown. -/
def relevant (r : Row) : String :=
  r.text "relevant"

/-- The formula that an answer has to satisfy. -/
def constraint (r : Row) : String :=
  r.text "constraint"

/-- The text shown when an answer does not satisfy the constraint. -/
def constraintMessage (r : Row) (language : String) : String :=
  r.textIn language "constraint_message"

/-- The formula that a value is computed by. -/
def calculation (r : Row) : String :=
  r.text "calculation"

/-- Whether an answer is required. -/
def required (r : Row) : String :=
  r.text "required"

/-- The text shown when a required answer is missing. -/
def requiredMessage (r : Row) (language : String) : String :=
  r.textIn language "required_message"

/-- The greatest number of times a group repeats. -/
def repeatCount (r : Row) : String :=
  r.text "repeat_count"

/-- Whether, or for a group when, an answer cannot be changed. -/
def readonly (r : Row) : String :=
  r.text "readonly"

/-- The formula of the first value of a question. -/
def default (r : Row) : String :=
  r.text "default"

/-- How a question looks. -/
def appearance (r : Row) : String :=
  r.text "appearance"

/-- The formula that says which choices are offered. -/
def choiceFilter (r : Row) : String :=
  r.text "choice_filter"

/-- The bounds and step of a range. -/
def parameters (r : Row) : String :=
  r.text "parameters"

/-! ### The columns of the choices -/

/-- The name of the list that a choice belongs to. -/
def listName (r : Row) : String :=
  r.text "list name"

/-- The cells of a choice under columns of its author's own, by their headers. -/
def ownCells (r : Row) : List (String × String) :=
  (r.cells.entries.filter fun e => !(["list name", "name", "label"].contains e.1.name)).map
    fun e => (e.1.header, e.2)

/-! ### The columns of the settings -/

/-- The text shown for a tag. -/
def tagLabel (r : Row) : String :=
  r.text "tag label"

/-- The name of the question whose value the tag shows. -/
def tagValue (r : Row) : String :=
  r.text "tag value"

end Row

end Questionnaire
