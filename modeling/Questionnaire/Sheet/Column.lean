import Questionnaire.Text.Blank

/-!
# Columns

A header cell names a column and the language its cells are written in. The two
are joined by `::`, and the language may be followed by a code in parentheses,
which says nothing of its own: `label::Italian (it)` is the label in Italian. A
header without the separator belongs to the default language, whose name here
is the empty text.

A sheet whose labels are all marked with a language has no default column.
English takes its place.

## Main definitions

* `Column`: A name and a language.
* `Column.ofHeader`: The column that a header cell names.
* `Column.header`: The header cell of a column.
* `Column.fillsDefault`: Whether a column is read for the default language.
-/

namespace Questionnaire

/-- A column of a sheet. The language is empty for the default one. -/
structure Column where
  name : String
  language : String
deriving DecidableEq, Repr, Inhabited

namespace Column

/-- Columns are in the order of their names, and of their languages under one
    name. -/
instance : Ord Column :=
  ⟨compareLex (compareOn name) (compareOn language)⟩

instance : Std.TransOrd Column :=
  inferInstanceAs (Std.TransCmp (compareLex (compareOn name) (compareOn language)))

instance : Std.LawfulEqOrd Column where
  compare_self {a} := by
    change compareLex (compareOn name) (compareOn language) a a = .eq
    simp [compareLex, compareOn, Std.ReflCmp.compare_self]
  eq_of_compare {a b} h := by
    change compareLex (compareOn name) (compareOn language) a b = .eq at h
    simp only [compareLex, compareOn, Ordering.then_eq_eq, Std.LawfulEqCmp.compare_eq_iff_eq] at h
    cases a
    cases b
    simp_all

/-- The language that stands in for the default one where no label is without a
    language. -/
def fallbackLanguage : String :=
  "English"

/-- The characters before the first `::` and those after it. -/
def splitSeparator : List Char → Option (List Char × List Char)
  | ':' :: ':' :: rest => some ([], rest)
  | [] => none
  | c :: rest => (splitSeparator rest).map fun (before, after) => (c :: before, after)

/-- The characters before the last opening parenthesis, or all of them. -/
def dropCode (cs : List Char) : List Char :=
  if cs.contains '(' then (cs.reverse.dropWhile (· != '(')).tail.reverse else cs

/-- The column that a header cell names. -/
def ofHeader (header : String) : Column :=
  match splitSeparator header.toList with
  | none => ⟨header, ""⟩
  | some (before, after) =>
    ⟨String.ofList before, Text.trim (String.ofList (dropCode after))⟩

/-- The header cell of a column. -/
def header (c : Column) : String :=
  if c.language.isEmpty then c.name else c.name ++ "::" ++ c.language

/-- Whether a column is read for the default language. -/
def fillsDefault (c : Column) : Bool :=
  c.language.isEmpty || c.language == fallbackLanguage

end Column

end Questionnaire
