import Questionnaire.Formula.Expr.Reading

/-!
# Compiling a Formula

From the text of a formula to the text that the form engine evaluates. A formula
is scanned, read as an expression, and rendered. One that begins with the marker
`js:` is already in the engine's language and passes as it is, without the
marker and the blanks around it.

A compiler serves many formulas one after another and writes each of them to the
same buffer. The buffer is emptied before a formula is read, so neither what an
earlier formula became nor where it failed is seen by a later one.

## Main definitions

* `rawMarker`: What an already compiled formula begins with.
* `Formula.raw?`: The formula behind the marker.
* `Formula.parse`: The expression of a formula.
* `Formula.Compiler`: A compiler with its buffer.
* `Formula.compile`: A formula for the form engine.

## Theorems

* `Compiler.fst_compile`: What a compiler answers does not depend on its buffer.
* `compile_of_raw`, `compile_of_not_raw`: The two kinds of formulas.
-/

namespace Questionnaire

namespace Formula

/-- The marker of a formula that is already in the engine's language. -/
def rawMarker : List Char :=
  "js:".toList

/-- The text behind the marker of an already compiled formula. -/
def raw? (formula : String) : Option String :=
  let cs := Text.skipBlanks formula.toList
  if rawMarker.isPrefixOf cs then
    some (String.ofList (Text.skipBlanks (cs.drop rawMarker.length)))
  else none

/-- The expression of a formula that stands in a place. -/
def parse (formula : String) (place : Place) : Except Error Expr :=
  match Expr.ofScan place.hasColumns (Scan.ofChars formula.toList) with
  | .ok e => .ok e
  | .error fault => .error ⟨place, fault⟩

/-- A compiler. It keeps the buffer that it writes to. -/
structure Compiler where
  buffer : String

namespace Compiler

/-- A compiler that has compiled nothing. -/
def new : Compiler :=
  ⟨""⟩

/-- A formula for the form engine, and the compiler after it. The formula stands in
    a place and belongs to the question `subject`. -/
def compile (c : Compiler) (formula : String) (place : Place) (subject : String) :
    Except Error String × Compiler :=
  match raw? formula with
  | some text => (.ok text, c)
  | none =>
    let emptied : Compiler := { c with buffer := "" }
    match parse formula place with
    | .error e => (.error e, emptied)
    | .ok e =>
      let written : Compiler := { emptied with buffer := emptied.buffer ++ e.render subject }
      (.ok written.buffer, written)

end Compiler

/-- A formula for the form engine, by a compiler of its own. -/
def compile (formula : String) (place : Place) (subject : String) : Except Error String :=
  (Compiler.new.compile formula place subject).1

theorem Compiler.fst_compile (c : Compiler) (formula : String) (place : Place)
    (subject : String) :
    (c.compile formula place subject).1 = Formula.compile formula place subject := by
  simp only [Formula.compile, Compiler.compile]
  cases raw? formula with
  | some text => rfl
  | none =>
      cases parse formula place with
      | error e => rfl
      | ok e => rfl

theorem compile_of_raw {formula text : String} (h : raw? formula = some text) (place : Place)
    (subject : String) : compile formula place subject = .ok text := by
  simp only [compile, Compiler.compile, h]

theorem compile_of_not_raw {formula : String} (h : raw? formula = none) (place : Place)
    (subject : String) :
    compile formula place subject = (parse formula place).map (Expr.render subject) := by
  simp only [compile, Compiler.compile, h]
  cases parse formula place with
  | error e => rfl
  | ok e => exact congrArg Except.ok (String.empty_append)

end Formula

end Questionnaire
