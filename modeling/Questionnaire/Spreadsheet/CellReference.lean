import Questionnaire.Number.Integer

/-!
# Cell References

A cell is referred to by the letters of its column and the number of its row, as
in `B3`. The letters count columns as `A` to `Z`, `AA` to `AZ` and so on: numbers
to the base 26 with the digits from one to twenty-six and no zero. Rows count
from one. Small letters are as good as capital ones.

Positions count from zero and fit into 64 bits. A reference past that refers to
nothing.

## Main definitions

* `CellPosition`: A row and a column.
* `columnNumber?`: The number of a column, by its letters.
* `CellPosition.ofReference?`: The position that a reference refers to.
-/

namespace Questionnaire

namespace Spreadsheet

/-- The position of a cell, counted from zero. -/
structure CellPosition where
  row : Nat
  column : Nat
deriving DecidableEq, Repr

/-- Whether a character is a letter of ASCII. -/
def isLetter (c : Char) : Bool :=
  c.isAlpha

/-- The place of a letter in the alphabet, counted from one. -/
def letterNumber (c : Char) : Nat :=
  c.toUpper.toNat - 'A'.toNat + 1

/-- The number of a column after letters of number `high`. -/
def columnNumberFrom? (high : Nat) : List Char → Option Nat
  | [] => some high
  | c :: rest =>
    let n := 26 * high + letterNumber c
    if n < Number.wordBound then columnNumberFrom? n rest else none

/-- The number of a column, counted from one, by its letters. -/
def columnNumber? (letters : List Char) : Option Nat :=
  columnNumberFrom? 0 letters

/-- The position that a reference refers to. -/
def CellPosition.ofReference? (reference : List Char) : Option CellPosition := do
  let letters := reference.takeWhile (!·.isDigit)
  let digits := reference.dropWhile (!·.isDigit)
  if letters.isEmpty || !letters.all isLetter then none
  else
    let column ← columnNumber? letters
    let row ← Number.readNatural? digits
    if row = 0 then none else some ⟨row - 1, column - 1⟩

end Spreadsheet

end Questionnaire
