import Questionnaire.Number.Digit

/-!
# Escaped Characters

A text in a spreadsheet may hold characters that its format has no place for.
They are written as `_x`, four hexadecimal digits and `_`; a text that looks so
by itself has the first underscore written in this way. Whatever is not exactly
of this form, or names no character, stands for itself.

## Main definitions

* `escapedChar?`: The character that four digits name.
* `unescape`: A text with its escaped characters replaced.
-/

namespace Questionnaire

namespace Spreadsheet

/-- The character that four hexadecimal digits name. -/
def escapedChar? (a b c d : Char) : Option Char := do
  let a ← Number.hexValue? a
  let b ← Number.hexValue? b
  let c ← Number.hexValue? c
  let d ← Number.hexValue? d
  let n := ((a * 16 + b) * 16 + c) * 16 + d
  if n.isValidChar then some (Char.ofNat n) else none

/-- The escaped character that a text begins with. -/
def escapeAt? : List Char → Option Char
  | '_' :: 'x' :: a :: b :: c :: d :: '_' :: _ => escapedChar? a b c d
  | _ => none

/-- A text with its escaped characters replaced, after `inside` characters of the last
    one are passed. -/
def unescapeFrom : (inside : Nat) → List Char → List Char
  | _, [] => []
  | inside + 1, _ :: rest => unescapeFrom inside rest
  | 0, c :: rest =>
    match escapeAt? (c :: rest) with
    | some escaped => escaped :: unescapeFrom 6 rest
    | none => c :: unescapeFrom 0 rest

/-- A text with its escaped characters replaced. -/
def unescape (cs : List Char) : List Char :=
  unescapeFrom 0 cs

end Spreadsheet

end Questionnaire
