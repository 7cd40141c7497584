import Questionnaire.Text.Unprintable

/-!
# Quoted Texts

How a text from a sheet appears inside a message: between quotation marks, with
the mark itself, the backslash and the characters that would not show spelled
out. Tab, line feed, carriage return and NUL have short spellings; any other
character that has no shape, or that would be drawn onto its neighbour, is
spelled by its code point in lower case hexadecimal digits without padding.

The same spelling serves for a text between double marks and for one character
between single marks. Only the mark in use is spelled out.

## Main definitions

* `hexDigits`: A number in lower case hexadecimal digits.
* `spellChar`: One character of a quoted text.
* `quoted`: A text between double quotation marks.
* `quotedChar`: A character between single quotation marks.
-/

namespace Questionnaire

namespace Text

/-- A number in lower case hexadecimal digits, without padding. -/
def hexDigits (n : Nat) : List Char :=
  Nat.toDigits 16 n

/-- The spelling of one character between two marks. -/
def spellChar (mark c : Char) : List Char :=
  if c = '\x00' then ['\\', '0']
  else if c = '\t' then ['\\', 't']
  else if c = '\n' then ['\\', 'n']
  else if c = '\r' then ['\\', 'r']
  else if c = '\\' || c = mark then ['\\', c]
  else if isExtending c || isUnprintable c then
    ['\\', 'u', '\x7b'] ++ hexDigits c.toNat ++ ['\x7d']
  else [c]

/-- A text between double quotation marks. -/
def quoted (s : String) : String :=
  String.ofList ('"' :: s.toList.flatMap (spellChar '"') ++ ['"'])

/-- A character between single quotation marks. -/
def quotedChar (c : Char) : String :=
  String.ofList ('\'' :: spellChar '\'' c ++ ['\''])

end Text

end Questionnaire
