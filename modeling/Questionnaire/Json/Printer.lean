import Questionnaire.Json.Basic

/-!
# Writing JSON

A value is written on one line, or with one item or member to a line and a unit
of indentation for every level of nesting. The text differs only in the blanks
between its tokens. An empty array or object is written without any blanks.

In a string, the quotation mark, the backslash and the control characters of
ASCII are escaped, five of them by a letter and the others by their code. All
other characters stand for themselves.

## Main definitions

* `Json.Style`: One line, or indented.
* `Json.escapeChar`, `Json.quote`: A character in a string, and a string.
* `Json.write`: A value at a level of nesting.
* `Json.print`: The text of a value.
-/

namespace Questionnaire

namespace Json

/-- How a value is laid out. -/
inductive Style
  | compact
  /-- One item to a line, indented by a unit for every level. -/
  | indented (unit : List Char)
deriving DecidableEq, Repr

namespace Style

/-- The customary layout: a tab for every level. -/
def tabs : Style :=
  indented ['\t']

/-- A number of blanks for every level. -/
def blanks (n : Nat) : Style :=
  indented (List.replicate n ' ')

/-- What stands before an item at a level, or before the end of what holds items. -/
def newline (style : Style) (level : Nat) : List Char :=
  match style with
  | compact => []
  | indented unit => '\n' :: (List.replicate level unit).flatten

/-- What stands between a key and its value. -/
def colon : Style → List Char
  | compact => [':']
  | indented _ => [':', ' ']

end Style

/-- A digit of a hexadecimal number below sixteen. -/
def hexDigit (n : Nat) : Char :=
  Nat.digitChar n

/-- A character as it stands in a string. -/
def escapeChar (c : Char) : List Char :=
  if c = '"' then ['\\', '"']
  else if c = '\\' then ['\\', '\\']
  else if c = '\x08' then ['\\', 'b']
  else if c = '\x0c' then ['\\', 'f']
  else if c = '\n' then ['\\', 'n']
  else if c = '\r' then ['\\', 'r']
  else if c = '\t' then ['\\', 't']
  else if c.toNat < 0x20 then
    ['\\', 'u', '0', '0', hexDigit (c.toNat / 16), hexDigit (c.toNat % 16)]
  else [c]

/-- A string between quotation marks. -/
def quote (s : String) : List Char :=
  '"' :: s.toList.flatMap escapeChar ++ ['"']

/-- An integer in decimal digits. -/
def digits : Int → List Char
  | .ofNat n => (toString n).toList
  | .negSucc n => '-' :: (toString (n + 1)).toList

mutual

/-- A value whose items or members stand at the level `level + 1`. -/
def write (style : Style) (level : Nat) : Json → List Char
  | bool true => "true".toList
  | bool false => "false".toList
  | integer n => digits n
  | string s => quote s
  | array [] => ['[', ']']
  | array (item :: items) =>
    '[' :: style.newline (level + 1) ++ write style (level + 1) item ++
      writeItems style (level + 1) items ++ style.newline level ++ [']']
  | object [] => ['\x7b', '\x7d']
  | object ((key, value) :: members) =>
    '\x7b' :: style.newline (level + 1) ++ quote key ++ style.colon ++
      write style (level + 1) value ++ writeMembers style (level + 1) members ++
      style.newline level ++ ['\x7d']

/-- The items of an array after the first. -/
def writeItems (style : Style) (level : Nat) : List Json → List Char
  | [] => []
  | item :: items =>
    ',' :: style.newline level ++ write style level item ++ writeItems style level items

/-- The members of an object after the first. -/
def writeMembers (style : Style) (level : Nat) : List (String × Json) → List Char
  | [] => []
  | (key, value) :: members =>
    ',' :: style.newline level ++ quote key ++ style.colon ++ write style level value ++
      writeMembers style level members

end

/-- The text of a value. -/
def print (style : Style) (j : Json) : String :=
  String.ofList (write style 0 j)

end Json

end Questionnaire
