/-!
# Sources

The text of a part of a spreadsheet, as it is stored. The bytes of a part should
be UTF-8, but where they are not, the part can still be read as long as nobody
asks for the text there. So a source is a list of characters and of stray bytes,
which belong to no character. Markup is made of ASCII characters, which no other
character shares a byte with, so tags are found whatever stands between them.

## Main definitions

* `Piece`: A character or a stray byte.
* `Source`: Characters and stray bytes.
* `Source.ofString`, `Source.ofBytes`: The source of a text, and of bytes.
* `Source.text?`: The characters of a source without stray bytes.
* `isMarkupBlank`: The blanks of markup.

## Theorems

* `text?_ofChars`: A source made from characters has them as its text.
-/

namespace Questionnaire

namespace Xml

/-- A piece of a source. -/
inductive Piece
  | char (c : Char)
  /-- A byte that belongs to no character. -/
  | stray (byte : UInt8)
deriving DecidableEq, Repr

namespace Piece

/-- The character that a piece is. -/
def char? : Piece → Option Char
  | char c => some c
  | stray _ => none

/-- The piece with a capital letter of ASCII made small. -/
def toLower : Piece → Piece
  | char c => char c.toLower
  | stray b => stray b

end Piece

/-- Characters and bytes that belong to none. -/
abbrev Source := List Piece

/-- Whether a piece is a blank of markup. -/
def isMarkupBlank (u : Piece) : Bool :=
  u == .char ' ' || u == .char '\t' || u == .char '\n' || u == .char '\r'

namespace Source

/-- The source that is a list of characters. -/
def ofChars (cs : List Char) : Source :=
  cs.map .char

/-- The source that is a text. -/
def ofString (s : String) : Source :=
  ofChars s.toList

/-- The characters of a source, if it has no stray byte. -/
def text? (s : Source) : Option (List Char) :=
  s.mapM Piece.char?

/-- Whether a byte continues a character. -/
def isContinuation (b : UInt8) : Bool :=
  0x80 ≤ b && b < 0xc0

/-- The code point whose first byte carries `high`, from the bytes that continue it. -/
def codePoint (high : Nat) (continuation : List UInt8) : Nat :=
  continuation.foldl (fun n b => n * 64 + (b.toNat - 0x80)) high

/-- The character that begins with a byte, and the number of bytes that continue it.
    The shortest form is the only one. -/
def charAt (b : UInt8) (rest : List UInt8) : Option (Char × Nat) :=
  let form (count high least : Nat) : Option (Char × Nat) :=
    let continuation := rest.take count
    let n := codePoint high continuation
    if continuation.length = count ∧ continuation.all isContinuation ∧ least ≤ n ∧
        n.isValidChar then
      some (Char.ofNat n, count)
    else none
  if b < 0x80 then some (Char.ofNat b.toNat, 0)
  else if 0xc0 ≤ b && b < 0xe0 then form 1 (b.toNat - 0xc0) 0x80
  else if 0xe0 ≤ b && b < 0xf0 then form 2 (b.toNat - 0xe0) 0x800
  else if 0xf0 ≤ b && b < 0xf8 then form 3 (b.toNat - 0xf0) 0x10000
  else none

/-- The source of some bytes, after `inside` bytes of the last character are
    passed. -/
def ofBytesFrom : (inside : Nat) → List UInt8 → Source
  | _, [] => []
  | inside + 1, _ :: rest => ofBytesFrom inside rest
  | 0, b :: rest =>
    match charAt b rest with
    | some (c, count) => .char c :: ofBytesFrom count rest
    | none => .stray b :: ofBytesFrom 0 rest

/-- The source of some bytes. -/
def ofBytes (bytes : List UInt8) : Source :=
  ofBytesFrom 0 bytes

/-- The source without a byte order mark at its beginning. -/
def withoutMark : Source → Source
  | .char '\ufeff' :: rest => rest
  | s => s

/-- Whether a source ends with a character. -/
def endsWith (s : Source) (c : Char) : Bool :=
  s.getLast? == some (.char c)

theorem text?_ofChars (cs : List Char) : text? (ofChars cs) = some cs := by
  induction cs with
  | nil => rfl
  | cons c rest ih =>
    simp only [text?, ofChars, List.map_cons, List.mapM_cons] at ih ⊢
    rw [ih]
    rfl

end Source

end Xml

end Questionnaire
