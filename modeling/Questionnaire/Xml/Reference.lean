import Questionnaire.Number.Digit
import Questionnaire.Xml.Source

/-!
# Character References

In text and in the values of attributes, a character may be written as a
reference: an ampersand, a name or a number, and a semicolon. Five names are
known. A number is written in decimal digits, or in hexadecimal ones after an
`x`; it has at most as many digits as the largest code point, and is not zero.

A text in which an ampersand begins no reference has no meaning at all.

## Main definitions

* `referenced?`: The character that a name or number refers to.
* `resolveChars`: A text with its references replaced.
* `resolve`: The same for a source.
-/

namespace Questionnaire

namespace Xml

/-- The value of digits to a base of at most 16, if there are no more than `most`. -/
def numberIn? (base most : Nat) (digits : List Char) : Option Nat :=
  if most < digits.length then none
  else digits.foldlM (fun n c =>
    (Number.digitValue? base c).map fun d => n * base + d) 0

/-- The character of a code point other than zero. -/
def charOf? (n : Nat) : Option Char :=
  if n ≠ 0 ∧ n.isValidChar then some (Char.ofNat n) else none

/-- The character that a name or number between ampersand and semicolon refers to. -/
def referenced? (reference : List Char) : Option Char :=
  match reference with
  | '#' :: 'x' :: digits => (numberIn? 16 6 digits).bind charOf?
  | '#' :: digits => (numberIn? 10 7 digits).bind charOf?
  | _ =>
    match String.ofList reference with
    | "lt" => some '<'
    | "gt" => some '>'
    | "amp" => some '&'
    | "apos" => some '\''
    | "quot" => some '"'
    | _ => none

/-- Whether a character ends the name of a reference, rightly or wrongly. -/
def endsReference (c : Char) : Bool :=
  c == ';' || c == '&'

theorem length_of_reference {rest after : List Char}
    (h : rest.dropWhile (!endsReference ·) = ';' :: after) : after.length < rest.length := by
  have hrest := (List.dropWhile_suffix (!endsReference ·) (l := rest)).length_le
  rw [h, List.length_cons] at hrest
  omega

/-- A text with its references replaced, if it is well formed. -/
def resolveChars : List Char → Option (List Char)
  | [] => some []
  | c :: rest =>
    if c ≠ '&' then (resolveChars rest).map (c :: ·)
    else
      match h : rest.dropWhile (!endsReference ·) with
      | ';' :: after =>
        have _ := length_of_reference h
        match referenced? (rest.takeWhile (!endsReference ·)) with
        | some r => (resolveChars after).map (r :: ·)
        | none => none
      | _ => none
termination_by cs => cs.length

/-- The text of a source with its references replaced. A source with a stray byte,
    or with an ampersand that begins no reference, has none. -/
def resolve (s : Source) : Option (List Char) :=
  s.text?.bind resolveChars

end Xml

end Questionnaire
