import Questionnaire.Formula.Error
import Questionnaire.Formula.Token
import Questionnaire.Number.Digit
import Questionnaire.Text.Blank
import Questionnaire.Text.Word

/-!
# Scanning a Formula

From the characters of a formula to its tokens. Scanning does not depend on what
the tokens are for, so the whole text is scanned at once; where it cannot go
on, the scan keeps the tokens before that place and ends in the fault. Whoever
reads the tokens meets the fault only after them, and an error of an earlier
token comes first.

Two tokens need a look ahead. A dash joins words, as in `string-length`, only in
the name of a function: the joined word is taken if an opening parenthesis
follows it, and otherwise the word ends at its first dash. An `e` belongs to a
number only if an exponent with a digit follows.

A quoted text is checked for its escapes but not decoded, since the form engine
understands the same ones.

The scan walks over the text once. `inside` counts the characters of the last
token that are still to be passed, which keeps the recursion on the text itself.

## Main definitions

* `numeral`: The number a text begins with.
* `word`: The word a text begins with.
* `escapeLength`: The length of an escape, or where it goes wrong.
* `quoteLength`: The length of a quoted text, or where it goes wrong.
* `tokenAt`: The token at a character, and how many more characters it has.
* `Scan`: Tokens and what ends them.
* `Scan.ofChars`: The scan of a formula.
-/

namespace Questionnaire

namespace Formula

/-- The point and digits that a text begins with, if it begins with a point. -/
def fraction : List Char → List Char
  | '.' :: rest => '.' :: rest.takeWhile Char.isDigit
  | _ => []

/-- The exponent that a text begins with. It needs a digit; its sign is optional. -/
def exponent : List Char → List Char
  | [] => []
  | c :: rest =>
    let sign := (rest.take 1).filter fun s => s == '+' || s == '-'
    let digits := (rest.drop sign.length).takeWhile Char.isDigit
    if (c == 'e' || c == 'E') && !digits.isEmpty then c :: (sign ++ digits) else []

/-- The number that a text begins with: digits, a fraction and an exponent. -/
def numeral (cs : List Char) : List Char :=
  let whole := cs.takeWhile Char.isDigit
  let afterWhole := cs.drop whole.length
  let part := fraction afterWhole
  whole ++ part ++ exponent (afterWhole.drop part.length)

/-- Whether a text begins with a character of a class. -/
def beginsWith (p : Char → Bool) : List Char → Bool
  | [] => false
  | c :: _ => p c

/-- After a word, the dashes with the words that they join to it. A dash joins
    only a word that begins with a letter. -/
def dashedWords : List Char → List Char
  | [] => []
  | c :: rest =>
    if Text.isWordChar c || (c == '-' && beginsWith Text.isAlphabetic rest) then
      c :: dashedWords rest
    else []

/-- The word that a text begins with. Words joined by dashes are one word if they
    name the function of a call. -/
def word (cs : List Char) : List Char :=
  let short := cs.takeWhile Text.isWordChar
  let rest := cs.drop short.length
  let dashed := dashedWords rest
  if beginsWith (· == '(') (Text.skipBlanks (rest.drop dashed.length)) then short ++ dashed
  else short

/-- The value of the first `count` characters as digits to a base, or the index
    of the first that is none. -/
def digitsValue (base : Nat) : (count seen value : Nat) → List Char → Except Nat Nat
  | 0, _, value, _ => .ok value
  | _ + 1, seen, _, [] => .error seen
  | count + 1, seen, value, c :: rest =>
    match Number.digitValue? base c with
    | some digit => digitsValue base count (seen + 1) (value * base + digit) rest
    | none => .error seen

/-- The number of characters an escape has after its backslash; or the number
    that are right, and what is wrong with the next. -/
def escapeLength (mark : Char) : List Char → Except (Nat × Cause) Nat
  | [] => .error (0, .unterminatedQuote)
  | c :: rest =>
    if c == mark || "abfnrtv\\".toList.contains c then .ok 1
    else if '0' ≤ c ∧ c ≤ '7' then
      match digitsValue 8 3 0 0 (c :: rest) with
      | .error good => .error (good, .invalidEscape)
      | .ok value => if value ≤ 255 then .ok 3 else .error (3, .invalidEscape)
    else
      let count := if c = 'x' then 2 else if c = 'u' then 4 else if c = 'U' then 8 else 0
      if count = 0 then .error (0, .invalidEscape)
      else match digitsValue 16 count 0 0 rest with
        | .error good => .error (good + 1, .invalidEscape)
        | .ok value =>
          if c = 'x' ∨ value.isValidChar then .ok (count + 1)
          else .error (count + 1, .invalidEscape)

/-- The number of characters of a quoted text after its opening mark, the closing
    mark included; or the number that are right, and what is wrong with the
    next. `escaped` counts the characters of an escape still to be passed, and
    `seen` the characters passed. -/
def quoteLength (mark : Char) : (escaped seen : Nat) → List Char → Except (Nat × Cause) Nat
  | _, seen, [] => .error (seen, .unterminatedQuote)
  | escaped + 1, seen, _ :: rest => quoteLength mark escaped (seen + 1) rest
  | 0, seen, c :: rest =>
    if c = '\n' then .error (seen, .unterminatedQuote)
    else if c = mark then .ok (seen + 1)
    else if c = '\\' then
      match escapeLength mark rest with
      | .error (good, cause) => .error (seen + 1 + good, cause)
      | .ok length => quoteLength mark length (seen + 1) rest
    else quoteLength mark 0 (seen + 1) rest

/-- The token that begins with the character `c`, and the number of characters it
    has after `c`; or the number of characters that are right, and what is wrong
    with the next. -/
def tokenAt (c : Char) (rest : List Char) : Except (Nat × Cause) (Token × Nat) :=
  if Text.isWordStart c then
    let w := word (c :: rest)
    .ok (.word (String.ofList w), w.length - 1)
  else if c.isDigit || (c == '.' && beginsWith Char.isDigit rest) then
    let n := numeral (c :: rest)
    .ok (.number (String.ofList n), n.length - 1)
  else if c == '"' || c == '\'' then
    match quoteLength c 0 0 rest with
    | .ok length => .ok (.quote (String.ofList (c :: rest.take length)), length)
    | .error (good, cause) => .error (good + 1, cause)
  else
    match rest.head?.bind (Symbol.ofPair c) with
    | some s => .ok (.symbol s, 1)
    | none =>
      match Symbol.ofChar c with
      | some s => .ok (.symbol s, 0)
      | none => .error (0, .invalidCharacter c)

/-- The tokens of a formula, and what ends them: the end of the formula, or a
    fault. -/
structure Scan where
  lexemes : List Lexeme
  stop : Except Fault Position

namespace Scan

/-- The scan of a text that begins at a position, with `inside` characters of the
    last token to be passed first. -/
def resume (inside : Nat) (p : Position) : List Char → Scan
  | [] => ⟨[], .ok p⟩
  | c :: rest =>
    match inside with
    | more + 1 => resume more (p.step c) rest
    | 0 =>
      if Text.isBlank c then resume 0 (p.step c) rest
      else match tokenAt c rest with
        | .error (good, cause) => ⟨[], .error ⟨p.advance ((c :: rest).take good), cause⟩⟩
        | .ok (t, more) =>
          let after := resume more (p.step c) rest
          ⟨⟨t, p⟩ :: after.lexemes, after.stop⟩

/-- The scan of a formula. -/
def ofChars (cs : List Char) : Scan :=
  resume 0 .start cs

end Scan

end Formula

end Questionnaire
