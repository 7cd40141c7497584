import Questionnaire.Json.Printer
import Questionnaire.Number.Digit

/-!
# JSON Texts

What it means that a text is valid JSON and has a value, said without regard to
how the text was made. It is the grammar of the standard, in two layers. A text
is a row of tokens with blanks between them; and the tokens of a value are
given by the value. Only what documents need is here: values are without null,
and numbers are integers, so a text with anything else has no value.

A lexer reads the tokens character by character. It is a machine and not a
function on texts, because what it has read of a text is all that it needs for
the rest; so the tokens of a text that was put together can be told from those
of its parts. A number or a word ends where something else begins, and until
then it is kept aside: `settle` gives the tokens with the one that is pending.

The grammar is unambiguous. The tokens of a value tell where it ends, whatever
follows, and so a text has one value at most.

## Main definitions

* `Token`: The tokens.
* `unescape`: The characters that the inside of a string stands for.
* `integer?`: The integer that a text is.
* `Lexer`, `Lexer.step`, `Lexer.run`: The reader of tokens.
* `tokens`: How a value is written.
* `Spells`: A text is valid, and has a value.

## Theorems

* `Lexer.run_append`: Texts are read one after another.
* `tokens_append_inj`: The tokens of a value tell it, whatever follows.
* `Spells.unique`: A text has one value.
-/

namespace Questionnaire

namespace Json

/-- A token of a JSON text. -/
inductive Token
  | openBrace | closeBrace | openBracket | closeBracket | colon | comma
  | bool (b : Bool)
  | integer (n : Int)
  | string (s : String)
deriving DecidableEq, Repr

namespace Token

/-- The token that a single character is. -/
def ofChar : Char → Option Token
  | '\x7b' => some openBrace
  | '\x7d' => some closeBrace
  | '[' => some openBracket
  | ']' => some closeBracket
  | ':' => some colon
  | ',' => some comma
  | _ => none

/-- The token that a word is. -/
def ofWord (word : List Char) : Option Token :=
  if word = "true".toList then some (bool true)
  else if word = "false".toList then some (bool false)
  else none

end Token

/-! ### Tokens with an inside -/

/-- Whether a character may stand between tokens. -/
def isSpace (c : Char) : Bool :=
  c == ' ' || c == '\t' || c == '\n' || c == '\r'

/-- The character that a letter or sign behind a backslash stands for. -/
def shortEscape? : Char → Option Char
  | '"' => some '"'
  | '\\' => some '\\'
  | '/' => some '/'
  | 'b' => some '\x08'
  | 'f' => some '\x0c'
  | 'n' => some '\n'
  | 'r' => some '\r'
  | 't' => some '\t'
  | _ => none

/-- The value of four hexadecimal digits. -/
def codeUnit? (a b c d : Char) : Option Nat :=
  [a, b, c, d].foldlM (fun value digit => (Number.digitValue? 16 digit).map (16 * value + ·)) 0

/-- The character that is written as two code units. -/
def surrogates? (high low : Nat) : Option Char :=
  if 0xd800 ≤ high ∧ high < 0xdc00 ∧ 0xdc00 ≤ low ∧ low < 0xe000 then
    some (Char.ofNat (0x10000 + (high - 0xd800) * 0x400 + (low - 0xdc00)))
  else none

/-- The characters that the inside of a string stands for. Control characters and
    quotation marks do not stand there by themselves. -/
def unescape : List Char → Option (List Char)
  | [] => some []
  | '\\' :: 'u' :: a :: b :: c :: d :: rest =>
    match codeUnit? a b c d with
    | none => none
    | some unit =>
      if unit.isValidChar then (unescape rest).map (Char.ofNat unit :: ·)
      else match rest with
        | '\\' :: 'u' :: e :: f :: g :: h :: rest' =>
          ((codeUnit? e f g h).bind (surrogates? unit)).bind fun c =>
            (unescape rest').map (c :: ·)
        | _ => none
  | '\\' :: c :: rest => (shortEscape? c).bind fun c => (unescape rest).map (c :: ·)
  | c :: rest =>
    if c.toNat < 0x20 || c == '"' || c == '\\' then none else (unescape rest).map (c :: ·)

/-- The natural number that digits are. A zero does not stand before other digits. -/
def natural? (digits : List Char) : Option Nat :=
  match digits with
  | [] => none
  | ['0'] => some 0
  | '0' :: _ => none
  | _ => if digits.all Char.isDigit then some (Nat.ofDigitChars 10 digits 0) else none

/-- The integer that a text is. -/
def integer? : List Char → Option Int
  | '-' :: digits => (natural? digits).map fun n => -(n : Int)
  | digits => (natural? digits).map fun n => (n : Int)

/-! ### Reading tokens -/

/-- Where a lexer stands: between tokens, in a number or a word, inside a string, or
    behind a backslash there. Except between tokens, it has what it has read of the
    token so far. -/
inductive Mode
  | ready
  | number (text : List Char)
  | word (text : List Char)
  | inside (text : List Char)
  | escaped (text : List Char)
deriving DecidableEq, Repr

/-- A reader of tokens: those before, and where it stands. -/
structure Lexer where
  tokens : List Token
  mode : Mode
deriving DecidableEq, Repr

namespace Lexer

/-- The tokens so far, with the number or word that is pending. A string has to be
    closed. -/
def settle (l : Lexer) : Option (List Token) :=
  match l.mode with
  | .ready => some l.tokens
  | .number text => (integer? text).map fun n => l.tokens ++ [.integer n]
  | .word text => (Token.ofWord text).map fun t => l.tokens ++ [t]
  | .inside _ | .escaped _ => none

/-- The lexer after a character that stands behind complete tokens. -/
def begin (ts : List Token) (c : Char) : Option Lexer :=
  if isSpace c then some ⟨ts, .ready⟩
  else if c = '"' then some ⟨ts, .inside []⟩
  else if c = '-' ∨ c.isDigit then some ⟨ts, .number [c]⟩
  else if c.isLower then some ⟨ts, .word [c]⟩
  else (Token.ofChar c).map fun t => ⟨ts ++ [t], .ready⟩

/-- The lexer after one more character. -/
def step (l : Lexer) (c : Char) : Option Lexer :=
  match l.mode with
  | .ready => begin l.tokens c
  | .number text =>
    if c.isDigit then some { l with mode := .number (text ++ [c]) }
    else l.settle.bind fun ts => begin ts c
  | .word text =>
    if c.isLower then some { l with mode := .word (text ++ [c]) }
    else l.settle.bind fun ts => begin ts c
  | .inside text =>
    if c = '"' then
      (unescape text).map fun cs => ⟨l.tokens ++ [.string (String.ofList cs)], .ready⟩
    else if c = '\\' then some { l with mode := .escaped (text ++ [c]) }
    else some { l with mode := .inside (text ++ [c]) }
  | .escaped text => some { l with mode := .inside (text ++ [c]) }

/-- The lexer after a text. -/
def run (l : Lexer) (cs : List Char) : Option Lexer :=
  cs.foldlM step l

@[simp]
theorem run_nil (l : Lexer) : l.run [] = some l :=
  rfl

theorem run_cons (l : Lexer) (c : Char) (cs : List Char) :
    l.run (c :: cs) = (l.step c).bind fun l' => l'.run cs :=
  rfl

theorem run_append (l : Lexer) (as bs : List Char) :
    l.run (as ++ bs) = (l.run as).bind fun l' => l'.run bs :=
  List.foldlM_append

end Lexer

/-- The tokens of a text. -/
def lex (cs : List Char) : Option (List Token) :=
  (Lexer.run ⟨[], .ready⟩ cs).bind Lexer.settle

/-! ### Values -/

mutual

/-- How a value is written in tokens. -/
def tokens : Json → List Token
  | bool b => [.bool b]
  | integer n => [.integer n]
  | string s => [.string s]
  | array [] => [.openBracket, .closeBracket]
  | array (item :: items) => .openBracket :: (tokens item ++ tokensOfItems items)
  | object [] => [.openBrace, .closeBrace]
  | object ((key, value) :: members) =>
    .openBrace :: .string key :: .colon :: (tokens value ++ tokensOfMembers members)

/-- How the items of an array after the first are written, and its end. -/
def tokensOfItems : List Json → List Token
  | [] => [.closeBracket]
  | item :: items => .comma :: (tokens item ++ tokensOfItems items)

/-- How the members of an object after the first are written, and its end. -/
def tokensOfMembers : List (String × Json) → List Token
  | [] => [.closeBrace]
  | (key, value) :: members =>
    .comma :: .string key :: .colon :: (tokens value ++ tokensOfMembers members)

end

/-- Whether a text is valid and has this value. -/
def Spells (text : String) (j : Json) : Prop :=
  lex text.toList = some j.tokens

/-! ### One value at most -/

/-- The token that a value begins with. -/
def head : Json → Token
  | bool b => .bool b
  | integer n => .integer n
  | string s => .string s
  | array _ => .openBracket
  | object _ => .openBrace

theorem exists_tokens_eq (j : Json) : ∃ ts, j.tokens = j.head :: ts := by
  match j with
  | bool b | integer n | string s | array [] | array (item :: items) | object []
  | object ((key, value) :: members) =>
      rw [tokens]
      exact ⟨_, rfl⟩

/-- What ends an array begins no value. -/
theorem tokens_ne_closeBracket (j : Json) (rest rest' : List Token) :
    j.tokens ++ rest ≠ .closeBracket :: rest' := by
  intro h
  rcases exists_tokens_eq j with ⟨ts, hts⟩
  rw [hts, List.cons_append, List.cons_eq_cons] at h
  cases j <;> cases h.1

mutual

/-- The tokens of a value tell it, whatever follows. -/
theorem tokens_append_inj {rest rest' : List Token} (j k : Json)
    (h : j.tokens ++ rest = k.tokens ++ rest') : j = k ∧ rest = rest' := by
  rcases exists_tokens_eq j with ⟨ts, hj⟩
  rcases exists_tokens_eq k with ⟨ts', hk⟩
  have hhead : j.head = k.head := by
    rw [hj, hk] at h
    exact (List.cons.inj h).1
  match j, k, hhead with
  | bool b, bool _, rfl | integer n, integer _, rfl | string s, string _, rfl =>
      exact ⟨rfl, List.append_cancel_left h⟩
  | array [], array [], _ => exact ⟨rfl, List.append_cancel_left h⟩
  | array [], array (item :: items), _ =>
      simp only [tokens, List.cons_append, List.nil_append, List.append_assoc, List.cons.injEq,
        true_and] at h
      exact absurd h.symm (tokens_ne_closeBracket item _ _)
  | array (item :: items), array [], _ =>
      simp only [tokens, List.cons_append, List.nil_append, List.append_assoc, List.cons.injEq,
        true_and] at h
      exact absurd h (tokens_ne_closeBracket item _ _)
  | array (item :: items), array (item' :: items'), _ =>
      simp only [tokens, List.cons_append, List.append_assoc, List.cons.injEq, true_and] at h
      rcases tokens_append_inj item item' h with ⟨rfl, hmore⟩
      rcases tokensOfItems_append_inj items items' hmore with ⟨rfl, hrest⟩
      exact ⟨rfl, hrest⟩
  | object [], object [], _ => exact ⟨rfl, List.append_cancel_left h⟩
  | object [], object ((key, value) :: members), _ =>
      rw [tokens, tokens] at h
      cases h
  | object ((key, value) :: members), object [], _ =>
      rw [tokens, tokens] at h
      cases h
  | object ((key, value) :: members), object ((key', value') :: members'), _ =>
      simp only [tokens, List.cons_append, List.append_assoc, List.cons.injEq,
        Token.string.injEq, true_and] at h
      rcases h with ⟨rfl, hvalue⟩
      rcases tokens_append_inj value value' hvalue with ⟨rfl, hmore⟩
      rcases tokensOfMembers_append_inj members members' hmore with ⟨rfl, hrest⟩
      exact ⟨rfl, hrest⟩

theorem tokensOfItems_append_inj {rest rest' : List Token} (items items' : List Json)
    (h : tokensOfItems items ++ rest = tokensOfItems items' ++ rest') :
    items = items' ∧ rest = rest' := by
  match items, items' with
  | [], [] => exact ⟨rfl, List.append_cancel_left h⟩
  | [], item :: items =>
      rw [tokensOfItems, tokensOfItems] at h
      cases h
  | item :: items, [] =>
      rw [tokensOfItems, tokensOfItems] at h
      cases h
  | item :: items, item' :: items' =>
      simp only [tokensOfItems, List.cons_append, List.append_assoc, List.cons.injEq,
        true_and] at h
      rcases tokens_append_inj item item' h with ⟨rfl, hmore⟩
      rcases tokensOfItems_append_inj items items' hmore with ⟨rfl, hrest⟩
      exact ⟨rfl, hrest⟩

theorem tokensOfMembers_append_inj {rest rest' : List Token}
    (members members' : List (String × Json))
    (h : tokensOfMembers members ++ rest = tokensOfMembers members' ++ rest') :
    members = members' ∧ rest = rest' := by
  match members, members' with
  | [], [] => exact ⟨rfl, List.append_cancel_left h⟩
  | [], (key, value) :: members =>
      rw [tokensOfMembers, tokensOfMembers] at h
      cases h
  | (key, value) :: members, [] =>
      rw [tokensOfMembers, tokensOfMembers] at h
      cases h
  | (key, value) :: members, (key', value') :: members' =>
      simp only [tokensOfMembers, List.cons_append, List.append_assoc, List.cons.injEq,
        Token.string.injEq, true_and] at h
      rcases h with ⟨rfl, hvalue⟩
      rcases tokens_append_inj value value' hvalue with ⟨rfl, hmore⟩
      rcases tokensOfMembers_append_inj members members' hmore with ⟨rfl, hrest⟩
      exact ⟨rfl, hrest⟩

end

/-- A text has one value at most. -/
theorem Spells.unique {text : String} {j k : Json} (hj : Spells text j) (hk : Spells text k) :
    j = k := by
  have htokens : j.tokens ++ [] = k.tokens ++ [] := by
    rw [Spells] at hj hk
    rw [Option.some.inj (hj.symm.trans hk)]
  exact (tokens_append_inj j k htokens).1

end Json

end Questionnaire
