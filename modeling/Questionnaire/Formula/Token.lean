/-!
# Tokens of a Formula

A formula is a text of words, numbers, quoted texts and symbols. Numbers and
quoted texts are carried as they were written: they pass to the output
unchanged, so nothing here gives them a value.

A token is kept with the place of its first character, since that is where a
message about it points. Lines and columns count from one, and a column counts
characters.

## Main definitions

* `Position`: A line and a column.
* `Position.step`, `Position.advance`: The position after characters.
* `Symbol`: The operators and delimiters.
* `Token`: A word, number, quoted text or symbol.
* `Token.shown`: How a message names a token.
* `Lexeme`: A token and its position.
-/

namespace Questionnaire

namespace Formula

/-- A place in the text of a formula, counted from one. -/
structure Position where
  line : Nat
  column : Nat
deriving DecidableEq, Repr

namespace Position

/-- The first character of a text. -/
def start : Position :=
  ⟨1, 1⟩

/-- The position after one character: a line feed begins the next line. -/
def step (p : Position) (c : Char) : Position :=
  if c = '\n' then ⟨p.line + 1, 1⟩ else ⟨p.line, p.column + 1⟩

/-- The position after a run of characters. -/
def advance (p : Position) (cs : List Char) : Position :=
  cs.foldl step p

@[simp]
theorem advance_nil (p : Position) : p.advance [] = p :=
  rfl

@[simp]
theorem advance_cons (p : Position) (c : Char) (cs : List Char) :
    p.advance (c :: cs) = (p.step c).advance cs :=
  rfl

end Position

/-- The operators and delimiters of a formula. -/
inductive Symbol
  | openParen | closeParen | comma | dollar | openBrace | closeBrace
  | dot | twoDots | plus | minus | star
  | equal | twoEquals | bang | notEqual | less | atMost | greater | atLeast
deriving DecidableEq, Repr

namespace Symbol

/-- How a symbol is written. -/
def text : Symbol → String
  | openParen => "("
  | closeParen => ")"
  | comma => ","
  | dollar => "$"
  | openBrace => "\x7b"
  | closeBrace => "\x7d"
  | dot => "."
  | twoDots => ".."
  | plus => "+"
  | minus => "-"
  | star => "*"
  | equal => "="
  | twoEquals => "=="
  | bang => "!"
  | notEqual => "!="
  | less => "<"
  | atMost => "<="
  | greater => ">"
  | atLeast => ">="

/-- The symbol that two neighbouring characters make together. -/
def ofPair : Char → Char → Option Symbol
  | '=', '=' => some twoEquals
  | '!', '=' => some notEqual
  | '<', '=' => some atMost
  | '>', '=' => some atLeast
  | '.', '.' => some twoDots
  | _, _ => none

/-- The symbol that is a single character. -/
def ofChar : Char → Option Symbol
  | '(' => some openParen
  | ')' => some closeParen
  | ',' => some comma
  | '$' => some dollar
  | '\x7b' => some openBrace
  | '\x7d' => some closeBrace
  | '.' => some dot
  | '+' => some plus
  | '-' => some minus
  | '*' => some star
  | '=' => some equal
  | '!' => some bang
  | '<' => some less
  | '>' => some greater
  | _ => none

end Symbol

/-- A token of a formula. Numbers and quoted texts are kept as written, the
    latter with their quotation marks. -/
inductive Token
  | word (text : String)
  | number (text : String)
  | quote (text : String)
  | symbol (s : Symbol)
deriving DecidableEq, Repr

namespace Token

/-- How a message names a token. -/
def shown : Token → String
  | word text => "identifier \"" ++ text ++ "\""
  | number text => "number " ++ text
  | quote text => "string " ++ text
  | symbol s => "\"" ++ s.text ++ "\""

/-- How a message names what stands at a place: a token, or the end of the
    formula. -/
def shownOrEnd : Option Token → String
  | some t => t.shown
  | none => "end of formula"

end Token

/-- A token and the position of its first character. -/
structure Lexeme where
  token : Token
  position : Position
deriving DecidableEq, Repr

end Formula

end Questionnaire
