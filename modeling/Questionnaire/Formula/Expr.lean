import Questionnaire.Formula.Function
import Questionnaire.Formula.Token

/-!
# Expressions

What a formula says. The operators have no order of precedence among them: an
expression is a row of terms with operators between them, and the form engine,
which reads the result, applies its own precedence. So the tree branches only
where the formula has parentheses or a call, and a row of terms is kept as the
expression to the left of its last operator.

Two texts go with an expression. `tokens` is how it is written as a formula,
and `render` is what it becomes: quoted texts and numbers pass through, a
reference to a question becomes its name, and `.` becomes the name of the
question that the formula belongs to.

## Main definitions

* `Sign`, `Operator`: What stands before and between terms.
* `Atom`: A term without parts.
* `Expr`, `Term`: A row of terms, and a term.
* `Expr.tokens`: The expression as a formula.
* `Expr.render`: The expression for the form engine.
* `Expr.depth`: How deep its parentheses and calls nest.
* `Expr.Allowed`: Calls are of known functions with right counts, no sign
  follows a plus or minus, and plain names appear only where they may.
-/

namespace Questionnaire

namespace Formula

/-- A sign before a term. -/
inductive Sign
  | plus
  | minus
deriving DecidableEq, Repr

/-- An operator between two terms. -/
inductive Operator
  | add | subtract | multiply | divide | modulo
  | equal | notEqual | less | atMost | greater | atLeast
  | and | or
deriving DecidableEq, Repr

/-- A term without parts. -/
inductive Atom
  /-- A number, as written. -/
  | number (text : String)
  /-- A quoted text, as written. -/
  | quote (text : String)
  /-- The value of the question of a name. -/
  | field (name : String)
  /-- The value of the question the formula belongs to. -/
  | self
  /-- A truth value. -/
  | truth (value : Bool)
  /-- A column of the choice that is being filtered. -/
  | column (name : String)
deriving DecidableEq, Repr

mutual

/-- A row of terms with operators between them. -/
inductive Expr
  /-- A single term. -/
  | term (t : Term)
  /-- A row of terms, an operator, and one more term. -/
  | chain (left : Expr) (op : Operator) (right : Term)

/-- A term, perhaps with a sign. -/
inductive Term
  | atom (sign : Option Sign) (a : Atom)
  /-- An expression in parentheses. -/
  | group (sign : Option Sign) (inner : Expr)
  /-- A call of a function. -/
  | call (sign : Option Sign) (f : Function) (args : List Expr)

end

namespace Sign

/-- How a sign is written, in a formula and for the form engine. -/
def symbol : Sign → Symbol
  | plus => .plus
  | minus => .minus

/-- The sign that a token is. -/
def ofToken : Token → Option Sign
  | .symbol .plus => some plus
  | .symbol .minus => some minus
  | _ => none

/-- The text of a sign, if there is one. -/
def text : Option Sign → String
  | some s => s.symbol.text
  | none => ""

/-- The token of a sign, if there is one. -/
def tokens : Option Sign → List Token
  | some s => [.symbol s.symbol]
  | none => []

end Sign

namespace Operator

/-- How an operator is written in a formula. -/
def token : Operator → Token
  | add => .symbol .plus
  | subtract => .symbol .minus
  | multiply => .symbol .star
  | divide => .word "div"
  | modulo => .word "mod"
  | equal => .symbol .equal
  | notEqual => .symbol .notEqual
  | less => .symbol .less
  | atMost => .symbol .atMost
  | greater => .symbol .greater
  | atLeast => .symbol .atLeast
  | and => .word "and"
  | or => .word "or"

/-- The operator that a token is. -/
def ofToken : Token → Option Operator
  | .symbol .plus => some add
  | .symbol .minus => some subtract
  | .symbol .star => some multiply
  | .symbol .equal => some equal
  | .symbol .notEqual => some notEqual
  | .symbol .less => some less
  | .symbol .atMost => some atMost
  | .symbol .greater => some greater
  | .symbol .atLeast => some atLeast
  | .word "and" => some and
  | .word "or" => some or
  | .word "div" => some divide
  | .word "mod" => some modulo
  | _ => none

/-- An operator for the form engine, with the blanks around it. -/
def render : Operator → String
  | add => " + "
  | subtract => " - "
  | multiply => "*"
  | divide => "/"
  | modulo => "%"
  | equal => " === "
  | notEqual => " !== "
  | less => " < "
  | atMost => " <= "
  | greater => " > "
  | atLeast => " >= "
  | and => " && "
  | or => " || "

/-- Whether an operator is written like a sign, so that no sign may follow it. -/
def isSign : Operator → Bool
  | add | subtract => true
  | _ => false

end Operator

namespace Atom

/-- How a term without parts is written in a formula. -/
def tokens : Atom → List Token
  | number text => [.number text]
  | quote text => [.quote text]
  | field name => [.symbol .dollar, .symbol .openBrace, .word name, .symbol .closeBrace]
  | self => [.symbol .dot]
  | truth true => [.word "True"]
  | truth false => [.word "False"]
  | column name => [.word name]

/-- A term without parts for the form engine, in a formula that belongs to the
    question `subject`. The column of a choice called `name` holds its value. -/
def render (subject : String) : Atom → String
  | number text => text
  | quote text => text
  | field name => name
  | self => subject
  | truth true => "true"
  | truth false => "false"
  | column name => "$choice." ++ if name = "name" then "value" else name

end Atom

/-- Arguments of a call with the commas between them. -/
def commaSeparated : List (List Token) → List Token
  | [] => []
  | [arg] => arg
  | arg :: args => arg ++ .symbol .comma :: commaSeparated args

mutual

/-- How an expression is written in a formula. -/
def Expr.tokens : Expr → List Token
  | .term t => t.tokens
  | .chain left op right => left.tokens ++ op.token :: right.tokens

/-- How a term is written in a formula. -/
def Term.tokens : Term → List Token
  | .atom sign a => Sign.tokens sign ++ a.tokens
  | .group sign inner =>
    Sign.tokens sign ++ .symbol .openParen :: (inner.tokens ++ [.symbol .closeParen])
  | .call sign f args =>
    Sign.tokens sign ++ .word f.name :: .symbol .openParen ::
      (commaSeparated (Expr.tokensEach args) ++ [.symbol .closeParen])

/-- How each of several expressions is written in a formula. -/
def Expr.tokensEach : List Expr → List (List Token)
  | [] => []
  | e :: es => e.tokens :: Expr.tokensEach es

end

mutual

/-- An expression for the form engine, in a formula that belongs to the question
    `subject`. -/
def Expr.render (subject : String) : Expr → String
  | .term t => t.render subject
  | .chain left op right => left.render subject ++ op.render ++ right.render subject

/-- A term for the form engine. -/
def Term.render (subject : String) : Term → String
  | .atom sign a => Sign.text sign ++ a.render subject
  | .group sign inner => Sign.text sign ++ "(" ++ inner.render subject ++ ")"
  | .call sign f args => Sign.text sign ++ f.form.write (Expr.renderEach subject args)

/-- Each of several expressions for the form engine. -/
def Expr.renderEach (subject : String) : List Expr → List String
  | [] => []
  | e :: es => e.render subject :: Expr.renderEach subject es

end

mutual

/-- How deep the parentheses and calls of an expression nest. -/
def Expr.depth : Expr → Nat
  | .term t => t.depth
  | .chain left _ right => max left.depth right.depth

/-- How deep the parentheses and calls of a term nest. -/
def Term.depth : Term → Nat
  | .atom _ _ => 0
  | .group _ inner => inner.depth + 1
  | .call _ _ args => Expr.depthEach args + 1

/-- How deep the deepest of several expressions nests. -/
def Expr.depthEach : List Expr → Nat
  | [] => 0
  | e :: es => max e.depth (Expr.depthEach es)

end

/-- Whether a term begins with a sign. -/
def Term.isSigned : Term → Bool
  | .atom sign _ | .group sign _ | .call sign _ _ => sign.isSome

mutual

/-- Whether an expression may stand in a formula: see `Term.Allowed`; and no sign
    follows a plus or minus. -/
def Expr.Allowed (columns : Bool) : Expr → Prop
  | .term t => t.Allowed columns
  | .chain left op right =>
    left.Allowed columns ∧ right.Allowed columns ∧ (op.isSign = true → right.isSigned = false)

/-- Whether a term may stand in a formula: calls are of functions of the table
    and have a right count of arguments, and a plain word names a column of a
    choice only where `columns` says that there is one, and only if the word
    has no other meaning there. -/
def Term.Allowed (columns : Bool) : Term → Prop
  | .atom _ (.column name) => columns = true ∧ name ≠ "True" ∧ name ≠ "False"
  | .atom _ _ => True
  | .group _ inner => inner.Allowed columns
  | .call _ f args =>
    Function.find? f.name = some f ∧ f.accepts args.length = true ∧
      Expr.AllowedEach columns args

/-- Whether each of several expressions may stand in a formula. -/
def Expr.AllowedEach (columns : Bool) : List Expr → Prop
  | [] => True
  | e :: es => e.Allowed columns ∧ Expr.AllowedEach columns es

end

end Formula

end Questionnaire
