import Questionnaire.Formula.Function
import Questionnaire.Formula.Token
import Questionnaire.Text.Quoted

/-!
# Errors in Formulas

Why a formula is refused. An error carries where the formula stands (a column
of the survey, or a cell of a table), the position inside the formula, and the
cause; the words of the message are made from the cause alone.

## Main definitions

* `Place`: The column or cell that a formula stands in.
* `Cause`: What is wrong.
* `Cause.message`: The cause in words.
* `Error`: A cause at a position of the formula in a place.
* `Error.message`: The error in words.
-/

namespace Questionnaire

namespace Formula

/-- The column of the survey, or the cell of a table, that a formula stands in. -/
inductive Place
  | relevant
  | constraint
  | calculation
  | choiceFilter
  | readonly
  | default
  /-- A cell of a table, by the name of its value. -/
  | cell (name : String)
deriving DecidableEq, Repr

namespace Place

/-- How a message names a place. -/
def text : Place → String
  | relevant => "relevant"
  | constraint => "constraint"
  | calculation => "calculation"
  | choiceFilter => "choice_filter"
  | readonly => "readonly"
  | default => "default"
  | cell name => name

/-- Whether a formula in this place may name the columns of a choice. -/
def hasColumns : Place → Bool
  | choiceFilter => true
  | _ => false

end Place

/-- What can follow in a formula where something else was found. -/
inductive Expectation
  | token (t : Token)
  | name
  /-- A comma or the end of a call. -/
  | moreArguments
deriving DecidableEq, Repr

/-- How a message names what can follow. -/
def Expectation.shown : Expectation → String
  | token t => t.shown
  | name => "identifier"
  | moreArguments => "\",\" or \")\""

/-- What is wrong with a formula. What was found is a token, or `none` at the end
    of the formula. -/
inductive Cause
  | unexpectedToken (found : Option Token)
  | expected (what : Expectation) (found : Option Token)
  | doubleEquals
  | unaryNot
  | parentReference
  | consecutiveSigns
  | unknownFunction (name : String)
  | argumentCount (f : Function) (actual : Nat)
  | bareName (name : String)
  | invalidEscape
  | unterminatedQuote
  | invalidCharacter (c : Char)
  /-- Parentheses and calls nest deeper than the limit. -/
  | tooDeep (limit : Nat)
deriving DecidableEq, Repr

/-- A cause in words. -/
def Cause.message : Cause → String
  | unexpectedToken found => "Unexpected token " ++ Token.shownOrEnd found ++ "."
  | expected what found =>
    "Expected " ++ what.shown ++ ", found " ++ Token.shownOrEnd found ++ "."
  | doubleEquals => "Unexpected token \"==\". (did you mean \"=\"?)"
  | unaryNot => "Unary operator \"!\" not supported, use not()."
  | parentReference => "\"..\" is not supported in formulas."
  | consecutiveSigns => "Consecutive \"+\"/\"-\" signs are not supported."
  | unknownFunction name => "Unknown function \"" ++ name ++ "\"."
  | argumentCount f actual =>
    "Function \"" ++ f.name ++ "\" expects " ++ f.arity ++ " arguments, found " ++
      toString actual ++ "."
  | bareName name =>
    "Identifier \"" ++ name ++ "\" is not allowed here, did you mean \"$\x7b" ++ name ++ "\x7d\"?"
  | invalidEscape => "Invalid escape sequence in string literal."
  | unterminatedQuote => "String literal not terminated."
  | invalidCharacter c => "Invalid character " ++ Text.quotedChar c ++ "."
  | tooDeep limit => "Formula nested too deeply (more than " ++ toString limit ++ " levels)."

/-- A cause at a position of a formula. -/
structure Fault where
  position : Position
  cause : Cause
deriving DecidableEq, Repr

/-- A fault of the formula in a place. -/
structure Error where
  place : Place
  fault : Fault
deriving DecidableEq, Repr

/-- An error in words. -/
def Error.message (e : Error) : String :=
  "formula " ++ e.place.text ++ ":" ++ toString e.fault.position.line ++ ":" ++
    toString e.fault.position.column ++ ": " ++ e.fault.cause.message

end Formula

end Questionnaire
