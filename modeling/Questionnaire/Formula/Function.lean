/-!
# Functions of Formulas

The table of functions a formula may call. A row of the table says how many
arguments the function takes and what a call turns into. Most functions only
change their name; some become a method of their first argument, and a few have
a form of their own.

A form is written even for a call with too few arguments, with nothing in their
place: whether the count is right is a separate question, asked by `accepts`.

## Main definitions

* `CallForm`: What a call turns into.
* `CallForm.write`: The call's text, from the texts of its arguments.
* `Function`: A row of the table.
* `Function.table`: All functions.
* `Function.find?`: The row of a name.
* `Function.accepts`: Whether a count of arguments is right.
* `Function.arity`: The right counts, in words.
-/

namespace Questionnaire

namespace Formula

/-- What a call turns into, once its arguments have been written. -/
inductive CallForm
  /-- The call under another name. -/
  | call (name : String)
  /-- A method of the first argument, called with the others. -/
  | method (name : String)
  /-- A choice between the second and the third argument. -/
  | conditional
  /-- Whether the first argument matches the pattern in the second. -/
  | matching
  /-- The length of the argument. -/
  | length
  /-- Ten to the power of the argument. -/
  | powerOfTen
  /-- A fixed expression. -/
  | constant (text : String)
deriving DecidableEq, Repr

namespace CallForm

/-- The text of a call, from the texts of its arguments. An argument that is
    not there is written as nothing. -/
def write (form : CallForm) (args : List String) : String :=
  let arg (i : Nat) : String := args.getD i ""
  match form with
  | call name => name ++ "(" ++ ", ".intercalate args ++ ")"
  | method name => "(" ++ arg 0 ++ ")." ++ name ++ "(" ++ ", ".intercalate args.tail ++ ")"
  | conditional => "(" ++ arg 0 ++ " ? " ++ arg 1 ++ " : " ++ arg 2 ++ ")"
  | matching => "((" ++ arg 0 ++ ").match(" ++ arg 1 ++ ") !== null)"
  | length => "(" ++ arg 0 ++ ").length"
  | powerOfTen => "Math.pow(10, " ++ arg 0 ++ ")"
  | constant text => text

end CallForm

/-- A function a formula may call. -/
structure Function where
  /-- The name it is called by. -/
  name : String
  /-- The least number of arguments. -/
  least : Nat
  /-- The greatest number of arguments, if there is one. -/
  most : Option Nat
  /-- What a call turns into. -/
  form : CallForm
deriving DecidableEq, Repr

namespace Function

/-- Whether a call may have so many arguments. -/
def accepts (f : Function) (count : Nat) : Bool :=
  decide (f.least ≤ count) && match f.most with
    | some most => decide (count ≤ most)
    | none => true

/-- The numbers of arguments a call may have, in words. -/
def arity (f : Function) : String :=
  match f.most with
  | some most =>
    if most = f.least then toString most else toString f.least ++ " to " ++ toString most
  | none => "at least " ++ toString f.least

/-- The functions on numbers. -/
def numberTable : List Function := [
  ⟨"max", 1, none, .call "Math.max"⟩,
  ⟨"min", 1, none, .call "Math.min"⟩,
  ⟨"floor", 1, some 1, .call "Math.floor"⟩,
  ⟨"int", 1, some 1, .call "Math.floor"⟩,
  ⟨"ceiling", 1, some 1, .call "Math.ceil"⟩,
  ⟨"pow", 1, some 2, .call "Math.pow"⟩,
  ⟨"log", 1, some 1, .call "Math.log"⟩,
  ⟨"log10", 1, some 1, .call "Math.log10"⟩,
  ⟨"abs", 1, some 1, .call "Math.abs"⟩,
  ⟨"sin", 1, some 1, .call "Math.sin"⟩,
  ⟨"cos", 1, some 1, .call "Math.cos"⟩,
  ⟨"tan", 1, some 1, .call "Math.tan"⟩,
  ⟨"asin", 1, some 1, .call "Math.asin"⟩,
  ⟨"acos", 1, some 1, .call "Math.acos"⟩,
  ⟨"atan", 1, some 1, .call "Math.atan"⟩,
  ⟨"atan2", 2, some 2, .call "Math.atan2"⟩,
  ⟨"sqrt", 1, some 1, .call "Math.sqrt"⟩,
  ⟨"exp", 1, some 1, .call "Math.exp"⟩,
  ⟨"exp10", 1, some 1, .powerOfTen⟩,
  ⟨"random", 0, some 0, .call "Math.random"⟩,
  ⟨"pi", 0, some 0, .constant "Math.PI"⟩,
  ⟨"round", 1, some 2, .call "round"⟩]

/-- The functions on truth values, and those that turn one kind of value into
    another. -/
def logicTable : List Function := [
  ⟨"string", 1, some 1, .call "String"⟩,
  ⟨"number", 1, some 1, .call "Number"⟩,
  ⟨"boolean", 1, some 1, .call "Boolean"⟩,
  ⟨"if", 3, some 3, .conditional⟩,
  ⟨"not", 1, some 1, .call "!"⟩,
  ⟨"true", 0, some 0, .constant "true"⟩,
  ⟨"false", 0, some 0, .constant "false"⟩]

/-- The functions on texts and on chosen values. -/
def textTable : List Function := [
  ⟨"regex", 2, some 2, .matching⟩,
  ⟨"contains", 2, some 2, .method "includes"⟩,
  ⟨"starts-with", 2, some 2, .method "startsWith"⟩,
  ⟨"ends-with", 2, some 2, .method "endsWith"⟩,
  ⟨"substr", 2, some 3, .method "substring"⟩,
  ⟨"concat", 1, none, .method "concat"⟩,
  ⟨"string-length", 1, some 1, .length⟩,
  ⟨"selected", 2, some 2, .call "valueInChoice"⟩,
  ⟨"count-selected", 1, some 1, .length⟩]

/-- All functions a formula may call. -/
def table : List Function :=
  numberTable ++ logicTable ++ textTable

/-- The function of a name. -/
def find? (name : String) : Option Function :=
  table.find? fun f => f.name == name

theorem mem_table_of_find? {name : String} {f : Function} (h : find? name = some f) :
    f ∈ table ∧ f.name = name := by
  refine ⟨List.mem_of_find?_eq_some h, ?_⟩
  have := List.find?_some h
  simpa using this

end Function

end Formula

end Questionnaire
