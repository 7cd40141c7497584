import Questionnaire.Formula.Error
import Questionnaire.Formula.Expr
import Questionnaire.Formula.Scan

/-!
# Reading an Expression

An expression is read from its tokens one by one, from left to right. What has
been read so far is kept as a `Reading`: the parentheses and calls that are
open, innermost first, and the stage inside the innermost one. Each token either
takes the reading one step further or is a fault, and the step looks at no
later token; so the first token that cannot stand where it stands is the one
that a fault points at.

A word is the only token whose meaning the next one decides: it is a function
before an opening parenthesis and a column of a choice otherwise. Its stage
waits, and an error about the word comes with the next step, though it points
at the word.

## Main definitions

* `Slot`: A place for a term: what is to its left, and its sign.
* `Frame`: An open parenthesis or call.
* `Stage`: What may come next.
* `Reading`: The open frames and the stage.
* `Reading.next`: The reading after one more token.
* `Reading.finish`: The expression, at the end of the formula.
* `Expr.ofScan`: The expression that a scan spells.
-/

namespace Questionnaire

namespace Formula

/-- The deepest that parentheses and calls may nest. -/
def depthLimit : Nat :=
  100

/-- A place for a term. -/
structure Slot where
  /-- The expression before the term, and the operator between them. -/
  left : Option (Expr × Operator)
  sign : Option Sign

namespace Slot

/-- The place at the beginning of an expression. -/
def first : Slot :=
  ⟨none, none⟩

/-- Whether a sign or an operator that looks like one stands right before the
    place. -/
def followsSign (slot : Slot) : Bool :=
  slot.sign.isSome || match slot.left with
    | some (_, op) => op.isSign
    | none => false

/-- The expression that ends with a term in this place. -/
def fill (slot : Slot) (term : Option Sign → Term) : Expr :=
  match slot.left with
  | some (e, op) => .chain e op (term slot.sign)
  | none => .term (term slot.sign)

end Slot

/-- An open parenthesis or call, and the place of the term that it makes. -/
inductive Frame
  | group (slot : Slot)
  /-- A call of `f`, whose name stands at `p`, with the arguments read so far. -/
  | call (slot : Slot) (f : Function) (p : Position) (args : List Expr)

/-- What may come next. -/
inductive Stage
  /-- A term. -/
  | operand (slot : Slot)
  /-- The first argument of a call, or its end. -/
  | arguments
  /-- The brace after a dollar sign. -/
  | brace (slot : Slot)
  /-- The name of a question. -/
  | fieldName (slot : Slot)
  /-- The brace after the name of a question. -/
  | closingBrace (slot : Slot) (name : String)
  /-- After a word at `p`: the parenthesis of a call, or what follows a term. -/
  | word (slot : Slot) (name : String) (p : Position)
  /-- After a term: an operator, or the end of the expression. -/
  | operator (e : Expr)

/-- How far an expression has been read. -/
structure Reading where
  frames : List Frame
  stage : Stage

namespace Reading

/-- Nothing has been read. -/
def start : Reading :=
  ⟨[], .operand .first⟩

/-- The reading once a frame is opened by the token at `p`. -/
def openFrame (frames : List Frame) (frame : Frame) (stage : Stage) (p : Position) :
    Except Fault Reading :=
  if frames.length < depthLimit then .ok ⟨frame :: frames, stage⟩
  else .error ⟨p, .tooDeep depthLimit⟩

/-- The reading after a token where a term may stand. -/
def operand (frames : List Frame) (slot : Slot) (x : Lexeme) : Except Fault Reading :=
  let done (a : Atom) : Except Fault Reading := .ok ⟨frames, .operator (slot.fill (.atom · a))⟩
  match Sign.ofToken x.token with
  | some sign =>
    if slot.followsSign then .error ⟨x.position, .consecutiveSigns⟩
    else .ok ⟨frames, .operand { slot with sign := some sign }⟩
  | none =>
    match x.token with
    | .number text => done (.number text)
    | .quote text => done (.quote text)
    | .word "True" => done (.truth true)
    | .word "False" => done (.truth false)
    | .word name => .ok ⟨frames, .word slot name x.position⟩
    | .symbol .dot => done .self
    | .symbol .dollar => .ok ⟨frames, .brace slot⟩
    | .symbol .openParen => openFrame frames (.group slot) (.operand .first) x.position
    | .symbol .twoDots => .error ⟨x.position, .parentReference⟩
    | .symbol .bang => .error ⟨x.position, .unaryNot⟩
    | t => .error ⟨x.position, .unexpectedToken (some t)⟩

/-- The reading at the end of a call. -/
def endCall (frames : List Frame) (slot : Slot) (f : Function) (p : Position)
    (args : List Expr) : Except Fault Reading :=
  if f.accepts args.length then .ok ⟨frames, .operator (slot.fill (.call · f args))⟩
  else .error ⟨p, .argumentCount f args.length⟩

/-- The fault of a token, or of the end of the formula, that cannot follow a
    complete expression. It is what the innermost open frame asks for instead. -/
def cannotEnd (frames : List Frame) (found : Option Token) (p : Position) : Fault :=
  match frames with
  | [] => ⟨p, .unexpectedToken found⟩
  | .group _ :: _ => ⟨p, .expected (.token (.symbol .closeParen)) found⟩
  | .call .. :: _ => ⟨p, .expected .moreArguments found⟩

/-- The reading after a token that follows a term. -/
def operator (frames : List Frame) (e : Expr) (x : Lexeme) : Except Fault Reading :=
  match Operator.ofToken x.token with
  | some op => .ok ⟨frames, .operand ⟨some (e, op), none⟩⟩
  | none =>
    match x.token, frames with
    | .symbol .twoEquals, _ => .error ⟨x.position, .doubleEquals⟩
    | .symbol .bang, _ => .error ⟨x.position, .unaryNot⟩
    | .symbol .closeParen, .group slot :: outer =>
      .ok ⟨outer, .operator (slot.fill (.group · e))⟩
    | .symbol .closeParen, .call slot f p args :: outer => endCall outer slot f p (args ++ [e])
    | .symbol .comma, .call slot f p args :: outer =>
      .ok ⟨.call slot f p (args ++ [e]) :: outer, .operand .first⟩
    | t, _ => .error (cannotEnd frames (some t) x.position)

/-- A word at `p` that is not the name of a function. It is a column of a choice,
    if the formula may name one. -/
def column (columns : Bool) (slot : Slot) (name : String) (p : Position) : Except Fault Expr :=
  if columns then .ok (slot.fill (.atom · (.column name)))
  else .error ⟨p, .bareName name⟩

/-- The reading after one more token. `columns` says whether the formula may name
    the columns of a choice. -/
def next (columns : Bool) (r : Reading) (x : Lexeme) : Except Fault Reading :=
  match r.stage with
  | .operand slot => operand r.frames slot x
  | .arguments =>
    match x.token, r.frames with
    | .symbol .closeParen, .call slot f p args :: outer => endCall outer slot f p args
    | _, _ => operand r.frames .first x
  | .brace slot =>
    if x.token = .symbol .openBrace then .ok ⟨r.frames, .fieldName slot⟩
    else .error ⟨x.position, .expected (.token (.symbol .openBrace)) (some x.token)⟩
  | .fieldName slot =>
    match x.token with
    | .word name => .ok ⟨r.frames, .closingBrace slot name⟩
    | t => .error ⟨x.position, .expected .name (some t)⟩
  | .closingBrace slot name =>
    if x.token = .symbol .closeBrace then
      .ok ⟨r.frames, .operator (slot.fill (.atom · (.field name)))⟩
    else .error ⟨x.position, .expected (.token (.symbol .closeBrace)) (some x.token)⟩
  | .word slot name p =>
    if x.token = .symbol .openParen then
      match Function.find? name with
      | some f => openFrame r.frames (.call slot f p []) .arguments p
      | none => .error ⟨p, .unknownFunction name⟩
    else do
      let e ← column columns slot name p
      operator r.frames e x
  | .operator e => operator r.frames e x

/-- The expression, at the end of the formula at `p`. -/
def finish (columns : Bool) (r : Reading) (p : Position) : Except Fault Expr :=
  match r.stage with
  | .operand _ | .arguments => .error ⟨p, .unexpectedToken none⟩
  | .brace _ => .error ⟨p, .expected (.token (.symbol .openBrace)) none⟩
  | .fieldName _ => .error ⟨p, .expected .name none⟩
  | .closingBrace _ _ => .error ⟨p, .expected (.token (.symbol .closeBrace)) none⟩
  | .word slot name wordAt => do
    let e ← column columns slot name wordAt
    if r.frames.isEmpty then .ok e else .error (cannotEnd r.frames none p)
  | .operator e => if r.frames.isEmpty then .ok e else .error (cannotEnd r.frames none p)

end Reading

/-- The expression that a scan spells. The tokens are read before what ends them,
    so a fault among the tokens comes before a fault of the scan. -/
def Expr.ofScan (columns : Bool) (scan : Scan) : Except Fault Expr := do
  let r ← scan.lexemes.foldlM (Reading.next columns) .start
  let p ← scan.stop
  r.finish columns p

end Formula

end Questionnaire
