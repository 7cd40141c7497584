import Questionnaire.Text.Quoted

/-!
# Notices

While a spreadsheet is read and converted, things happen that are no errors but
that a user may want to see: a column that nobody asked for, a reference to a
text that is not there, the sizes of what was read. Each is a notice with a
level, and a run of the command line shows those that its level admits.

A computation that gives notices is `Traced`: the notices in the order they
came, and the outcome. An error ends the computation and keeps the notices that
came before it. Whoever does not care for the notices takes the outcome, and
`outcome_bind` says that outcomes compose as if there were no notices.

## Main definitions

* `Level`: How much a notice matters.
* `Notice`: What happened.
* `Notice.text`: The notice as a line of the log.
* `Traced`: Notices and an outcome.

## Theorems

* `Traced.outcome_bind`: The outcome of a sequence is the sequence of outcomes.
-/

namespace Questionnaire

/-- How much a notice matters, the most urgent first. -/
inductive Level
  | error
  | warning
  | information
  | detail
deriving DecidableEq, Repr

namespace Level

/-- How the log names a level. -/
def text : Level → String
  | error => "ERROR"
  | warning => "WARN"
  | information => "INFO"
  | detail => "DEBUG"

/-- The place of a level, the most urgent first. -/
def rank : Level → Nat
  | error => 0
  | warning => 1
  | information => 2
  | detail => 3

end Level

/-- Something that happened while a spreadsheet was read and converted. -/
inductive Notice
  /-- A sheet of the spreadsheet has no worksheet. -/
  | skippedSheet (sheet : String)
  /-- A cell, counted from zero, refers to a shared text that is not there. -/
  | unknownSharedText (index : String) (row column : Nat)
  /-- A worksheet was read. -/
  | readSheet (sheet : String) (rows : Nat)
  /-- A column of a sheet has no meaning. -/
  | ignoredColumn (sheet column : String)
  /-- The sheets of a form were read. -/
  | decoded (survey choices settings tables : Nat)
  /-- The survey was divided into slides. -/
  | divided (rows slides : Nat)
  /-- A tag has a label and no value. -/
  | tagWithoutValue (line : Nat) (label : String)
  /-- A document was made. -/
  | converted (slides origins languages : Nat)
deriving DecidableEq, Repr

namespace Notice

/-- How much a notice matters. -/
def level : Notice → Level
  | unknownSharedText .. | ignoredColumn .. | tagWithoutValue .. => .warning
  | skippedSheet _ | readSheet .. | decoded .. | divided .. | converted .. => .detail

/-- A number in the log, after its name. -/
def numberField (name : String) (n : Nat) : String :=
  " " ++ name ++ "=" ++ toString n

/-- A quoted text in the log, after its name. -/
def quotedField (name text : String) : String :=
  " " ++ name ++ "=" ++ Text.quoted text

/-- A notice as a line of the log, without its level. -/
def text : Notice → String
  | skippedSheet sheet => "skipping non-worksheet sheet sheet=" ++ sheet
  | unknownSharedText index row column =>
    "invalid shared string index" ++ quotedField "index" index ++ numberField "row" row ++
      numberField "col" column
  | readSheet sheet rows => "read worksheet sheet=" ++ sheet ++ numberField "rows" rows
  | ignoredColumn sheet column =>
    "ignoring unknown column" ++ quotedField "sheet" sheet ++ quotedField "column" column
  | decoded survey choices settings tables =>
    "decoded xlsform" ++ numberField "survey" survey ++ numberField "choices" choices ++
      numberField "settings" settings ++ numberField "tables" tables
  | divided rows slides =>
    "preprocessed groups" ++ numberField "rows" rows ++ numberField "slides" slides
  | tagWithoutValue line label =>
    "settings tag without value" ++ numberField "line" line ++ quotedField "label" label
  | converted slides origins languages =>
    "converted form" ++ numberField "slides" slides ++ numberField "origins" origins ++
      numberField "languages" languages

end Notice

/-- A computation that gives notices: what it gave, and how it ended. -/
structure Traced (ε α : Type) where
  notices : List Notice
  outcome : Except ε α

namespace Traced

variable {ε ε' α β : Type}

/-- A computation that gives no notices. -/
def ofExcept (outcome : Except ε α) : Traced ε α :=
  ⟨[], outcome⟩

/-- A computation that only gives a notice. -/
def note (n : Notice) : Traced ε Unit :=
  ⟨[n], .ok ()⟩

/-- A computation that only gives notices. -/
def noteAll (ns : List Notice) : Traced ε Unit :=
  ⟨ns, .ok ()⟩

/-- The computation with another kind of errors. -/
def mapError (f : ε → ε') (t : Traced ε α) : Traced ε' α :=
  ⟨t.notices, t.outcome.mapError f⟩

/-- One computation after another. An error of the first ends both. -/
def andThen (t : Traced ε α) (f : α → Traced ε β) : Traced ε β :=
  match t.outcome with
  | .ok a => ⟨t.notices ++ (f a).notices, (f a).outcome⟩
  | .error e => ⟨t.notices, .error e⟩

instance : Monad (Traced ε) where
  pure a := ⟨[], .ok a⟩
  bind := andThen

instance : MonadLift (Except ε) (Traced ε) :=
  ⟨ofExcept⟩

@[simp]
theorem outcome_pure (a : α) : (pure a : Traced ε α).outcome = .ok a :=
  rfl

@[simp]
theorem outcome_ofExcept (outcome : Except ε α) : (ofExcept outcome).outcome = outcome :=
  rfl

@[simp]
theorem outcome_noteAll (ns : List Notice) : (noteAll ns : Traced ε Unit).outcome = .ok () :=
  rfl

@[simp]
theorem outcome_note (n : Notice) : (note n : Traced ε Unit).outcome = .ok () :=
  rfl

@[simp]
theorem outcome_mapError (f : ε → ε') (t : Traced ε α) :
    (t.mapError f).outcome = t.outcome.mapError f :=
  rfl

@[simp]
theorem outcome_bind (t : Traced ε α) (f : α → Traced ε β) :
    (t >>= f).outcome = t.outcome >>= fun a => (f a).outcome := by
  change (andThen t f).outcome = _
  unfold andThen
  cases t.outcome <;> rfl

end Traced

end Questionnaire
