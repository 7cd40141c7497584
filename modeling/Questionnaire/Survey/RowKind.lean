import Questionnaire.Sheet.Row
import Questionnaire.Text.Split

/-!
# Kinds of Survey Rows

The type of a survey row says what the row is: the beginning or the end of a
group or of a repeated group, a question of some kind, a question that selects
from a list of choices, or data about the interview that the form engine
collects by itself. Types that other tools know and that have no counterpart here are
told apart from types that nobody knows, because their messages differ.

## Main definitions

* `QuestionKind`: The kinds of questions without a list of choices.
* `RowKind`: What a survey row is.
* `RowKind.ofType`: The kind of a type.
* `Row.kind`: The kind of a row.
* `RowKind.isBegin`, `RowKind.isEnd`, `RowKind.isQuestion`: Classes of kinds.

## Theorems

* `not_isEnd_of_isBegin`: A mark opens a group or closes one, never both.
-/

namespace Questionnaire

/-- The kinds of questions without a list of choices. -/
inductive QuestionKind
  | decimal | integer | text | boolean | note | date | time | calculate | table
  | barcode | geopoint | file | image | video | range
deriving DecidableEq, Repr

namespace QuestionKind

/-- The kind that a type names. -/
def ofType : String → Option QuestionKind
  | "decimal" => some decimal
  | "integer" => some integer
  | "text" => some text
  | "boolean" => some boolean
  | "note" => some note
  | "date" => some date
  | "time" => some time
  | "calculate" => some calculate
  | "table" => some table
  | "barcode" => some barcode
  | "geopoint" => some geopoint
  | "file" => some file
  | "image" => some image
  | "video" => some video
  | "range" => some range
  | _ => none

end QuestionKind

/-- What a survey row is. -/
inductive RowKind
  | beginGroup
  | endGroup
  | beginRepeat
  | endRepeat
  | question (kind : QuestionKind)
  /-- A question that selects from a list: one choice, or several. -/
  | select (several : Bool) (list : String)
  /-- Data about the interview. It makes no question. -/
  | metadata
  /-- A type that is known and has no counterpart. -/
  | unsupported
  | empty
  | unknown
deriving DecidableEq, Repr

namespace RowKind

/-- The types of data about the interview. -/
def metadataTypes : List String :=
  ["start", "end", "today", "deviceid", "subscriberid", "simserial", "phonenumber", "username",
    "email"]

/-- Types that are known and have no counterpart. -/
def unsupportedTypes : List String :=
  ["geotrace", "geoshape", "datetime", "audio", "acknowledge", "hidden", "xml-external"]

/-- The kind of a type that is no mark of a group. -/
def ofQuestionType (type : String) : RowKind :=
  match QuestionKind.ofType type with
  | some kind => question kind
  | none =>
    match Text.afterStart? "select_one " type, Text.afterStart? "select_multiple " type with
    | some list, _ => select false list
    | none, some list => select true list
    | none, none =>
      if metadataTypes.contains type then metadata
      else if unsupportedTypes.contains type || (Text.afterStart? "rank " type).isSome then
        unsupported
      else unknown

/-- The kind of a type. -/
def ofType : String → RowKind
  | "" => empty
  | "begin group" => beginGroup
  | "end group" => endGroup
  | "begin repeat" => beginRepeat
  | "end repeat" => endRepeat
  | type => ofQuestionType type

/-- Whether a row opens a group. -/
def isBegin : RowKind → Bool
  | beginGroup | beginRepeat => true
  | _ => false

/-- Whether a row closes a group. -/
def isEnd : RowKind → Bool
  | endGroup | endRepeat => true
  | _ => false

/-- Whether a row is a question. -/
def isQuestion : RowKind → Bool
  | question _ | select .. => true
  | _ => false

/-- The list that a question selects from. -/
def choiceList : RowKind → Option String
  | select _ list => some list
  | _ => none

theorem not_isEnd_of_isBegin {k : RowKind} (h : k.isBegin = true) : k.isEnd = false := by
  cases k <;> first | rfl | cases h

end RowKind

/-- What a row of the survey is. -/
def Row.kind (r : Row) : RowKind :=
  .ofType r.type

end Questionnaire
