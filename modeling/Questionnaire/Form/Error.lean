import Questionnaire.Form.Decode
import Questionnaire.Formula.Error

/-!
# Errors of a Conversion

Why a form cannot be made into a document. Most errors are about one row and
carry its line; an error about the sheet behind a table carries the name of the
table. The cause decides the words.

Errors of the structure of a survey, of the content of its cells and of its
formulas are kept apart, because whoever runs the conversion may treat them
differently.

## Main definitions

* `NestingFault`: What is wrong with the nesting of a survey.
* `ContentFault`: What is wrong with the content of a row.
* `TableFault`: Why a sheet cannot stand behind a table.
* `ConversionError`: A fault and where it is.
* `ConversionError.message`: The error in words.
* `ConversionError.line`: The line of the error, if it is about a row.
-/

namespace Questionnaire

/-- What is wrong with the nesting of a survey. -/
inductive NestingFault
  | nestedRepeat
  | unexpectedEnd
  | unclosedGroup
  /-- The number of a node would be too large. -/
  | nestedTooDeeply (name : String)
deriving DecidableEq, Repr

namespace NestingFault

/-- The fault in words. -/
def message : NestingFault → String
  | nestedRepeat => "Repeats can't be nested."
  | unexpectedEnd => "Unexpected end of group/repeat."
  | unclosedGroup => "Unclosed group/repeat."
  | nestedTooDeeply name => "Node " ++ Text.quoted name ++ " is nested too deeply."

end NestingFault

/-- What is wrong with the content of a row. -/
inductive ContentFault
  | unsupportedType (type : String)
  | emptyType
  | unknownType (type : String)
  | namedEnd
  | invalidName (name : String)
  | repeatedName (name : String)
  | choiceWithoutLabel (list : String)
  | undeclaredList (list : String)
  | invalidRepeatCount
  | readonlyFormula
  | invalidRequired (value : String)
  | invalidParameters
  | invalidTagValue (value : String)
  /-- A text with square brackets cannot be translated. -/
  | bracketsInSurvey
  | bracketsInChoices
deriving DecidableEq, Repr

namespace ContentFault

/-- The fault in words. -/
def message : ContentFault → String
  | unsupportedType type => "Questions of type " ++ Text.quoted type ++ " are not supported."
  | emptyType => "Empty type in non-empty survey row."
  | unknownType type => "Invalid type " ++ Text.quoted type ++ " in survey."
  | namedEnd => "End of group/repeat can't have a name."
  | invalidName name => "Name " ++ Text.quoted name ++ " is not a valid identifier."
  | repeatedName name => "Field name " ++ Text.quoted name ++ " is already used."
  | choiceWithoutLabel list =>
    "Choice list " ++ Text.quoted list ++ " contains a choice with no label."
  | undeclaredList list => "Undefined single or multiple choice " ++ Text.quoted list ++ "."
  | invalidRepeatCount => "repeat_count is not an unsigned integer."
  | readonlyFormula => "readonly of field can't be a formula"
  | invalidRequired value => "Invalid value " ++ Text.quoted value ++ " in \"required\" column."
  | invalidParameters => "Invalid integer value in \"parameters\" column."
  | invalidTagValue value => "Tag value " ++ Text.quoted value ++ " is not a valid identifier."
  | bracketsInSurvey => "Translation key cannot contain square brackets."
  | bracketsInChoices => "Translation key cannot contain square brackets (choices sheet)."

end ContentFault

/-- Why a sheet cannot stand behind a table. -/
inductive TableFault
  | sheetNotFound
  | noRows
  | noColumns
  | headerFormat (header : String)
  | unknownColumnType (type : String)
deriving DecidableEq, Repr

namespace TableFault

/-- The fault in words. -/
def message : TableFault → String
  | sheetNotFound => "sheet not found."
  | noRows => "no rows."
  | noColumns => "no columns."
  | headerFormat header =>
    "column header " ++ Text.quoted header ++ " must be in the format \"type label\"."
  | unknownColumnType type => "invalid column type " ++ Text.quoted type

end TableFault

/-- Why a form cannot be made into a document. -/
inductive ConversionError
  | nesting (line : Nat) (fault : NestingFault)
  | content (line : Nat) (fault : ContentFault)
  | formula (line : Nat) (error : Formula.Error)
  | table (name : String) (fault : TableFault)
  | decoding (error : DecodeError)
deriving DecidableEq, Repr

namespace ConversionError

/-- A message about a row. -/
def atLine (line : Nat) (message : String) : String :=
  "line " ++ toString line ++ ": " ++ message

/-- The error in words. -/
def message : ConversionError → String
  | .nesting line fault => atLine line fault.message
  | .content line fault => atLine line fault.message
  | .formula line error => atLine line error.message
  | .table name fault => "Table " ++ name ++ ": " ++ fault.message
  | .decoding error => error.message

/-- The line of an error that is about a row. -/
def line : ConversionError → Option Nat
  | .nesting line _ | .content line _ | .formula line _ => some line
  | .table .. | .decoding _ => none

end ConversionError

end Questionnaire
