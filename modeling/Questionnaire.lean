import Questionnaire.Proofs.Formula.Soundness
import Questionnaire.CommandLine.Run
import Questionnaire.Main
import Questionnaire.Proofs.Formula.Completeness
import Questionnaire.Proofs.Formula.Acceptance
import Questionnaire.Proofs.Survey.Balanced
import Questionnaire.Proofs.Survey.Naming
import Questionnaire.Proofs.Survey.Stretches
import Questionnaire.Proofs.Document.Conversion
import Questionnaire.Proofs.Document.Defects
import Questionnaire.Proofs.Document.Walk
import Questionnaire.Proofs.Document.Nesting
import Questionnaire.Proofs.Document.Identity
import Questionnaire.Proofs.Formula.Containment
import Questionnaire.Proofs.Document.Names
import Questionnaire.Proofs.Document.Tables
import Questionnaire.Proofs.Choices
import Questionnaire.Proofs.Document.References
import Questionnaire.Proofs.Json.Grammar
import Questionnaire.Proofs.Json.Equality
import Questionnaire.Proofs.Json.Printing
import Questionnaire.Proofs.Json.Schema
import Questionnaire.Proofs.Document.Attributes
import Questionnaire.Proofs.Document.Encoding
import Questionnaire.Proofs.Spreadsheet.Escape
import Questionnaire.Proofs.Spreadsheet.Item
import Questionnaire.Proofs.CommandLine.Batch
import Questionnaire.Proofs.Form.Columns
import Questionnaire.Proofs.Form.OwnColumns
import Questionnaire.Proofs.Spreadsheet.CellReference
import Questionnaire.Proofs.Spreadsheet.Grid
import Questionnaire.Proofs.Spreadsheet.Listing
import Questionnaire.Proofs.Spreadsheet.Reading
import Questionnaire.Proofs.Spreadsheet.SharedTexts
import Questionnaire.Proofs.Document.Shape
import Questionnaire.Proofs.Form.Rows
import Questionnaire.Proofs.Document.Levels
import Questionnaire.Proofs.Document.Built
import Questionnaire.Proofs.Document.Lines
import Questionnaire.Proofs.Document.Metadata
import Questionnaire.Proofs.Survey.Metadata
import Questionnaire.Proofs.Document.Difference
import Questionnaire.Proofs.Document.Formulas
import Questionnaire.Proofs.Document.Positions
import Questionnaire.Proofs.Survey.Grammar
import Questionnaire.Proofs.Survey.Division
import Questionnaire.Proofs.Form.ColumnOrder
import Questionnaire.Proofs.Formula.Layout
import Questionnaire.Proofs.Formula.Sentences
import Questionnaire.Proofs.Formula.Prefixes
import Questionnaire.Proofs.Formula.Steps
import Questionnaire.Proofs.Formula.Blame
import Questionnaire.Proofs.Formula.Spacing
import Questionnaire.Proofs.Form.Languages
import Questionnaire.Proofs.Form.Translations
import Questionnaire.Proofs.Formula.References
import Questionnaire.Proofs.Spreadsheet.Escaping
import Questionnaire.Proofs.Spreadsheet.Spellings
import Questionnaire.Proofs.Survey.Pairs
import Questionnaire.Proofs.Document.RepeatCount
import Questionnaire.Proofs.Number.Numerals
import Questionnaire.Proofs.Spreadsheet.Counting
