import Questionnaire.Form.Error

/-!
# Translations

For each language of a form, the texts of the default language with their
translations. A text is found by itself in the document, so it is the key of its
translation, and texts that are written alike are translated alike: the last
translation counts. Since the form engine looks for keys between square
brackets, a text that is translated must not have any.

The texts are the labels, hints and messages of the survey, row by row, and then
the labels of the choices.

## Main definitions

* `TextPair`: A text and its translation, with the row they stand in.
* `Form.textPairs`: All texts of a form with their translations.
* `Form.translation`: The translations to a language.
* `Form.translations`: The translations to every language.
-/

namespace Questionnaire

/-- Translations by the texts they translate. -/
abbrev Translation := Dictionary String String

/-- A text in the default language and in another, as a row has them. -/
structure TextPair where
  line : Nat
  source : String
  target : String
  /-- What is wrong if the text has square brackets. -/
  fault : ContentFault
deriving DecidableEq, Repr

namespace TextPair

/-- The texts of a row of the survey. -/
def ofSurvey (language : String) (r : Row) : List TextPair :=
  [⟨r.line, r.label "", r.label language, .bracketsInSurvey⟩,
    ⟨r.line, r.hint "", r.hint language, .bracketsInSurvey⟩,
    ⟨r.line, r.constraintMessage "", r.constraintMessage language, .bracketsInSurvey⟩,
    ⟨r.line, r.requiredMessage "", r.requiredMessage language, .bracketsInSurvey⟩]

/-- The text of a row of the choices. -/
def ofChoice (language : String) (r : Row) : TextPair :=
  ⟨r.line, r.label "", r.label language, .bracketsInChoices⟩

/-- Whether there is both a text and a translation. -/
def isFilled (p : TextPair) : Bool :=
  !p.source.isEmpty && !p.target.isEmpty

/-- Whether the text cannot be a key. -/
def hasBrackets (p : TextPair) : Bool :=
  p.source.toList.any fun c => c == '[' || c == ']'

/-- Translations with one more pair. -/
def addTo (t : Translation) (p : TextPair) : Except ConversionError Translation :=
  if !p.isFilled then .ok t
  else if p.hasBrackets then .error (.content p.line p.fault)
  else .ok (t.insert p.source p.target)

end TextPair

namespace Form

/-- All texts of a form with their translations to a language. -/
def textPairs (form : Form) (language : String) : List TextPair :=
  form.survey.flatMap (TextPair.ofSurvey language) ++
    form.choices.map (TextPair.ofChoice language)

/-- The translations of a form to a language. -/
def translation (form : Form) (language : String) : Except ConversionError Translation :=
  (form.textPairs language).foldlM TextPair.addTo .empty

/-- The translations of a form to some languages, in order. -/
def translationsTo (form : Form) :
    List String → Except ConversionError (List (String × Translation))
  | [] => .ok []
  | language :: rest => do
    let t ← form.translation language
    let ts ← form.translationsTo rest
    return (language, t) :: ts

/-- The translations of a form to each of its languages. -/
def translations (form : Form) : Except ConversionError (Dictionary String Translation) := do
  let ts ← form.translationsTo form.languages.keys
  return .ofList ts

end Form

end Questionnaire
