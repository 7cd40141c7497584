import Questionnaire.Text.Alphabetic
import Questionnaire.Text.Numeric

/-!
# Words and Names

A word is a run of letters, numerals and underscores; a name is a word that
does not begin with a numeral. Questions, groups and the values of tags are
named by names, and a formula refers to a question by its name, so both sides
read the same two classes of characters from here.

## Main definitions

* `isWordStart`: A letter or an underscore.
* `isWordChar`: A letter, a numeral or an underscore.
* `isName`: A word that begins with a letter or an underscore.
-/

namespace Questionnaire

namespace Text

/-- Whether a character may begin a name. -/
def isWordStart (c : Char) : Bool :=
  c == '_' || isAlphabetic c

/-- Whether a character may stand in a name after its beginning. -/
def isWordChar (c : Char) : Bool :=
  c == '_' || isAlphabetic c || isNumeric c

/-- Whether a text is a name: a letter or an underscore, then letters, numerals
    and underscores. -/
def isName (s : String) : Bool :=
  match s.toList with
  | [] => false
  | c :: cs => isWordStart c && cs.all isWordChar

theorem isWordChar_of_isWordStart {c : Char} (h : isWordStart c = true) : isWordChar c = true := by
  unfold isWordStart at h
  unfold isWordChar
  rw [h, Bool.true_or]

end Text

end Questionnaire
