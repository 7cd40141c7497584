import Questionnaire.Text.Ranges

/-!
# Blanks and Trimming

White space by the Unicode property White_Space: the ASCII blanks, the next-line
character, the no-break space and the wider spaces and separators. The set is
the same wherever the library skips or trims: between the tokens of a formula,
around a cell that holds a number, around the language of a header.

Characters that only look empty, such as the zero width space, are not blanks.

## Main definitions

* `isBlank`: The property as a test.
* `skipBlanks`: A text without its leading blanks.
* `trimEnd`: A text without its trailing blanks.
* `trim`: A text without blanks at either end.

## Theorems

* `skipBlanks_eq_self`: A text that begins with no blank is left as it is.
* `isBlank_of_skipBlanks`: What is left begins with no blank.
* `isBlank_of_class`: A class of characters that has no blank, by looking at all blanks.
-/

namespace Questionnaire

namespace Text

/-- The code points with the property White_Space. -/
def blankRanges : CodeRanges := [
    (0x9, 0xd), (0x20, 0x20), (0x85, 0x85), (0xa0, 0xa0), (0x1680, 0x1680), (0x2000, 0x200a),
    (0x2028, 0x2029), (0x202f, 0x202f), (0x205f, 0x205f), (0x3000, 0x3000)]

/-- Whether a character is white space. -/
def isBlank (c : Char) : Bool :=
  blankRanges.covers c.toNat

/-- The characters from the first one that is no blank. -/
def skipBlanks (cs : List Char) : List Char :=
  cs.dropWhile isBlank

/-- The characters up to the last one that is no blank. -/
def trimEnd (cs : List Char) : List Char :=
  (cs.reverse.dropWhile isBlank).reverse

/-- A text without the blanks at its ends. -/
def trim (s : String) : String :=
  String.ofList (trimEnd (skipBlanks s.toList))

@[simp]
theorem skipBlanks_nil : skipBlanks [] = [] :=
  rfl

theorem skipBlanks_eq_self {c : Char} {cs : List Char} (h : isBlank c = false) :
    skipBlanks (c :: cs) = c :: cs := by
  simp [skipBlanks, h]

theorem skipBlanks_cons {c : Char} {cs : List Char} (h : isBlank c = true) :
    skipBlanks (c :: cs) = skipBlanks cs :=
  List.dropWhile_cons_of_pos h

theorem isBlank_of_skipBlanks {c : Char} {cs rest : List Char} (h : skipBlanks cs = c :: rest) :
    isBlank c = false := by
  have hhead := List.head?_dropWhile_not isBlank cs
  rw [show cs.dropWhile isBlank = c :: rest from h] at hhead
  exact hhead

/-- A class of characters has no blank if it does not have any of these few. -/
theorem isBlank_of_class {p : Char → Bool}
    (hp : ∀ n ∈ blankRanges.points, p (Char.ofNat n) = false) {c : Char} (h : p c = true) :
    isBlank c = false := by
  refine Bool.eq_false_iff.2 fun hblank => ?_
  have hnot := hp _ (CodeRanges.mem_points_of_covers hblank)
  rw [Char.ofNat_toNat, h] at hnot
  cases hnot

theorem isBlank_of_isDigit {c : Char} (h : c.isDigit = true) : isBlank c = false :=
  isBlank_of_class (by decide) h

end Text

end Questionnaire
