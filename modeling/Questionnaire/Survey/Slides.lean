import Questionnaire.Notice
import Questionnaire.Survey.Balance

/-!
# Slides

The form engine shows a form slide by slide. Every outermost group of a survey
is a slide. Questions outside all groups are collected: each stretch of them is
put into a group of its own, `form`, `form1`, `form2` and so on, and the whole
survey into a group `global`.

A stretch begins with the first outermost row that is no mark and no data about
the interview, and lasts until the next group opens or the survey ends. Data
about the interview never opens a stretch, but stays inside one that is open.

The rows that are put in have the line 0, which no row of a sheet has.

## Main definitions

* `groupMark`, `endMark`: The rows put in around a group.
* `slideMark`: The row that opens the slide of a number.
* `wrapLoose`: A survey with its stretches of loose questions in groups.
* `divide`: A balanced survey as one group of slides.
-/

namespace Questionnaire

namespace Survey

/-- The row that opens a group. -/
def groupMark (name label : String) : Row :=
  .ofCells 0 [("type", "begin group"), ("name", name), ("label", label)]

/-- The row that closes a group. -/
def endMark : Row :=
  .ofCells 0 [("type", "end group")]

/-- The row that opens the slide of a number, counted from zero. -/
def slideMark : Nat → Row
  | 0 => groupMark "form" "Form"
  | n => groupMark ("form" ++ toString n) ("Form " ++ toString n)

/-- A survey with its stretches of loose questions in groups. `depth` is the number
    of open groups, `slides` the number of stretches begun, and `inStretch` says
    whether one is open. -/
def wrapLooseFrom : (depth slides : Nat) → (inStretch : Bool) → List Row → List Row
  | _, _, inStretch, [] => if inStretch then [endMark] else []
  | depth, slides, inStretch, r :: rest =>
    if r.kind.isBegin then
      (if inStretch then [endMark] else []) ++ r :: wrapLooseFrom (depth + 1) slides false rest
    else if r.kind.isEnd then r :: wrapLooseFrom (depth - 1) slides inStretch rest
    else if depth = 0 && !inStretch && r.kind != .metadata then
      slideMark slides :: r :: wrapLooseFrom depth (slides + 1) true rest
    else r :: wrapLooseFrom depth slides inStretch rest

/-- A survey with its stretches of loose questions in groups. -/
def wrapLoose (survey : List Row) : List Row :=
  wrapLooseFrom 0 0 false survey

/-- A balanced survey as one group, in which every outermost item is a slide or
    data about the interview. -/
def divide (survey : List Row) : Traced ConversionError (List Row) := do
  Traced.ofExcept (checkBalance survey)
  let wrapped := wrapLoose survey
  -- Every stretch adds the two marks of its group.
  Traced.note (.divided survey.length ((wrapped.length - survey.length) / 2))
  return groupMark "global" "" :: wrapped ++ [endMark]

end Survey

end Questionnaire
