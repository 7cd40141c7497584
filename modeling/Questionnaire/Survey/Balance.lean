import Questionnaire.Form.Error
import Questionnaire.Survey.RowKind

/-!
# Balanced Surveys

The marks of a survey have to match like parentheses of two kinds: a group is
closed by the end of a group and a repeated group by the end of a repeated group.
A repeated group stands at the outermost level only.

The check walks over the rows with the open groups, innermost first. A survey
that ends with open groups is reported at the innermost of them.

## Main definitions

* `RowKind.closes`: Whether a mark closes another.
* `checkBalance`: The check of a survey.
-/

namespace Questionnaire

/-- Whether a mark closes a group that another opened. -/
def RowKind.closes : (closing opening : RowKind) → Bool
  | endGroup, beginGroup => true
  | endRepeat, beginRepeat => true
  | _, _ => false

namespace Survey

/-- The check of the rows after some groups were opened, innermost first. -/
def checkBalanceFrom : (opened rows : List Row) → Except ConversionError Unit
  | [], [] => .ok ()
  | innermost :: _, [] => .error (.nesting innermost.line .unclosedGroup)
  | opened, r :: rest =>
    if r.kind = .beginRepeat && !opened.isEmpty then .error (.nesting r.line .nestedRepeat)
    else if r.kind.isBegin then checkBalanceFrom (r :: opened) rest
    else if r.kind.isEnd then
      match opened with
      | innermost :: outer =>
        if r.kind.closes innermost.kind then checkBalanceFrom outer rest
        else .error (.nesting r.line .unexpectedEnd)
      | [] => .error (.nesting r.line .unexpectedEnd)
    else checkBalanceFrom opened rest

/-- Whether the marks of a survey match, and repeated groups are outermost. -/
def checkBalance (survey : List Row) : Except ConversionError Unit :=
  checkBalanceFrom [] survey

end Survey

end Questionnaire
