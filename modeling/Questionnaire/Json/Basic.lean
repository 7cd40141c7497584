/-!
# JSON Values

The values of JSON that a document is made of. There is no null, since what is
absent is left out, and every number is an integer. The members of an object
keep the order in which they are listed.

## Main definitions

* `Json`: A value.
* `Json.members`: Members of an object, without those that are absent.
-/

namespace Questionnaire

/-- A JSON value. -/
inductive Json
  | bool (b : Bool)
  | integer (n : Int)
  | string (s : String)
  | array (items : List Json)
  | object (members : List (String × Json))

namespace Json

/-- A natural number. -/
def nat (n : Nat) : Json :=
  integer n

/-- A member of an object that is always there. -/
def member (key : String) (value : Json) : List (String × Json) :=
  [(key, value)]

/-- A member of an object for a value that may be absent. -/
def member? {α : Type} (key : String) (value : Option α) (json : α → Json) :
    List (String × Json) :=
  match value with
  | some a => [(key, json a)]
  | none => []

/-- A member of an object for a text, left out if the text is empty. -/
def textMember? (key : String) (text : String) : List (String × Json) :=
  if text.isEmpty then [] else [(key, string text)]

/-- A member of an object for a list, left out if the list is empty. -/
def listMember? {α : Type} (key : String) (list : List α) (json : α → Json) :
    List (String × Json) :=
  if list.isEmpty then [] else [(key, array (list.map json))]

end Json

end Questionnaire
