import Questionnaire.Survey.Block

/-!
# The Outline of a Survey

A survey is a flat list of rows with marks that open and close groups. Its
outline is the tree that the marks describe: a row stands by itself, and a group
holds the items between its marks.

An outline is made of any rows. Where rows do not close a group they open, or go
on after an end that nothing opened, the outline ends in a `broken` item that
says so; nothing after it can be told. Whoever walks over the outline meets the
defect in its place, after the items before it.

## Main definitions

* `Item`: A row, a group of items, or a defect.
* `Item.ofRows`: The items that rows describe.
* `Item.ofBlock`: The item of a block of rows.
-/

namespace Questionnaire

namespace Survey

/-- A part of a survey. -/
inductive Item
  | row (r : Row)
  /-- A group: the row that opens it, and what it holds. -/
  | group (header : Row) (items : List Item)
  | broken (defect : Defect)

namespace Item

/-- The items that rows describe. An end that closes no group of the rows is
    theirs, and has to be the last of them. -/
def ofRows (rows : List Row) : List Item :=
  match rows with
  | [] => []
  | r :: rest =>
    if r.kind.isBegin then
      match h : takeBlock (r :: rest) with
      | .ok (block, after) =>
        have _ := length_of_takeBlock h
        .group r (ofRows block.tail) :: ofRows after
      | .error defect => [.broken defect]
    else if r.kind.isEnd then
      if rest.isEmpty then [] else [.broken .strayEnd]
    else .row r :: ofRows rest
termination_by rows.length
decreasing_by
  all_goals simp_all only [List.length_tail, List.length_cons]
  all_goals omega

/-- The item of a block of rows. -/
def ofBlock : List Row → Item
  | [] => .broken .notAGroup
  | header :: body =>
    if header.kind.isBegin then .group header (ofRows body) else .broken .notAGroup

end Item

end Survey

end Questionnaire
