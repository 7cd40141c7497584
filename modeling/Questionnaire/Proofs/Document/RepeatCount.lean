import Questionnaire.Document.Group
import Questionnaire.Proofs.Number.Numerals
import Questionnaire.Proofs.Outcome

/-!
# Counts of Repeats

What the cell with the count of a repeated group makes of the group. The count is the
integer that the numeral in the cell is rounded to, as a spreadsheet would have stored
it, and not what the numeral exactly is: a numeral very near to an integer counts as
the integer. Every other text is an error in the row of the group.

The condition on which the group is shown and the one on which nothing in it can be
changed are looked at before the count, and the items of the group after it. So an error
in one of the conditions hides one in the count, which hides all errors inside the group.

## Theorems

* `GroupHead.kindOfRow_eq_ok_iff`, `GroupHead.kindOfRow_eq_error`: The count in one row.
* `Node.repeat_outcome`: What becomes of a repeated group with a count.
* `Node.repeat_of_fraction`: A count that is not what is written in its cell.
-/

namespace Questionnaire

open Number (IsCount Numeral IsNearest countLimit)

namespace GroupHead

variable {r : Row}

/-- A row that opens a repeated group with a count. -/
theorem kindOfRow_of_readCount? (hkind : r.kind = .beginRepeat) (hfilled : r.repeatCount ≠ "")
    {count? : Option Nat} (h : Number.readCount? (Text.trim r.repeatCount).toList = count?) :
    kindOfRow r = count?.elim (.error (.content r.line .invalidRepeatCount))
      fun n => .ok (.repeated (some n)) := by
  have hempty : ¬r.repeatCount.isEmpty = true := by
    rwa [String.isEmpty_iff]
  rw [kindOfRow, if_neg (by rw [hkind]; decide), if_neg hempty, h]
  cases count? <;> rfl

theorem kindOfRow_eq_ok_iff (hkind : r.kind = .beginRepeat) (hfilled : r.repeatCount ≠ "")
    {kind : GroupKind} :
    kindOfRow r = .ok kind ↔
      ∃ n, kind = .repeated (some n) ∧ ∀ m, IsCount (Text.trim r.repeatCount).toList m ↔ m = n := by
  simp only [← Number.readCount?_eq_some_iff]
  rcases hread : Number.readCount? (Text.trim r.repeatCount).toList with _ | n
  case none =>
    rw [kindOfRow_of_readCount? hkind hfilled hread]
    refine iff_of_false (by rintro ⟨⟩) ?_
    rintro ⟨n, -, hcount⟩
    exact absurd ((hcount n).2 rfl) (by simp)
  case some =>
    rw [kindOfRow_of_readCount? hkind hfilled hread, Option.elim_some, Except.ok.injEq]
    constructor
    · rintro rfl
      exact ⟨n, rfl, fun m => by rw [Option.some.injEq]; exact eq_comm⟩
    · rintro ⟨m, rfl, hcount⟩
      rw [(hcount n).1 rfl]

theorem kindOfRow_eq_error (hkind : r.kind = .beginRepeat) (hfilled : r.repeatCount ≠ "")
    (h : ∀ n, ¬IsCount (Text.trim r.repeatCount).toList n) :
    kindOfRow r = .error (.content r.line .invalidRepeatCount) := by
  have hnone : Number.readCount? (Text.trim r.repeatCount).toList = none := by
    rw [Option.eq_none_iff_forall_ne_some]
    intro n hn
    exact h n (Number.readCount?_eq_some_iff.1 hn)
  exact kindOfRow_of_readCount? hkind hfilled hnone

end GroupHead

namespace Node

/-- The node of a group whose row and whose items are in order. -/
theorem ofItem_group_of_ok {tables : Dictionary String Grid} {r : Row} {items : List Survey.Item}
    {visibility readonly : Option String} {kind : GroupKind} {nodes : List Node}
    (hvisibility : r.visibility = .ok visibility)
    (hreadonly : GroupHead.readonlyOfRow r = .ok readonly)
    (hkind : GroupHead.kindOfRow r = .ok kind)
    (hnodes : ofItems tables items = .ok nodes) :
    ofItem tables (.group r items) =
      .ok (some (.group (r.info (r.label "") visibility) kind readonly nodes)) := by
  rw [ofItem, GroupHead.ofRow, hvisibility, hreadonly, hkind, hnodes]
  rfl

/-- What becomes of a repeated group whose row has something in the cell for the count. If
    there is a node, its count is the one that the cell is; if the cell is a count, there
    is a node unless something else is wrong; and if it is none, the row of the group is
    to blame. The count is what the numeral in the cell is rounded to. -/
theorem repeat_outcome {r : Row} (hkind : r.kind = .beginRepeat) (hfilled : r.repeatCount ≠ "")
    (tables : Dictionary String Grid) (items : List Survey.Item) :
    (∀ node?, ofItem tables (.group r items) = .ok node? →
      ∃ info n readonly nodes, node? = some (.group info (.repeated (some n)) readonly nodes) ∧
        ∀ m, IsCount (Text.trim r.repeatCount).toList m ↔ m = n) ∧
    (∀ n visibility readonly nodes, IsCount (Text.trim r.repeatCount).toList n →
      r.visibility = .ok visibility → GroupHead.readonlyOfRow r = .ok readonly →
      ofItems tables items = .ok nodes →
      ofItem tables (.group r items) =
        .ok (some (.group (r.info (r.label "") visibility) (.repeated (some n)) readonly nodes))) ∧
    (∀ visibility readonly, (∀ n, ¬IsCount (Text.trim r.repeatCount).toList n) →
      r.visibility = .ok visibility → GroupHead.readonlyOfRow r = .ok readonly →
      ofItem tables (.group r items) = .error (.error (.content r.line .invalidRepeatCount))) ∧
    (∀ a : Numeral, a.text = (Text.trim r.repeatCount).toList → a.digits.length ≤ 65000 →
      ∀ n, IsCount (Text.trim r.repeatCount).toList n ↔ n ≤ countLimit ∧ IsNearest a.value n) := by
  refine ⟨?built, ?counted, ?refused, ?exact⟩
  case built =>
    intro node? h
    rw [ofItem] at h
    obtain ⟨head, hhead, h⟩ := bind_eq_ok.1 h
    obtain ⟨nodes, -, h⟩ := bind_eq_ok.1 h
    rw [Failure.lift_eq_ok, GroupHead.ofRow] at hhead
    obtain ⟨visibility, -, hhead⟩ := bind_eq_ok.1 hhead
    obtain ⟨readonly, -, hhead⟩ := bind_eq_ok.1 hhead
    obtain ⟨kind, hrepeated, hhead⟩ := bind_eq_ok.1 hhead
    obtain ⟨n, rfl, hcount⟩ := (GroupHead.kindOfRow_eq_ok_iff hkind hfilled).1 hrepeated
    cases hhead
    cases h
    exact ⟨_, n, readonly, nodes, rfl, hcount⟩
  case counted =>
    intro n visibility readonly nodes hcount hvisibility hreadonly hnodes
    have hrepeated : GroupHead.kindOfRow r = .ok (.repeated (some n)) :=
      GroupHead.kindOfRow_of_readCount? hkind hfilled (Number.readCount?_eq_some_iff.2 hcount)
    exact ofItem_group_of_ok hvisibility hreadonly hrepeated hnodes
  case refused =>
    intro visibility readonly hcount hvisibility hreadonly
    rw [ofItem, GroupHead.ofRow, hvisibility, hreadonly,
      GroupHead.kindOfRow_eq_error hkind hfilled hcount]
    rfl
  case exact =>
    intro a htext hlength n
    rw [← htext]
    exact a.isCount_text_iff_value hlength

theorem repeat_outcome_power :
    let r := Row.ofCells 2 [("type", "begin repeat"), ("name", "g"), ("repeat_count", " 1.23e2")]
    r.kind = .beginRepeat ∧ r.repeatCount ≠ "" ∧
      ofItem .empty (.group r []) =
        .ok (some (.group (r.info (r.label "") none) (.repeated (some 123)) none [])) := by
  dsimp only
  have hkind : (Row.ofCells 2 [("type", "begin repeat"), ("name", "g"),
      ("repeat_count", " 1.23e2")]).kind = .beginRepeat := by decide +kernel
  have hfilled : (Row.ofCells 2 [("type", "begin repeat"), ("name", "g"),
      ("repeat_count", " 1.23e2")]).repeatCount ≠ "" := by decide +kernel
  refine ⟨hkind, hfilled, ?_⟩
  exact (repeat_outcome hkind hfilled .empty []).2.1 123 none none []
    (Number.readCount?_eq_some_iff.1 (by decide +kernel)) (by decide +kernel) (by decide +kernel)
    rfl

/-- A text that is no integer is taken for one. -/
theorem repeat_of_fraction :
    let r := Row.ofCells 2 [("type", "begin repeat"), ("name", "g"),
      ("repeat_count", "2.00000000000000000001")]
    r.kind = .beginRepeat ∧ r.repeatCount ≠ "" ∧
      ofItem .empty (.group r []) =
        .ok (some (.group (r.info (r.label "") none) (.repeated (some 2)) none [])) ∧
      ¬∃ (a : Numeral) (n : Nat), a.text = (Text.trim r.repeatCount).toList ∧ a.value = n := by
  dsimp only
  refine ⟨by decide +kernel, by decide +kernel, ?_, ?_⟩
  · exact ofItem_group_of_ok (by decide +kernel) (by decide +kernel) (by decide +kernel) rfl
  · rintro ⟨a, n, htext, hvalue⟩
    have hcell : (Text.trim (Row.ofCells 2 [("type", "begin repeat"), ("name", "g"),
        ("repeat_count", "2.00000000000000000001")]).repeatCount).toList =
          '2' :: '.' :: (List.replicate 19 '0' ++ ['1']) := by decide +kernel
    rw [hcell] at htext
    have hread : Number.Decimal.read? a.text = some ⟨false, 200000000000000000001, -20⟩ := by
      rw [htext]
      decide
    have hplain : ∀ c ∈ a.text, c ≠ 'e' ∧ c ≠ 'E' := by
      rw [htext]
      intro c hc
      have hchar : c = '2' ∨ c = '.' ∨ c = '0' ∨ c = '1' := by simpa using hc
      rcases hchar with rfl | rfl | rfl | rfl <;> decide
    -- One part in 10 ^ 20 is left over.
    rw [Numeral.value_eq_of_read? hread hplain] at hvalue
    have hinteger : (200000000000000000001 : ℚ) = n * 10 ^ 20 := by
      rw [← hvalue]
      norm_num [Number.Decimal.value, Number.Decimal.size]
    have hinteger' : 200000000000000000001 = n * 10 ^ 20 := by exact_mod_cast hinteger
    omega

end Node

end Questionnaire
