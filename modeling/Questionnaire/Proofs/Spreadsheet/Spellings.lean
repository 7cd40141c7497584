import Questionnaire.Proofs.Number.Digits
import Questionnaire.Proofs.Spreadsheet.CellReference

/-!
# Spellings of References

A position has more than one reference: the letters of its column may be small or
capital, and its row may have zeros in front. These are all of them, and whatever
else is read as a reference refers to nothing.

Letters have no zero, so they have no such freedom. Behind letters of one number
every letter leads to a number with just these letters, because a letter's place runs
from one to twenty-six: once one is taken away, a division by twenty-six gives back
the number before and the letter. So the letters that are read are those of the
column that is found, and the limit of 64 bits is a limit on the column and not on how
it is spelled. Digits do have a zero, and it is lost in front only.

## Main definitions

* `CellPosition.IsSpelled`: A spelling of a position.

## Theorems

* `columnNumber?_eq_some_iff`: Which letters are read, and as which column.
* `CellPosition.ofReference?_outcome`: Which texts are read, and as which position.
* `CellPosition.IsSpelled.unique`: A text spells one position at most.
-/

namespace Questionnaire

namespace Spreadsheet

/-! ### Letters, small and capital -/

theorem isLetter_iff_toNat {c : Char} :
    isLetter c = true ↔
      'A'.toNat ≤ c.toNat ∧ c.toNat ≤ 'Z'.toNat ∨ 'a'.toNat ≤ c.toNat ∧ c.toNat ≤ 'z'.toNat := by
  have hclass : isLetter c =
      (decide ('A'.val ≤ c.val ∧ c.val ≤ 'Z'.val) ||
        (decide ('a'.val ≤ c.val) && decide (c.val ≤ 'z'.val))) := rfl
  simp [hclass, UInt32.le_iff_toNat_le]

/-- A letter as a capital one, and its place. -/
theorem exists_columnLetter {c : Char} (h : isLetter c = true) :
    ∃ m < 26, c.toUpper = columnLetter m ∧ letterNumber c = m + 1 := by
  have hall : ∀ n : Fin 128, isLetter (Char.ofNat n) = true →
      ∃ m < 26, (Char.ofNat n).toUpper = columnLetter m ∧ letterNumber (Char.ofNat n) = m + 1 := by
    decide +kernel
  have hlt : c.toNat < 128 := by
    rcases isLetter_iff_toNat.1 h with ⟨_, h⟩ | ⟨_, h⟩
    · exact Nat.lt_of_le_of_lt h (by decide)
    · exact Nat.lt_of_le_of_lt h (by decide)
  have hc := hall ⟨c.toNat, hlt⟩
  rw [Char.ofNat_toNat] at hc
  exact hc h

/-- What is a capital letter, or becomes one, is a letter. -/
theorem isLetter_of_toUpper {c : Char} {m : Nat} (hm : m < 26) (h : c.toUpper = columnLetter m) :
    isLetter c = true := by
  by_cases hlower : 'a'.val ≤ c.val ∧ c.val ≤ 'z'.val
  case pos =>
    refine isLetter_iff_toNat.2 (Or.inr ?_)
    simpa only [UInt32.le_iff_toNat_le, Char.toNat_val] using hlower
  case neg =>
    have hself : c.toUpper = c := dif_neg hlower
    rw [← hself, h]
    exact (letter_columnLetter hm).2.1

theorem not_isDigit_of_isLetter {c : Char} (h : isLetter c = true) : c.isDigit = false := by
  refine Bool.eq_false_iff.2 fun hdigit => ?_
  have hbounds := Char.isDigit_iff_toNat.1 hdigit
  have hnine : '9'.toNat < 'A'.toNat ∧ '9'.toNat < 'a'.toNat := by decide
  rcases isLetter_iff_toNat.1 h with hletter | hletter <;> omega

/-- The letters of a column, with one more of them. -/
theorem columnLetters_concat (n : Nat) {m : Nat} (hm : m < 26) :
    columnLetters (26 * n + (m + 1)) = columnLetters n ++ [columnLetter m] := by
  have hdiv : (26 * n + (m + 1) - 1) / 26 = n := by omega
  have hmod : (26 * n + (m + 1) - 1) % 26 = m := by omega
  rw [columnLetters, if_neg (by omega), hdiv, hmod]

/-- Behind the letters of a number, letters are those of the number that they lead to. -/
theorem columnLetters_append {letters : List Char} (hletters : ∀ c ∈ letters, isLetter c = true)
    {high n : Nat} (h : columnNumberFrom? high letters = some n) (hhigh : high < Number.wordBound) :
    n < Number.wordBound ∧ columnLetters high ++ letters.map Char.toUpper = columnLetters n := by
  induction letters generalizing high with
  | nil =>
      cases h
      exact ⟨hhigh, List.append_nil _⟩
  | cons c rest ih =>
      rcases List.forall_mem_cons.1 hletters with ⟨hc, hrest⟩
      rcases exists_columnLetter hc with ⟨m, hm, hupper, hplace⟩
      rw [columnNumberFrom?, hplace] at h
      split at h
      case isTrue hcounted =>
        rcases ih hrest h hcounted with ⟨hn, hwhole⟩
        refine ⟨hn, ?_⟩
        rw [← hwhole, columnLetters_concat high hm, List.map_cons, hupper, List.append_assoc]
        rfl
      case isFalse => cases h

theorem columnLetters_eq_nil_iff {n : Nat} : columnLetters n = [] ↔ n = 0 := by
  refine ⟨fun h => Decidable.byContradiction fun hne => columnLetters_ne_nil hne h, ?_⟩
  rintro rfl
  rw [columnLetters, if_pos rfl]

theorem columnLetters_injective {m n : Nat} (h : columnLetters m = columnLetters n) : m = n := by
  induction m using Nat.strongRecOn generalizing n with
  | ind m ih =>
      by_cases hm : m = 0
      · rw [columnLetters_eq_nil_iff.2 hm] at h
        rw [hm, columnLetters_eq_nil_iff.1 h.symm]
      · have hn : n ≠ 0 := by
          rintro rfl
          exact hm (columnLetters_eq_nil_iff.1 (h.trans (columnLetters_eq_nil_iff.2 rfl)))
        rw [columnLetters, if_neg hm, columnLetters.eq_def n, if_neg hn] at h
        rcases List.append_inj' h rfl with ⟨hhigh, hlow⟩
        have hquotient := ih ((m - 1) / 26) (by omega) hhigh
        -- The last letters have the same place, so the remainders are the same too.
        have hplace := (letter_columnLetter (Nat.mod_lt (m - 1) (by decide : 0 < 26))).1
        rw [List.singleton_inj.1 hlow,
          (letter_columnLetter (Nat.mod_lt (n - 1) (by decide : 0 < 26))).1] at hplace
        omega

/-- Small letters count as capital ones. -/
theorem columnNumberFrom?_map_toUpper {letters : List Char}
    (hletters : ∀ c ∈ letters, isLetter c = true) (high : Nat) :
    columnNumberFrom? high (letters.map Char.toUpper) = columnNumberFrom? high letters := by
  induction letters generalizing high with
  | nil => rfl
  | cons c rest ih =>
      rcases List.forall_mem_cons.1 hletters with ⟨hc, hrest⟩
      rcases exists_columnLetter hc with ⟨m, hm, hupper, hplace⟩
      have hcapital : letterNumber c.toUpper = letterNumber c := by
        rw [hplace, hupper, (letter_columnLetter hm).1]
      rw [List.map_cons, columnNumberFrom?, columnNumberFrom?, hcapital, ih hrest]

/-- Letters are read as the column that they are the letters of. -/
theorem columnNumber?_eq_some_iff {letters : List Char}
    (hletters : ∀ c ∈ letters, isLetter c = true) {n : Nat} :
    columnNumber? letters = some n ↔
      n < Number.wordBound ∧ letters.map Char.toUpper = columnLetters n := by
  constructor
  · intro h
    rcases columnLetters_append hletters h (by decide) with ⟨hn, hwhole⟩
    refine ⟨hn, ?_⟩
    rwa [columnLetters_eq_nil_iff.2 rfl, List.nil_append] at hwhole
  · rintro ⟨hn, hwhole⟩
    have hread := columnNumberFrom?_columnLetters hn []
    rw [List.append_nil, ← hwhole, columnNumberFrom?_map_toUpper hletters] at hread
    exact hread

namespace CellPosition

/-! ### References -/

/-- A spelling of a position: the letters of its column, small or capital, and the digits
    of its row, with zeros in front. -/
def IsSpelled (p : CellPosition) (text : List Char) : Prop :=
  ∃ letters digits, text = letters ++ digits ∧
    letters.map Char.toUpper = columnLetters (p.column + 1) ∧
    Number.IsPadded (p.row + 1) digits

variable {p : CellPosition} {text : List Char}

/-- Letters and digits are told apart by the first digit. -/
theorem takeWhile_letters {letters digits : List Char}
    (hletters : ∀ c ∈ letters, isLetter c = true) (hdigits : ∀ c ∈ digits, c.isDigit = true) :
    (letters ++ digits).takeWhile (!·.isDigit) = letters ∧
      (letters ++ digits).dropWhile (!·.isDigit) = digits := by
  have hpass : ∀ c ∈ letters, (!c.isDigit) = true := by
    intro c hc
    rw [not_isDigit_of_isLetter (hletters c hc)]
    rfl
  rw [List.takeWhile_append_of_pos hpass, List.dropWhile_append_of_pos hpass]
  cases digits with
  | nil => exact ⟨List.append_nil _, rfl⟩
  | cons c rest =>
      rw [List.takeWhile_cons, List.dropWhile_cons, hdigits c List.mem_cons_self]
      exact ⟨List.append_nil _, rfl⟩

/-- What is read of a text are its letters and its digits. -/
theorem exists_of_ofReference? (h : ofReference? text = some p) :
    ∃ letters digits, text = letters ++ digits ∧ (∀ c ∈ letters, isLetter c = true) ∧
      digits.head? ≠ some '+' ∧ columnNumber? letters = some (p.column + 1) ∧
      Number.readNatural? digits = some (p.row + 1) := by
  have hsplit := List.takeWhile_append_dropWhile (p := (!·.isDigit)) (l := text)
  refine ⟨text.takeWhile (!·.isDigit), text.dropWhile (!·.isDigit), hsplit.symm, ?_⟩
  rw [ofReference?] at h
  split at h
  case isTrue => cases h
  case isFalse hletters =>
    rw [Bool.not_eq_true, Bool.or_eq_false_iff, Bool.not_eq_false', List.all_eq_true,
      List.isEmpty_eq_false_iff] at hletters
    rcases Option.bind_eq_some_iff.1 h with ⟨column, hcolumn, h⟩
    rcases Option.bind_eq_some_iff.1 h with ⟨row, hrow, h⟩
    split at h
    case isTrue => cases h
    case isFalse hpos =>
      cases h
      -- The column is not zero, because there is a letter.
      have hcolumnPos : column ≠ 0 := by
        rintro rfl
        have hnone := ((columnNumber?_eq_some_iff hletters.2).1 hcolumn).2
        rw [columnLetters_eq_nil_iff.2 rfl, List.map_eq_nil_iff] at hnone
        exact hletters.1 hnone
      refine ⟨hletters.2, ?_, ?_, ?_⟩
      · intro hplus
        have hhead := List.head?_dropWhile_not (!·.isDigit) text
        rw [hplus] at hhead
        cases hhead
      · rw [hcolumn, Nat.sub_add_cancel (Nat.pos_of_ne_zero hcolumnPos)]
      · rw [hrow, Nat.sub_add_cancel (Nat.pos_of_ne_zero hpos)]

namespace IsSpelled

theorem isLetter_of_mem {letters : List Char} {n : Nat}
    (h : letters.map Char.toUpper = columnLetters n) : ∀ c ∈ letters, isLetter c = true := by
  intro c hc
  have hupper : c.toUpper ∈ columnLetters n := h ▸ List.mem_map_of_mem hc
  rcases mem_columnLetters hupper with ⟨m, hm, hletter⟩
  exact isLetter_of_toUpper hm hletter

/-- A text spells one position at most. -/
theorem unique {q : CellPosition} (hp : p.IsSpelled text) (hq : q.IsSpelled text) : p = q := by
  rcases hp with ⟨letters, digits, rfl, hcolumn, hrow⟩
  rcases hq with ⟨letters', digits', htext, hcolumn', hrow'⟩
  rcases takeWhile_letters (isLetter_of_mem hcolumn) hrow.isDigit_of_mem with ⟨htake, hdrop⟩
  rw [htext, (takeWhile_letters (isLetter_of_mem hcolumn') hrow'.isDigit_of_mem).1] at htake
  rw [htext, (takeWhile_letters (isLetter_of_mem hcolumn') hrow'.isDigit_of_mem).2] at hdrop
  subst htake hdrop
  have hcolumns : q.column + 1 = p.column + 1 :=
    columnLetters_injective (hcolumn'.symm.trans hcolumn)
  have hrows : q.row + 1 = p.row + 1 := hrow'.digitsToNat_eq.symm.trans hrow.digitsToNat_eq
  rcases p with ⟨row, column⟩
  rcases q with ⟨row', column'⟩
  rw [CellPosition.mk.injEq]
  exact ⟨(Nat.succ.inj hrows).symm, (Nat.succ.inj hcolumns).symm⟩

/-- A spelling of a position is read as the position. -/
theorem ofReference?_eq (h : p.IsSpelled text) (hcounted : p.IsCounted) :
    ofReference? text = some p := by
  rcases h with ⟨letters, digits, rfl, hcolumn, hrow⟩
  have hletters := isLetter_of_mem hcolumn
  have hne : letters ≠ [] := by
    rintro rfl
    exact columnLetters_ne_nil (Nat.succ_ne_zero _) hcolumn.symm
  have hsign : digits.head? ≠ some '+' := by
    intro hplus
    have hdigit := hrow.isDigit_of_mem '+' (List.mem_of_mem_head? hplus)
    cases hdigit
  rcases takeWhile_letters hletters hrow.isDigit_of_mem with ⟨htake, hdrop⟩
  have hreadColumn : columnNumber? letters = some (p.column + 1) :=
    (columnNumber?_eq_some_iff hletters).2 ⟨hcounted.column, hcolumn⟩
  have hreadRow : Number.readNatural? digits = some (p.row + 1) :=
    (Number.readNatural?_eq_some_iff (Nat.succ_pos _) hsign).2 ⟨hcounted.row, hrow⟩
  simp [ofReference?, htake, hdrop, hreadColumn, hreadRow, hne, List.all_eq_true.2 hletters]

end IsSpelled

/-- What is read as a position spells it, and there is a number after it in both
    directions. -/
theorem isSpelled_of_ofReference? {text : List Char} {p : CellPosition}
    (h : ofReference? text = some p) : p.IsCounted ∧ p.IsSpelled text := by
  rcases exists_of_ofReference? h with ⟨letters, digits, rfl, hletters, hsign, hcolumn, hrow⟩
  rcases (columnNumber?_eq_some_iff hletters).1 hcolumn with ⟨hcolumnLt, hspelled⟩
  rcases (Number.readNatural?_eq_some_iff (Nat.succ_pos _) hsign).1 hrow with ⟨hrowLt, hpadded⟩
  exact ⟨⟨hrowLt, hcolumnLt⟩, letters, digits, rfl, hspelled, hpadded⟩

/-- A text is read as a position if and only if it is a spelling of it and both numbers fit
    into 64 bits. A text that spells a position past them is read as none. -/
theorem ofReference?_outcome (text : List Char) :
    (∀ p, ofReference? text = some p ↔ IsCounted p ∧ IsSpelled p text) ∧
      ∀ p, IsSpelled p text → ¬ p.IsCounted → ofReference? text = none := by
  refine ⟨fun p => ⟨isSpelled_of_ofReference?, fun h => h.2.ofReference?_eq h.1⟩, ?_⟩
  intro p hspelled hcounted
  refine Option.eq_none_iff_forall_ne_some.2 fun q hq => ?_
  rcases isSpelled_of_ofReference? hq with ⟨hq, hspelled'⟩
  rw [hspelled'.unique hspelled] at hq
  exact hcounted hq

/-- Letters of both sizes with zeros between them and the row, and a row past 64 bits. -/
theorem ofReference?_outcome_mixed_case :
    ofReference? "aA007".toList = some ⟨6, 26⟩ ∧
      ofReference? "A18446744073709551616".toList = none := by
  have hletters : columnLetters 27 = ['A', 'A'] ∧ columnLetters 1 = ['A'] := by
    constructor <;> simp [columnLetters] <;> decide
  refine ⟨((ofReference?_outcome _).1 _).2 ⟨⟨by decide, by decide⟩, ['a', 'A'], "007".toList,
    rfl, hletters.1.symm, 2, rfl⟩, (ofReference?_outcome _).2 ⟨18446744073709551615, 0⟩ ?_ ?_⟩
  · exact ⟨['A'], "18446744073709551616".toList, rfl, hletters.2.symm, 0, by decide +kernel⟩
  · intro h
    exact absurd h.row (by decide)

end CellPosition

end Spreadsheet

end Questionnaire
