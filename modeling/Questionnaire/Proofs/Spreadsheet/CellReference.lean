import Questionnaire.Spreadsheet.CellReference

/-!
# Written References

How the position of a cell is written, and that it is read back. Letters count
columns without a zero: what is left of a column once its last letter is taken
away is one less than a division by twenty-six would say, and that is so at every
letter. Reading adds the one again at every letter, so the two cancel letter by
letter, as long as nothing on the way is too large to be counted.

## Main definitions

* `columnLetters`: The letters of a column that is counted from one.
* `CellPosition.reference`: The position of a cell as it is written.
* `CellPosition.IsCounted`: A position with a number after it in both directions.

## Theorems

* `columnNumberFrom?_columnLetters`: Letters are read back.
* `Number.readNatural?_toDigits`: So are decimal digits.
* `CellPosition.ofReference?_reference`: So are positions.
-/

namespace Questionnaire

namespace Number

theorem readNatural?_toDigits {n : Nat} (h : n < wordBound) :
    readNatural? (Nat.toDigits 10 n) = some n := by
  have hall : ∀ c ∈ Nat.toDigits 10 n, c.isDigit = true := fun c hc =>
    Nat.isDigit_of_mem_toDigits (by decide) (by decide) hc
  have hvalue : digitsToNat (Nat.toDigits 10 n) = n :=
    Nat.ofDigitChars_ten_toDigits
  have hread : readDigits? (Nat.toDigits 10 n) = some n := by
    have hne : (Nat.toDigits 10 n).isEmpty = false :=
      List.isEmpty_eq_false_iff.2 Nat.toDigits_ne_nil
    rw [readDigits?, hne, List.all_eq_true.2 hall, hvalue]
    rfl
  rw [readNatural?.eq_def]
  split
  · -- Digits do not begin with a sign.
    rename_i rest hplus
    have hdigit := hall '+' (hplus ▸ List.mem_cons_self)
    cases hdigit
  · dsimp only
    rw [hread, Option.filter_some, if_pos (decide_eq_true h)]

end Number

namespace Spreadsheet

/-- A letter by its place in the alphabet, counted from zero. -/
def columnLetter (n : Nat) : Char :=
  Char.ofNat ('A'.toNat + n)

/-- The letters of a column that is counted from one. -/
def columnLetters (n : Nat) : List Char :=
  if n = 0 then []
  else columnLetters ((n - 1) / 26) ++ [columnLetter ((n - 1) % 26)]
termination_by n
decreasing_by omega

theorem letter_columnLetter {n : Nat} (h : n < 26) :
    letterNumber (columnLetter n) = n + 1 ∧ isLetter (columnLetter n) = true ∧
      (columnLetter n).isDigit = false := by
  have hall : ∀ m : Fin 26, letterNumber (columnLetter m) = m + 1 ∧
      isLetter (columnLetter m) = true ∧ (columnLetter m).isDigit = false := by decide
  exact hall ⟨n, h⟩

theorem mem_columnLetters {n : Nat} {c : Char} (h : c ∈ columnLetters n) :
    ∃ m < 26, c = columnLetter m := by
  induction n using Nat.strongRecOn with
  | ind n ih =>
      rw [columnLetters] at h
      split at h
      · cases h
      · rw [List.mem_append, List.mem_singleton] at h
        rcases h with h | rfl
        · exact ih _ (by omega) h
        · exact ⟨_, Nat.mod_lt _ (by decide), rfl⟩

theorem columnLetters_ne_nil {n : Nat} (h : n ≠ 0) : columnLetters n ≠ [] := by
  rw [columnLetters, if_neg h]
  exact List.append_ne_nil_of_right_ne_nil _ (List.cons_ne_nil _ _)

/-- Letters are read as the number that they are the letters of. -/
theorem columnNumberFrom?_columnLetters {n : Nat} (h : n < Number.wordBound)
    (rest : List Char) :
    columnNumberFrom? 0 (columnLetters n ++ rest) = columnNumberFrom? n rest := by
  induction n using Nat.strongRecOn generalizing rest with
  | ind n ih =>
      rw [columnLetters]
      by_cases hzero : n = 0
      · rw [if_pos hzero, hzero]
        rfl
      · have hletter := (letter_columnLetter (Nat.mod_lt (n - 1) (by decide : 0 < 26))).1
        have hvalue : 26 * ((n - 1) / 26) + ((n - 1) % 26 + 1) = n := by omega
        rw [if_neg hzero, List.append_assoc, ih ((n - 1) / 26) (by omega) (by omega),
          List.singleton_append, columnNumberFrom?, hletter, hvalue]
        exact if_pos h

namespace CellPosition

/-- The position of a cell as it is written. -/
def reference (p : CellPosition) : String :=
  String.ofList (columnLetters (p.column + 1)) ++ toString (p.row + 1)

/-- In both directions there is a number after a position. -/
structure IsCounted (p : CellPosition) : Prop where
  row : p.row + 1 < Number.wordBound
  column : p.column + 1 < Number.wordBound

/-- A position is read as it is written. -/
theorem ofReference?_reference {p : CellPosition} (h : p.IsCounted) :
    ofReference? p.reference.toList = some p := by
  have htext : p.reference.toList =
      columnLetters (p.column + 1) ++ Nat.toDigits 10 (p.row + 1) := by
    rw [reference, String.toList_append, String.toList_ofList, Nat.toString_eq_repr,
      Nat.toList_repr]
  have hletters : ∀ c ∈ columnLetters (p.column + 1),
      isLetter c = true ∧ c.isDigit = false := by
    intro c hc
    rcases mem_columnLetters hc with ⟨m, hm, rfl⟩
    exact (letter_columnLetter hm).2
  have hdigits : ∀ c ∈ Nat.toDigits 10 (p.row + 1), c.isDigit = true := fun c hc =>
    Nat.isDigit_of_mem_toDigits (by decide) (by decide) hc
  -- The first digit ends the letters.
  have hnone : (Nat.toDigits 10 (p.row + 1)).takeWhile (!·.isDigit) = [] := by
    cases hrow : Nat.toDigits 10 (p.row + 1) with
    | nil => rfl
    | cons c rest =>
        rw [hrow, List.forall_mem_cons] at hdigits
        rw [List.takeWhile_cons, hdigits.1]
        rfl
  have htake : p.reference.toList.takeWhile (!·.isDigit) = columnLetters (p.column + 1) := by
    rw [htext, List.takeWhile_append_of_pos, hnone, List.append_nil]
    intro c hc
    rw [(hletters c hc).2]
    rfl
  have hdrop : p.reference.toList.dropWhile (!·.isDigit) = Nat.toDigits 10 (p.row + 1) := by
    have hwhole := List.takeWhile_append_dropWhile (p := (!·.isDigit)) (l := p.reference.toList)
    rw [htake, htext] at hwhole
    rw [htext]
    exact List.append_cancel_left hwhole
  have hcolumn : columnNumber? (columnLetters (p.column + 1)) = some (p.column + 1) := by
    have hread := columnNumberFrom?_columnLetters h.column []
    rwa [List.append_nil] at hread
  have hempty : (columnLetters (p.column + 1)).isEmpty = false :=
    List.isEmpty_eq_false_iff.2 (columnLetters_ne_nil (Nat.succ_ne_zero _))
  have hall : (columnLetters (p.column + 1)).all isLetter = true :=
    List.all_eq_true.2 fun c hc => (hletters c hc).1
  simp [ofReference?, htake, hdrop, hcolumn, hempty, hall, Number.readNatural?_toDigits h.row]

end CellPosition

end Spreadsheet

end Questionnaire
