/-!
# Ranges of Code Points

A character property of the Unicode standard is a set of code points, and the
sets that matter here are long but mostly made of runs. Each is kept as a list
of closed ranges in rising order, so the search can stop at the first range
that begins above the code point: for the letters, digits and signs of ASCII,
which is nearly every character of a formula, it looks at one or two ranges.

## Main definitions

* `CodeRanges`: Closed ranges of code points.
* `CodeRanges.covers`: Whether some range holds a code point.
* `CodeRanges.Rising`: Each range lies above the one before it.
* `CodeRanges.points`: The code points of the ranges, one by one.

## Theorems

* `covers_iff`: On rising ranges the early stop loses nothing.
* `mem_points_of_covers`: What a range holds is one of its code points.
-/

namespace Questionnaire

namespace Text

/-- Closed ranges of code points, as pairs of the first and the last one. -/
abbrev CodeRanges := List (Nat × Nat)

namespace CodeRanges

/-- Whether a code point lies in one of the ranges. The ranges are rising, so
    the search ends at the first one that begins above the code point. -/
def covers : CodeRanges → Nat → Bool
  | [], _ => false
  | (first, last) :: rest, n =>
    if n < first then false else if n ≤ last then true else covers rest n

/-- Each range begins above the end of the one before it. -/
def Rising (ranges : CodeRanges) : Prop :=
  ranges.Pairwise fun a b => a.1 ≤ a.2 ∧ a.2 < b.1

theorem covers_iff {ranges : CodeRanges} (h : ranges.Rising) (n : Nat) :
    ranges.covers n = true ↔ ∃ r ∈ ranges, r.1 ≤ n ∧ n ≤ r.2 := by
  induction ranges with
  | nil => simp [covers]
  | cons r rest ih =>
    rcases r with ⟨first, last⟩
    rcases List.pairwise_cons.1 h with ⟨above, hrest⟩
    have ih := ih hrest
    by_cases hlow : n < first
    · have hnone : ¬∃ r ∈ rest, r.1 ≤ n ∧ n ≤ r.2 := by
        rintro ⟨r, hr, hle, _⟩
        have := above r hr
        simp only at this
        omega
      simp only [covers, hlow, if_true, List.mem_cons, exists_eq_or_imp, hnone, or_false,
        Bool.false_eq_true, false_iff]
      omega
    · by_cases hin : n ≤ last
      · simp only [covers, hlow, hin, if_true, if_false, true_iff]
        exact ⟨(first, last), List.mem_cons_self, by simp only; omega, hin⟩
      · simp only [covers, hlow, hin, if_false, ih, List.mem_cons, exists_eq_or_imp, and_false,
          false_or]

/-- The code points of the ranges, one by one. -/
def points (ranges : CodeRanges) : List Nat :=
  ranges.flatMap fun r => List.range' r.1 (r.2 + 1 - r.1)

theorem mem_points_of_covers {ranges : CodeRanges} {n : Nat} (h : ranges.covers n = true) :
    n ∈ ranges.points := by
  induction ranges with
  | nil => cases h
  | cons r rest ih =>
    rcases r with ⟨first, last⟩
    rw [covers] at h
    rw [points, List.flatMap_cons, List.mem_append, List.mem_range'_1]
    split at h
    case isTrue => cases h
    case isFalse =>
      split at h
      case isTrue => exact Or.inl (by dsimp only; omega)
      case isFalse => exact Or.inr (ih h)

end CodeRanges

end Text

end Questionnaire
