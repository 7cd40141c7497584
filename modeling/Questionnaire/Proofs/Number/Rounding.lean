import Mathlib.Algebra.Order.Field.Power
import Mathlib.Tactic.FieldSimp
import Mathlib.Tactic.Linarith
import Mathlib.Tactic.LinearCombination
import Mathlib.Tactic.NormNum
import Mathlib.Tactic.Positivity
import Mathlib.Tactic.Ring
import Questionnaire.Number.Decimal

/-!
# Rounding to Stored Numbers

A count in a cell is rounded to a number that a spreadsheet can store before anything
is asked about it. Here rounding is what it is meant to be: the nearest of all numbers
that can be stored, and of two that are equally near the even one.

The even one can be told without its bits. If two stored numbers are equally near to a
number between them, nothing that can be stored lies between the two, so one of them is
a multiple of their distance by an even factor and the other by an odd one. Said in this
way it is plain that there is one nearest number only, `IsNearest.unique`, and so it is
enough to show that what is computed is a nearest number.

The quotient is scaled by a power of two so that its integers are the multiples of the
last bit. A stored number that is no such multiple has a smaller exponent, thus it is
smaller than every number with all its bits, and the least of those is at least as near:
`IsRounded.isNearest`.

## Main definitions

* `IsStorable`: A number that can be stored.
* `IsNearest`: The stored number that a number is rounded to.
* `IsRounded`: The integer that a number is rounded to.

## Theorems

* `IsNearest.unique`: A number is rounded to one stored number.
* `exponentFor_spec`: The exponent leaves the bits that there is room for.
* `Binary.isNearest_nearest`: What is computed for a quotient is nearest to it.
* `Binary.toNat?_nearest_eq_some_iff`: The integers that quotients are rounded to.
* `IsNearest.abs_sub_le`: How far a number is from the integer that it is rounded to.
-/

namespace Questionnaire

namespace Number

/-! ### Numbers that can be stored -/

/-- A number that can be stored. There is no largest one. -/
def IsStorable (x : ℚ) : Prop :=
  ∃ m e : ℤ, |m| < 2 ^ 53 ∧ -1074 ≤ e ∧ x = m * 2 ^ e

theorem abs_neg_sub_neg (a b : ℚ) : |-a - -b| = |a - b| := by
  rw [neg_sub_neg, abs_sub_comm]

/-- The stored number that a number is rounded to. -/
structure IsNearest (v x : ℚ) : Prop where
  storable : IsStorable x
  near : ∀ y, IsStorable y → |v - x| ≤ |v - y|
  /-- Of two that are equally near it is the even one: their distance goes into it an
      even number of times. -/
  even : ∀ y, IsStorable y → y ≠ x → |v - y| = |v - x| → ∃ j : ℤ, x = 2 * j * (y - x)

theorem isStorable_of_le {m e : ℤ} (hm : |m| ≤ 2 ^ 53) (he : -1074 ≤ e) :
    IsStorable (m * 2 ^ e) := by
  rcases lt_or_eq_of_le hm with hlt | heq
  · exact ⟨m, e, hlt, he, rfl⟩
  · -- One bit more than there is room for, but the last one is not needed.
    have hhalf : ∃ k : ℤ, m = k * 2 ∧ |k| < 2 ^ 53 := by
      rcases abs_eq (by norm_num) |>.1 heq with rfl | rfl
      · exact ⟨2 ^ 52, by norm_num, by norm_num⟩
      · exact ⟨-2 ^ 52, by norm_num, by norm_num⟩
    obtain ⟨k, rfl, hk⟩ := hhalf
    refine ⟨k, e + 1, hk, by omega, ?_⟩
    rw [zpow_add_one₀ two_ne_zero]
    push_cast
    ring

theorem isStorable_natCast {n : Nat} (h : n ≤ 2 ^ 53) : IsStorable n := by
  have hstorable : IsStorable ((n : ℤ) * 2 ^ (0 : ℤ)) :=
    isStorable_of_le (by rw [abs_of_nonneg (by positivity)]; exact_mod_cast h) (by norm_num)
  simpa using hstorable

theorem IsStorable.neg {x : ℚ} (h : IsStorable x) : IsStorable (-x) := by
  obtain ⟨m, e, hm, he, rfl⟩ := h
  exact ⟨-m, e, by rwa [abs_neg], he, by push_cast; ring⟩

namespace IsNearest

variable {v x y : ℚ}

theorem unique (hx : IsNearest v x) (hy : IsNearest v y) : x = y := by
  by_contra hne
  have heq : |v - x| = |v - y| := le_antisymm (hx.near y hy.storable) (hy.near x hx.storable)
  obtain ⟨i, hi⟩ := hx.even y hy.storable (Ne.symm hne) heq.symm
  obtain ⟨j, hj⟩ := hy.even x hx.storable hne heq
  -- Two numbers at their own distance are not both even.
  have hzero : (1 + 2 * ((i : ℚ) + j)) * (y - x) = 0 := by linear_combination hj - hi
  rcases mul_eq_zero.1 hzero with hodd | hsame
  · have hint : 1 + 2 * (i + j) = 0 := by exact_mod_cast hodd
    omega
  · exact hne (sub_eq_zero.1 hsame).symm

theorem neg (h : IsNearest v x) : IsNearest (-v) (-x) where
  storable := h.storable.neg
  near y hy := by
    rw [abs_neg_sub_neg, ← neg_neg y, abs_neg_sub_neg]
    exact h.near (-y) hy.neg
  even y hy hne heq := by
    rw [abs_neg_sub_neg, ← neg_neg y, abs_neg_sub_neg] at heq
    obtain ⟨j, hj⟩ := h.even (-y) hy.neg (by rintro rfl; exact hne (neg_neg y).symm) heq
    exact ⟨j, by linear_combination -hj⟩

/-- What is not negative is not rounded to what is. -/
theorem nonneg (h : IsNearest v x) (hv : 0 ≤ v) : 0 ≤ x := by
  by_contra hx
  have hzero : IsStorable 0 := by simpa using isStorable_natCast (n := 0) (by norm_num)
  have hnear := h.near 0 hzero
  rw [sub_zero, abs_of_nonneg hv, abs_of_nonneg (by linarith)] at hnear
  linarith

end IsNearest

/-- A number that can be stored is not changed. -/
theorem IsStorable.isNearest {x : ℚ} (h : IsStorable x) : IsNearest x x where
  storable := h
  near y _ := by rw [sub_self, abs_zero]; exact abs_nonneg _
  even y _ hne heq := by
    rw [sub_self, abs_zero, abs_eq_zero, sub_eq_zero] at heq
    exact absurd heq.symm hne

/-! ### Integers -/

/-- The integer that a number is rounded to. -/
structure IsRounded (w : ℚ) (m : ℤ) : Prop where
  near : ∀ i : ℤ, |w - m| ≤ |w - i|
  even : ∀ i : ℤ, i ≠ m → |w - i| = |w - m| → ∃ j : ℤ, m = 2 * j * (i - m)

/-- An integer within one half is the nearest, and if it is even at one half it is the
    one to take. -/
theorem isRounded_of_half {w : ℚ} {m : ℤ} (hhalf : |w - m| ≤ 1 / 2)
    (heven : |w - m| = 1 / 2 → Even m) : IsRounded w m := by
  -- Any other integer is at least one away from this one.
  have hother : ∀ i : ℤ, i ≠ m → 1 ≤ |(i : ℚ) - m| ∧ |(i : ℚ) - m| ≤ |w - i| + |w - m| := by
    intro i hne
    constructor
    · exact_mod_cast Int.one_le_abs (sub_ne_zero.2 hne)
    · rw [abs_sub_comm w]
      exact abs_sub_le _ _ _
  constructor
  case near =>
    intro i
    by_cases hi : i = m
    · rw [hi]
    · have hfar := hother i hi
      linarith
  case even =>
    intro i hi heq
    have hfar := hother i hi
    obtain ⟨k, hk⟩ := heven (by linarith)
    have hone : |(i : ℚ) - m| = 1 := by linarith
    rcases (abs_eq zero_le_one).1 hone with hnext | hlast
    · have hstep : i - m = 1 := by exact_mod_cast hnext
      exact ⟨k, by rw [hstep, hk]; ring⟩
    · have hstep : i - m = -1 := by exact_mod_cast hlast
      exact ⟨-k, by rw [hstep, hk]; ring⟩

/-- Rounding a quotient to an integer leaves no more than half a denominator, and half
    of one only at an even integer. -/
theorem roundHalfEven_spec (num : Nat) {den : Nat} (hden : 0 < den) :
    ∃ m, Binary.roundHalfEven num den = m ∧ 2 * num ≤ 2 * (m * den) + den ∧
      2 * (m * den) ≤ 2 * num + den ∧
      (2 * num = 2 * (m * den) + den ∨ 2 * (m * den) = 2 * num + den → m % 2 = 0) := by
  have hparts := Nat.div_add_mod num den
  have hlt := Nat.mod_lt num hden
  have hbelow : num / den * den = den * (num / den) := Nat.mul_comm _ _
  have habove : (num / den + 1) * den = den * (num / den) + den := by rw [Nat.succ_mul, hbelow]
  refine ⟨_, rfl, ?_⟩
  simp only [Binary.roundHalfEven]
  split_ifs with hless hmore heven
  · rw [hbelow]
    omega
  · rw [habove]
    omega
  · rw [hbelow]
    omega
  · rw [habove]
    omega

/-- The rounding of a quotient is that of the number it is. -/
theorem isRounded_roundHalfEven (num : Nat) {den : Nat} (hden : 0 < den) :
    IsRounded ((num : ℚ) / den) (Binary.roundHalfEven num den : ℕ) := by
  obtain ⟨m, hm, hbelow, habove, htie⟩ := roundHalfEven_spec num hden
  have hden' : (0 : ℚ) < den := by exact_mod_cast hden
  obtain ⟨w, hw⟩ : ∃ w : ℚ, w = num / den := ⟨_, rfl⟩
  have hnum : (num : ℚ) = w * den := by rw [hw]; field_simp
  have hbelow' : 2 * (w * den) ≤ 2 * ((m : ℚ) * den) + den := by
    rw [← hnum]
    exact_mod_cast hbelow
  have habove' : 2 * ((m : ℚ) * den) ≤ 2 * (w * den) + den := by
    rw [← hnum]
    exact_mod_cast habove
  rw [hm, ← hw]
  apply isRounded_of_half
  case hhalf =>
    rw [Int.cast_natCast, abs_le]
    constructor
    · nlinarith
    · nlinarith
  case heven =>
    rw [Int.cast_natCast, abs_eq (by norm_num), Int.even_coe_nat, Nat.even_iff]
    rintro (hup | hdown)
    · refine htie (Or.inl ?_)
      have heq : (2 * num : ℚ) = 2 * (m * den) + den := by
        rw [hnum, sub_eq_iff_eq_add.1 hup]
        ring
      exact_mod_cast heq
    · refine htie (Or.inr ?_)
      have heq : (2 * (m * den) : ℚ) = 2 * num + den := by
        rw [hnum, sub_eq_iff_eq_add.1 hdown]
        ring
      exact_mod_cast heq

theorem IsRounded.abs_le_pow {w : ℚ} {m : ℤ} (h : IsRounded w m) (hnonneg : 0 ≤ w)
    (hlt : w < 2 ^ 53) : |m| ≤ 2 ^ 53 := by
  have hzero := h.near 0
  have hlast := h.near (2 ^ 53)
  rw [Int.cast_zero, sub_zero, abs_of_nonneg hnonneg] at hzero
  rw [Int.cast_pow, Int.cast_ofNat, abs_sub_comm w (2 ^ 53), abs_of_pos (sub_pos.2 hlt)] at hlast
  have hlow : (0 : ℚ) ≤ m := by linarith [(abs_le.1 hzero).2]
  have hhigh : (m : ℚ) ≤ 2 ^ 53 := by linarith [(abs_le.1 hlast).1]
  rw [abs_of_nonneg (by exact_mod_cast hlow)]
  exact_mod_cast hhigh

/-- Rounding to an integer multiple of a power of two is rounding to a stored number,
    if no stored number near by lies between the multiples: either the power is the
    least, or the multiple has all its bits. -/
theorem IsRounded.isNearest {w : ℚ} {m e : ℤ} (h : IsRounded w m) (he : -1074 ≤ e)
    (hnonneg : 0 ≤ w) (hlt : w < 2 ^ 53) (hfull : e = -1074 ∨ 2 ^ 52 ≤ w) :
    IsNearest (w * 2 ^ e) (m * 2 ^ e) := by
  have hpow : (0 : ℚ) < 2 ^ e := zpow_pos two_pos e
  have hdistance : ∀ u : ℚ, |w * 2 ^ e - u * 2 ^ e| = |w - u| * 2 ^ e := by
    intro u
    rw [← sub_mul, abs_mul, abs_of_pos hpow]
  -- A stored number is a multiple too, or it is smaller than all numbers with all bits.
  have hcases : ∀ y, IsStorable y → (∃ i : ℤ, y = i * 2 ^ e) ∨
      |w * 2 ^ e - m * 2 ^ e| < |w * 2 ^ e - y| := by
    rintro y ⟨a, b, ha, hb, rfl⟩
    rcases le_or_gt e b with hle | hgt
    case inl =>
      left
      obtain ⟨k, rfl⟩ := Int.le.dest hle
      exact ⟨a * 2 ^ k, by rw [zpow_add₀ two_ne_zero, zpow_natCast]; push_cast; ring⟩
    case inr =>
      right
      have hbits : (2 : ℚ) ^ 52 ≤ w := hfull.resolve_left (by omega)
      have hsmall : (a : ℚ) * 2 ^ b < 2 ^ 52 * 2 ^ e := by
        have hup : (2 : ℚ) ^ (b + 1) ≤ 2 ^ e := zpow_le_zpow_right₀ one_le_two hgt
        have hfew : (a : ℚ) < 2 ^ 53 := by exact_mod_cast lt_of_abs_lt ha
        rw [zpow_add_one₀ two_ne_zero] at hup
        nlinarith [zpow_pos (two_pos (α := ℚ)) b]
      have hnear : |w - m| ≤ w - 2 ^ 52 := by
        have hnear := h.near (2 ^ 52)
        rwa [Int.cast_pow, Int.cast_ofNat, abs_of_nonneg (sub_nonneg.2 hbits)] at hnear
      calc |w * 2 ^ e - m * 2 ^ e|
        _ = |w - m| * 2 ^ e := hdistance m
        _ ≤ (w - 2 ^ 52) * 2 ^ e := mul_le_mul_of_nonneg_right hnear hpow.le
        _ < w * 2 ^ e - a * 2 ^ b := by linarith
        _ ≤ |w * 2 ^ e - a * 2 ^ b| := le_abs_self _
  constructor
  case storable => exact isStorable_of_le (h.abs_le_pow hnonneg hlt) he
  case near =>
    intro y hy
    rcases hcases y hy with ⟨i, rfl⟩ | hfar
    · rw [hdistance, hdistance]
      exact mul_le_mul_of_nonneg_right (h.near i) hpow.le
    · exact hfar.le
  case even =>
    intro y hy hne heq
    rcases hcases y hy with ⟨i, rfl⟩ | hfar
    · rw [hdistance, hdistance] at heq
      obtain ⟨j, hj⟩ := h.even i (by rintro rfl; exact hne rfl) (mul_right_cancel₀ hpow.ne' heq)
      have hj' : (m : ℚ) = 2 * j * (i - m) := by exact_mod_cast hj
      exact ⟨j, by linear_combination 2 ^ e * hj'⟩
    · exact absurd heq hfar.ne'

/-! ### Quotients -/

/-- A power with an integer exponent, as one of natural numbers. -/
theorem zpow_of_nonneg (b : Nat) {e : ℤ} (h : 0 ≤ e) : (b : ℚ) ^ e = Nat.pow b e.toNat := by
  rw [Nat.pow_eq, Nat.cast_pow, ← zpow_natCast, Int.toNat_of_nonneg h]

theorem zpow_of_neg (b : Nat) {e : ℤ} (h : ¬0 ≤ e) :
    (b : ℚ) ^ e = ((Nat.pow b (-e).toNat : ℕ) : ℚ)⁻¹ := by
  rw [Nat.pow_eq, Nat.cast_pow, ← zpow_natCast, Int.toNat_of_nonneg (by omega), zpow_neg, inv_inv]

theorem two_zpow_of_nonneg {e : ℤ} (h : 0 ≤ e) : (2 : ℚ) ^ e = (Nat.pow 2 e.toNat : ℕ) :=
  zpow_of_nonneg 2 h

theorem two_zpow_of_neg {e : ℤ} (h : ¬0 ≤ e) : (2 : ℚ) ^ e = ((Nat.pow 2 (-e).toNat : ℕ) : ℚ)⁻¹ :=
  zpow_of_neg 2 h

/-- A power of two against a quotient, without a division. -/
theorem two_zpow_le_div_iff (num : Nat) {den : Nat} (hden : 0 < den) (k : ℤ) :
    (2 : ℚ) ^ k ≤ num / den ↔
      (if 0 ≤ k then decide (den * Nat.pow 2 k.toNat ≤ num)
        else decide (den ≤ num * Nat.pow 2 (-k).toNat)) = true := by
  have hden' : (0 : ℚ) < den := by exact_mod_cast hden
  split_ifs with hk
  all_goals rw [decide_eq_true_iff]
  · rw [two_zpow_of_nonneg hk, le_div_iff₀ hden', mul_comm]
    exact_mod_cast Iff.rfl
  · have hpos : (0 : ℚ) < Nat.pow 2 (-k).toNat := by exact_mod_cast Nat.pow_pos two_pos
    rw [two_zpow_of_neg hk, inv_le_iff_one_le_mul₀ hpos, div_mul_eq_mul_div, le_div_iff₀ hden',
      one_mul]
    exact_mod_cast Iff.rfl

/-- A positive number lies between the power of two at its last bit and the next. -/
theorem two_zpow_log2 {n : Nat} (h : n ≠ 0) :
    (2 : ℚ) ^ (n.log2 : ℤ) ≤ n ∧ (n : ℚ) < 2 ^ ((n.log2 : ℤ) + 1) := by
  constructor
  · exact_mod_cast Nat.log2_self_le h
  · exact_mod_cast Nat.lt_log2_self

/-- The exponent is taken from where the quotient lies between two powers of two. -/
theorem exponentFor_eq {num den : Nat} (hnum : num ≠ 0) (hden : den ≠ 0) :
    ∃ f : ℤ, (2 : ℚ) ^ f ≤ num / den ∧ (num / den : ℚ) < 2 ^ (f + 1) ∧
      Binary.exponentFor num den = max (-1074) (f - 52) := by
  have hpos : (0 : ℚ) < den := by exact_mod_cast Nat.pos_of_ne_zero hden
  obtain ⟨hnumLow, hnumHigh⟩ := two_zpow_log2 hnum
  obtain ⟨hdenLow, hdenHigh⟩ := two_zpow_log2 hden
  have hlow : (2 : ℚ) ^ ((num.log2 : ℤ) - den.log2 - 1) ≤ num / den := by
    rw [le_div_iff₀ hpos]
    refine le_trans ?_ hnumLow
    calc (2 : ℚ) ^ ((num.log2 : ℤ) - den.log2 - 1) * den
      _ ≤ 2 ^ ((num.log2 : ℤ) - den.log2 - 1) * 2 ^ ((den.log2 : ℤ) + 1) :=
        mul_le_mul_of_nonneg_left hdenHigh.le (zpow_pos two_pos _).le
      _ = 2 ^ (num.log2 : ℤ) := by
        rw [← zpow_add₀ two_ne_zero]
        congr 1
        ring
  have hhigh : (num / den : ℚ) < 2 ^ ((num.log2 : ℤ) - den.log2 + 1) := by
    rw [div_lt_iff₀ hpos]
    refine lt_of_lt_of_le hnumHigh ?_
    calc (2 : ℚ) ^ ((num.log2 : ℤ) + 1)
      _ = 2 ^ ((num.log2 : ℤ) - den.log2 + 1) * 2 ^ (den.log2 : ℤ) := by
        rw [← zpow_add₀ two_ne_zero]
        congr 1
        ring
      _ ≤ 2 ^ ((num.log2 : ℤ) - den.log2 + 1) * den :=
        mul_le_mul_of_nonneg_left hdenLow (zpow_pos two_pos _).le
  have hreaches := two_zpow_le_div_iff num (Nat.pos_of_ne_zero hden) (num.log2 - den.log2)
  by_cases h : (2 : ℚ) ^ ((num.log2 : ℤ) - den.log2) ≤ num / den
  case pos =>
    refine ⟨num.log2 - den.log2, h, hhigh, ?_⟩
    simp only [Binary.exponentFor, if_pos (hreaches.1 h)]
    rfl
  case neg =>
    refine ⟨num.log2 - den.log2 - 1, hlow, by rw [sub_add_cancel]; exact lt_of_not_ge h, ?_⟩
    simp only [Binary.exponentFor, if_neg (mt hreaches.2 h)]
    rfl

/-- At the exponent a quotient has all its bits and no more, unless the exponent is the
    least one. -/
theorem exponentFor_spec {num den : Nat} (hnum : num ≠ 0) (hden : den ≠ 0) :
    ∃ e, Binary.exponentFor num den = e ∧ -1074 ≤ e ∧ (num / den : ℚ) < 2 ^ 53 * 2 ^ e ∧
      (e = -1074 ∨ 2 ^ 52 * 2 ^ e ≤ (num / den : ℚ)) := by
  obtain ⟨f, hlow, hhigh, he⟩ := exponentFor_eq hnum hden
  have hpow : ∀ (k : ℕ) (e : ℤ), (2 : ℚ) ^ k * 2 ^ e = 2 ^ (k + e) := by
    intro k e
    rw [zpow_add₀ two_ne_zero, zpow_natCast]
  refine ⟨_, rfl, ?_⟩
  rw [he, hpow, hpow]
  refine ⟨le_max_left _ _, ?_, ?_⟩
  · exact lt_of_lt_of_le hhigh (zpow_le_zpow_right₀ one_le_two (by omega))
  · rcases le_or_gt (f - 52) (-1074) with hle | hgt
    · exact Or.inl (max_eq_left hle)
    · right
      refine le_trans (zpow_le_zpow_right₀ one_le_two ?_) hlow
      rw [max_eq_right hgt.le]
      omega

namespace Binary

/-- The number that is stored. -/
def value (b : Binary) : ℚ :=
  b.mantissa * 2 ^ b.exponent

/-- What is stored for a quotient is the stored number nearest to it. -/
theorem isNearest_nearest (num : Nat) {den : Nat} (hden : 0 < den) :
    IsNearest (num / den) (nearest num den).value := by
  rcases Nat.eq_zero_or_pos num with rfl | hnum
  case inl =>
    have hzero : (nearest 0 den).value = (0 : ℕ) := by simp [nearest, value]
    rw [hzero, Nat.cast_zero, zero_div]
    exact_mod_cast (isStorable_natCast (n := 0) (by norm_num)).isNearest
  case inr =>
    obtain ⟨e, he, hleast, hlt, hfull⟩ := exponentFor_spec hnum.ne' hden.ne'
    have hpow : (0 : ℚ) < 2 ^ e := zpow_pos two_pos e
    -- The quotient with the exponent taken off it, and what it is rounded to.
    obtain ⟨m, hm, hrounded⟩ : ∃ m : ℕ, nearest num den = ⟨m, e⟩ ∧
        IsRounded (num / den / 2 ^ e : ℚ) m := by
      unfold nearest
      rw [if_neg hnum.ne', he]
      refine ⟨_, rfl, ?_⟩
      split_ifs with hsign
      · rw [two_zpow_of_nonneg hsign, div_div]
        exact_mod_cast isRounded_roundHalfEven num (Nat.mul_pos hden (Nat.pow_pos two_pos))
      · rw [two_zpow_of_neg hsign, div_inv_eq_mul, div_mul_eq_mul_div]
        exact_mod_cast isRounded_roundHalfEven (num * Nat.pow 2 (-e).toNat) hden
    have hnearest := hrounded.isNearest hleast (by positivity) ((div_lt_iff₀ hpow).2 hlt)
      (hfull.imp_right (le_div_iff₀ hpow).2)
    rw [div_mul_cancel₀ _ hpow.ne'] at hnearest
    rw [hm]
    exact hnearest

theorem toNat?_eq_some_iff {b : Binary} {n : Nat} : b.toNat? = some n ↔ b.value = n := by
  simp only [toNat?, value]
  split_ifs with hsign hmod
  · rw [two_zpow_of_nonneg hsign, Option.some.injEq]
    exact_mod_cast Iff.rfl
  all_goals
    have hscale : 0 < Nat.pow 2 (-b.exponent).toNat := Nat.pow_pos two_pos
    have hscale' : ((Nat.pow 2 (-b.exponent).toNat : ℕ) : ℚ) ≠ 0 := by exact_mod_cast hscale.ne'
    rw [two_zpow_of_neg hsign, ← div_eq_mul_inv, div_eq_iff hscale']
  · rw [Option.some.injEq, Nat.div_eq_iff_eq_mul_left hscale (Nat.dvd_of_mod_eq_zero hmod)]
    exact_mod_cast Iff.rfl
  · refine iff_of_false (by simp) fun heq => hmod ?_
    have heq' : b.mantissa = n * Nat.pow 2 (-b.exponent).toNat := by exact_mod_cast heq
    rw [heq', Nat.mul_mod_left]

/-- The integer stored for a quotient, if one is. -/
theorem toNat?_nearest_eq_some_iff (num : Nat) {den : Nat} (hden : 0 < den) {n : Nat} :
    (nearest num den).toNat? = some n ↔ IsNearest (num / den) n := by
  have hnearest := isNearest_nearest num hden
  rw [toNat?_eq_some_iff]
  constructor
  · intro hvalue
    rwa [hvalue] at hnearest
  · exact hnearest.unique

end Binary

/-! ### Integers that are stored -/

/-- The stored numbers on either side of an integer. -/
theorem isStorable_beside {n j : Nat} (h : n * 2 ^ j < 2 ^ 53) (hj : j ≤ 1074) {i : ℤ}
    (hi : |i| ≤ 1) : IsStorable (n + i * 2 ^ (-j : ℤ)) := by
  have hscale : (2 : ℚ) ^ j * 2 ^ (-j : ℤ) = 1 := by
    rw [← zpow_natCast, ← zpow_add₀ two_ne_zero, add_neg_cancel, zpow_zero]
  have hfew : (n : ℤ) * 2 ^ j < 2 ^ 53 := by exact_mod_cast h
  have hnonneg : 0 ≤ (n : ℤ) * 2 ^ j := by positivity
  have hbounds := abs_le.1 hi
  have hfits : |(n : ℤ) * 2 ^ j + i| ≤ 2 ^ 53 := abs_le.2 ⟨by omega, by omega⟩
  have hvalue : (((n : ℤ) * 2 ^ j + i : ℤ) : ℚ) * 2 ^ (-j : ℤ) = n + i * 2 ^ (-j : ℤ) := by
    push_cast
    linear_combination (n : ℚ) * hscale
  rw [← hvalue]
  exact isStorable_of_le hfits (by omega)

/-- What is no farther from zero than from a number on either side of it is within half
    of their distance. -/
theorem abs_le_half {t g : ℚ} (hg : 0 < g) (hbelow : |t| ≤ |t + g|) (habove : |t| ≤ |t - g|) :
    |t| ≤ g / 2 := by
  rcases abs_cases t with ⟨ht, _⟩ | ⟨ht, _⟩
  · rcases abs_cases (t - g) with ⟨hg', _⟩ | ⟨hg', _⟩ <;> linarith
  · rcases abs_cases (t + g) with ⟨hg', _⟩ | ⟨hg', _⟩ <;> linarith

/-- What is rounded to an integer is off by no more than one part in `2 ^ 53`. -/
theorem IsNearest.abs_sub_le {v : ℚ} {n : Nat} (h : IsNearest v n) (hn : n ≠ 0)
    (hlt : n < 2 ^ 53) : |v - n| ≤ n / 2 ^ 53 := by
  have hbits : n.log2 < 53 := (Nat.log2_lt hn).2 hlt
  obtain ⟨j, hj⟩ : ∃ j, n.log2 + j = 52 := ⟨52 - n.log2, by omega⟩
  have hfew : n * 2 ^ j < 2 ^ 53 := by
    have hpow : 2 ^ (n.log2 + 1) * 2 ^ j = 2 ^ 53 := by
      rw [← Nat.pow_add]
      congr 1
      omega
    rw [← hpow]
    exact Nat.mul_lt_mul_of_pos_right Nat.lt_log2_self (Nat.pow_pos two_pos)
  have hbelow := h.near _ (isStorable_beside (i := -1) hfew (by omega) (by decide))
  have habove := h.near _ (isStorable_beside (i := 1) hfew (by omega) (by decide))
  rw [Int.cast_neg, Int.cast_one, neg_one_mul, ← sub_sub, sub_neg_eq_add] at hbelow
  rw [Int.cast_one, one_mul, ← sub_sub] at habove
  -- The distance to them is the last bit of the integer.
  have hbit : (2 : ℚ) ^ (-j : ℤ) * 2 ^ 52 ≤ n := by
    refine le_trans (le_of_eq ?_) (two_zpow_log2 hn).1
    rw [← zpow_natCast 2 52, ← zpow_add₀ two_ne_zero]
    congr 1
    omega
  have hhalf := abs_le_half (zpow_pos two_pos _) hbelow habove
  rw [le_div_iff₀ (by positivity)]
  linarith

end Number

end Questionnaire
