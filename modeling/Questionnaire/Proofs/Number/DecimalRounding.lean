import Questionnaire.Proofs.Number.Rounding

/-!
# Rounding of Numerals

A numeral is an integer times a power of ten, and it is rounded as the quotient that it
is. There are exponents for which nobody would want to work out the power, and the
reader does not: if the first digit is too far behind the point the numeral is zero, and
if it is too far in front of it there is no count. Both agree with what rounding the
quotient would give, for the length of a numeral bounds it from both sides.

## Main definitions

* `Decimal.value`: The number that a numeral is.

## Theorems

* `Decimal.nearestWhole?_eq_some_iff`: The integers that numerals are rounded to.
* `Decimal.isNearest_value_iff`: What a sign changes about it.
* `readCount?_eq_some_iff_nearest`: The counts that numerals are read as.
-/

namespace Questionnaire

namespace Number

/-! ### Numbers past all that can be stored -/

theorem IsStorable.le_abs {y : ℚ} (h : IsStorable y) (hne : y ≠ 0) : 2 ^ (-1074 : ℤ) ≤ |y| := by
  obtain ⟨m, e, -, he, rfl⟩ := h
  have hpow : (0 : ℚ) < 2 ^ e := zpow_pos two_pos e
  have hone : (1 : ℚ) ≤ |(m : ℚ)| := by
    have hm : m ≠ 0 := by
      rintro rfl
      simp at hne
    exact_mod_cast Int.one_le_abs hm
  rw [abs_mul, abs_of_pos hpow]
  calc (2 : ℚ) ^ (-1074 : ℤ)
    _ ≤ 2 ^ e := zpow_le_zpow_right₀ one_le_two he
    _ ≤ |(m : ℚ)| * 2 ^ e := le_mul_of_one_le_left hpow.le hone

/-- What is nearer to zero than to any other stored number is rounded to zero. -/
theorem isNearest_zero {v : ℚ} (h : 2 * |v| < 2 ^ (-1074 : ℤ)) : IsNearest v 0 := by
  have hzero : IsStorable 0 := by exact_mod_cast isStorable_natCast (n := 0) (by norm_num)
  have hfar : ∀ y, IsStorable y → y ≠ 0 → |v - 0| < |v - y| := by
    intro y hy hne
    have hbig := hy.le_abs hne
    have htriangle := abs_sub_abs_le_abs_sub y v
    rw [abs_sub_comm] at htriangle
    rw [sub_zero]
    linarith
  constructor
  case storable => exact hzero
  case near =>
    intro y hy
    by_cases hne : y = 0
    · rw [hne]
    · exact (hfar y hy hne).le
  case even =>
    intro y hy hne heq
    exact absurd heq (hfar y hy hne).ne'

theorem isNearest_zero_of_le {v : ℚ} (h : |v| ≤ 10 ^ (-400 : ℤ)) : IsNearest v 0 := by
  have hpowers : 2 * 2 ^ 1074 < 10 ^ 400 := by decide +kernel
  have hbound : 2 * (10 : ℚ) ^ (-400 : ℤ) < 2 ^ (-1074 : ℤ) := by
    rw [zpow_neg, zpow_neg, lt_inv_comm₀ (by positivity) (by positivity), mul_inv, inv_inv,
      lt_inv_mul_iff₀ two_pos]
    exact_mod_cast hpowers
  exact isNearest_zero (by linarith)

theorem isNearest_iff_of_zero {v : ℚ} (h : IsNearest v 0) {n : Nat} : IsNearest v n ↔ n = 0 := by
  constructor
  · intro hnearest
    exact_mod_cast hnearest.unique h
  · rintro rfl
    exact_mod_cast h

/-- A small integer is not what a large number is rounded to. -/
theorem IsNearest.lt_pow {v : ℚ} {n : Nat} (h : IsNearest v n) (hn : n < 2 ^ 53) : v < 2 ^ 53 := by
  by_contra hlarge
  rw [not_lt] at hlarge
  have hn' : (n : ℚ) < 2 ^ 53 := by exact_mod_cast hn
  have hnear := h.near _ (isStorable_natCast (n := 2 ^ 53) le_rfl)
  rw [Nat.cast_pow, Nat.cast_ofNat, abs_of_nonneg (by linarith),
    abs_of_nonneg (by linarith)] at hnear
  linarith

/-! ### Numerals as numbers -/

namespace Decimal

/-- A numeral without its sign. -/
def size (d : Decimal) : ℚ :=
  d.coefficient * 10 ^ d.exponent

/-- The number that a numeral is. -/
def value (d : Decimal) : ℚ :=
  if d.negative then -d.size else d.size

theorem size_nonneg (d : Decimal) : 0 ≤ d.size := by
  unfold size
  positivity

/-- The length of a numeral bounds it from both sides. -/
theorem size_bounds {d : Decimal} (h : d.coefficient ≠ 0) :
    10 ^ (d.magnitude - 1) ≤ d.size ∧ d.size < 10 ^ d.magnitude := by
  have hpow : (0 : ℚ) < 10 ^ d.exponent := zpow_pos (by norm_num) _
  have hlength : 0 < (Nat.toDigits 10 d.coefficient).length := Nat.length_toDigits_pos
  obtain ⟨k, hk⟩ : ∃ k, (Nat.toDigits 10 d.coefficient).length = k + 1 :=
    ⟨_, (Nat.sub_add_cancel hlength).symm⟩
  have hhigh : d.coefficient < 10 ^ (k + 1) :=
    (Nat.length_toDigits_le_iff (by norm_num) (Nat.succ_pos k)).1 hk.le
  have hlow : 10 ^ k ≤ d.coefficient := by
    rcases Nat.eq_zero_or_pos k with rfl | hpos
    · exact Nat.pos_of_ne_zero h
    · rw [← not_lt, ← Nat.length_toDigits_le_iff (by norm_num) hpos, hk]
      omega
  have hscale : ∀ j : ℕ, (10 : ℚ) ^ (j + d.exponent) = (10 ^ j : ℕ) * 10 ^ d.exponent := by
    intro j
    rw [zpow_add₀ (by norm_num), zpow_natCast, Nat.cast_pow, Nat.cast_ofNat]
  unfold size magnitude
  have hlast : ((k + 1 : ℕ) : ℤ) + d.exponent - 1 = k + d.exponent := by
    push_cast
    ring
  rw [hk, hscale (k + 1), hlast, hscale k]
  constructor
  · exact mul_le_mul_of_nonneg_right (by exact_mod_cast hlow) hpow.le
  · exact mul_lt_mul_of_pos_right (by exact_mod_cast hhigh) hpow

/-- A numeral that is too small to be stored is rounded to zero. -/
theorem isNearest_size_zero {d : Decimal} (h : d.coefficient = 0 ∨ d.magnitude < -magnitudeBound) :
    IsNearest d.size 0 := by
  apply isNearest_zero_of_le
  rw [abs_of_nonneg d.size_nonneg]
  by_cases hcoefficient : d.coefficient = 0
  · rw [size, hcoefficient, Nat.cast_zero, zero_mul]
    positivity
  · have hmagnitude : d.magnitude < -400 := h.resolve_left hcoefficient
    refine (size_bounds hcoefficient).2.le.trans ?_
    exact zpow_le_zpow_right₀ (by norm_num) hmagnitude.le

/-- A numeral that is too large to be stored is rounded to no small integer. -/
theorem not_isNearest_size {d : Decimal} {n : Nat} (hn : n < 2 ^ 53) (h : d.coefficient ≠ 0)
    (hlarge : magnitudeBound < d.magnitude) : ¬IsNearest d.size n := by
  intro hnearest
  have hbits : (10 : ℚ) ^ (53 : ℤ) ≤ 10 ^ (d.magnitude - 1) := by
    have hmagnitude : 400 < d.magnitude := hlarge
    exact zpow_le_zpow_right₀ (by norm_num) (by omega)
  have hpowers : (2 : ℚ) ^ 53 < 10 ^ (53 : ℤ) := by norm_num
  linarith [(size_bounds h).1, hnearest.lt_pow hn]

theorem nearestWhole?_eq_some_iff {d : Decimal} {n : Nat} (hn : n < 2 ^ 53) :
    d.nearestWhole? = some n ↔ IsNearest d.size n := by
  unfold nearestWhole?
  split_ifs with hsmall hlarge hsign
  case pos =>
    rw [Bool.or_eq_true, decide_eq_true_iff, decide_eq_true_iff] at hsmall
    rw [Option.some.injEq, isNearest_iff_of_zero (isNearest_size_zero hsmall)]
    exact eq_comm
  case pos =>
    have hcoefficient : d.coefficient ≠ 0 := fun hzero => hsmall (by simp [hzero])
    exact iff_of_false (by simp) (not_isNearest_size hn hcoefficient hlarge)
  case pos =>
    have hscale : (10 : ℚ) ^ d.exponent = (Nat.pow 10 d.exponent.toNat : ℕ) :=
      zpow_of_nonneg 10 hsign
    rw [Binary.toNat?_nearest_eq_some_iff _ one_pos, size, hscale, Nat.cast_one, div_one,
      Nat.cast_mul]
  case neg =>
    have hscale : (10 : ℚ) ^ d.exponent = ((Nat.pow 10 (-d.exponent).toNat : ℕ) : ℚ)⁻¹ :=
      zpow_of_neg 10 hsign
    have hpos : 0 < Nat.pow 10 (-d.exponent).toNat := Nat.pow_pos (by norm_num)
    rw [Binary.toNat?_nearest_eq_some_iff _ hpos, size, hscale, div_eq_mul_inv]

/-- A numeral with a minus is rounded to no count but zero. -/
theorem isNearest_value_iff {d : Decimal} {n : Nat} :
    IsNearest d.value n ↔ IsNearest d.size n ∧ (d.negative = true → n = 0) := by
  unfold value
  split_ifs with hnegative
  case pos =>
    constructor
    · intro hnearest
      have hflipped := hnearest.neg
      rw [neg_neg] at hflipped
      have hzero : n = 0 := by
        have hnonneg := hflipped.nonneg d.size_nonneg
        have hle : (n : ℚ) ≤ 0 := by linarith
        exact_mod_cast le_antisymm hle (Nat.cast_nonneg n)
      rw [hzero, Nat.cast_zero, neg_zero] at hflipped
      rw [hzero, Nat.cast_zero]
      exact ⟨hflipped, fun _ => rfl⟩
    · rintro ⟨hnearest, hzero⟩
      rw [hzero hnegative, Nat.cast_zero] at hnearest ⊢
      simpa using hnearest.neg
  case neg =>
    exact ⟨fun hnearest => ⟨hnearest, fun h => absurd h hnegative⟩, And.left⟩

end Decimal

/-- A numeral is read as a count if it is rounded to one. -/
theorem readCount?_eq_some_iff_nearest {cs : List Char} {n : Nat} :
    readCount? cs = some n ↔
      ∃ d, Decimal.read? cs = some d ∧ n ≤ countLimit ∧ IsNearest d.value n := by
  have hlimit : countLimit < 2 ^ 53 := by decide
  simp only [readCount?, Option.bind_eq_bind, Option.bind_eq_some_iff]
  refine exists_congr fun d => and_congr_right fun _ => ?_
  rw [Decimal.isNearest_value_iff]
  constructor
  · rintro ⟨a, hwhole, hcount⟩
    split at hcount
    case isTrue hfits =>
      obtain rfl := Option.some.inj hcount
      rw [Bool.and_eq_true, decide_eq_true_iff] at hfits
      refine ⟨hfits.1, (Decimal.nearestWhole?_eq_some_iff (by omega)).1 hwhole, fun hnegative => ?_⟩
      simpa [hnegative] using hfits.2
    case isFalse => exact absurd hcount (by simp)
  · rintro ⟨hle, hnearest, hsign⟩
    refine ⟨n, (Decimal.nearestWhole?_eq_some_iff (by omega)).2 hnearest, if_pos ?_⟩
    rw [Bool.and_eq_true, decide_eq_true_iff]
    refine ⟨hle, ?_⟩
    by_cases hnegative : d.negative = true
    · simp [hsign hnegative]
    · simp [hnegative]

end Number

end Questionnaire
