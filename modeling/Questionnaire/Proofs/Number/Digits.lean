import Questionnaire.Number.Integer

/-!
# Decimal Digits

What digits are as a number, and which digits are those of a number. Zeros in front
are all that they can differ in: behind a number other than zero, digits are that
number's own.

## Main definitions

* `IsPadded`: The digits of a number, with zeros in front.

## Theorems

* `isPadded_digitsToNat`: All digits are those of their number.
* `digitsToNat_lt`: Digits are less than the power of ten with that many zeros.
* `readNatural?_eq_some_iff`: Which digits are read, and as which number.
-/

namespace Questionnaire

namespace Number

/-! ### The number of digits -/

theorem digitToNat_lt {c : Char} (h : c.isDigit = true) : digitToNat c < 10 := by
  have hbounds := Char.isDigit_iff_toNat.1 h
  have hlow : '0'.toNat = 48 := rfl
  have hhigh : '9'.toNat = 57 := rfl
  unfold digitToNat
  omega

theorem digitsToNat_cons (c : Char) (rest : List Char) :
    digitsToNat (c :: rest) = digitsToNatFrom (digitToNat c) rest := by
  rw [digitsToNat, digitsToNatFrom, List.foldl_cons, Nat.mul_zero, Nat.zero_add]
  rfl

theorem digitsToNat_concat (digits : List Char) (c : Char) :
    digitsToNat (digits ++ [c]) = 10 * digitsToNat digits + digitToNat c := by
  rw [digitsToNat, digitsToNatFrom, List.foldl_append]
  rfl

theorem digitsToNat_lt {digits : List Char} (h : ∀ c ∈ digits, c.isDigit = true) :
    digitsToNat digits < Nat.pow 10 digits.length := by
  induction digits with
  | nil => exact Nat.one_pos
  | cons c rest ih =>
      rcases List.forall_mem_cons.1 h with ⟨hc, hrest⟩
      have hlead : (digitToNat c + 1) * Nat.pow 10 rest.length ≤ Nat.pow 10 rest.length * 10 := by
        rw [Nat.mul_comm _ 10]
        exact Nat.mul_le_mul_right _ (digitToNat_lt hc)
      have hlow := ih hrest
      have hpow : Nat.pow 10 (c :: rest).length = Nat.pow 10 rest.length * 10 := rfl
      rw [digitsToNat_cons, digitsToNatFrom_eq, hpow]
      rw [Nat.succ_mul] at hlead
      omega

theorem toDigits_digitToNat {c : Char} (h : c.isDigit = true) :
    Nat.toDigits 10 (digitToNat c) = [c] := by
  have hlt := digitToNat_lt h
  have hbounds := Char.isDigit_iff_toNat.1 h
  have hlow : '0'.toNat = 48 := rfl
  rw [Nat.toDigits_of_lt_base hlt, List.singleton_inj, ← Char.toNat_inj,
    Nat.toNat_digitChar_of_lt_ten hlt]
  unfold digitToNat
  omega

/-- Behind a number other than zero, digits are its own. -/
theorem toDigits_append {high : Nat} (hpos : 0 < high) {digits : List Char}
    (h : ∀ c ∈ digits, c.isDigit = true) :
    Nat.toDigits 10 high ++ digits = Nat.toDigits 10 (digitsToNatFrom high digits) := by
  induction digits generalizing high with
  | nil => exact List.append_nil _
  | cons c rest ih =>
      rcases List.forall_mem_cons.1 h with ⟨hc, hrest⟩
      have hstep : Nat.toDigits 10 high ++ [c] = Nat.toDigits 10 (10 * high + digitToNat c) := by
        rw [← toDigits_digitToNat hc,
          Nat.toDigits_append_toDigits (by decide) hpos (digitToNat_lt hc)]
      rw [List.append_cons, hstep, ih (by omega) hrest]
      rfl

/-! ### Digits with zeros in front -/

/-- The digits of a number, with zeros in front. -/
def IsPadded (n : Nat) (digits : List Char) : Prop :=
  ∃ zeros, digits = List.replicate zeros '0' ++ Nat.toDigits 10 n

theorem isPadded_digitsToNat {digits : List Char} (h : ∀ c ∈ digits, c.isDigit = true)
    (hpos : 0 < digitsToNat digits) : IsPadded (digitsToNat digits) digits := by
  induction digits with
  | nil => cases hpos
  | cons c rest ih =>
      rcases List.forall_mem_cons.1 h with ⟨hc, hrest⟩
      have hdigit := toDigits_digitToNat hc
      have hvalue := digitsToNat_cons c rest
      rcases Nat.eq_zero_or_pos (digitToNat c) with hzero | hlead
      · -- A zero in front says nothing about the number.
        have hchar : c = '0' := by
          rw [hzero] at hdigit
          exact (List.singleton_inj.1 hdigit).symm
        have hrestValue : digitsToNat (c :: rest) = digitsToNat rest := by
          rw [hvalue, hzero]
          rfl
        rw [hrestValue] at hpos ⊢
        rcases ih hrest hpos with ⟨zeros, hzeros⟩
        refine ⟨zeros + 1, ?_⟩
        rw [hchar, List.replicate_succ, List.cons_append, ← hzeros]
      · refine ⟨0, ?_⟩
        rw [hvalue, ← toDigits_append hlead hrest, hdigit]
        rfl

namespace IsPadded

variable {n : Nat} {digits : List Char}

theorem isDigit_of_mem (h : IsPadded n digits) : ∀ c ∈ digits, c.isDigit = true := by
  rcases h with ⟨zeros, rfl⟩
  intro c hc
  rcases List.mem_append.1 hc with hc | hc
  · rw [List.eq_of_mem_replicate hc]
    rfl
  · exact Nat.isDigit_of_mem_toDigits (by decide) (by decide) hc

theorem ne_nil (h : IsPadded n digits) : digits ≠ [] := by
  rcases h with ⟨zeros, rfl⟩
  exact List.append_ne_nil_of_right_ne_nil _ Nat.toDigits_ne_nil

theorem digitsToNat_eq (h : IsPadded n digits) : digitsToNat digits = n := by
  rcases h with ⟨zeros, rfl⟩
  have hzeros : digitsToNat (List.replicate zeros '0') = 0 := by
    induction zeros with
    | zero => rfl
    | succ zeros ih => exact ih
  have hvalue : digitsToNat (Nat.toDigits 10 n) = n :=
    Nat.ofDigitChars_ten_toDigits
  rw [digitsToNat_append, hzeros, hvalue, Nat.zero_mul, Nat.zero_add]

end IsPadded

/-- Digits are read as the number that they are the digits of. -/
theorem readNatural?_eq_some_iff {digits : List Char} {n : Nat} (hpos : 0 < n)
    (hsign : digits.head? ≠ some '+') :
    readNatural? digits = some n ↔ n < wordBound ∧ IsPadded n digits := by
  have hread : readNatural? digits =
      (readDigits? digits).filter fun n => decide (n < wordBound) := by
    rw [readNatural?.eq_def]
    split
    · exact absurd rfl hsign
    · rfl
  rw [hread, Option.filter_eq_some_iff, decide_eq_true_iff, and_comm, and_congr_right_iff]
  intro _
  constructor
  · intro h
    unfold readDigits? at h
    split at h
    case isTrue hdigits =>
      rw [Bool.and_eq_true, List.all_eq_true] at hdigits
      cases h
      exact isPadded_digitsToNat hdigits.2 hpos
    case isFalse => cases h
  · intro h
    rw [readDigits?, List.isEmpty_eq_false_iff.2 h.ne_nil,
      List.all_eq_true.2 h.isDigit_of_mem, h.digitsToNat_eq]
    rfl

end Number

end Questionnaire
