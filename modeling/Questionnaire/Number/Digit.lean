/-!
# Digits

The value of a digit to a base of at most sixteen. Letters stand for the digits
from ten on, small and capital ones alike.

## Main definitions

* `digitValue?`: The value of a digit to a base.

## Theorems

* `toDigits_injective`: Numbers are told apart by their digits.
-/

namespace Questionnaire

namespace Number

/-- The value of a digit to the base 16. -/
def hexValue? (c : Char) : Option Nat :=
  if '0' ≤ c ∧ c ≤ '9' then some (c.toNat - '0'.toNat)
  else if 'a' ≤ c ∧ c ≤ 'f' then some (c.toNat - 'a'.toNat + 10)
  else if 'A' ≤ c ∧ c ≤ 'F' then some (c.toNat - 'A'.toNat + 10)
  else none

/-- The value of a digit to a base of at most 16. -/
def digitValue? (base : Nat) (c : Char) : Option Nat :=
  (hexValue? c).filter fun v => decide (v < base)

/-- Read again as a number, digits give back what they were made of. -/
theorem toDigits_injective {m n : Nat} (h : Nat.toDigits 10 m = Nat.toDigits 10 n) : m = n := by
  have hread := congrArg (fun digits => Nat.ofDigitChars 10 digits 0) h
  simpa only [Nat.ofDigitChars_ten_toDigits] using hread

end Number

end Questionnaire
