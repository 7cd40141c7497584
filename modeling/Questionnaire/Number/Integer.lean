/-!
# Integers in Cells

A cell or an attribute that holds an integer holds decimal digits, perhaps after
a sign, and nothing else. The digits are the ten of ASCII. A value that does not
fit into 64 bits is no integer.

## Main definitions

* `digitsToNat`: The value of decimal digits.
* `readNatural?`: A natural number below `2 ^ 64`.
* `readInteger?`: An integer from `-2 ^ 63` to below `2 ^ 63`.

## Theorems

* `digitsToNat_append`: The value of digits after others.
-/

namespace Questionnaire

namespace Number

/-- The first natural number that does not fit into 64 bits, `2 ^ 64`. -/
def wordBound : Nat :=
  0x10000000000000000

/-- The first integer that does not fit into 64 bits with a sign, `2 ^ 63`. -/
def signedBound : Int :=
  0x8000000000000000

/-- The value of a decimal digit. -/
def digitToNat (c : Char) : Nat :=
  c.toNat - '0'.toNat

/-- The value of decimal digits after others of value `high`. -/
def digitsToNatFrom (high : Nat) (digits : List Char) : Nat :=
  digits.foldl (fun n c => 10 * n + digitToNat c) high

/-- The value of decimal digits. -/
def digitsToNat (digits : List Char) : Nat :=
  digitsToNatFrom 0 digits

/-- The value of a text that consists of decimal digits. -/
def readDigits? (cs : List Char) : Option Nat :=
  if !cs.isEmpty && cs.all Char.isDigit then some (digitsToNat cs) else none

/-- The natural number below `2 ^ 64` that a text is. It may have a plus sign. -/
def readNatural? (cs : List Char) : Option Nat :=
  let digits := match cs with
    | '+' :: rest => rest
    | _ => cs
  (readDigits? digits).filter fun n => decide (n < wordBound)

/-- The integer of 64 bits that a text is. It may have a sign. -/
def readInteger? (cs : List Char) : Option Int :=
  let value? : Option Int := match cs with
    | '-' :: rest => (readDigits? rest).map fun n => -(n : Int)
    | '+' :: rest => (readDigits? rest).map fun n => (n : Int)
    | _ => (readDigits? cs).map fun n => (n : Int)
  value?.filter fun n => decide (-signedBound ≤ n ∧ n < signedBound)

theorem digitsToNatFrom_eq (high : Nat) (digits : List Char) :
    digitsToNatFrom high digits = high * Nat.pow 10 digits.length + digitsToNat digits := by
  induction digits generalizing high with
  | nil => simp [digitsToNatFrom, digitsToNat]
  | cons c rest ih =>
    have hstep : ∀ n, digitsToNatFrom n (c :: rest) =
        digitsToNatFrom (10 * n + digitToNat c) rest := fun _ => rfl
    unfold digitsToNat
    rw [hstep, hstep, ih, ih (10 * 0 + digitToNat c), List.length_cons]
    simp only [Nat.mul_zero, Nat.zero_add, Nat.add_mul, Nat.mul_assoc, Nat.add_assoc]
    rw [Nat.mul_left_comm]
    congr 2
    rw [Nat.mul_comm 10]
    rfl

theorem digitsToNat_append (high low : List Char) :
    digitsToNat (high ++ low) = digitsToNat high * Nat.pow 10 low.length + digitsToNat low := by
  rw [← digitsToNatFrom_eq]
  unfold digitsToNat digitsToNatFrom
  rw [List.foldl_append]

end Number

end Questionnaire
