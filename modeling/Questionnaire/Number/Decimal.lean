import Questionnaire.Number.Integer

/-!
# Decimal Numerals

Spreadsheets store every number as a binary fraction of limited length, and may
write an integer as `1.23e2`. So a cell that holds a count is read as a decimal
numeral, rounded to the nearest number a spreadsheet can store, and only then
asked whether it is an integer. A numeral that is very near to an integer thus
counts as the integer.

The numbers that can be stored are `m * 2 ^ e` with `m` of at most 53 bits and
`e` at least -1074. Rounding is exact: the quotient of two natural numbers is
taken to the nearest such number, and to the one with an even `m` if two are
equally near.

The exponent of a numeral does not grow past five digits once it has passed
`2 ^ 16`: further digits of it are read and dropped. Numerals with fewer than
`2 ^ 16` digits are too large or too small by then for it to matter.

## Main definitions

* `Decimal`: A sign, a coefficient and a power of ten.
* `Decimal.read?`: The numeral that a text is.
* `Binary`: A number that can be stored.
* `Binary.nearest`: The nearest such number to a quotient.
* `Decimal.nearestWhole?`: The integer that a numeral rounds to.
-/

namespace Questionnaire

namespace Number

/-- The number `± coefficient * 10 ^ exponent`. -/
structure Decimal where
  negative : Bool
  coefficient : Nat
  exponent : Int
deriving DecidableEq, Repr

namespace Decimal

/-- A sign before digits: whether it is a minus, and the rest. -/
def readSign : List Char → Bool × List Char
  | '-' :: rest => (true, rest)
  | '+' :: rest => (false, rest)
  | cs => (false, cs)

/-- The bound past which an exponent does not grow. -/
def exponentBound : Nat :=
  65536

/-- The value of the digits of an exponent. -/
def exponentValue (digits : List Char) : Nat :=
  digits.foldl (fun n c => if n < exponentBound then 10 * n + digitToNat c else n) 0

/-- The exponent that a text is, as the end of a numeral: nothing, or an `e`, a
    sign and digits. -/
def readExponent? : List Char → Option Int
  | [] => some 0
  | c :: rest =>
    let (negative, digits) := readSign rest
    if (c == 'e' || c == 'E') && !digits.isEmpty && digits.all Char.isDigit then
      some (if negative then -(exponentValue digits : Int) else exponentValue digits)
    else none

/-- The digits after a decimal point, and the rest. -/
def readFraction : List Char → List Char × List Char
  | '.' :: rest => (rest.takeWhile Char.isDigit, rest.dropWhile Char.isDigit)
  | cs => ([], cs)

/-- The numeral that a text is: a sign, digits with a point among them or at
    either end, and an exponent. Sign, point and exponent may be missing. -/
def read? (cs : List Char) : Option Decimal :=
  let (negative, body) := readSign cs
  let whole := body.takeWhile Char.isDigit
  let (part, rest) := readFraction (body.dropWhile Char.isDigit)
  if whole.isEmpty && part.isEmpty then none
  else (readExponent? rest).map fun exponent =>
    ⟨negative, digitsToNat (whole ++ part), exponent - part.length⟩

end Decimal

/-- The number `mantissa * 2 ^ exponent`. -/
structure Binary where
  mantissa : Nat
  exponent : Int
deriving DecidableEq, Repr

namespace Binary

/-- The number of bits of a mantissa. -/
def precision : Nat :=
  53

/-- The least exponent. -/
def leastExponent : Int :=
  -1074

/-- A quotient rounded to an integer, a half going to the even neighbour. -/
def roundHalfEven (num den : Nat) : Nat :=
  let q := num / den
  let r := num % den
  if 2 * r < den then q
  else if den < 2 * r then q + 1
  else if q % 2 = 0 then q else q + 1

/-- The exponent at which a positive quotient has a mantissa of full precision, or
    the least one. -/
def exponentFor (num den : Nat) : Int :=
  let bits : Int := (Nat.log2 num : Int) - Nat.log2 den
  -- The quotient lies between 2 ^ (bits - 1) and 2 ^ (bits + 1).
  let reaches : Bool :=
    if 0 ≤ bits then den * Nat.pow 2 bits.toNat ≤ num
    else den ≤ num * Nat.pow 2 (-bits).toNat
  max leastExponent ((if reaches then bits else bits - 1) - (precision - 1))

/-- The number nearest to a quotient. -/
def nearest (num den : Nat) : Binary :=
  if num = 0 then ⟨0, 0⟩
  else
    let e := exponentFor num den
    ⟨if 0 ≤ e then roundHalfEven num (den * Nat.pow 2 e.toNat)
      else roundHalfEven (num * Nat.pow 2 (-e).toNat) den, e⟩

/-- The natural number that a number is. -/
def toNat? (b : Binary) : Option Nat :=
  if 0 ≤ b.exponent then some (b.mantissa * Nat.pow 2 b.exponent.toNat)
  else
    let scale := Nat.pow 2 (-b.exponent).toNat
    if b.mantissa % scale = 0 then some (b.mantissa / scale) else none

end Binary

namespace Decimal

/-- The number of decimal digits before the point, if the numeral is written
    without an exponent; negative if there are zeros after the point. -/
def magnitude (d : Decimal) : Int :=
  (Nat.toDigits 10 d.coefficient).length + d.exponent

/-- A magnitude past every number that can be stored, and past the reciprocal of
    every one. -/
def magnitudeBound : Int :=
  400

/-- The stored number nearest to a numeral without its sign, if it is an integer. A
    numeral that is too large to be stored is none, and one that is too small is
    zero. -/
def nearestWhole? (d : Decimal) : Option Nat :=
  if d.coefficient = 0 || d.magnitude < -magnitudeBound then some 0
  else if magnitudeBound < d.magnitude then none
  else if 0 ≤ d.exponent then
    (Binary.nearest (d.coefficient * Nat.pow 10 d.exponent.toNat) 1).toNat?
  else (Binary.nearest d.coefficient (Nat.pow 10 (-d.exponent).toNat)).toNat?

end Decimal

/-- The greatest count: the largest signed integer of 32 bits. -/
def countLimit : Nat :=
  2147483647

/-- The count that a text is: a numeral that rounds to an integer from zero to the
    greatest count. -/
def readCount? (cs : List Char) : Option Nat := do
  let d ← Decimal.read? cs
  let n ← d.nearestWhole?
  if n ≤ countLimit && !(d.negative && n != 0) then some n else none

end Number

end Questionnaire
