import Questionnaire.Proofs.Number.DecimalRounding
import Questionnaire.Proofs.Number.Digits

/-!
# Numerals as Texts

Which texts are read as decimal numerals, and as which numbers. A numeral has its parts
in one order, and each of them ends where a character stands that it cannot have: digits
end at a point or a letter, a sign is no digit, and behind an exponent there is nothing.
So a text is a numeral in one way at most, and it is read in this way.

What is read differs from what is written in one place. The digits of an exponent are
dropped once those before them have passed a bound. Both exponents are past the bound
then, and unless there are so many digits that the numeral has its first one near to the
point after all, it is too large or too small to be told from any other such numeral:
`Numeral.isNearest_readValue_iff`.

## Main definitions

* `Exponent`, `Numeral`: An exponent and a numeral, as they are written.
* `Numeral.value`: The number that a numeral is.
* `Numeral.readValue`: The number that it is read as.
* `IsCount`: A count that a text is.

## Theorems

* `exponentValue_spec`: The digits of an exponent that are read.
* `Numeral.read?_text`, `Numeral.exists_of_read?`: A text is read if it is a numeral.
* `readCount?_eq_some_iff`: The texts that are read as counts.
* `Numeral.isCount_text_iff_value`: The counts that numerals are, by what is written.
* `Numeral.abs_sub_le_of_isCount`: How far a numeral is from its count.
-/

namespace Questionnaire

namespace Number

/-! ### Signs -/

/-- The sign before digits. -/
inductive Sign
  | missing
  | plus
  | minus
deriving DecidableEq, Repr

namespace Sign

/-- The sign as it is written. -/
def text : Sign → List Char
  | missing => []
  | plus => ['+']
  | minus => ['-']

def isMinus : Sign → Bool
  | missing | plus => false
  | minus => true

/-- The integer that a number with a sign is. -/
def apply (s : Sign) (n : Nat) : ℤ :=
  if s.isMinus then -n else n

end Sign

/-- A sign is read off what begins with none. -/
theorem readSign_text (s : Sign) {rest : List Char} (h : ∀ c ∈ rest.head?, c ≠ '-' ∧ c ≠ '+') :
    Decimal.readSign (s.text ++ rest) = (s.isMinus, rest) := by
  cases s with
  | plus => rfl
  | minus => rfl
  | missing =>
      rw [Sign.text, List.nil_append, Decimal.readSign.eq_def]
      split
      · exact absurd rfl (h _ rfl).1
      · exact absurd rfl (h _ rfl).2
      · rfl

/-- Digits are no sign. -/
theorem notSign_of_isDigit {digits : List Char} (h : ∀ c ∈ digits, c.isDigit = true) :
    ∀ c ∈ digits.head?, c ≠ '-' ∧ c ≠ '+' := by
  intro c hc
  have hdigit := h c (List.mem_of_mem_head? hc)
  constructor
  · rintro rfl
    exact absurd hdigit (by decide)
  · rintro rfl
    exact absurd hdigit (by decide)

theorem exists_readSign (cs : List Char) :
    ∃ s : Sign, ∃ rest, Decimal.readSign cs = (s.isMinus, rest) ∧ s.text ++ rest = cs := by
  rw [Decimal.readSign.eq_def]
  split
  · exact ⟨.minus, _, rfl, rfl⟩
  · exact ⟨.plus, _, rfl, rfl⟩
  · exact ⟨.missing, _, rfl, rfl⟩

/-! ### Digits and what stands behind them -/

/-- Digits end where something else stands. -/
theorem takeWhile_isDigit {digits rest : List Char} (h : ∀ c ∈ digits, c.isDigit = true)
    (hrest : ∀ c ∈ rest.head?, c.isDigit = false) :
    (digits ++ rest).takeWhile Char.isDigit = digits ∧
      (digits ++ rest).dropWhile Char.isDigit = rest := by
  rw [List.takeWhile_append_of_pos h, List.dropWhile_append_of_pos h]
  cases rest with
  | nil => exact ⟨List.append_nil _, rfl⟩
  | cons c rest =>
      have hc : ¬c.isDigit = true := Bool.eq_false_iff.1 (hrest c rfl)
      rw [List.takeWhile_cons_of_neg hc, List.dropWhile_cons_of_neg hc]
      exact ⟨List.append_nil _, rfl⟩

theorem readFraction_of_head {cs : List Char} (h : ∀ c ∈ cs.head?, c ≠ '.') :
    Decimal.readFraction cs = ([], cs) := by
  rw [Decimal.readFraction.eq_def]
  split
  · exact absurd rfl (h _ rfl)
  · rfl

/-- A point, if there is one, and the digits behind it. -/
def pointText : Option (List Char) → List Char
  | none => []
  | some part => '.' :: part

theorem exists_readFraction (cs : List Char) :
    ∃ part? rest, Decimal.readFraction cs = (part?.getD [], rest) ∧
      (∀ c ∈ part?.getD [], c.isDigit = true) ∧ pointText part? ++ rest = cs := by
  rw [Decimal.readFraction.eq_def]
  split
  case h_1 behind =>
    refine ⟨some (behind.takeWhile Char.isDigit), _, rfl, List.all_eq_true.1 List.all_takeWhile, ?_⟩
    rw [pointText, List.cons_append, List.takeWhile_append_dropWhile]
  case h_2 =>
    exact ⟨none, _, rfl, fun c hc => absurd hc List.not_mem_nil, rfl⟩

/-! ### Exponents -/

/-- The exponent of a numeral, as it is written. -/
structure Exponent where
  letter : Char
  sign : Sign
  digits : List Char
  isLetter : letter = 'e' ∨ letter = 'E'
  filled : digits ≠ []
  isDigit : ∀ c ∈ digits, c.isDigit = true

/-- The digits of an exponent that are read: none is, once those before it have passed
    the bound. -/
theorem exponentValue_spec (digits : List Char) :
    ∃ k ≤ digits.length, Decimal.exponentValue digits = digitsToNat (digits.take k) ∧
      (k = digits.length ∨ Decimal.exponentBound ≤ digitsToNat (digits.take k)) ∧
      ∀ j < k, digitsToNat (digits.take j) < Decimal.exponentBound := by
  induction digits using List.reverseRecOn with
  | nil => exact ⟨0, Nat.le_refl 0, rfl, Or.inl rfl, fun j hj => absurd hj (Nat.not_lt_zero j)⟩
  | append_singleton digits c ih =>
      obtain ⟨k, hk, hvalue, hend, hbelow⟩ := ih
      have hstep : Decimal.exponentValue (digits ++ [c]) =
          if Decimal.exponentValue digits < Decimal.exponentBound then
            10 * Decimal.exponentValue digits + digitToNat c else Decimal.exponentValue digits := by
        rw [Decimal.exponentValue, List.foldl_append]
        rfl
      have htake : ∀ j ≤ digits.length, (digits ++ [c]).take j = digits.take j := fun j hj =>
        List.take_append_of_le_length hj
      rw [hstep]
      split
      case isTrue hlt =>
        obtain rfl : k = digits.length := hend.resolve_right (by omega)
        have hwhole : (digits ++ [c]).take (digits.length + 1) = digits ++ [c] :=
          List.take_of_length_le (by simp)
        rw [List.take_length] at hvalue
        refine ⟨digits.length + 1, by simp, ?_, Or.inl (by simp), ?_⟩
        · rw [hwhole, digitsToNat_concat, hvalue]
        · intro j hj
          rw [htake j (by omega)]
          rcases Nat.lt_or_eq_of_le (Nat.le_of_lt_succ hj) with hlast | rfl
          · exact hbelow j hlast
          · rwa [List.take_length, ← hvalue]
      case isFalse hge =>
        refine ⟨k, by rw [List.length_append]; omega, ?_, ?_, ?_⟩
        · rw [htake k hk, hvalue]
        · rw [htake k hk, ← hvalue]
          exact Or.inr (by omega)
        · intro j hj
          rw [htake j (by omega)]
          exact hbelow j hj

/-- Either all digits are read, or both what is read and what is not have passed the
    bound. -/
theorem exponentValue_cases (digits : List Char) :
    Decimal.exponentValue digits = digitsToNat digits ∨
      Decimal.exponentBound ≤ Decimal.exponentValue digits ∧
        Decimal.exponentBound ≤ digitsToNat digits := by
  obtain ⟨k, -, hvalue, hend, -⟩ := exponentValue_spec digits
  rcases hend with rfl | hpassed
  · left
    rw [hvalue, List.take_length]
  · right
    have hpart : digitsToNat (digits.take k) ≤ digitsToNat digits := by
      conv_rhs => rw [← List.take_append_drop k digits, digitsToNat_append]
      exact Nat.le_add_right_of_le (Nat.le_mul_of_pos_right _ (Nat.pow_pos (by decide)))
    omega

namespace Exponent

/-- The exponent as a text. -/
def text (x : Exponent) : List Char :=
  x.letter :: (x.sign.text ++ x.digits)

/-- The power of ten that the exponent is. -/
def power (x : Exponent) : ℤ :=
  x.sign.apply (digitsToNat x.digits)

/-- The power of ten that is read. -/
def readPower (x : Exponent) : ℤ :=
  x.sign.apply (Decimal.exponentValue x.digits)

/-- The text of an exponent that may be missing. -/
def textOf : Option Exponent → List Char
  | none => []
  | some x => x.text

/-- The power of ten that an exponent is, if there is one. -/
def powerOf : Option Exponent → ℤ
  | none => 0
  | some x => x.power

/-- The power of ten that is read. -/
def readPowerOf : Option Exponent → ℤ
  | none => 0
  | some x => x.readPower

theorem readExponent?_text (x : Exponent) :
    Decimal.readExponent? x.text = some x.readPower := by
  have hletter : (x.letter == 'e' || x.letter == 'E') = true := by
    rcases x.isLetter with h | h <;> rw [h] <;> rfl
  have hdigits : (!x.digits.isEmpty && x.digits.all Char.isDigit) = true := by
    rw [List.isEmpty_eq_false_iff.2 x.filled, List.all_eq_true.2 x.isDigit]
    rfl
  simp only [text, Decimal.readExponent?, readSign_text x.sign (notSign_of_isDigit x.isDigit),
    hletter, Bool.true_and, hdigits, if_true]
  rfl

theorem readExponent?_textOf (x? : Option Exponent) :
    Decimal.readExponent? (textOf x?) = some (readPowerOf x?) := by
  cases x? with
  | none => rfl
  | some x => exact x.readExponent?_text

theorem exists_of_readExponent? {cs : List Char} {power : ℤ}
    (h : Decimal.readExponent? cs = some power) :
    ∃ x?, textOf x? = cs ∧ readPowerOf x? = power := by
  cases cs with
  | nil => exact ⟨none, rfl, Option.some.inj h⟩
  | cons c rest =>
      obtain ⟨s, digits, hsign, hrest⟩ := exists_readSign rest
      simp only [Decimal.readExponent?, hsign] at h
      split at h
      case isTrue hshape =>
        simp only [Bool.and_eq_true, Bool.or_eq_true, beq_iff_eq, Bool.not_eq_true',
          List.isEmpty_eq_false_iff, List.all_eq_true] at hshape
        obtain ⟨⟨hletter, hfilled⟩, hdigits⟩ := hshape
        refine ⟨some ⟨c, s, digits, hletter, hfilled, hdigits⟩, ?_, Option.some.inj h⟩
        rw [textOf, text, hrest]
      case isFalse => cases h

end Exponent

/-! ### Numerals -/

/-- A decimal numeral, as it is written: digits with a point among them or at either
    end, perhaps between a sign and an exponent. -/
structure Numeral where
  sign : Sign
  whole : List Char
  /-- The digits after the point, if there is one. -/
  part? : Option (List Char)
  exponent? : Option Exponent
  isDigit_whole : ∀ c ∈ whole, c.isDigit = true
  isDigit_part : ∀ c ∈ part?.getD [], c.isDigit = true
  filled : whole ≠ [] ∨ part?.getD [] ≠ []

namespace Numeral

/-- The digits after the point. -/
def part (a : Numeral) : List Char :=
  a.part?.getD []

/-- The digits of the numeral without its exponent. -/
def digits (a : Numeral) : List Char :=
  a.whole ++ a.part

/-- The point and the digits behind it. -/
def partText (a : Numeral) : List Char :=
  pointText a.part?

def exponentText (a : Numeral) : List Char :=
  Exponent.textOf a.exponent?

/-- The numeral as a text. -/
def text (a : Numeral) : List Char :=
  a.sign.text ++ (a.whole ++ (a.partText ++ a.exponentText))

/-- The numeral with some power of ten. -/
def withPower (a : Numeral) (power : ℤ) : Decimal :=
  ⟨a.sign.isMinus, digitsToNat a.digits, power - a.part.length⟩

/-- The number that the numeral is. -/
def value (a : Numeral) : ℚ :=
  (a.withPower (Exponent.powerOf a.exponent?)).value

/-- The number that is read. -/
def readValue (a : Numeral) : ℚ :=
  (a.withPower (Exponent.readPowerOf a.exponent?)).value

/-- What stands behind the digits begins with no digit. -/
theorem head_exponentText (a : Numeral) :
    ∀ c ∈ a.exponentText.head?, c.isDigit = false ∧ c ≠ '.' := by
  intro c hc
  rw [exponentText, Exponent.textOf.eq_def] at hc
  split at hc
  case h_1 => cases hc
  case h_2 x _ =>
    obtain rfl : x.letter = c := Option.some.inj hc
    rcases x.isLetter with h | h <;> rw [h] <;> decide

theorem head_partText (a : Numeral) :
    ∀ c ∈ (a.partText ++ a.exponentText).head?, c.isDigit = false := by
  intro c hc
  rw [partText, pointText.eq_def] at hc
  split at hc
  case h_1 => exact (a.head_exponentText c hc).1
  case h_2 =>
    obtain rfl : '.' = c := Option.some.inj hc
    rfl

theorem readFraction_partText (a : Numeral) :
    Decimal.readFraction (a.partText ++ a.exponentText) = (a.part, a.exponentText) := by
  have hexponent := a.head_exponentText
  have hpart := a.isDigit_part
  rw [partText, pointText.eq_def, part]
  split
  case h_1 hnone =>
    rw [List.nil_append, hnone]
    exact readFraction_of_head fun c hc => (hexponent c hc).2
  case h_2 part hsome =>
    rw [hsome] at hpart ⊢
    obtain ⟨htake, hdrop⟩ := takeWhile_isDigit hpart fun c hc => (hexponent c hc).1
    exact Prod.ext htake hdrop

/-- A numeral without a sign begins with a digit or the point. -/
theorem head_body (a : Numeral) :
    ∀ c ∈ (a.whole ++ (a.partText ++ a.exponentText)).head?, c.isDigit = true ∨ c = '.' := by
  intro c hc
  rcases hwhole : a.whole with _ | ⟨first, rest⟩
  case nil =>
    right
    rw [hwhole, List.nil_append, partText, pointText.eq_def] at hc
    split at hc
    case h_1 hnone =>
      have hfilled := a.filled
      rw [hwhole, hnone] at hfilled
      exact absurd hfilled (by decide)
    case h_2 => exact (Option.some.inj hc).symm
  case cons =>
    left
    rw [hwhole] at hc
    obtain rfl : first = c := Option.some.inj hc
    exact a.isDigit_whole first (by rw [hwhole]; exact List.mem_cons_self)

theorem notSign_body (a : Numeral) :
    ∀ c ∈ (a.whole ++ (a.partText ++ a.exponentText)).head?, c ≠ '-' ∧ c ≠ '+' := by
  intro c hc
  rcases a.head_body c hc with hdigit | rfl
  · have hdigits : ∀ d ∈ [c], d.isDigit = true := by
      rintro d hd
      rwa [List.mem_singleton.1 hd]
    exact notSign_of_isDigit hdigits c rfl
  · decide

theorem read?_text (a : Numeral) :
    Decimal.read? a.text =
      some (a.withPower (Exponent.readPowerOf a.exponent?)) := by
  obtain ⟨htake, hdrop⟩ := takeWhile_isDigit a.isDigit_whole a.head_partText
  have hfilled : (a.whole.isEmpty && a.part.isEmpty) = false := by
    rw [Bool.and_eq_false_iff, List.isEmpty_eq_false_iff, List.isEmpty_eq_false_iff]
    exact a.filled
  have hexponent : Decimal.readExponent? a.exponentText = some (Exponent.readPowerOf a.exponent?) :=
    Exponent.readExponent?_textOf _
  simp only [Decimal.read?, text, readSign_text a.sign a.notSign_body, htake, hdrop,
    a.readFraction_partText, hfilled, hexponent]
  rfl

theorem exists_of_read? {cs : List Char} {d : Decimal} (h : Decimal.read? cs = some d) :
    ∃ a : Numeral, a.text = cs ∧ d.value = a.readValue := by
  obtain ⟨s, body, hsign, hbody⟩ := exists_readSign cs
  obtain ⟨part?, rest, hfraction, hpart, hpoint⟩ :=
    exists_readFraction (body.dropWhile Char.isDigit)
  have hwhole : ∀ c ∈ body.takeWhile Char.isDigit, c.isDigit = true :=
    List.all_eq_true.1 List.all_takeWhile
  simp only [Decimal.read?, hsign, hfraction] at h
  split at h
  case isTrue => cases h
  case isFalse hfilled =>
    rw [Bool.and_eq_true, not_and_or, List.isEmpty_iff, List.isEmpty_iff] at hfilled
    obtain ⟨power, hpower, hd⟩ := Option.map_eq_some_iff.1 h
    obtain ⟨exponent?, hexponent, hread⟩ := Exponent.exists_of_readExponent? hpower
    let a : Numeral := ⟨s, _, part?, exponent?, hwhole, hpart, hfilled⟩
    refine ⟨a, ?_, ?_⟩
    · rw [text, partText, exponentText, hexponent, hpoint, List.takeWhile_append_dropWhile, hbody]
    · rw [← hd, readValue, hread]
      rfl

/-- A numeral without an exponent is what it is read as. -/
theorem value_eq_of_read? {a : Numeral} {d : Decimal} (hread : Decimal.read? a.text = some d)
    (hplain : ∀ c ∈ a.text, c ≠ 'e' ∧ c ≠ 'E') : a.value = d.value := by
  rw [a.read?_text, Option.some.injEq] at hread
  rcases hexponent : a.exponent? with _ | x
  case none =>
    rw [value, ← hread, hexponent]
    rfl
  case some =>
    have hmem : x.letter ∈ a.text := by
      rw [text, exponentText, hexponent, Exponent.textOf, Exponent.text]
      simp
    obtain ⟨hsmall, hcapital⟩ := hplain _ hmem
    exact absurd x.isLetter (not_or.2 ⟨hsmall, hcapital⟩)

/-- Where the first digit of a numeral stands. -/
theorem magnitude_bounds (a : Numeral) (h : digitsToNat a.digits ≠ 0) (power : ℤ) :
    power - a.digits.length < (a.withPower power).magnitude ∧
      (a.withPower power).magnitude ≤ a.digits.length + power := by
  have hisDigit : ∀ c ∈ a.digits, c.isDigit = true := fun c hc =>
    (List.mem_append.1 hc).elim (a.isDigit_whole c) (a.isDigit_part c)
  have hpos : 0 < a.digits.length := by
    rw [List.length_pos_iff]
    intro hnil
    exact h (by rw [hnil]; rfl)
  have hlow : 0 < (Nat.toDigits 10 (digitsToNat a.digits)).length := Nat.length_toDigits_pos
  have hhigh : (Nat.toDigits 10 (digitsToNat a.digits)).length ≤ a.digits.length :=
    (Nat.length_toDigits_le_iff (by decide) hpos).2 (digitsToNat_lt hisDigit)
  have hpart : a.part.length ≤ a.digits.length := by
    rw [digits, List.length_append]
    exact Nat.le_add_left _ _
  have hmagnitude : (a.withPower power).magnitude =
      (Nat.toDigits 10 (digitsToNat a.digits)).length + (power - a.part.length) := rfl
  omega

/-- A power of ten that outweighs the digits decides what is read. -/
theorem isNearest_withPower_of_le {a : Numeral} {power : ℤ} {n : Nat}
    (h : digitsToNat a.digits = 0 ∨ power + a.digits.length < -Decimal.magnitudeBound) :
    IsNearest (a.withPower power).value n ↔ n = 0 := by
  have hsmall : digitsToNat a.digits = 0 ∨
      (a.withPower power).magnitude < -Decimal.magnitudeBound := by
    by_cases hzero : digitsToNat a.digits = 0
    · exact Or.inl hzero
    · have hbounds := a.magnitude_bounds hzero power
      have hpower := h.resolve_left hzero
      exact Or.inr (by omega)
  rw [Decimal.isNearest_value_iff, isNearest_iff_of_zero (Decimal.isNearest_size_zero hsmall)]
  exact ⟨And.left, fun hn => ⟨hn, fun _ => hn⟩⟩

theorem not_isNearest_withPower {a : Numeral} {power : ℤ} {n : Nat} (hn : n < 2 ^ 53)
    (hdigits : digitsToNat a.digits ≠ 0) (h : Decimal.magnitudeBound + a.digits.length ≤ power) :
    ¬IsNearest (a.withPower power).value n := by
  have hbounds := a.magnitude_bounds hdigits power
  rw [Decimal.isNearest_value_iff]
  exact fun hnearest => Decimal.not_isNearest_size hn hdigits (by omega) hnearest.1

/-- Digits of an exponent that are not read make no difference to a numeral that is not of
    excessive length. -/
theorem isNearest_readValue_iff {a : Numeral} {n : Nat} (hn : n < 2 ^ 53)
    (hlength : a.digits.length ≤ 65000) : IsNearest a.readValue n ↔ IsNearest a.value n := by
  have hlimit : Decimal.magnitudeBound = 400 := rfl
  unfold readValue value
  rcases a.exponent? with _ | x
  case none => exact Iff.rfl
  case some =>
    rcases exponentValue_cases x.digits with heq | ⟨hread, hexact⟩
    · rw [Exponent.readPowerOf, Exponent.powerOf, Exponent.readPower, heq, Exponent.power]
    · rw [Exponent.readPowerOf, Exponent.powerOf, Exponent.readPower, Exponent.power, Sign.apply,
        Sign.apply]
      have hbound : Decimal.exponentBound = 65536 := rfl
      by_cases hdigits : digitsToNat a.digits = 0
      · rw [isNearest_withPower_of_le (Or.inl hdigits), isNearest_withPower_of_le (Or.inl hdigits)]
      · split
        case isTrue =>
          rw [isNearest_withPower_of_le (Or.inr (by omega)),
            isNearest_withPower_of_le (Or.inr (by omega))]
        case isFalse =>
          exact iff_of_false (not_isNearest_withPower hn hdigits (by omega))
            (not_isNearest_withPower hn hdigits (by omega))

end Numeral

/-- A count that a text is. -/
def IsCount (cs : List Char) (n : Nat) : Prop :=
  n ≤ countLimit ∧ ∃ a : Numeral, a.text = cs ∧ IsNearest a.readValue n

/-- The counts that texts are read as. -/
theorem readCount?_eq_some_iff {cs : List Char} {n : Nat} :
    readCount? cs = some n ↔ IsCount cs n := by
  rw [readCount?_eq_some_iff_nearest]
  constructor
  · rintro ⟨d, hread, hle, hnearest⟩
    obtain ⟨a, htext, hvalue⟩ := Numeral.exists_of_read? hread
    rw [hvalue] at hnearest
    exact ⟨hle, a, htext, hnearest⟩
  · rintro ⟨hle, a, rfl, hnearest⟩
    exact ⟨_, a.read?_text, hle, hnearest⟩

namespace Numeral

/-- A text is read in one way. -/
theorem isCount_text_iff (a : Numeral) {n : Nat} :
    IsCount a.text n ↔ n ≤ countLimit ∧ IsNearest a.readValue n := by
  constructor
  · rintro ⟨hle, b, htext, hnearest⟩
    have hread := a.read?_text
    rw [← htext, b.read?_text] at hread
    refine ⟨hle, ?_⟩
    rwa [readValue, Option.some.inj hread] at hnearest
  · rintro ⟨hle, hnearest⟩
    exact ⟨hle, a, rfl, hnearest⟩

/-- A numeral that is not of excessive length counts as what it exactly is, rounded. -/
theorem isCount_text_iff_value {a : Numeral} (hlength : a.digits.length ≤ 65000) {n : Nat} :
    IsCount a.text n ↔ n ≤ countLimit ∧ IsNearest a.value n := by
  have hlimit : countLimit < 2 ^ 53 := by decide
  rw [isCount_text_iff]
  exact and_congr_right fun hle => isNearest_readValue_iff (by omega) hlength

/-- A numeral that is read as a count is nearly equal to it. -/
theorem abs_sub_le_of_isCount {a : Numeral} {n : Nat} (h : IsCount a.text n) (hn : n ≠ 0) :
    |a.readValue - n| ≤ n / 2 ^ 53 := by
  have hlimit : countLimit < 2 ^ 53 := by decide
  obtain ⟨hle, hnearest⟩ := a.isCount_text_iff.1 h
  exact hnearest.abs_sub_le hn (by omega)

end Numeral

end Number

end Questionnaire
