import Questionnaire.Proofs.Spreadsheet.Slices

/-!
# Writing Texts with Escapes

A writer escapes the characters that it has to, and an underscore where an `x` comes next,
since that might begin an escape. This is more than is needed (`EscapedAs` is the exact
condition), and it is easier to do, because it looks one character ahead in the text and not
seven in what has been written.

It is enough. An underscore that is not escaped can only be followed by an `x` if it was in the
text, as every escape begins with an underscore. So no escape begins in what was written but
those of the writer, and reading takes them back and nothing else.

## Main definitions

* `WrittenFrom`: A text with escapes at some positions and for markers.

## Theorems

* `exists_isEscape_iff`: Which characters have escapes.
* `exists_writtenFrom_iff`: Which positions can be chosen.
* `WrittenFrom.escapedAs`: Markers are all that has to be escaped.
* `unescape_eq_self`: A text without escapes is left as it is.
* `unescape_outcome`: What reading does with texts, written and others.
-/

namespace Questionnaire

namespace Spreadsheet

/-- A text, beginning at a position, with an escape for each character at a chosen position and
    for each underscore in front of an `x`. -/
inductive WrittenFrom (chosen : Nat → Prop) : (i : Nat) → (text written : List Char) → Prop
  | nil {i : Nat} : WrittenFrom chosen i [] []
  | plain {i : Nat} {c : Char} {text written : List Char} (hplain : ¬(chosen i ∨ IsMarker c text))
      (h : WrittenFrom chosen (i + 1) text written) :
      WrittenFrom chosen i (c :: text) (c :: written)
  | escape {i : Nat} {c : Char} {escape text written : List Char}
      (hescaped : chosen i ∨ IsMarker c text) (hescape : IsEscape escape c)
      (h : WrittenFrom chosen (i + 1) text written) :
      WrittenFrom chosen i (c :: text) (escape ++ written)

/-! ### Which characters can be escaped -/

theorem hexValue?_digitChar : ∀ v < 16, Number.hexValue? (Nat.digitChar v) = some v := by
  decide

/-- Four digits are enough for all characters but those behind the first 65536 codes. -/
theorem exists_isEscape_iff {c : Char} : (∃ escape, IsEscape escape c) ↔ c.toNat ≤ 0xffff := by
  constructor
  · rintro ⟨escape, a, b, d, e, i, j, k, l, -, hi, hj, hk, hl, hcode⟩
    have hi := (lt_of_hexValue? hi).2
    have hj := (lt_of_hexValue? hj).2
    have hk := (lt_of_hexValue? hk).2
    have hl := (lt_of_hexValue? hl).2
    omega
  · intro h
    have hdigit : ∀ n, Number.hexValue? (Nat.digitChar (n % 16)) = some (n % 16) := fun n =>
      hexValue?_digitChar _ (Nat.mod_lt n (by decide))
    refine ⟨_, _, _, _, _, _, _, _, _, rfl, hdigit (c.toNat / 4096), hdigit (c.toNat / 256),
      hdigit (c.toNat / 16), hdigit c.toNat, ?_⟩
    omega

variable {chosen : Nat → Prop} {i : Nat} {text written : List Char}

/-- The positions of a text can be chosen if the characters there have escapes. -/
theorem exists_writtenFrom_iff :
    (∃ written, WrittenFrom chosen i text written) ↔
      ∀ j c, chosen (i + j) → text[j]? = some c → c.toNat ≤ 0xffff := by
  constructor
  · rintro ⟨written, h⟩
    induction h with
    | nil =>
        intro j c _ hget
        cases hget
    | @plain i d text written hplain h ih =>
        intro j c hj hget
        cases j with
        | zero => exact absurd (Or.inl hj) hplain
        | succ j => exact ih j c (Nat.add_right_comm i 1 j ▸ hj) hget
    | @escape i d escape text written hescaped hescape h ih =>
        intro j c hj hget
        cases j with
        | zero =>
            cases hget
            exact exists_isEscape_iff.1 ⟨escape, hescape⟩
        | succ j => exact ih j c (Nat.add_right_comm i 1 j ▸ hj) hget
  · intro h
    induction text generalizing i with
    | nil => exact ⟨[], .nil⟩
    | cons c text ih =>
        -- The rest is counted from the next position on.
        obtain ⟨written, hwritten⟩ := ih fun j d hj hget =>
          h (j + 1) d (Nat.add_right_comm i 1 j ▸ hj) hget
        by_cases hescaped : chosen i ∨ IsMarker c text
        · have hsmall : c.toNat ≤ 0xffff := by
            rcases hescaped with hchosen | ⟨rfl, -⟩
            · exact h 0 c hchosen rfl
            · decide
          rcases exists_isEscape_iff.2 hsmall with ⟨escape, hescape⟩
          exact ⟨escape ++ written, .escape hescaped hescape hwritten⟩
        · exact ⟨c :: written, .plain hescaped hwritten⟩

/-! ### What is read of a written text -/

/-- What is written begins with an `x` only if the text does. -/
theorem WrittenFrom.head?_eq (h : WrittenFrom chosen i text written)
    (hx : written.head? = some 'x') : text.head? = some 'x' := by
  cases h with
  | nil => exact hx
  | plain hplain h => exact hx
  | escape hescaped hescape h =>
      rcases hescape with ⟨_, _, _, _, _, _, _, _, rfl, -⟩
      cases hx

theorem WrittenFrom.escapedAs (h : WrittenFrom chosen i text written) : EscapedAs text written := by
  induction h with
  | nil => exact .nil
  | plain hplain h ih =>
      refine .plain (fun escape c' rest hescape heq => hplain (Or.inr ?_)) ih
      -- An escape that began here would have the next character as its `x`.
      rcases hescape with ⟨_, _, _, _, _, _, _, _, rfl, -⟩
      cases heq
      exact ⟨rfl, h.head?_eq rfl⟩
  | escape hescaped hescape h ih => exact .escape hescape ih

/-- A text in which no escape stands is left as it is. -/
theorem unescape_eq_self (h : ∀ escape c, IsEscape escape c → ¬ escape <:+: text) :
    unescape text = text := by
  refine escapedAs_iff.1 ?_
  induction text with
  | nil => exact .nil
  | cons c text ih =>
      refine .plain (fun escape c' rest hescape heq => h escape c' hescape ?_) (ih ?_)
      · rw [heq]
        exact (List.prefix_append escape rest).isInfix
      · exact fun escape c' hescape hinfix => h escape c' hescape (List.infix_cons hinfix)

/-- Reading takes back the escapes of a writer, whatever positions were chosen; it leaves a text
    without escapes as it is; and it cuts no text, written or not, inside a character. -/
theorem unescape_outcome (text : List Char) (chosen : Nat → Prop) :
    ((∃ written, WrittenFrom chosen 0 text written) ↔
      ∀ i c, chosen i → text[i]? = some c → c.toNat ≤ 0xffff) ∧
    (∀ written, WrittenFrom chosen 0 text written → unescape written = text) ∧
    ((∀ escape c, IsEscape escape c → ¬ escape <:+: text) → unescape text = text) ∧
    unescapeBytes (stored text) = some (stored (unescape text)) := by
  refine ⟨?_, fun written h => escapedAs_iff.1 h.escapedAs, unescape_eq_self,
    unescapeBytes_stored text⟩
  simp only [exists_writtenFrom_iff, Nat.zero_add]

/-- An escape behind a letter of two bytes, one that names no character, and one whose first
    underscore was escaped. -/
example :
    unescape "é_x0041__xd800__x005F_x0041_é".toList = "éA_xd800__x0041_é".toList := by
  decide

end Spreadsheet

end Questionnaire
