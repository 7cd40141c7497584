import Questionnaire.Spreadsheet.Escape

/-!
# Escaped Texts

What it means that one text is written as another, said without reading it. Each
character stands for itself or is written as an escape. Where it stands for itself
no escape may begin by chance, so an underscore has to be escaped if what follows
would make it one, and may be escaped anywhere.

Reading is then the inverse of writing, and it leaves no choice: `escapedAs_iff`
says that a text is written as another one exactly if it is what is read there.
So every text is written in some way, and every written text is that of one text.

## Main definitions

* `IsEscape`: Seven characters that are the escape of one.
* `EscapedAs`: A text and how it is written.

## Theorems

* `escapeAt?_eq_some_iff`: The escape that a written text begins with.
* `unescape_append`: An escape is read as its character, and reading goes on behind it.
* `escapedAs_iff`: A text is what is read of how it is written.
-/

namespace Questionnaire

namespace Spreadsheet

/-- Seven characters that are the escape of one: its code in four hexadecimal digits. -/
def IsEscape (written : List Char) (c : Char) : Prop :=
  ∃ a b d e i j k l, written = ['_', 'x', a, b, d, e, '_'] ∧
    Number.hexValue? a = some i ∧ Number.hexValue? b = some j ∧
    Number.hexValue? d = some k ∧ Number.hexValue? e = some l ∧
    c.toNat = ((i * 16 + j) * 16 + k) * 16 + l

/-- A text as it is written: a character stands for itself, as long as no escape begins
    there, or is written as an escape. -/
inductive EscapedAs : (text written : List Char) → Prop
  | nil : EscapedAs [] []
  | plain {c : Char} {text written : List Char}
      (hplain : ∀ escape c' rest, IsEscape escape c' → c :: written ≠ escape ++ rest)
      (h : EscapedAs text written) : EscapedAs (c :: text) (c :: written)
  | escape {c : Char} {escape text written : List Char} (hescape : IsEscape escape c)
      (h : EscapedAs text written) : EscapedAs (c :: text) (escape ++ written)

theorem IsEscape.length_eq {escape : List Char} {c : Char} (h : IsEscape escape c) :
    escape.length = 7 := by
  rcases h with ⟨_, _, _, _, _, _, _, _, rfl, -⟩
  rfl

/-- Digits name a character if it has the code that they are the digits of. -/
theorem escapedChar?_eq_some_iff {a b d e c : Char} :
    escapedChar? a b d e = some c ↔ IsEscape ['_', 'x', a, b, d, e, '_'] c := by
  constructor
  · intro h
    simp only [escapedChar?, Option.bind_eq_bind, Option.bind_eq_some_iff] at h
    rcases h with ⟨i, hi, j, hj, k, hk, l, hl, h⟩
    split at h
    · rename_i hvalid
      refine ⟨a, b, d, e, i, j, k, l, rfl, hi, hj, hk, hl, ?_⟩
      rw [← Option.some.inj h, Char.ofNat, dif_pos hvalid]
      rfl
    · cases h
  · rintro ⟨a', b', d', e', i, j, k, l, hwritten, hi, hj, hk, hl, hcode⟩
    simp only [List.cons.injEq, and_true, true_and] at hwritten
    rcases hwritten with ⟨rfl, rfl, rfl, rfl⟩
    have hvalid : (((i * 16 + j) * 16 + k) * 16 + l).isValidChar := hcode ▸ c.valid
    simp only [escapedChar?, hi, hj, hk, hl, Option.bind_eq_bind, Option.bind_some]
    rw [if_pos hvalid, ← hcode, Char.ofNat_toNat]

/-- The escape that a written text begins with. -/
theorem escapeAt?_eq_some_iff {cs : List Char} {c : Char} :
    escapeAt? cs = some c ↔ ∃ escape rest, IsEscape escape c ∧ cs = escape ++ rest := by
  constructor
  · intro h
    unfold escapeAt? at h
    split at h
    · rename_i a b d e rest
      exact ⟨['_', 'x', a, b, d, e, '_'], rest, escapedChar?_eq_some_iff.1 h, rfl⟩
    · cases h
  · rintro ⟨escape, rest, hescape, rfl⟩
    rcases hescape with ⟨a, b, d, e, i, j, k, l, rfl, hdigits⟩
    exact escapedChar?_eq_some_iff.2 ⟨a, b, d, e, i, j, k, l, rfl, hdigits⟩

theorem unescapeFrom_eq_drop (inside : Nat) (cs : List Char) :
    unescapeFrom inside cs = unescape (cs.drop inside) := by
  induction inside generalizing cs with
  | zero => rfl
  | succ inside ih =>
      cases cs with
      | nil => rfl
      | cons c rest => rw [unescapeFrom, ih, List.drop_succ_cons]

/-- An escape is read as its character, and reading goes on behind it. -/
theorem unescape_append {escape : List Char} {c : Char} (h : IsEscape escape c)
    (rest : List Char) : unescape (escape ++ rest) = c :: unescape rest := by
  have hat : escapeAt? (escape ++ rest) = some c :=
    escapeAt?_eq_some_iff.2 ⟨escape, rest, h, rfl⟩
  rcases h with ⟨a, b, d, e, i, j, k, l, rfl, _⟩
  simp only [List.cons_append, List.nil_append] at hat ⊢
  rw [unescape, unescapeFrom, hat]
  dsimp only
  rw [unescapeFrom_eq_drop]
  rfl

theorem unescape_cons {c : Char} {rest : List Char} (h : escapeAt? (c :: rest) = none) :
    unescape (c :: rest) = c :: unescape rest := by
  rw [unescape, unescapeFrom, h]
  rfl

theorem escapedAs_unescape (written : List Char) : EscapedAs (unescape written) written := by
  -- An escape is seven characters long, so the induction is on the length.
  induction hlength : written.length using Nat.strongRecOn generalizing written with
  | ind n ih =>
      cases written with
      | nil => exact .nil
      | cons c rest =>
          cases hat : escapeAt? (c :: rest) with
          | none =>
              rw [unescape_cons hat]
              refine .plain ?_ (ih rest.length ?_ rest rfl)
              · intro escape c' after hescape heq
                rw [escapeAt?_eq_some_iff.2 ⟨escape, after, hescape, heq⟩] at hat
                cases hat
              · rw [← hlength, List.length_cons]
                omega
          | some c' =>
              rcases escapeAt?_eq_some_iff.1 hat with ⟨escape, after, hescape, heq⟩
              have hshorter : after.length < n := by
                rw [← hlength, heq, List.length_append, hescape.length_eq]
                omega
              rw [heq, unescape_append hescape]
              exact .escape hescape (ih after.length hshorter after rfl)

/-- A text is what is read of how it is written, and of nothing else. -/
theorem escapedAs_iff {text written : List Char} :
    EscapedAs text written ↔ unescape written = text := by
  constructor
  · intro h
    induction h with
    | nil => rfl
    | @plain c text written hplain _ ih =>
        have hat : escapeAt? (c :: written) = none := by
          cases hat : escapeAt? (c :: written) with
          | none => rfl
          | some c' =>
              rcases escapeAt?_eq_some_iff.1 hat with ⟨escape, rest, hescape, heq⟩
              exact absurd heq (hplain escape c' rest hescape)
        rw [unescape_cons hat, ih]
    | escape hescape _ ih => rw [unescape_append hescape, ih]
  · rintro rfl
    exact escapedAs_unescape written

end Spreadsheet

end Questionnaire
