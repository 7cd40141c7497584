import Questionnaire.Proofs.Spreadsheet.Escape

/-!
# Escaped Texts in Bytes

A text is stored as bytes, up to four for a character, and escapes are looked for in the
bytes: the text is searched for an underscore and an `x`, it is cut there, and it is cut
again behind the escape or behind the underscore. A cut inside a character would be an
error, and one that stops the program.

`unescapeBytes` does this byte by byte and fails at such a cut. It never does: all cuts lie
before or behind characters that are single bytes, and those bytes are part of no other
character (`utf8EncodeChar_of_mem`). What it makes of the bytes of a text are the bytes of
the text that `unescape` makes of the characters.

## Main definitions

* `stored`: The bytes of a text.
* `isBoundary`, `slice?`: Where bytes may be cut, and what is cut out of them.
* `unescapeBytes`: Escapes replaced in the bytes.

## Theorems

* `utf8EncodeChar_of_mem`: A byte that is a character by itself is part of no other.
* `slice?_stored`: The bytes of a part of a text can be cut out.
* `findMarker_stored`: The first marker in the bytes is the first one in the text.
* `escapeIn?_stored`: So is an escape.
* `unescapeBytes_stored`: Nothing is cut inside a character.
-/

namespace Questionnaire

namespace Spreadsheet

/-- The bytes that a text is stored as, in UTF-8. -/
def stored (cs : List Char) : List UInt8 :=
  cs.flatMap String.utf8EncodeChar

/-- Whether a byte goes on with a character that another byte has begun. -/
def continues (b : UInt8) : Bool :=
  0x80 ≤ b && b < 0xc0

/-- Whether bytes may be cut at an index: at their ends, and before each byte that begins a
    character. -/
def isBoundary (s : List UInt8) (i : Nat) : Bool :=
  i == 0 || i == s.length || s[i]?.any fun b => !continues b

/-- The bytes from one index to another, if they may be cut at both. -/
def slice? (s : List UInt8) (i j : Nat) : Option (List UInt8) :=
  if i ≤ j && isBoundary s i && isBoundary s j then some ((s.take j).drop i) else none

/-- The index of the first underscore before an `x`. -/
def findMarker : List UInt8 → Option Nat
  | [] => none
  | b :: rest =>
    if b == 0x5f && rest.head? == some 0x78 then some 0 else (findMarker rest).map (· + 1)

/-- The character that the bytes behind a marker name, if they are four digits with another
    underscore behind them. -/
def escapeIn? (s : List UInt8) : Option Char := do
  let digits ← slice? s 2 6
  let last ← slice? s 6 7
  match digits.map fun b => Char.ofNat b.toNat with
  | [a, b, c, d] => if last = [0x5f] then escapedChar? a b c d else none
  | _ => none

/-- What is written for the bytes up to a marker and for the marker, or the escape that begins
    with it, and the bytes behind. Nothing, if a character would be cut. -/
def turn? (s : List UInt8) (start : Nat) : Option (List UInt8 × List UInt8) := do
  let before ← slice? s 0 start
  let candidate ← slice? s start s.length
  match escapeIn? candidate with
  | some c =>
    let rest ← slice? candidate 7 candidate.length
    return (before ++ String.utf8EncodeChar c, rest)
  | none =>
    let rest ← slice? candidate 1 candidate.length
    return (before ++ [0x5f], rest)

theorem eq_of_slice? {s part : List UInt8} {i j : Nat} (h : slice? s i j = some part) :
    i ≤ j ∧ (s.take j).drop i = part := by
  rw [slice?] at h
  split at h
  case isFalse => cases h
  case isTrue hcut =>
    rw [Bool.and_eq_true, Bool.and_eq_true, decide_eq_true_eq] at hcut
    exact ⟨hcut.1.1, Option.some.inj h⟩

theorem length_of_slice? {s part : List UInt8} {i : Nat} (h : slice? s i s.length = some part) :
    part.length + i = s.length := by
  rcases eq_of_slice? h with ⟨hle, rfl⟩
  rw [List.take_length, List.length_drop]
  omega

/-- A turn leaves fewer bytes. -/
theorem length_lt_of_turn? {s written rest : List UInt8} {start : Nat}
    (h : turn? s start = some (written, rest)) : rest.length < s.length := by
  simp only [turn?, Option.bind_eq_bind, Option.bind_eq_some_iff] at h
  rcases h with ⟨_, _, candidate, hcandidate, h⟩
  have hlength := length_of_slice? hcandidate
  split at h
  all_goals
    rcases Option.bind_eq_some_iff.1 h with ⟨_, hrest, h⟩
    cases h
    have hlength' := length_of_slice? hrest
    omega

/-- Bytes with their escapes replaced. Nothing, if a character would be cut. -/
def unescapeBytes (s : List UInt8) : Option (List UInt8) :=
  match findMarker s with
  | none => some s
  | some start =>
    match _h : turn? s start with
    | none => none
    | some (written, rest) => (unescapeBytes rest).map (written ++ ·)
termination_by s.length
decreasing_by exact length_lt_of_turn? _h

/-! ### The bytes of a character -/

theorem toNat_ofNat_byte (b : UInt8) : (Char.ofNat b.toNat).toNat = b.toNat := by
  have hvalid : b.toNat.isValidChar := Or.inl (Nat.lt_trans b.toNat_lt (by decide))
  rw [Char.ofNat, dif_pos hvalid]
  rfl

theorem ofNat_byte_of_lt {c : Char} (h : c.toNat < 128) :
    Char.ofNat (UInt8.ofNat c.toNat).toNat = c := by
  rw [UInt8.toNat_ofNat', Nat.mod_eq_of_lt (by omega), Char.ofNat_toNat]

theorem utf8EncodeChar_of_lt {c : Char} (h : c.toNat < 128) :
    String.utf8EncodeChar c = [UInt8.ofNat c.toNat] := by
  rw [String.utf8EncodeChar]
  exact if_pos (Nat.le_of_lt_succ h)

/-- Of a character with several bytes none could be a character by itself. -/
theorem le_of_mem_utf8EncodeChar {c : Char} (h : ¬ c.toNat < 128) :
    ∀ b ∈ String.utf8EncodeChar c, 128 ≤ b.toNat := by
  have hlarge : ¬ c.val.toNat ≤ 127 := fun hle => h (Nat.lt_succ_of_le hle)
  rw [String.utf8EncodeChar, if_neg hlarge]
  -- Two bytes, or three or four.
  split
  case isTrue =>
    simp only [List.forall_mem_cons, List.not_mem_nil, false_implies, implies_true, and_true,
      UInt8.toNat_ofNat']
    omega
  case isFalse =>
    split
    all_goals
      simp only [List.forall_mem_cons, List.not_mem_nil, false_implies, implies_true,
        and_true, UInt8.toNat_ofNat']
      omega

/-- A byte that is a character by itself is part of no other. -/
theorem utf8EncodeChar_of_mem {c : Char} {b : UInt8} (h : b ∈ String.utf8EncodeChar c)
    (hb : b.toNat < 128) : String.utf8EncodeChar c = [b] ∧ c = Char.ofNat b.toNat := by
  by_cases hc : c.toNat < 128
  · rw [utf8EncodeChar_of_lt hc] at h ⊢
    rw [List.mem_singleton.1 h]
    exact ⟨rfl, (ofNat_byte_of_lt hc).symm⟩
  · have hlarge := le_of_mem_utf8EncodeChar hc b h
    omega

theorem continues_eq_false_iff {b : UInt8} :
    continues b = false ↔ b.toNat < 128 ∨ 192 ≤ b.toNat := by
  rw [continues, Bool.and_eq_false_iff, decide_eq_false_iff_not, decide_eq_false_iff_not,
    UInt8.le_iff_toNat_le, UInt8.lt_iff_toNat_lt, Nat.not_le, Nat.not_lt]
  rfl

/-- The first byte of a character begins it. -/
theorem exists_utf8EncodeChar_eq_cons (c : Char) :
    ∃ b bs, String.utf8EncodeChar c = b :: bs ∧ continues b = false := by
  have hbegins : ∀ n, n < 128 ∨ 192 ≤ n ∧ n < 256 → continues (UInt8.ofNat n) = false := by
    intro n hn
    rw [continues_eq_false_iff, UInt8.toNat_ofNat']
    omega
  rw [String.utf8EncodeChar]
  -- By the number of bytes, from one to four.
  split
  case isTrue => exact ⟨_, _, rfl, hbegins _ (by omega)⟩
  case isFalse =>
    split
    case isTrue => exact ⟨_, _, rfl, hbegins _ (by omega)⟩
    case isFalse =>
      split
      all_goals exact ⟨_, _, rfl, hbegins _ (by omega)⟩

/-! ### Cutting the bytes of a text -/

theorem stored_cons (c : Char) (cs : List Char) :
    stored (c :: cs) = String.utf8EncodeChar c ++ stored cs :=
  List.flatMap_cons

theorem stored_append (as bs : List Char) : stored (as ++ bs) = stored as ++ stored bs :=
  List.flatMap_append

/-- Characters that are single bytes are as many as their bytes. -/
theorem length_stored_of_lt {cs : List Char} (h : ∀ c ∈ cs, c.toNat < 128) :
    (stored cs).length = cs.length := by
  induction cs with
  | nil => rfl
  | cons c cs ih =>
      rw [List.forall_mem_cons] at h
      rw [stored_cons, utf8EncodeChar_of_lt h.1, List.singleton_append, List.length_cons, ih h.2,
        List.length_cons]

/-- And they are read back from them one by one. -/
theorem map_ofNat_stored {cs : List Char} (h : ∀ c ∈ cs, c.toNat < 128) :
    (stored cs).map (fun b => Char.ofNat b.toNat) = cs := by
  induction cs with
  | nil => rfl
  | cons c cs ih =>
      rw [List.forall_mem_cons] at h
      rw [stored_cons, utf8EncodeChar_of_lt h.1, List.singleton_append, List.map_cons, ih h.2,
        ofNat_byte_of_lt h.1]

/-- Bytes may be cut between two parts of a text. -/
theorem isBoundary_stored (as bs : List Char) :
    isBoundary (stored (as ++ bs)) (stored as).length = true := by
  rw [isBoundary, stored_append, Bool.or_eq_true]
  cases bs with
  | nil =>
      -- This is the end of the bytes.
      refine Or.inl ?_
      rw [Bool.or_eq_true]
      exact Or.inr (beq_iff_eq.2 (congrArg List.length (List.append_nil _).symm))
  | cons c bs =>
      refine Or.inr ?_
      rcases exists_utf8EncodeChar_eq_cons c with ⟨b, more, hchar, hbegins⟩
      rw [List.getElem?_append_right (Nat.le_refl _), Nat.sub_self, stored_cons, hchar]
      exact congrArg not hbegins

/-- So a part of a text can be cut out. -/
theorem slice?_stored (as bs cs : List Char) :
    slice? (stored (as ++ (bs ++ cs))) (stored as).length (stored (as ++ bs)).length =
      some (stored bs) := by
  have hfirst := isBoundary_stored as (bs ++ cs)
  have hlast := isBoundary_stored (as ++ bs) cs
  have hle : (stored as).length ≤ (stored (as ++ bs)).length := by
    rw [stored_append, List.length_append]
    exact Nat.le_add_right _ _
  rw [List.append_assoc] at hlast
  rw [slice?, hfirst, hlast, decide_eq_true hle]
  refine (if_pos rfl).trans (congrArg some ?_)
  rw [← List.append_assoc, stored_append (as ++ bs), List.take_left, stored_append, List.drop_left]

theorem slice?_front (as bs : List Char) :
    slice? (stored (as ++ bs)) 0 (stored as).length = some (stored as) :=
  slice?_stored [] as bs

theorem slice?_back (as bs : List Char) :
    slice? (stored (as ++ bs)) (stored as).length (stored (as ++ bs)).length =
      some (stored bs) := by
  have hslice := slice?_stored as bs []
  rwa [List.append_nil] at hslice

/-- Where the first byte is a character by itself, it is the first character of the text. -/
theorem stored_eq_cons {cs : List Char} {b : UInt8} {bs : List UInt8} (h : stored cs = b :: bs)
    (hb : b.toNat < 128) : ∃ rest, cs = Char.ofNat b.toNat :: rest ∧ stored rest = bs := by
  cases cs with
  | nil => cases h
  | cons c rest =>
      rcases exists_utf8EncodeChar_eq_cons c with ⟨b', more, hchar, -⟩
      rw [stored_cons] at h
      have hmem : b ∈ String.utf8EncodeChar c := by
        rw [hchar, List.cons_append, List.cons.injEq] at h
        rw [hchar, h.1]
        exact List.mem_cons_self
      rcases utf8EncodeChar_of_mem hmem hb with ⟨hsingle, rfl⟩
      rw [hsingle, List.singleton_append, List.cons.injEq] at h
      exact ⟨rest, rfl, h.2⟩

theorem head?_of_head?_stored {cs : List Char} (h : (stored cs).head? = some 0x78) :
    cs.head? = some 'x' := by
  rcases List.head?_eq_some_iff.1 h with ⟨bs, hbytes⟩
  rcases stored_eq_cons hbytes (by decide) with ⟨rest, rfl, -⟩
  rfl

/-! ### Markers -/

/-- Whether the marker of an escape begins with a character, by what comes behind it. -/
def IsMarker (c : Char) (rest : List Char) : Prop :=
  c = '_' ∧ rest.head? = some 'x'

theorem escapeAt?_eq_none {c : Char} {rest : List Char} (h : ¬ IsMarker c rest) :
    escapeAt? (c :: rest) = none := by
  unfold escapeAt?
  split
  case h_1 heq =>
    cases heq
    exact absurd ⟨rfl, rfl⟩ h
  case h_2 => rfl

theorem findMarker_append {bs : List UInt8} (h : ∀ b ∈ bs, b ≠ 0x5f) (s : List UInt8) :
    findMarker (bs ++ s) = (findMarker s).map (· + bs.length) := by
  induction bs with
  | nil => exact Option.map_id'.symm
  | cons b bs ih =>
      rw [List.forall_mem_cons] at h
      rw [List.cons_append, findMarker, beq_false_of_ne h.1, Bool.false_and,
        if_neg Bool.false_ne_true, ih h.2, Option.map_map]
      rfl

/-- Where no marker begins, the search goes on behind the bytes of the character. -/
theorem findMarker_stored_cons {c : Char} {rest : List Char} (h : ¬ IsMarker c rest) :
    findMarker (stored (c :: rest)) =
      (findMarker (stored rest)).map (· + (String.utf8EncodeChar c).length) := by
  rw [stored_cons]
  by_cases hunderscore : c = '_'
  · -- An underscore is found as a byte, and what follows it is not an `x`.
    subst hunderscore
    have hnone : ((stored rest).head? == some 0x78) = false :=
      Bool.eq_false_iff.2 fun hx => h ⟨rfl, head?_of_head?_stored (beq_iff_eq.1 hx)⟩
    change findMarker (0x5f :: stored rest) = _
    rw [findMarker, hnone, Bool.and_false, if_neg Bool.false_ne_true]
    rfl
  · -- No other character has the byte of an underscore.
    refine findMarker_append (fun b hb heq => hunderscore ?_) _
    subst heq
    exact (utf8EncodeChar_of_mem hb (by decide)).2

/-- The first marker in the bytes of a text is the first one in the text. What lies before it
    is no escape. -/
theorem findMarker_stored (cs : List Char) :
    findMarker (stored cs) = none ∧ unescape cs = cs ∨
      ∃ before rest, cs = before ++ '_' :: 'x' :: rest ∧
        findMarker (stored cs) = some (stored before).length ∧
          unescape cs = before ++ unescape ('_' :: 'x' :: rest) := by
  induction cs with
  | nil => exact Or.inl ⟨rfl, rfl⟩
  | cons c cs ih =>
      by_cases hmarker : IsMarker c cs
      · rcases hmarker with ⟨rfl, hx⟩
        rcases List.head?_eq_some_iff.1 hx with ⟨rest, rfl⟩
        exact Or.inr ⟨[], rest, rfl, rfl, rfl⟩
      · rw [findMarker_stored_cons hmarker, unescape_cons (escapeAt?_eq_none hmarker)]
        rcases ih with ⟨hnone, hself⟩ | ⟨before, rest, rfl, hsome, hread⟩
        · rw [hnone, hself]
          exact Or.inl ⟨rfl, rfl⟩
        · refine Or.inr ⟨c :: before, rest, rfl, ?_, congrArg (c :: ·) hread⟩
          rw [hsome, stored_cons, List.length_append, Nat.add_comm]
          rfl

/-! ### Escapes -/

/-- A digit is a single byte, and its value is less than 16. -/
theorem lt_of_hexValue? {c : Char} {v : Nat} (h : Number.hexValue? c = some v) :
    c.toNat < 128 ∧ v < 16 := by
  rw [Number.hexValue?] at h
  split at h
  case isTrue hdigit =>
    have hle : c.toNat ≤ 57 := hdigit.2
    have hv : c.toNat - 48 = v := Option.some.inj h
    omega
  case isFalse =>
    split at h
    case isTrue hsmall =>
      have hle : c.toNat ≤ 102 := hsmall.2
      have hv : c.toNat - 97 + 10 = v := Option.some.inj h
      omega
    case isFalse =>
      split at h
      case isTrue hcapital =>
        have hle : c.toNat ≤ 70 := hcapital.2
        have hv : c.toNat - 65 + 10 = v := Option.some.inj h
        omega
      case isFalse => cases h

/-- An escape is written in single bytes. -/
theorem IsEscape.lt_of_mem {escape : List Char} {c : Char} (h : IsEscape escape c) :
    ∀ x ∈ escape, x.toNat < 128 := by
  rcases h with ⟨a, b, d, e, _, _, _, _, rfl, ha, hb, hd, he, -⟩
  simp only [List.forall_mem_cons, List.not_mem_nil, false_implies, implies_true, and_true]
  exact ⟨by decide, by decide, (lt_of_hexValue? ha).1, (lt_of_hexValue? hb).1,
    (lt_of_hexValue? hd).1, (lt_of_hexValue? he).1, by decide⟩

theorem length_stored_escape {escape : List Char} {c : Char} (h : IsEscape escape c) :
    (stored escape).length = 7 :=
  (length_stored_of_lt h.lt_of_mem).trans h.length_eq

/-- An escape of a text is found in its bytes. -/
theorem escapeIn?_escape {escape : List Char} {c : Char} (h : IsEscape escape c)
    (rest : List Char) : escapeIn? (stored (escape ++ rest)) = some c := by
  obtain ⟨a, b, d, e, -, -, -, -, rfl, -⟩ := id h
  have hsingle : ∀ x ∈ ['_', 'x'] ++ ([a, b, d, e] ++ ['_']), x.toNat < 128 := h.lt_of_mem
  rcases List.forall_mem_append.1 hsingle with ⟨hmarker, hbehind⟩
  rcases List.forall_mem_append.1 hbehind with ⟨hdigits, -⟩
  have hfront := List.forall_mem_append.2 ⟨hmarker, hdigits⟩
  -- Characters that are single bytes are cut out of the bytes where they are in the text.
  have hcut : slice? (stored (['_', 'x', a, b, d, e, '_'] ++ rest)) 2 6 =
      some (stored [a, b, d, e]) := by
    have hslice := slice?_stored ['_', 'x'] [a, b, d, e] ('_' :: rest)
    rw [length_stored_of_lt hmarker, length_stored_of_lt hfront] at hslice
    exact hslice
  have hlast : slice? (stored (['_', 'x', a, b, d, e, '_'] ++ rest)) 6 7 =
      some (stored ['_']) := by
    have hslice := slice?_stored (['_', 'x'] ++ [a, b, d, e]) ['_'] rest
    rw [stored_append _ ['_'], List.length_append, length_stored_of_lt hfront] at hslice
    exact hslice
  rw [escapeIn?, hcut, hlast]
  simp only [Option.bind_eq_bind, Option.bind_some, map_ofNat_stored hdigits]
  exact escapedChar?_eq_some_iff.2 h

/-- Where an escape is found there are seven bytes, and four of them are digits. -/
theorem exists_of_escapeIn? {s : List UInt8} {c : Char} (h : escapeIn? s = some c) :
    ∃ p q a b d e rest, s = p :: q :: a :: b :: d :: e :: 0x5f :: rest ∧
      escapedChar? (Char.ofNat a.toNat) (Char.ofNat b.toNat) (Char.ofNat d.toNat)
        (Char.ofNat e.toNat) = some c := by
  simp only [escapeIn?, Option.bind_eq_bind, Option.bind_eq_some_iff] at h
  rcases h with ⟨digits, hdigits, last, hlast, h⟩
  have hdigits := (eq_of_slice? hdigits).2
  have hlast := (eq_of_slice? hlast).2
  split at h
  case h_2 => cases h
  case h_1 a b d e hmap =>
    split at h
    case isFalse => cases h
    case isTrue hunderscore =>
      subst hunderscore
      -- There is a seventh byte only if the bytes before it are there.
      rcases s with _ | ⟨p, _ | ⟨q, _ | ⟨a', _ | ⟨b', _ | ⟨d', _ | ⟨e', _ | ⟨u, rest⟩⟩⟩⟩⟩⟩⟩ <;>
        cases hlast
      subst hdigits
      cases hmap
      exact ⟨p, q, a', b', d', e', rest, rfl, h⟩

/-- An escape in the bytes of a text is one in the text. -/
theorem escapeIn?_stored (rest : List Char) :
    escapeIn? (stored ('_' :: 'x' :: rest)) = escapeAt? ('_' :: 'x' :: rest) := by
  refine Option.ext fun c => ?_
  constructor
  · intro h
    rcases exists_of_escapeIn? h with ⟨_, _, a, b, d, e, behind, hbytes, hchar⟩
    have hsingle := (escapedChar?_eq_some_iff.1 hchar).lt_of_mem
    simp only [List.forall_mem_cons, toNat_ofNat_byte] at hsingle
    rcases hsingle with ⟨-, -, ha, hb, hd, he, -⟩
    have hbytes : stored rest = a :: b :: d :: e :: 0x5f :: behind :=
      List.tail_eq_of_cons_eq (List.tail_eq_of_cons_eq hbytes)
    -- Digits are single bytes, so each of these bytes is a character of the text.
    rcases stored_eq_cons hbytes ha with ⟨rest, rfl, hbytes₁⟩
    rcases stored_eq_cons hbytes₁ hb with ⟨rest, rfl, hbytes₂⟩
    rcases stored_eq_cons hbytes₂ hd with ⟨rest, rfl, hbytes₃⟩
    rcases stored_eq_cons hbytes₃ he with ⟨rest, rfl, hbytes₄⟩
    rcases stored_eq_cons hbytes₄ (by decide) with ⟨rest, rfl, -⟩
    exact hchar
  · intro h
    rcases escapeAt?_eq_some_iff.1 h with ⟨escape, after, hescape, heq⟩
    rw [heq]
    exact escapeIn?_escape hescape after

/-! ### The whole text -/

theorem stored_concat (before : List Char) (c : Char) :
    stored (before ++ [c]) = stored before ++ String.utf8EncodeChar c := by
  rw [stored_append, stored_cons]
  exact congrArg (stored before ++ ·) (List.append_nil _)

/-- A turn passes an escape as a whole. -/
theorem turn?_escape {escape : List Char} {c : Char} (h : IsEscape escape c)
    (before rest : List Char) :
    turn? (stored (before ++ (escape ++ rest))) (stored before).length =
      some (stored (before ++ [c]), stored rest) := by
  have hcut := slice?_back escape rest
  rw [length_stored_escape h] at hcut
  rw [turn?, slice?_front, slice?_back]
  simp only [Option.bind_eq_bind, Option.bind_some, escapeIn?_escape h, hcut]
  rw [stored_concat]
  rfl

/-- It passes the underscore of a marker that is no escape. -/
theorem turn?_underscore {rest : List Char} (h : escapeAt? ('_' :: 'x' :: rest) = none)
    (before : List Char) :
    turn? (stored (before ++ '_' :: 'x' :: rest)) (stored before).length =
      some (stored (before ++ ['_']), stored ('x' :: rest)) := by
  have hcut : slice? (stored ('_' :: 'x' :: rest)) 1 (stored ('_' :: 'x' :: rest)).length =
      some (stored ('x' :: rest)) :=
    slice?_back ['_'] ('x' :: rest)
  rw [turn?, slice?_front, slice?_back]
  simp only [Option.bind_eq_bind, Option.bind_some, escapeIn?_stored, h, hcut]
  rw [stored_concat]
  rfl

theorem unescapeBytes_of_turn? {s written rest : List UInt8} {start : Nat}
    (hmarker : findMarker s = some start) (h : turn? s start = some (written, rest)) :
    unescapeBytes s = (unescapeBytes rest).map (written ++ ·) := by
  rw [unescapeBytes, hmarker]
  dsimp only
  split
  case h_1 hnone =>
    rw [h] at hnone
    cases hnone
  case h_2 hsome =>
    rw [h] at hsome
    cases hsome
    rfl

/-- The bytes of a text are cut between its characters only, and what comes of them are the
    bytes of the text without its escapes. -/
theorem unescapeBytes_stored (cs : List Char) :
    unescapeBytes (stored cs) = some (stored (unescape cs)) := by
  -- A turn leaves the bytes of a shorter text, so the induction is on the length of the text.
  induction hlength : cs.length using Nat.strongRecOn generalizing cs with
  | ind n ih =>
      rcases findMarker_stored cs with ⟨hnone, hself⟩ | ⟨before, rest, rfl, hsome, hread⟩
      -- Without a marker the bytes are the answer.
      · rw [unescapeBytes, hnone, hself]
      · rw [List.length_append] at hlength
        cases hat : escapeAt? ('_' :: 'x' :: rest) with
        | none =>
            -- The `x` is read again, and it begins no escape.
            have hshorter : ('x' :: rest).length < n := by
              rw [List.length_cons] at hlength
              omega
            rw [unescapeBytes_of_turn? hsome (turn?_underscore hat before), ih _ hshorter _ rfl,
              hread, unescape_cons hat, Option.map_some, ← stored_append, List.append_assoc]
            rfl
        | some c =>
            rcases escapeAt?_eq_some_iff.1 hat with ⟨escape, after, hc, heq⟩
            rw [heq] at hsome hread hlength ⊢
            have hshorter : after.length < n := by
              rw [← hlength, List.length_append, hc.length_eq]
              omega
            rw [unescapeBytes_of_turn? hsome (turn?_escape hc before after), ih _ hshorter _ rfl,
              hread, unescape_append hc, Option.map_some, ← stored_append, List.append_assoc]
            rfl

end Spreadsheet

end Questionnaire
