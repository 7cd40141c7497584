import Questionnaire.Proofs.Formula.Containment
import Questionnaire.Proofs.Formula.Layout

/-!
# Blanks Behind a Token

To find the end of a token the scan looks at what comes behind it, and in some places
farther than one character: a dash joins words only if a parenthesis follows, perhaps behind
blanks; an exponent needs a digit behind its sign; a point may begin a number, and two
characters may make one symbol. If blanks are put in behind a token, the end of it is found
where it was found before.

The reason is the same everywhere. `Widened` relates a text to one with blanks put in at any
places, and such a text can only begin with a blank or as the other one did. No token goes on
with a blank; so whatever would make it longer was there before, and had been taken. A
function that takes a beginning of a text in this way is said to keep it: `Keeps` passes from
the parts of a number or a word to the whole, since what a first part has left is widened too.

## Main definitions

* `Widened`: A text with blanks put in.
* `Keeps`: A beginning that is not changed by blanks behind it.
* `followed`: One beginning, and another one behind it.

## Theorems

* `Widened.begins_skip`: Behind their blanks, both texts begin alike.
* `Keeps.followed`: Beginnings that are kept one after another.
* `keeps_numeral`, `keeps_word`: Numbers and words are kept.
* `quoteLength_append`: A quoted text ends where it ends, whatever follows.
* `tokenAt_append`: A token is what it was if blanks are put in behind it.
-/

namespace Questionnaire

namespace Formula

open Text (isBlank skipBlanks)

/-! ### Texts with more blanks -/

theorem isBlank_of_isWordChar {c : Char} (h : Text.isWordChar c = true) : isBlank c = false :=
  Text.isBlank_of_class (by decide +kernel) h

/-- Whether the second text is the first one with blanks put in, anywhere. -/
inductive Widened : List Char → List Char → Prop
  | nil : Widened [] []
  | same {cs ds : List Char} (c : Char) (h : Widened cs ds) : Widened (c :: cs) (c :: ds)
  | blank {cs ds : List Char} {c : Char} (hblank : isBlank c = true) (h : Widened cs ds) :
      Widened cs (c :: ds)

namespace Widened

variable {cs ds : List Char}

theorem append (xs : List Char) (h : Widened cs ds) : Widened (xs ++ cs) (xs ++ ds) := by
  induction xs with
  | nil => exact h
  | cons x xs ih => exact .same x ih

/-- A character that is no blank was there before. -/
theorem of_cons {d : Char} (hd : isBlank d = false) (h : Widened cs (d :: ds)) :
    ∃ rest, cs = d :: rest ∧ Widened rest ds := by
  cases h with
  | same _ h => exact ⟨_, rfl, h⟩
  | blank hblank _ =>
      rw [hd] at hblank
      cases hblank

theorem of_append {xs : List Char} (hxs : ∀ x ∈ xs, isBlank x = false)
    (h : Widened cs (xs ++ ds)) : ∃ rest, cs = xs ++ rest ∧ Widened rest ds := by
  induction xs generalizing cs with
  | nil => exact ⟨cs, rfl, h⟩
  | cons x xs ih =>
      rw [List.forall_mem_cons] at hxs
      rcases of_cons hxs.1 h with ⟨more, rfl, hmore⟩
      rcases ih hxs.2 hmore with ⟨rest, rfl, hrest⟩
      exact ⟨rest, rfl, hrest⟩

/-- What a text begins with, if it is no blank. -/
theorem begins {p : Char → Bool} (hp : ∀ c, p c = true → isBlank c = false)
    (h : Widened cs ds) (hds : beginsWith p ds = true) : beginsWith p cs = true := by
  cases ds with
  | nil => cases hds
  | cons d ds =>
      rcases of_cons (hp d hds) h with ⟨rest, rfl, _⟩
      exact hds

theorem skip (h : Widened cs ds) : Widened (skipBlanks cs) (skipBlanks ds) := by
  induction h with
  | nil => exact .nil
  | @same cs ds c h ih =>
      cases hblank : isBlank c with
      | true =>
          rw [Text.skipBlanks_cons hblank, Text.skipBlanks_cons hblank]
          exact ih
      | false =>
          rw [Text.skipBlanks_eq_self hblank, Text.skipBlanks_eq_self hblank]
          exact .same c h
  | @blank cs ds c hblank _ ih =>
      rw [Text.skipBlanks_cons hblank]
      exact ih

/-- Behind their blanks the texts begin alike. -/
theorem begins_skip (p : Char → Bool) (h : Widened cs ds) :
    beginsWith p (skipBlanks ds) = beginsWith p (skipBlanks cs) := by
  have hskip := h.skip
  cases hds : skipBlanks ds with
  | nil =>
      rw [hds] at hskip
      generalize skipBlanks cs = skipped at hskip
      cases hskip
      rfl
  | cons d rest =>
      rw [hds] at hskip
      rcases of_cons (Text.isBlank_of_skipBlanks hds) hskip with ⟨rest', hcs, _⟩
      rw [hcs]
      rfl

end Widened

/-! ### What a text begins with -/

/-- Whether blanks that are put in behind what is taken from the beginning of a text do not
    change what is taken. -/
def Keeps (f : List Char → List Char) : Prop :=
  ∀ ⦃xs cs ds : List Char⦄, Widened cs ds → f (xs ++ cs) = xs → f (xs ++ ds) = xs

/-- Blanks in front of a text from which nothing is taken change nothing either. -/
theorem Keeps.nil {f : List Char → List Char} (hf : Keeps f) {cs ds : List Char}
    (hwide : Widened cs ds) (h : f cs = []) : f ds = [] :=
  @hf [] cs ds hwide h

theorem keeps_takeWhile {p : Char → Bool} (hp : ∀ c, p c = true → isBlank c = false) :
    Keeps (List.takeWhile p) := by
  intro xs cs ds hwide h
  induction xs with
  | nil =>
      cases ds with
      | nil => rfl
      | cons d ds =>
          -- A character that is taken would be no blank, and so it was there before.
          cases hd : p d with
          | false => exact List.takeWhile_cons_of_neg (Bool.eq_false_iff.1 hd)
          | true =>
              rcases hwide.of_cons (hp d hd) with ⟨rest, rfl, _⟩
              rw [List.nil_append, List.takeWhile_cons_of_pos hd] at h
              cases h
  | cons x xs ih =>
      cases hx : p x with
      | false =>
          rw [List.cons_append, List.takeWhile_cons_of_neg (Bool.eq_false_iff.1 hx)] at h
          cases h
      | true =>
          rw [List.cons_append, List.takeWhile_cons_of_pos hx, List.cons.injEq] at h
          rw [List.cons_append, List.takeWhile_cons_of_pos hx, ih h.2]

/-- One beginning, and another one of what follows it. -/
def followed (f g : List Char → List Char) (cs : List Char) : List Char :=
  f cs ++ g (cs.drop (f cs).length)

theorem Keeps.followed {f g : List Char → List Char} (hf : Keeps f) (hg : Keeps g) :
    Keeps (followed f g) := by
  intro xs cs ds hwide h
  -- What is taken has two parts, and the text behind the first part is widened as well.
  obtain ⟨first, hfirst⟩ : ∃ first, f (xs ++ cs) = first := ⟨_, rfl⟩
  obtain ⟨second, hsecond⟩ : ∃ second, g ((xs ++ cs).drop first.length) = second := ⟨_, rfl⟩
  rw [Formula.followed, hfirst, hsecond] at h
  subst h
  rw [List.append_assoc] at hfirst hsecond
  rw [List.drop_left] at hsecond
  rw [Formula.followed, List.append_assoc, hf (hwide.append second) hfirst, List.drop_left,
    hg hwide hsecond]

/-! ### Numbers -/

theorem keeps_digits : Keeps (List.takeWhile Char.isDigit) :=
  keeps_takeWhile fun _ => Text.isBlank_of_isDigit

theorem fraction_cons (c : Char) (rest : List Char) :
    fraction (c :: rest) = if c = '.' then '.' :: rest.takeWhile Char.isDigit else [] := by
  split
  case isTrue hpoint =>
    rw [hpoint]
    rfl
  case isFalse hpoint =>
    unfold fraction
    split
    case h_1 heq =>
      cases heq
      exact absurd rfl hpoint
    case h_2 => rfl

theorem keeps_fraction : Keeps fraction := by
  intro xs cs ds hwide h
  cases xs with
  | nil =>
      cases ds with
      | nil => rfl
      | cons d ds =>
          rw [List.nil_append, fraction_cons]
          refine if_neg ?_
          -- A point would have been there before.
          rintro rfl
          rcases hwide.of_cons (by decide) with ⟨rest, rfl, _⟩
          cases h
  | cons x xs =>
      rw [List.cons_append, fraction_cons] at h ⊢
      split at h
      case isTrue hpoint =>
        rw [List.cons.injEq] at h
        rw [if_pos hpoint, keeps_digits hwide h.2, h.1]
      case isFalse => cases h

/-- The sign that a text begins with. -/
def leadingSign (cs : List Char) : List Char :=
  (cs.take 1).filter fun s => s == '+' || s == '-'

theorem leadingSign_cons (c : Char) (rest : List Char) :
    leadingSign (c :: rest) = if c == '+' || c == '-' then [c] else [] := by
  rw [leadingSign, List.take_succ_cons, List.take_zero, List.filter_cons, List.filter_nil]

theorem isBlank_of_isSign {c : Char} (h : (c == '+' || c == '-') = true) : isBlank c = false := by
  rw [Bool.or_eq_true, beq_iff_eq, beq_iff_eq] at h
  rcases h with rfl | rfl <;> decide

theorem keeps_leadingSign : Keeps leadingSign := by
  intro xs cs ds hwide h
  cases xs with
  | nil =>
      cases ds with
      | nil => rfl
      | cons d ds =>
          -- A sign would have been there before.
          rw [List.nil_append, leadingSign_cons]
          refine if_neg fun hd => ?_
          rcases hwide.of_cons (isBlank_of_isSign hd) with ⟨rest, rfl, _⟩
          rw [List.nil_append, leadingSign_cons, if_pos hd] at h
          cases h
  | cons x xs =>
      rw [List.cons_append, leadingSign_cons] at h ⊢
      exact h

/-- The digits of an exponent, behind its sign. -/
def signedDigits (cs : List Char) : List Char :=
  (cs.drop (leadingSign cs).length).takeWhile Char.isDigit

theorem exponent_cons (c : Char) (rest : List Char) :
    exponent (c :: rest) =
      if (c == 'e' || c == 'E') && !(signedDigits rest).isEmpty then
        c :: followed leadingSign (List.takeWhile Char.isDigit) rest
      else [] :=
  rfl

/-- Blanks give an exponent no digits. -/
theorem signedDigits_eq_nil {cs ds : List Char} (hwide : Widened cs ds)
    (h : signedDigits cs = []) : signedDigits ds = [] := by
  cases ds with
  | nil => rfl
  | cons d ds =>
      cases hblank : isBlank d with
      | true =>
          have hsign : leadingSign (d :: ds) = [] := by
            rw [leadingSign_cons]
            exact if_neg fun hd => by simp [isBlank_of_isSign hd] at hblank
          rw [signedDigits, hsign]
          exact List.takeWhile_cons_of_neg fun hd => by
            simp [Text.isBlank_of_isDigit hd] at hblank
      | false =>
          rcases hwide.of_cons hblank with ⟨rest, rfl, hrest⟩
          rw [signedDigits, leadingSign_cons] at h ⊢
          split at h
          case isTrue hd =>
            rw [if_pos hd]
            exact keeps_digits.nil hrest h
          case isFalse hd =>
            rw [if_neg hd]
            exact keeps_digits.nil hwide h

theorem exponent_eq_nil {cs ds : List Char} (hwide : Widened cs ds) (h : exponent cs = []) :
    exponent ds = [] := by
  cases ds with
  | nil => rfl
  | cons d ds =>
      rw [exponent_cons]
      refine if_neg fun hd => ?_
      rw [Bool.and_eq_true, Bool.not_eq_true', List.isEmpty_eq_false_iff] at hd
      have hblank : isBlank d = false := by
        rw [Bool.or_eq_true, beq_iff_eq, beq_iff_eq] at hd
        rcases hd.1 with rfl | rfl <;> decide
      rcases hwide.of_cons hblank with ⟨rest, rfl, hrest⟩
      rw [exponent_cons] at h
      split at h
      case isTrue => cases h
      case isFalse hnot =>
        -- The letter was there before, so what was missing is a digit.
        refine hnot ?_
        rw [Bool.and_eq_true, Bool.not_eq_true', List.isEmpty_eq_false_iff]
        exact ⟨hd.1, fun hnone => hd.2 (signedDigits_eq_nil hrest hnone)⟩

/-- If the same sign and digits are taken in front of two texts, so are the same digits. -/
theorem signedDigits_append {xs cs ds : List Char}
    (hcs : followed leadingSign (List.takeWhile Char.isDigit) (xs ++ cs) = xs)
    (hds : followed leadingSign (List.takeWhile Char.isDigit) (xs ++ ds) = xs) :
    signedDigits (xs ++ ds) = signedDigits (xs ++ cs) := by
  cases xs with
  | nil => exact (List.append_eq_nil_iff.1 hds).2.trans (List.append_eq_nil_iff.1 hcs).2.symm
  | cons x xs =>
      have hsame : leadingSign (x :: (xs ++ ds)) = leadingSign (x :: (xs ++ cs)) := by
        rw [leadingSign_cons, leadingSign_cons]
      have hboth := hds.trans hcs.symm
      rw [followed, followed, List.cons_append, List.cons_append, hsame] at hboth
      rw [signedDigits, signedDigits, List.cons_append, List.cons_append, hsame]
      exact List.append_cancel_left hboth

theorem keeps_exponent : Keeps exponent := by
  intro xs cs ds hwide h
  cases xs with
  | nil => exact exponent_eq_nil hwide h
  | cons x xs =>
      rw [List.cons_append, exponent_cons] at h ⊢
      split at h
      case isFalse => cases h
      case isTrue hx =>
        rw [List.cons.injEq] at h
        have hkept := keeps_leadingSign.followed keeps_digits hwide h.2
        rw [signedDigits_append h.2 hkept, if_pos hx, hkept, h.1]

theorem numeral_eq (cs : List Char) :
    numeral cs = followed (followed (List.takeWhile Char.isDigit) fraction) exponent cs := by
  rw [numeral, followed, followed, List.length_append, ← List.drop_drop]

theorem keeps_numeral : Keeps numeral := by
  intro xs cs ds hwide h
  rw [numeral_eq] at h ⊢
  exact (keeps_digits.followed keeps_fraction).followed keeps_exponent hwide h

/-! ### Words -/

/-- Dashes with words are cut off by what follows them, and by nothing else. -/
theorem dashedWords_append {xs cs : List Char} (h : dashedWords (xs ++ cs) = xs) (ds : List Char) :
    dashedWords (xs ++ ds) = xs ++ dashedWords ds := by
  induction xs with
  | nil => rfl
  | cons x xs ih =>
      rw [List.cons_append, dashedWords] at h
      split at h
      case isFalse => cases h
      case isTrue hx =>
        rw [List.cons.injEq] at h
        have hx' : (Text.isWordChar x || (x == '-' && beginsWith Text.isAlphabetic (xs ++ ds))) =
            true := by
          cases xs with
          | cons y ys => exact hx
          | nil =>
              rw [Bool.or_eq_true] at hx ⊢
              refine Or.inl (hx.resolve_right fun hdash => ?_)
              -- The last of them is no dash: a letter behind it would belong to them too.
              rw [Bool.and_eq_true] at hdash
              cases cs with
              | nil => cases hdash.2
              | cons c rest =>
                  have hc : Text.isWordChar c = true := by
                    have halpha : Text.isAlphabetic c = true := hdash.2
                    rw [Text.isWordChar, halpha, Bool.or_true, Bool.true_or]
                  rw [List.nil_append, dashedWords, hc, Bool.true_or, if_pos rfl] at h
                  cases h.2
        rw [List.cons_append, dashedWords, if_pos hx', ih h.2]
        rfl

theorem isBlank_of_dashed {c : Char} {b : Bool}
    (h : (Text.isWordChar c || (c == '-' && b)) = true) : isBlank c = false := by
  rw [Bool.or_eq_true, Bool.and_eq_true, beq_iff_eq] at h
  rcases h with hc | ⟨rfl, _⟩
  · exact isBlank_of_isWordChar hc
  · decide

theorem isBlank_of_mem_dashedWords {cs : List Char} {c : Char} (h : c ∈ dashedWords cs) :
    isBlank c = false := by
  induction cs with
  | nil => cases h
  | cons d rest ih =>
      rw [dashedWords] at h
      split at h
      case isTrue hd =>
        rcases List.mem_cons.1 h with rfl | h
        · exact isBlank_of_dashed hd
        · exact ih h
      case isFalse => cases h

/-- In front of a parenthesis there is nothing more of a word. -/
theorem dashedWords_of_paren {cs : List Char}
    (h : beginsWith (· == '(') (skipBlanks cs) = true) : dashedWords cs = [] := by
  cases cs with
  | nil => rfl
  | cons c rest =>
      rw [dashedWords]
      refine if_neg fun hc => ?_
      rw [Text.skipBlanks_eq_self (isBlank_of_dashed hc), beginsWith, beq_iff_eq] at h
      subst h
      rw [Bool.or_eq_true, Bool.and_eq_true] at hc
      rcases hc with hword | ⟨hdash, _⟩
      · exact absurd hword (by decide)
      · exact absurd hdash (by decide)

/-- The dashes with words that belong to a word. -/
def dashedName (cs : List Char) : List Char :=
  if beginsWith (· == '(') (skipBlanks (cs.drop (dashedWords cs).length)) then dashedWords cs
  else []

theorem word_eq (cs : List Char) :
    word cs = followed (List.takeWhile Text.isWordChar) dashedName cs := by
  rw [word, followed, dashedName]
  split
  · rfl
  · exact (List.append_nil _).symm

/-- They are cut off by any text that goes on with a parenthesis. -/
theorem dashedName_append {xs cs ds : List Char} (h : dashedWords (xs ++ cs) = xs)
    (hds : beginsWith (· == '(') (skipBlanks ds) = true) : dashedName (xs ++ ds) = xs := by
  rw [dashedName, dashedWords_append h, dashedWords_of_paren hds, List.append_nil, List.drop_left,
    if_pos hds]

theorem keeps_dashedName : Keeps dashedName := by
  intro xs cs ds hwide h
  cases xs with
  | nil =>
      rw [List.nil_append] at h ⊢
      rw [dashedName]
      split
      case isFalse => rfl
      case isTrue hparen =>
        rcases prefix_dashedWords ds with ⟨after, hafter⟩
        generalize hxs : dashedWords ds = xs at hafter hparen
        -- They have no blanks, so they were there before, and so was the parenthesis.
        have hsolid : ∀ x ∈ xs, isBlank x = false := by
          intro x hx
          rw [← hxs] at hx
          exact isBlank_of_mem_dashedWords hx
        subst hafter
        rcases hwide.of_append hsolid with ⟨before, rfl, hbefore⟩
        rw [List.drop_left, hbefore.begins_skip] at hparen
        rw [← h, dashedName_append hxs hparen]
  | cons x xs =>
      rw [dashedName] at h
      split at h
      case isFalse => cases h
      case isTrue hparen =>
        -- The parenthesis may be farther away now, but it still comes next.
        rw [h, List.drop_left, ← hwide.begins_skip] at hparen
        exact dashedName_append h hparen

theorem keeps_word : Keeps word := by
  intro xs cs ds hwide h
  rw [word_eq] at h ⊢
  exact (keeps_takeWhile fun _ => isBlank_of_isWordChar).followed keeps_dashedName hwide h

/-! ### Quoted texts -/

theorem digitsValue_append {base count seen value : Nat} {xs : List Char}
    (h : count ≤ xs.length) (cs ds : List Char) :
    digitsValue base count seen value (xs ++ ds) =
      digitsValue base count seen value (xs ++ cs) := by
  induction count generalizing seen value xs with
  | zero => rfl
  | succ count ih =>
      cases xs with
      | nil => cases h
      | cons x xs =>
          rw [List.cons_append, List.cons_append, digitsValue, digitsValue]
          cases Number.digitValue? base x with
          | none => rfl
          | some digit => exact ih (Nat.le_of_succ_le_succ h)

/-- An escape is read without a look at what follows it. -/
theorem escapeLength_append {mark : Char} {xs cs : List Char} {length : Nat}
    (h : escapeLength mark (xs ++ cs) = .ok length) (hle : length ≤ xs.length) (ds : List Char) :
    escapeLength mark (xs ++ ds) = .ok length := by
  cases xs with
  | nil =>
      cases cs with
      | nil => cases h
      | cons c rest =>
          rw [List.length_nil] at hle
          rcases escapeLength_eq_ok h with h | ⟨h, _⟩ | ⟨_, _, h, _⟩ <;> omega
  | cons x xs =>
      rw [List.cons_append, escapeLength] at h ⊢
      by_cases hsingle : (x == mark || "abfnrtv\\".toList.contains x) = true
      · rw [if_pos hsingle] at h ⊢
        exact h
      rw [if_neg hsingle] at h ⊢
      by_cases hoctal : '0' ≤ x ∧ x ≤ '7'
      -- In both kinds of escapes with digits, these are within the length of the escape.
      · rw [if_pos hoctal] at h ⊢
        cases hvalue : digitsValue 8 3 0 0 (x :: (xs ++ cs)) with
        | error good =>
            rw [hvalue] at h
            cases h
        | ok value =>
            rw [hvalue] at h
            dsimp only at h
            split at h
            case isFalse => cases h
            case isTrue hfits =>
              cases h
              have hsame : digitsValue 8 3 0 0 (x :: (xs ++ ds)) = .ok value :=
                (digitsValue_append hle cs ds).trans hvalue
              rw [hsame]
              exact if_pos hfits
      rw [if_neg hoctal] at h ⊢
      generalize (if x = 'x' then 2 else if x = 'u' then 4 else if x = 'U' then 8 else 0) =
        count at h ⊢
      dsimp only at h ⊢
      by_cases hnone : count = 0
      · rw [if_pos hnone] at h
        cases h
      rw [if_neg hnone] at h ⊢
      cases hvalue : digitsValue 16 count 0 0 (xs ++ cs) with
      | error good =>
          rw [hvalue] at h
          cases h
      | ok value =>
          rw [hvalue] at h
          dsimp only at h
          split at h
          case isFalse => cases h
          case isTrue hvalid =>
            cases h
            rw [digitsValue_append (Nat.le_of_succ_le_succ hle) cs ds, hvalue]
            exact if_pos hvalid

/-- The end of a quoted text lies behind all that was passed of it. -/
theorem lt_of_quoteLength {mark : Char} {escaped seen length : Nat} {cs : List Char}
    (h : quoteLength mark escaped seen cs = .ok length) : seen + escaped < length := by
  induction cs generalizing escaped seen with
  | nil => cases escaped <;> cases h
  | cons c rest ih =>
      cases escaped with
      | succ escaped =>
          have hlt := ih h
          omega
      | zero =>
          rcases quoteLength_cons_eq_ok h with ⟨_, rfl⟩ | ⟨_, _, _, _, h⟩ | ⟨_, _, h⟩
          · omega
          · have hlt := ih h
            omega
          · have hlt := ih h
            omega

/-- A quoted text is read without a look at what follows it. -/
theorem quoteLength_append {mark : Char} {escaped seen : Nat} {xs cs : List Char}
    (h : quoteLength mark escaped seen (xs ++ cs) = .ok (seen + xs.length)) (ds : List Char) :
    quoteLength mark escaped seen (xs ++ ds) = .ok (seen + xs.length) := by
  induction xs generalizing escaped seen with
  | nil =>
      have hlt := lt_of_quoteLength h
      rw [List.length_nil] at hlt
      omega
  | cons x xs ih =>
      have hlength : seen + (x :: xs).length = seen + 1 + xs.length := by
        rw [List.length_cons]
        omega
      rw [hlength] at h ⊢
      rw [List.cons_append] at h ⊢
      cases escaped with
      | succ escaped => exact ih h
      | zero =>
          rw [quoteLength] at h ⊢
          by_cases hfeed : x = '\n'
          · rw [if_pos hfeed] at h
            cases h
          rw [if_neg hfeed] at h ⊢
          by_cases hclose : x = mark
          · rw [if_pos hclose] at h ⊢
            exact h
          rw [if_neg hclose] at h ⊢
          by_cases hslash : x = '\\'
          · rw [if_pos hslash] at h ⊢
            cases hescape : escapeLength mark (xs ++ cs) with
            | error stop =>
                rw [hescape] at h
                cases h
            | ok length =>
                rw [hescape] at h
                -- The escape ends before the quoted text does.
                have hlt := lt_of_quoteLength h
                rw [escapeLength_append hescape (by omega) ds]
                exact ih h
          · rw [if_neg hslash] at h ⊢
            exact ih h

/-! ### Tokens -/

theorem Symbol.ofPair_eq_none {c d : Char} (hd : isBlank d = true) : Symbol.ofPair c d = none := by
  unfold Symbol.ofPair
  split
  case h_6 => rfl
  all_goals exact absurd hd (by decide)

/-- What makes a pair with a character is no blank, and so it was there before. -/
theorem pair_append {c : Char} {cs ds : List Char} (hwide : Widened cs ds) (xs : List Char)
    (h : xs = [] → cs.head?.bind (Symbol.ofPair c) = none) :
    (xs ++ ds).head?.bind (Symbol.ofPair c) = (xs ++ cs).head?.bind (Symbol.ofPair c) := by
  cases xs with
  | cons x xs => rfl
  | nil =>
      rw [List.nil_append, List.nil_append, h rfl]
      cases ds with
      | nil => rfl
      | cons d ds =>
          cases hblank : isBlank d with
          | true => exact Symbol.ofPair_eq_none hblank
          | false =>
              rcases hwide.of_cons hblank with ⟨rest, rfl, _⟩
              exact h rfl

/-- A point begins a number only together with the digit behind it. -/
theorem ne_nil_of_numeral_point {xs cs : List Char} (h : numeral ('.' :: (xs ++ cs)) = '.' :: xs)
    (hdigit : beginsWith Char.isDigit (xs ++ cs) = true) : xs ≠ [] := by
  rintro rfl
  cases cs with
  | nil => cases hdigit
  | cons d rest =>
      have hd : d.isDigit = true := hdigit
      have hlength := congrArg List.length h
      rw [List.nil_append, numeral, List.takeWhile_cons_of_neg (by decide)] at hlength
      simp [fraction, hd] at hlength

theorem beginsNumber_append {c : Char} {xs cs ds : List Char} (hwide : Widened cs ds)
    (h : (c.isDigit || (c == '.' && beginsWith Char.isDigit (xs ++ cs))) = true →
      numeral (c :: (xs ++ cs)) = c :: xs) :
    (c.isDigit || (c == '.' && beginsWith Char.isDigit (xs ++ ds))) =
      (c.isDigit || (c == '.' && beginsWith Char.isDigit (xs ++ cs))) := by
  by_cases hpoint : c = '.'
  · subst hpoint
    cases hdigit : beginsWith Char.isDigit (xs ++ cs) with
    | true =>
        rw [hdigit] at h
        cases xs with
        | nil => exact absurd rfl (ne_nil_of_numeral_point (h rfl) hdigit)
        | cons x xs =>
            have hsame : beginsWith Char.isDigit (x :: xs ++ ds) = true := hdigit
            rw [hsame]
    | false =>
        have hnone : beginsWith Char.isDigit (xs ++ ds) = false := by
          refine Bool.eq_false_iff.2 fun hd => ?_
          rw [(hwide.append xs).begins (fun _ => Text.isBlank_of_isDigit) hd] at hdigit
          cases hdigit
        rw [hnone]
  · rw [beq_eq_false_iff_ne.2 hpoint]
    rfl

/-- A token that is what a text begins with. -/
theorem Keeps.token_append {f : List Char → List Char} (hf : Keeps f) (make : String → Token)
    (hmake : ∀ text, (make text).written = text.toList) {xs cs ds : List Char}
    (hwide : Widened cs ds) {t : Token} {more : Nat} (ht : t.written = xs)
    (h : (make (String.ofList (f (xs ++ cs))), (f (xs ++ cs)).length - 1) = (t, more)) :
    (make (String.ofList (f (xs ++ ds))), (f (xs ++ ds)).length - 1) = (t, more) := by
  rw [Prod.mk.injEq] at h ⊢
  rcases h with ⟨rfl, rfl⟩
  rw [hmake, String.toList_ofList] at ht
  rw [hf hwide ht, ht]
  exact ⟨rfl, rfl⟩

/-- Blanks behind a token leave it as it is. -/
theorem tokenAt_append {c : Char} {xs cs ds : List Char} {t : Token} (hwide : Widened cs ds)
    (ht : t.written = c :: xs) (h : tokenAt c (xs ++ cs) = .ok (t, xs.length)) :
    tokenAt c (xs ++ ds) = .ok (t, xs.length) := by
  rw [tokenAt] at h ⊢
  by_cases hword : Text.isWordStart c = true
  · rw [if_pos hword] at h ⊢
    have hkept := keeps_word.token_append .word (fun _ => rfl) hwide ht (Except.ok.inj h)
    exact congrArg Except.ok hkept
  rw [if_neg hword] at h ⊢
  -- Blanks neither begin a number nor keep one from beginning.
  have hbegins : (c.isDigit || (c == '.' && beginsWith Char.isDigit (xs ++ ds))) =
      (c.isDigit || (c == '.' && beginsWith Char.isDigit (xs ++ cs))) := by
    refine beginsNumber_append hwide fun hnumber => ?_
    rw [if_pos hnumber, Except.ok.injEq, Prod.mk.injEq] at h
    rcases h with ⟨rfl, _⟩
    rwa [Token.written, String.toList_ofList] at ht
  rw [hbegins]
  by_cases hnumber : (c.isDigit || (c == '.' && beginsWith Char.isDigit (xs ++ cs))) = true
  · rw [if_pos hnumber] at h ⊢
    have hkept := keeps_numeral.token_append .number (fun _ => rfl) hwide ht (Except.ok.inj h)
    exact congrArg Except.ok hkept
  rw [if_neg hnumber] at h ⊢
  by_cases hquote : (c == '"' || c == '\'') = true
  · rw [if_pos hquote] at h ⊢
    cases hlength : quoteLength c 0 0 (xs ++ cs) with
    | error stop =>
        rw [hlength] at h
        cases h
    | ok length =>
        rw [hlength] at h
        dsimp only at h
        rw [Except.ok.injEq, Prod.mk.injEq] at h
        rcases h with ⟨rfl, rfl⟩
        have hread : quoteLength c 0 0 (xs ++ cs) = .ok (0 + xs.length) := by
          rw [hlength, Nat.zero_add]
        rw [quoteLength_append hread ds, Nat.zero_add]
        dsimp only
        rw [List.take_left, List.take_left]
  rw [if_neg hquote] at h ⊢
  -- If the symbol is a single character, what follows did not make a pair with it.
  rw [pair_append hwide]
  · exact h
  · rintro rfl
    cases hpair : cs.head?.bind (Symbol.ofPair c) with
    | none => rfl
    | some s =>
        rw [List.nil_append, hpair] at h
        cases h

end Formula

end Questionnaire
