import Mathlib.Data.List.TakeWhile
import Questionnaire.Formula.Compile
import Questionnaire.Proofs.Formula.Acceptance
import Questionnaire.Proofs.Formula.Outside

/-!
# Compiled Formulas Stay Within One Expression

Whatever is written in a formula, what it is compiled to is one expression of the
form engine: it cannot close a quoted text or a parenthesis that it has not
opened, and it cannot begin a comment, a statement or a block. Only a formula
that is marked as already compiled passes as it is.

A rendered expression is put together from pieces, and a watch reads it piece by
piece. What a piece needs of the text before it is little: after a sign there
must be no second one, and that is all. `Passes` says so with the class of
characters that may stand before the piece. A term without its sign may stand
behind anything, an expression behind anything but a sign, and every piece ends
so that anything may follow.

Three kinds of pieces come from the formula as they are: words, numbers and quoted
texts. What is known of them is how they were scanned. A quoted text in
particular is checked by one set of rules and read by another: the scan knows the
escapes with their digits, the watch takes any character behind a backslash. They
agree because no escape has a mark or a backslash behind its second character.

## Main definitions

* `isInert`, `isNoSign`: What may stand before a piece.
* `Passes`: A piece is read from outside of quoted texts back to there.
* `isPlain`: A character that is nothing but itself.
* `Token.IsWhole`: A token that may stand behind anything.

## Theorems

* `passes_paren`, `passes_sign`, `passes_operator`: Pieces put together.
* `CallForm.passes_write`: What a call turns into.
* `passes_word`, `passes_numeral`, `passes_quote`: The pieces from a formula.
* `Scan.isWhole_of_mem`: Every token that is scanned is such a piece.
* `Expr.passes_render`: A rendered expression.
* `isContained_of_compile`: A compiled formula stays within one expression.
-/

namespace Questionnaire

namespace Formula

/-! ### Pieces -/

/-- Whether a character is part of no pair that breaks out. -/
def isInert (c : Char) : Bool :=
  c != '+' && c != '-' && c != '/' && c != '*'

/-- Whether a character is no sign. -/
def isNoSign (c : Char) : Bool :=
  c != '+' && c != '-'

/-- Whether a piece of a text, behind a character of a class, is read from outside of
    quoted texts back to there, opens and closes its own parentheses, and ends such
    that anything may follow. -/
def Passes (before : Char → Bool) (cs : List Char) : Prop :=
  ∀ last depth, before last = true → ∃ last', isInert last' = true ∧
    Watch.run ⟨.outside, last, depth⟩ cs = some ⟨.outside, last', depth⟩

/-- A piece that may stand behind anything. -/
abbrev IsWhole (cs : List Char) : Prop :=
  Passes (fun _ => true) cs

theorem isNoSign_of_isInert {c : Char} (h : isInert c = true) : isNoSign c = true := by
  simp only [isInert, isNoSign, Bool.and_eq_true] at h ⊢
  exact h.1.1

theorem clash_of_isInert_left {a : Char} (h : isInert a = true) (b : Char) :
    clash a b = false := by
  simp only [isInert, Bool.and_eq_true, bne_iff_ne] at h
  simp [clash, h.1.1.1, h.1.1.2, h.1.2]

theorem clash_of_isInert_right (a : Char) {b : Char} (h : isInert b = true) :
    clash a b = false := by
  simp only [isInert, Bool.and_eq_true, bne_iff_ne] at h
  simp [clash, h.1.1.1, h.1.1.2, h.1.2, h.2]

section Pieces

variable {before : Char → Bool} {as bs : List Char}

theorem Passes.mono {weaker : Char → Bool} (h : Passes before as)
    (hweaker : ∀ c, weaker c = true → before c = true) : Passes weaker as :=
  fun last depth hlast => h last depth (hweaker last hlast)

theorem Passes.behindNoSign (h : IsWhole as) : Passes isNoSign as :=
  h.mono fun _ _ => rfl

theorem Passes.behindInert (h : Passes isNoSign as) : Passes isInert as :=
  h.mono fun _ => isNoSign_of_isInert

theorem Passes.nil : Passes isInert [] :=
  fun last _ hlast => ⟨last, hlast, rfl⟩

theorem Passes.append (ha : Passes before as) (hb : Passes isInert bs) :
    Passes before (as ++ bs) := by
  intro last depth hlast
  rcases ha last depth hlast with ⟨middle, hmiddle, hrun⟩
  rcases hb middle depth hmiddle with ⟨last', hlast', hrun'⟩
  refine ⟨last', hlast', ?_⟩
  rw [Watch.run_append, hrun]
  exact hrun'

/-- Parentheses around a piece that may stand behind the first of them. -/
theorem passes_paren (h : Passes isInert as) : IsWhole ('(' :: (as ++ [')'])) := by
  intro last depth _
  have hopen : Watch.step ⟨.outside, last, depth⟩ '(' = some ⟨.outside, '(', depth + 1⟩ := by
    have hclash : clash last '(' = false := clash_of_isInert_right last rfl
    simp [Watch.step, isMark, isBarred, hclash]
  rcases h '(' (depth + 1) rfl with ⟨middle, hmiddle, hrun⟩
  have hclose : Watch.step ⟨.outside, middle, depth + 1⟩ ')' = some ⟨.outside, ')', depth⟩ := by
    have hclash : clash middle ')' = false := clash_of_isInert_left hmiddle ')'
    simp [Watch.step, isMark, isBarred, hclash]
  refine ⟨')', rfl, ?_⟩
  rw [Watch.run_cons, hopen, Option.bind_some, Watch.run_append, hrun, Option.bind_some,
    Watch.run_cons, hclose]
  rfl

/-- A sign before a piece that may stand behind it. -/
theorem passes_sign (sign : Option Sign) (h : IsWhole as) :
    Passes isNoSign ((Sign.text sign).toList ++ as) := by
  cases sign with
  | none => exact h.behindNoSign
  | some s =>
      intro last depth hlast
      simp only [isNoSign, Bool.and_eq_true, bne_iff_ne] at hlast
      cases s with
      | plus =>
          rcases h '+' depth rfl with ⟨last', hlast', hrun⟩
          have hstep : Watch.step ⟨.outside, last, depth⟩ '+' = some ⟨.outside, '+', depth⟩ := by
            simp [Watch.step, isMark, isBarred, clash, hlast.1]
          refine ⟨last', hlast', ?_⟩
          rw [← hrun]
          change Watch.run _ ('+' :: as) = _
          rw [Watch.run_cons, hstep]
          rfl
      | minus =>
          rcases h '-' depth rfl with ⟨last', hlast', hrun⟩
          have hstep : Watch.step ⟨.outside, last, depth⟩ '-' = some ⟨.outside, '-', depth⟩ := by
            simp [Watch.step, isMark, isBarred, clash, hlast.2]
          refine ⟨last', hlast', ?_⟩
          rw [← hrun]
          change Watch.run _ ('-' :: as) = _
          rw [Watch.run_cons, hstep]
          rfl

/-- Behind a piece, an operator leads to where an expression may stand. -/
theorem run_operator (op : Operator) {last : Char} (hlast : isInert last = true) (depth : Nat) :
    ∃ last', isNoSign last' = true ∧
      Watch.run ⟨.outside, last, depth⟩ op.render.toList = some ⟨.outside, last', depth⟩ := by
  have hslash : last ≠ '/' := by
    rintro rfl
    cases hlast
  cases op <;>
    simp [Operator.render, Watch.run, Watch.step, isMark, isBarred, clash, isNoSign, hslash]

theorem passes_operator (op : Operator) (ha : Passes before as) (hb : Passes isNoSign bs) :
    Passes before (as ++ op.render.toList ++ bs) := by
  intro last depth hlast
  rcases ha last depth hlast with ⟨middle, hmiddle, hrun⟩
  rcases run_operator op hmiddle depth with ⟨behind, hbehind, hrun'⟩
  rcases hb behind depth hbehind with ⟨last', hlast', hrun''⟩
  refine ⟨last', hlast', ?_⟩
  rw [Watch.run_append, Watch.run_append, hrun, Option.bind_some, hrun', Option.bind_some, hrun'']

end Pieces

/-! ### Plain characters -/

/-- Whether a character is nothing but itself: it opens and closes nothing and is part
    of no pair that breaks out. -/
def isPlain (c : Char) : Bool :=
  !isMark c && !isBarred c && isInert c && c != '(' && c != ')'

theorem step_plain {c : Char} (h : isPlain c = true) (last : Char) (depth : Nat) :
    Watch.step ⟨.outside, last, depth⟩ c = some ⟨.outside, c, depth⟩ := by
  simp only [isPlain, Bool.and_eq_true, Bool.not_eq_true', bne_iff_ne] at h
  rcases h with ⟨⟨⟨⟨hmark, hbarred⟩, hinert⟩, hopen⟩, hclose⟩
  simp [Watch.step, hmark, hbarred, clash_of_isInert_right last hinert, hopen, hclose]

theorem isInert_of_isPlain {c : Char} (h : isPlain c = true) : isInert c = true := by
  simp only [isPlain, Bool.and_eq_true] at h
  exact h.1.1.2

/-- Plain characters behind an inert one. -/
theorem passes_plain {cs : List Char} (h : ∀ c ∈ cs, isPlain c = true) : Passes isInert cs := by
  induction cs with
  | nil => exact .nil
  | cons c rest ih =>
      intro last depth _
      have hc := h c List.mem_cons_self
      rcases ih (fun d hd => h d (List.mem_cons_of_mem _ hd)) c depth (isInert_of_isPlain hc) with
        ⟨last', hlast', hrun⟩
      refine ⟨last', hlast', ?_⟩
      rw [Watch.run_cons, step_plain hc]
      exact hrun

/-- A piece that begins with a plain character may stand behind anything. -/
theorem isWhole_cons {c : Char} {rest : List Char} (hc : isPlain c = true)
    (h : Passes isInert rest) : IsWhole (c :: rest) := by
  intro last depth _
  rcases h c depth (isInert_of_isPlain hc) with ⟨last', hlast', hrun⟩
  refine ⟨last', hlast', ?_⟩
  rw [Watch.run_cons, step_plain hc]
  exact hrun

theorem isWhole_of_isPlain {cs : List Char} (hne : cs ≠ []) (h : ∀ c ∈ cs, isPlain c = true) :
    IsWhole cs := by
  cases cs with
  | nil => exact absurd rfl hne
  | cons c rest =>
      exact isWhole_cons (h c List.mem_cons_self)
        (passes_plain fun d hd => h d (List.mem_cons_of_mem _ hd))

/-- A fixed text of plain characters, where another may end. -/
theorem passes_fixed {cs : List Char} (h : cs.all isPlain = true) : Passes isInert cs :=
  passes_plain (List.all_eq_true.1 h)

/-- A fixed text of plain characters that is not empty. -/
theorem isWhole_fixed {cs : List Char} (h : (!cs.isEmpty && cs.all isPlain) = true) :
    IsWhole cs := by
  simp only [Bool.and_eq_true, Bool.not_eq_true', List.isEmpty_eq_false_iff] at h
  exact isWhole_of_isPlain h.1 (List.all_eq_true.1 h.2)

/-- The characters that are not plain. -/
def special : List Char :=
  ['\'', '"', ';', '`', '[', ']', '\x7b', '\x7d', '\n', '+', '-', '/', '*', '(', ')']

theorem mem_special_of_not_isPlain {c : Char} (h : isPlain c = false) : c ∈ special := by
  by_contra hc
  simp only [special, List.mem_cons, List.not_mem_nil, or_false, not_or] at hc
  simp [isPlain, isMark, isBarred, isInert, hc] at h

/-- A class of characters without special ones is one of plain characters. -/
theorem isPlain_of_class {p : Char → Bool} (hp : special.any p = false) {c : Char}
    (h : p c = true) : isPlain c = true := by
  by_contra hc
  have hspecial := mem_special_of_not_isPlain (Bool.eq_false_iff.2 hc)
  exact List.any_eq_false.1 hp c hspecial h

theorem isPlain_of_isWordChar {c : Char} (h : Text.isWordChar c = true) : isPlain c = true :=
  isPlain_of_class (by decide +kernel) h

theorem isPlain_of_isDigit {c : Char} (h : c.isDigit = true) : isPlain c = true :=
  isPlain_of_class (by decide) h

/-! ### Words and numbers -/

/-- The words that dashes join to a word. A dash among them has a letter behind it, so
    after a dash they do not begin with another. -/
theorem run_dashedWords (cs : List Char) {last : Char} (depth : Nat)
    (hlast : isInert last = true ∨ last = '-' ∧ beginsWith Text.isAlphabetic cs = true) :
    ∃ last', isInert last' = true ∧
      Watch.run ⟨.outside, last, depth⟩ (dashedWords cs) = some ⟨.outside, last', depth⟩ := by
  induction cs generalizing last with
  | nil =>
      rcases hlast with hlast | ⟨_, hletter⟩
      · exact ⟨last, hlast, rfl⟩
      · cases hletter
  | cons c rest ih =>
      by_cases hword : Text.isWordChar c = true
      · have hplain := isPlain_of_isWordChar hword
        rcases ih (Or.inl (isInert_of_isPlain hplain)) with ⟨last', hlast', hrun⟩
        refine ⟨last', hlast', ?_⟩
        rw [dashedWords, hword, Bool.true_or, if_pos rfl, Watch.run_cons, step_plain hplain]
        exact hrun
      -- No letter, so what stands before is no dash.
      · have hinert : isInert last = true := by
          rcases hlast with hlast | ⟨_, hletter⟩
          · exact hlast
          · refine absurd ?_ hword
            change Text.isAlphabetic c = true at hletter
            rw [Text.isWordChar, hletter, Bool.or_true, Bool.true_or]
        rw [Bool.not_eq_true] at hword
        by_cases hdash : (c == '-' && beginsWith Text.isAlphabetic rest) = true
        · rw [Bool.and_eq_true, beq_iff_eq] at hdash
          rcases hdash with ⟨rfl, hletter⟩
          rcases ih (Or.inr ⟨rfl, hletter⟩) with ⟨last', hlast', hrun⟩
          have hstep : Watch.step ⟨.outside, last, depth⟩ '-' = some ⟨.outside, '-', depth⟩ := by
            have hclash : clash last '-' = false := clash_of_isInert_left hinert '-'
            simp [Watch.step, isMark, isBarred, hclash]
          refine ⟨last', hlast', ?_⟩
          rw [dashedWords, hword, hletter]
          change Watch.run _ ('-' :: dashedWords rest) = _
          rw [Watch.run_cons, hstep]
          exact hrun
        · refine ⟨last, hinert, ?_⟩
          rw [dashedWords, hword, Bool.false_or, if_neg hdash]
          rfl

theorem passes_word {c : Char} {rest : List Char} (hc : Text.isWordStart c = true) :
    IsWhole (word (c :: rest)) := by
  have hshort : IsWhole ((c :: rest).takeWhile Text.isWordChar) := by
    refine isWhole_of_isPlain ?_ fun d hd => isPlain_of_isWordChar (List.mem_takeWhile_imp hd)
    rw [List.takeWhile_cons_of_pos (Text.isWordChar_of_isWordStart hc)]
    exact List.cons_ne_nil _ _
  rw [word]
  split
  · exact hshort.append fun last depth hlast => run_dashedWords _ depth (Or.inl hlast)
  · exact hshort

theorem passes_digits (cs : List Char) : Passes isInert (cs.takeWhile Char.isDigit) :=
  passes_plain fun _ hd => isPlain_of_isDigit (List.mem_takeWhile_imp hd)

theorem passes_fraction (cs : List Char) : Passes isInert (fraction cs) := by
  rw [fraction.eq_def]
  split
  · exact (isWhole_cons (by decide) (passes_digits _)).mono fun _ _ => rfl
  · exact .nil

/-- A sign that may stand at the beginning of a text. -/
theorem exists_sign (cs : List Char) :
    ∃ sign, ((cs.take 1).filter fun s => s == '+' || s == '-') = (Sign.text sign).toList := by
  cases cs with
  | nil => exact ⟨none, rfl⟩
  | cons c rest =>
      by_cases hplus : c = '+'
      · subst hplus
        exact ⟨some .plus, rfl⟩
      by_cases hminus : c = '-'
      · subst hminus
        exact ⟨some .minus, rfl⟩
      refine ⟨none, ?_⟩
      simp [hplus, hminus, Sign.text]

theorem passes_exponent (cs : List Char) : Passes isInert (exponent cs) := by
  cases cs with
  | nil => exact .nil
  | cons c rest =>
      rw [exponent]
      split
      case isTrue h =>
        simp only [Bool.and_eq_true, Bool.or_eq_true, beq_iff_eq, Bool.not_eq_true',
          List.isEmpty_eq_false_iff] at h
        rcases h with ⟨hc, hdigits⟩
        have hplain : isPlain c = true := by rcases hc with rfl | rfl <;> decide
        rcases exists_sign rest with ⟨sign, hsign⟩
        rw [hsign] at hdigits ⊢
        -- The digits are there, so the sign does not end the number.
        have hwhole := isWhole_of_isPlain hdigits fun d hd =>
          isPlain_of_isDigit (List.mem_takeWhile_imp hd)
        exact (isWhole_cons hplain (passes_sign sign hwhole).behindInert).mono fun _ _ => rfl
      case isFalse => exact .nil

theorem passes_numeral {c : Char} {rest : List Char}
    (hc : (c.isDigit || (c == '.' && beginsWith Char.isDigit rest)) = true) :
    IsWhole (numeral (c :: rest)) := by
  rw [numeral]
  refine Passes.append ?_ (passes_exponent _)
  cases hdigit : c.isDigit with
  | true =>
      refine Passes.append (isWhole_of_isPlain ?_ fun d hd =>
        isPlain_of_isDigit (List.mem_takeWhile_imp hd)) (passes_fraction _)
      rw [List.takeWhile_cons_of_pos hdigit]
      exact List.cons_ne_nil _ _
  | false =>
      rw [hdigit, Bool.false_or, Bool.and_eq_true, beq_iff_eq] at hc
      rcases hc with ⟨rfl, _⟩
      exact isWhole_cons (by decide) (passes_digits rest)

/-! ### Quoted texts -/

/-- Digits of an escape are no marks and no backslashes. -/
theorem ne_of_digitsValue {base count seen value v : Nat} {cs : List Char}
    (h : digitsValue base count seen value cs = .ok v) {c : Char} (hc : c ∈ cs.take count) :
    c ≠ '\'' ∧ c ≠ '"' ∧ c ≠ '\\' := by
  induction count generalizing seen value cs with
  | zero => cases hc
  | succ count ih =>
      cases cs with
      | nil => cases hc
      | cons d rest =>
          rw [digitsValue] at h
          split at h
          case h_1 digit hdigit =>
            rcases List.mem_cons.1 hc with rfl | hc
            · refine ⟨?_, ?_, ?_⟩ <;>
              · rintro rfl
                cases hdigit
            · exact ih h hc
          case h_2 => cases h

/-- The escapes: a single character behind the backslash, three octal digits, or a letter with
    hexadecimal digits behind it. -/
theorem escapeLength_eq_ok {mark d : Char} {rest : List Char} {length : Nat}
    (h : escapeLength mark (d :: rest) = .ok length) :
    length = 1 ∨
      (length = 3 ∧ ∃ value, digitsValue 8 3 0 0 (d :: rest) = .ok value) ∨
      ∃ count value, length = count + 1 ∧ digitsValue 16 count 0 0 rest = .ok value := by
  rw [escapeLength] at h
  split at h
  case isTrue =>
    cases h
    exact Or.inl rfl
  case isFalse =>
    split at h
    case isTrue =>
      split at h
      case h_1 => cases h
      case h_2 value hvalue =>
        split at h
        case isTrue =>
          cases h
          exact Or.inr (Or.inl ⟨rfl, value, hvalue⟩)
        case isFalse => cases h
    case isFalse =>
      generalize (if d = 'x' then 2 else if d = 'u' then 4 else if d = 'U' then 8 else 0) =
        count at h
      dsimp only at h
      split at h
      case isTrue => cases h
      case isFalse =>
        split at h
        case h_1 => cases h
        case h_2 value hvalue =>
          split at h
          case isTrue =>
            cases h
            exact Or.inr (Or.inr ⟨count, value, rfl, hvalue⟩)
          case isFalse => cases h

/-- Behind the first of its characters an escape has nothing that a reader of the quoted
    text would take notice of. -/
theorem pos_of_escapeLength {mark : Char} (hmark : isMark mark = true) {cs : List Char}
    {length : Nat} (h : escapeLength mark cs = .ok length) :
    0 < length ∧ ∀ c ∈ (cs.take length).tail, c ≠ mark ∧ c ≠ '\\' := by
  have hne {c : Char} (hc : c ≠ '\'' ∧ c ≠ '"' ∧ c ≠ '\\') : c ≠ mark ∧ c ≠ '\\' := by
    simp only [isMark, Bool.or_eq_true, beq_iff_eq] at hmark
    rcases hmark with rfl | rfl
    · exact ⟨hc.1, hc.2.2⟩
    · exact ⟨hc.2.1, hc.2.2⟩
  cases cs with
  | nil => cases h
  | cons d rest =>
      rcases escapeLength_eq_ok h with rfl | ⟨rfl, value, hvalue⟩ | ⟨count, value, rfl, hvalue⟩
      · refine ⟨Nat.one_pos, ?_⟩
        intro c hc
        cases hc
      · exact ⟨by omega, fun c hc => hne (ne_of_digitsValue hvalue (List.mem_of_mem_tail hc))⟩
      · exact ⟨Nat.succ_pos _, fun c hc => hne (ne_of_digitsValue hvalue hc)⟩

/-- What comes next in a quoted text, outside its escapes: the closing mark, an escape, or a
    character that is neither. -/
theorem quoteLength_cons_eq_ok {mark c : Char} {seen length : Nat} {rest : List Char}
    (h : quoteLength mark 0 seen (c :: rest) = .ok length) :
    (c = mark ∧ length = seen + 1) ∨
      (c ≠ mark ∧ c = '\\' ∧ ∃ escaped, escapeLength mark rest = .ok escaped ∧
        quoteLength mark escaped (seen + 1) rest = .ok length) ∨
      (c ≠ mark ∧ c ≠ '\\' ∧ quoteLength mark 0 (seen + 1) rest = .ok length) := by
  rw [quoteLength] at h
  split at h
  case isTrue => cases h
  case isFalse =>
    split at h
    case isTrue hend =>
      cases h
      exact Or.inl ⟨hend, rfl⟩
    case isFalse hend =>
      split at h
      case isTrue hescape =>
        split at h
        case h_1 => cases h
        case h_2 escaped hescaped => exact Or.inr (Or.inl ⟨hend, hescape, escaped, hescaped, h⟩)
      case isFalse hescape => exact Or.inr (Or.inr ⟨hend, hescape, h⟩)

/-- What a reader still meets of an escape, of which `escaped` characters are to come:
    behind the backslash one character of any kind, then none it takes notice of. -/
def IsEscape (mark : Char) (escaped : Nat) (cs : List Char) : Side → Prop
  | .outside => False
  | .inside m => m = mark ∧ ∀ c ∈ cs.take escaped, c ≠ mark ∧ c ≠ '\\'
  | .escaped m => m = mark ∧ 0 < escaped ∧ ∀ c ∈ (cs.take escaped).tail, c ≠ mark ∧ c ≠ '\\'

/-- The check of a quoted text and a reader of it come to its end together. -/
theorem run_of_quoteLength {mark : Char} (hmark : isMark mark = true) {escaped seen length : Nat}
    {cs : List Char} (h : quoteLength mark escaped seen cs = .ok length) {side : Side}
    (hside : IsEscape mark escaped cs side) (last : Char) (depth : Nat) :
    ∃ more, length = seen + more ∧
      Watch.run ⟨side, last, depth⟩ (cs.take more) = some ⟨.outside, last, depth⟩ := by
  induction cs generalizing escaped seen side with
  | nil => cases escaped <;> cases h
  | cons c rest ih =>
      have continued {escaped' : Nat} (side' : Side)
          (hrest : quoteLength mark escaped' (seen + 1) rest = .ok length)
          (hside' : IsEscape mark escaped' rest side')
          (hstep : Watch.step ⟨side, last, depth⟩ c = some ⟨side', last, depth⟩) :
          ∃ more, length = seen + more ∧
            Watch.run ⟨side, last, depth⟩ ((c :: rest).take more) =
              some ⟨.outside, last, depth⟩ := by
        rcases ih hrest hside' with ⟨more, hmore, hrun⟩
        refine ⟨more + 1, by omega, ?_⟩
        rw [List.take_succ_cons, Watch.run_cons, hstep]
        exact hrun
      cases escaped with
      | succ escaped =>
          rw [quoteLength] at h
          cases side with
          | outside => exact hside.elim
          | inside m =>
              rcases hside with ⟨rfl, hnone⟩
              have hc := hnone c List.mem_cons_self
              refine continued (.inside m) h
                ⟨rfl, fun d hd => hnone d (List.mem_cons_of_mem _ hd)⟩ ?_
              simp [Watch.step, hc]
          | escaped m =>
              rcases hside with ⟨rfl, _, hnone⟩
              exact continued (.inside m) h ⟨rfl, hnone⟩ rfl
      | zero =>
          cases side with
          | outside => exact hside.elim
          | escaped m => exact absurd hside.2.1 (Nat.lt_irrefl 0)
          | inside m =>
              rcases hside with ⟨rfl, _⟩
              rcases quoteLength_cons_eq_ok h with ⟨rfl, rfl⟩ |
                ⟨hend, rfl, escaped, hescaped, h⟩ | ⟨hend, hescape, h⟩
              · refine ⟨1, rfl, ?_⟩
                simp [Watch.run, Watch.step]
              · rcases pos_of_escapeLength hmark hescaped with ⟨hpos, hnone⟩
                refine continued (.escaped m) h ⟨rfl, hpos, hnone⟩ ?_
                simp [Watch.step, hend]
              · refine continued (.inside m) h ⟨rfl, ?_⟩ ?_
                · intro d hd
                  cases hd
                · simp [Watch.step, hend, hescape]

theorem passes_quote {mark : Char} (hmark : isMark mark = true) {rest : List Char} {length : Nat}
    (h : quoteLength mark 0 0 rest = .ok length) : IsWhole (mark :: rest.take length) := by
  intro last depth _
  have hside : IsEscape mark 0 rest (.inside mark) := by
    refine ⟨rfl, ?_⟩
    intro c hc
    cases hc
  rcases run_of_quoteLength hmark h hside mark depth with ⟨more, hmore, hrun⟩
  have hinert : isInert mark = true := by
    simp only [isMark, Bool.or_eq_true, beq_iff_eq] at hmark
    rcases hmark with rfl | rfl <;> rfl
  have hopen : Watch.step ⟨.outside, last, depth⟩ mark = some ⟨.inside mark, mark, depth⟩ := by
    simp [Watch.step, hmark]
  rw [Nat.zero_add] at hmore
  subst hmore
  refine ⟨mark, hinert, ?_⟩
  rw [Watch.run_cons, hopen]
  exact hrun

/-! ### Tokens -/

/-- A token that is carried to the output may stand behind anything there. -/
def Token.IsWhole : Token → Prop
  | .word text | .number text | .quote text => Formula.IsWhole text.toList
  | .symbol _ => True

theorem isWhole_of_tokenAt {c : Char} {rest : List Char} {t : Token} {more : Nat}
    (h : tokenAt c rest = .ok (t, more)) : t.IsWhole := by
  rw [tokenAt] at h
  split at h
  case isTrue hword =>
    cases h
    rw [Token.IsWhole, String.toList_ofList]
    exact passes_word hword
  case isFalse =>
    split at h
    case isTrue hnumber =>
      cases h
      rw [Token.IsWhole, String.toList_ofList]
      exact passes_numeral hnumber
    case isFalse =>
      split at h
      case isTrue hquote =>
        split at h
        case h_1 length hlength =>
          cases h
          rw [Token.IsWhole, String.toList_ofList]
          rw [Bool.or_comm] at hquote
          exact passes_quote hquote hlength
        case h_2 => cases h
      case isFalse =>
        split at h
        case h_1 =>
          cases h
          trivial
        case h_2 =>
          split at h
          case h_1 =>
            cases h
            trivial
          case h_2 => cases h

/-- Every token that is scanned may stand behind anything. -/
theorem Scan.isWhole_of_mem {inside : Nat} {p : Position} {cs : List Char} {x : Lexeme}
    (h : x ∈ (Scan.resume inside p cs).lexemes) : x.token.IsWhole := by
  induction cs generalizing inside p with
  | nil => cases h
  | cons c rest ih =>
      cases inside with
      | succ more => exact ih h
      | zero =>
          rw [Scan.resume] at h
          split at h
          case isTrue => exact ih h
          case isFalse =>
            split at h
            case h_1 => cases h
            case h_2 t more htoken =>
              rcases List.mem_cons.1 h with rfl | h
              · exact isWhole_of_tokenAt htoken
              · exact ih h

/-! ### Calls -/

/-- Whether what a form of call writes by itself is plain. -/
def CallForm.isPlain : CallForm → Bool
  | .call name | .constant name => !name.toList.isEmpty && name.toList.all Formula.isPlain
  | .method name => name.toList.all Formula.isPlain
  | .conditional | .matching | .length | .powerOfTen => true

theorem Function.isPlain_of_mem {f : Function} (h : f ∈ Function.table) :
    f.form.isPlain = true := by
  have hall : ∀ g ∈ Function.table, g.form.isPlain = true := by decide
  exact hall f h

theorem passes_intercalate {args : List String} (h : ∀ arg ∈ args, Passes isInert arg.toList) :
    Passes isInert (", ".intercalate args).toList := by
  induction args with
  | nil => exact .nil
  | cons arg rest ih =>
      cases rest with
      | nil =>
          rw [String.intercalate_singleton]
          exact h arg List.mem_cons_self
      | cons arg' rest =>
          rw [String.intercalate_cons_cons, String.toList_append, String.toList_append]
          have hcomma : Passes isInert ", ".toList := passes_fixed (by decide)
          exact ((h arg List.mem_cons_self).append hcomma).append
            (ih fun a ha => h a (List.mem_cons_of_mem _ ha))

/-- A call of a function that writes plain texts, with arguments that may stand behind
    a parenthesis. -/
theorem CallForm.passes_write {form : CallForm} (hform : form.isPlain = true)
    {args : List String} (h : ∀ arg ∈ args, Passes isInert arg.toList) :
    IsWhole (form.write args).toList := by
  have harg (i : Nat) : Passes isInert (args.getD i "").toList := by
    rw [List.getD_eq_getElem?_getD]
    cases hi : args[i]? with
    | none => exact .nil
    | some arg => exact h arg (List.mem_of_getElem? hi)
  cases form with
  | call name =>
      have hargs := (passes_paren (passes_intercalate h)).behindNoSign.behindInert
      have hwhole := (isWhole_fixed hform).append hargs
      simpa [write, String.toList_append] using hwhole
  | method name =>
      have htail : ∀ arg ∈ args.tail, Passes isInert arg.toList :=
        fun arg hmem => h arg (List.mem_of_mem_tail hmem)
      have hdot : Passes isInert ".".toList := passes_fixed (by decide)
      have hargs := (passes_paren (passes_intercalate htail)).behindNoSign.behindInert
      have hwhole := ((passes_paren (harg 0)).append hdot).append
        ((passes_fixed hform).append hargs)
      simpa [write, String.toList_append] using hwhole
  | conditional =>
      have hthen : Passes isInert " ? ".toList := passes_fixed (by decide)
      have helse : Passes isInert " : ".toList := passes_fixed (by decide)
      have hwhole := passes_paren
        ((((harg 0).append hthen).append (harg 1)).append helse |>.append (harg 2))
      simpa [write, String.toList_append] using hwhole
  | matching =>
      have hmatch : Passes isInert ".match".toList := passes_fixed (by decide)
      have hnull : Passes isInert " !== null".toList := passes_fixed (by decide)
      have hinner := (((passes_paren (harg 0)).append hmatch).append
        (passes_paren (harg 1)).behindNoSign.behindInert).append hnull
      have hwhole := passes_paren hinner.behindNoSign.behindInert
      simpa [write, String.toList_append] using hwhole
  | length =>
      have hlength : Passes isInert ".length".toList := passes_fixed (by decide)
      have hwhole := (passes_paren (harg 0)).append hlength
      simpa [write, String.toList_append] using hwhole
  | powerOfTen =>
      have hpow : IsWhole "Math.pow".toList := isWhole_fixed (by decide)
      have hten : Passes isInert "10, ".toList := passes_fixed (by decide)
      have hwhole := hpow.append (passes_paren (hten.append (harg 0))).behindNoSign.behindInert
      simpa [write, String.toList_append] using hwhole
  | constant text => exact isWhole_fixed hform

/-! ### Expressions -/

theorem Atom.passes_render {subject : String} (hsubject : Text.isName subject = true) {a : Atom}
    (h : ∀ t ∈ a.tokens, t.IsWhole) : IsWhole (a.render subject).toList := by
  cases a with
  | number text => exact h _ List.mem_cons_self
  | quote text => exact h _ List.mem_cons_self
  | field name => exact h (.word name) (by simp [Atom.tokens])
  | self =>
      rw [Text.isName] at hsubject
      rw [Atom.render]
      split at hsubject
      case h_1 => cases hsubject
      case h_2 c cs hcs =>
        rw [Bool.and_eq_true, List.all_eq_true] at hsubject
        rw [hcs]
        refine isWhole_of_isPlain (List.cons_ne_nil _ _) ?_
        intro d hd
        rcases List.mem_cons.1 hd with rfl | hd
        · exact isPlain_of_isWordChar (Text.isWordChar_of_isWordStart hsubject.1)
        · exact isPlain_of_isWordChar (hsubject.2 d hd)
  | truth value =>
      cases value with
      | true =>
          change IsWhole "true".toList
          exact isWhole_fixed (by decide)
      | false =>
          change IsWhole "false".toList
          exact isWhole_fixed (by decide)
  | column name =>
      have hchoice : IsWhole "$choice.".toList := isWhole_fixed (by decide)
      rw [Atom.render, String.toList_append]
      refine hchoice.append ?_
      split
      · exact passes_fixed (by decide)
      · exact (h (.word name) List.mem_cons_self).mono fun _ _ => rfl

theorem mem_commaSeparated {args : List (List Token)} {arg : List Token} (harg : arg ∈ args)
    {t : Token} (ht : t ∈ arg) : t ∈ commaSeparated args := by
  induction args with
  | nil => cases harg
  | cons first rest ih =>
      cases rest with
      | nil =>
          rw [List.mem_singleton] at harg
          subst harg
          exact ht
      | cons second rest =>
          rw [commaSeparated, List.mem_append]
          rcases List.mem_cons.1 harg with rfl | harg
          · exact Or.inl ht
          · exact Or.inr (List.mem_cons_of_mem _ (ih harg))
          all_goals exact List.cons_ne_nil _ _

section Rendering

variable {subject : String} {columns : Bool}

mutual

/-- A rendered expression may stand behind anything but a sign. -/
theorem Expr.passes_render (hsubject : Text.isName subject = true) :
    ∀ {e : Expr}, (∀ t ∈ e.tokens, t.IsWhole) → e.Allowed columns →
      Passes isNoSign (e.render subject).toList
  | .term t, htokens, hallowed => by
      rw [Expr.render]
      exact Term.passes_render hsubject htokens hallowed
  | .chain left op right, htokens, hallowed => by
      rcases hallowed with ⟨hleft, hright, _⟩
      rw [Expr.tokens] at htokens
      rw [Expr.render, String.toList_append, String.toList_append]
      refine passes_operator op (Expr.passes_render hsubject (fun t ht => htokens t ?_) hleft)
        (Term.passes_render hsubject (fun t ht => htokens t ?_) hright)
      · exact List.mem_append_left _ ht
      · exact List.mem_append_right _ (List.mem_cons_of_mem _ ht)

/-- So may a rendered term. -/
theorem Term.passes_render (hsubject : Text.isName subject = true) :
    ∀ {t : Term}, (∀ x ∈ t.tokens, x.IsWhole) → t.Allowed columns →
      Passes isNoSign (t.render subject).toList
  | .atom sign a, htokens, _ => by
      rw [Term.tokens] at htokens
      rw [Term.render, String.toList_append]
      exact passes_sign sign
        (Atom.passes_render hsubject fun t ht => htokens t (List.mem_append_right _ ht))
  | .group sign inner, htokens, hallowed => by
      rw [Term.tokens] at htokens
      have hinner := Expr.passes_render hsubject
        (fun t ht => htokens t (by simp [ht])) (e := inner) hallowed
      have hterm := passes_sign sign (passes_paren hinner.behindInert)
      rw [Term.render]
      simpa [String.toList_append] using hterm
  | .call sign f args, htokens, hallowed => by
      rcases hallowed with ⟨hfind, _, hargs⟩
      rw [Term.tokens] at htokens
      rw [Term.render, String.toList_append]
      refine passes_sign sign (CallForm.passes_write
        (Function.isPlain_of_mem (Function.mem_table_of_find? hfind).1) fun arg harg =>
          (Expr.passes_renderEach hsubject (fun ts hts t ht => htokens t ?_) hargs arg
            harg).behindInert)
      have hmem := mem_commaSeparated hts ht
      simp [hmem]

/-- So may each of several rendered expressions. -/
theorem Expr.passes_renderEach (hsubject : Text.isName subject = true) :
    ∀ {es : List Expr}, (∀ ts ∈ Expr.tokensEach es, ∀ t ∈ ts, t.IsWhole) →
      Expr.AllowedEach columns es →
        ∀ out ∈ Expr.renderEach subject es, Passes isNoSign out.toList
  | [], _, _ => by
      intro out hout
      cases hout
  | e :: es, htokens, hallowed => by
      intro out hout
      rw [Expr.tokensEach] at htokens
      rw [Expr.renderEach] at hout
      rcases List.mem_cons.1 hout with rfl | hout
      · exact Expr.passes_render hsubject (htokens _ List.mem_cons_self) hallowed.1
      · exact Expr.passes_renderEach hsubject
          (fun ts hts => htokens ts (List.mem_cons_of_mem _ hts)) hallowed.2 out hout

end

end Rendering

/-! ### Formulas -/

/-- What a compiler makes of a formula that is not marked as already compiled, for a
    question with a proper name, stays within one expression. -/
theorem isContained_of_compile (c : Compiler) (formula : String) (place : Place)
    (subject out : String) (hraw : ¬rawMarker <+: Text.skipBlanks formula.toList)
    (hsubject : Text.isName subject = true)
    (hout : (c.compile formula place subject).1 = .ok out) : IsContained out.toList := by
  rw [c.fst_compile, compile_of_not_raw (raw?_eq_none_iff.2 hraw)] at hout
  cases hparse : parse formula place with
  | error fault =>
      rw [hparse] at hout
      cases hout
  | ok e =>
      rw [hparse] at hout
      cases hout
      rcases parse_eq_ok_iff.1 hparse with ⟨⟨_, htokens⟩, hallowed, _⟩
      have hwhole : ∀ t ∈ e.tokens, t.IsWhole := by
        rw [← htokens]
        intro t ht
        rcases List.mem_map.1 ht with ⟨x, hx, rfl⟩
        exact Scan.isWhole_of_mem hx
      rcases Expr.passes_render hsubject hwhole hallowed ' ' 0 rfl with ⟨last, _, hrun⟩
      exact isContained_of_run hrun

/-- A quoted text with a comment, a mark and a brace in it, inside a call. -/
theorem isContained_of_compile_quoted_comment :
    ¬rawMarker <+: Text.skipBlanks "- concat('// \\' \x7b', .)".toList ∧
      Text.isName "q" = true ∧
      (Compiler.new.compile "- concat('// \\' \x7b', .)" .constraint "q").1 =
        .ok "-('// \\' \x7b').concat(q)" ∧
      IsContained "-('// \\' \x7b').concat(q)".toList := by
  have hraw : ¬rawMarker <+: Text.skipBlanks "- concat('// \\' \x7b', .)".toList := by decide
  have hname : Text.isName "q" = true := by decide +kernel
  have hout : (Compiler.new.compile "- concat('// \\' \x7b', .)" .constraint "q").1 =
      .ok "-('// \\' \x7b').concat(q)" := by decide +kernel
  exact ⟨hraw, hname, hout, isContained_of_compile _ _ _ _ _ hraw hname hout⟩

end Formula

end Questionnaire
