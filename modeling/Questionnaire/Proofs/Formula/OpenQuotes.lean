import Questionnaire.Formula.Scan
import Questionnaire.Proofs.Formula.Outside

/-!
# Quoted Texts That Do Not End

A quoted text goes wrong in one of its escapes, or it is not terminated. Either way the
position of the fault is inside of it, or where it would have to go on: behind characters
that leave it open. This is said by `leavesOpen`, which knows about marks, backslashes and
line feeds, and nothing of what an escape may look like.

The check of a quoted text counts the characters of an escape and passes them without
another look. So the induction over the text carries what is still to come of an escape
that it stands in: digits, none of which is a mark or a backslash.

## Main definitions

* `leavesOpen`: Whether a quoted text goes on behind some characters.
* `IsEscapeEnd`: The characters of an escape that are still to come.
* `JudgesEscape`: What the length of an escape says of its characters.
* `GoesWrong`: A quoted text and where it goes wrong.

## Theorems

* `judgesEscape_escapeLength`: An escape has a character behind the backslash, and digits
  behind that.
* `goesWrong_of_quoteLength`: The check of a quoted text stops where it goes wrong.
-/

namespace Questionnaire

namespace Formula

/-! ### Escapes -/

/-- Whether a quoted text goes on behind some of its characters: none of them is its mark,
    but for those behind a backslash, and none is a line feed. `escaped` says whether a
    backslash stands before them. -/
def leavesOpen (mark : Char) (escaped : Bool) : List Char → Bool
  | [] => true
  | c :: rest =>
    c != '\n' && (escaped || c != mark) && leavesOpen mark (!escaped && c == '\\') rest

/-- The characters of an escape that are still to come: digits, but for the one behind the
    backslash. -/
def IsEscapeEnd (escaped : Bool) (cs : List Char) : Prop :=
  (escaped = true → cs.head? ≠ some '\n') ∧
    ∀ c ∈ (if escaped then cs.tail else cs), (Number.hexValue? c).isSome = true

theorem hexValue?_of_digitsValue_ok {base count seen value v : Nat} {cs : List Char}
    (h : digitsValue base count seen value cs = .ok v) :
    ∀ c ∈ cs.take count, (Number.hexValue? c).isSome = true := by
  induction count generalizing seen value cs with
  | zero =>
      intro c hc
      cases hc
  | succ count ih =>
      cases cs with
      | nil => cases h
      | cons d rest =>
          rw [digitsValue] at h
          split at h
          case h_1 digit hdigit =>
            rw [List.take_succ_cons, List.forall_mem_cons]
            exact ⟨Option.isSome_of_eq_some (Option.filter_eq_some_iff.1 hdigit).1, ih h⟩
          case h_2 => cases h

theorem hexValue?_of_digitsValue_error {base count seen value good : Nat} {cs : List Char}
    (h : digitsValue base count seen value cs = .error good) :
    ∀ c ∈ cs.take (good - seen), (Number.hexValue? c).isSome = true := by
  induction count generalizing seen value cs with
  | zero => cases h
  | succ count ih =>
      cases cs with
      | nil =>
          intro c hc
          rw [List.take_nil] at hc
          cases hc
      | cons d rest =>
          rw [digitsValue] at h
          split at h
          case h_1 digit hdigit =>
            have hrest := ih h
            cases hmore : good - seen with
            | zero =>
                intro c hc
                cases hc
            | succ more =>
                rw [show good - (seen + 1) = more by omega] at hrest
                rw [List.take_succ_cons, List.forall_mem_cons]
                exact ⟨Option.isSome_of_eq_some (Option.filter_eq_some_iff.1 hdigit).1, hrest⟩
          case h_2 =>
            cases h
            intro c hc
            rw [Nat.sub_self] at hc
            cases hc

/-- Digits of an escape are no marks, no backslashes and no line feeds. -/
theorem ne_of_hexValue? {c : Char} (h : (Number.hexValue? c).isSome = true) :
    c ≠ '\'' ∧ c ≠ '"' ∧ c ≠ '\\' ∧ c ≠ '\n' := by
  refine ⟨?_, ?_, ?_, ?_⟩ <;>
  · rintro rfl
    cases h

theorem isEscapeEnd_nil (escaped : Bool) : IsEscapeEnd escaped [] := by
  refine ⟨fun _ h => (by cases h), ?_⟩
  cases escaped <;>
  · intro c hc
    cases hc

theorem isEscapeEnd_cons {c : Char} {rest : List Char} (hc : c ≠ '\n')
    (hrest : ∀ d ∈ rest, (Number.hexValue? d).isSome = true) : IsEscapeEnd true (c :: rest) :=
  ⟨fun _ h => hc (Option.some.inj h), hrest⟩

theorem isEscapeEnd_of_digits {c : Char} {rest : List Char} {n : Nat}
    (h : ∀ d ∈ (c :: rest).take n, (Number.hexValue? d).isSome = true) :
    IsEscapeEnd true ((c :: rest).take n) := by
  cases n with
  | zero => exact isEscapeEnd_nil true
  | succ n =>
      rw [List.take_succ_cons, List.forall_mem_cons] at h
      exact isEscapeEnd_cons (ne_of_hexValue? h.1).2.2.2 h.2

/-- What the length of an escape says of the characters behind its backslash. -/
def JudgesEscape (cs : List Char) : Except (Nat × Cause) Nat → Prop
  | .ok length => 0 < length ∧ IsEscapeEnd true (cs.take length)
  | .error (good, cause) => IsEscapeEnd true (cs.take good) ∧
      (cause = .unterminatedQuote ∧ good = 0 ∧ cs = [] ∨ cause = .invalidEscape)

/-- An escape whose digits are there may still have no value. -/
theorem judgesEscape_value {cs : List Char} {length : Nat} (hpos : 0 < length)
    (hend : IsEscapeEnd true (cs.take length)) (p : Prop) [Decidable p] :
    JudgesEscape cs (if p then .ok length else .error (length, .invalidEscape)) := by
  split
  · exact ⟨hpos, hend⟩
  · exact ⟨hend, Or.inr rfl⟩

theorem judgesEscape_escapeLength {mark : Char} (hmark : isMark mark = true) (cs : List Char) :
    JudgesEscape cs (escapeLength mark cs) := by
  cases cs with
  | nil => exact ⟨isEscapeEnd_nil true, Or.inl ⟨rfl, rfl, rfl⟩⟩
  | cons c rest =>
      rw [escapeLength]
      by_cases hsingle : (c == mark || "abfnrtv\\".toList.contains c) = true
      · rw [if_pos hsingle]
        refine ⟨Nat.one_pos, isEscapeEnd_cons ?_ (by simp)⟩
        -- A line feed is neither a mark nor a letter.
        rintro rfl
        rw [Bool.or_eq_true, beq_iff_eq] at hsingle
        rcases hsingle with rfl | hfeed
        · cases hmark
        · revert hfeed
          decide
      rw [if_neg hsingle]
      by_cases hoctal : '0' ≤ c ∧ c ≤ '7'
      · rw [if_pos hoctal]
        split
        case h_1 good hvalue =>
          exact ⟨isEscapeEnd_of_digits (hexValue?_of_digitsValue_error hvalue), Or.inr rfl⟩
        case h_2 value hvalue =>
          have hend := isEscapeEnd_of_digits (hexValue?_of_digitsValue_ok hvalue)
          exact judgesEscape_value (by decide) hend _
      rw [if_neg hoctal]
      have hletter : (if c = 'x' then 2 else if c = 'u' then 4 else if c = 'U' then 8 else 0) ≠ 0 →
          c ≠ '\n' := by
        rintro hcount rfl
        exact hcount rfl
      generalize (if c = 'x' then 2 else if c = 'u' then 4 else if c = 'U' then 8 else 0) =
        count at hletter
      dsimp only
      by_cases hnone : count = 0
      · rw [if_pos hnone]
        exact ⟨isEscapeEnd_nil true, Or.inr rfl⟩
      rw [if_neg hnone]
      split
      case h_1 good hvalue =>
        have hend := isEscapeEnd_cons (hletter hnone) (hexValue?_of_digitsValue_error hvalue)
        exact ⟨hend, Or.inr rfl⟩
      case h_2 value hvalue =>
        have hend : IsEscapeEnd true ((c :: rest).take (count + 1)) :=
          isEscapeEnd_cons (hletter hnone) (hexValue?_of_digitsValue_ok hvalue)
        exact judgesEscape_value (Nat.succ_pos count) hend _

/-! ### Where a quoted text goes wrong -/

/-- A digit of an escape leaves a quoted text open. -/
theorem ne_of_isMark {mark c : Char} (hmark : isMark mark = true)
    (hc : (Number.hexValue? c).isSome = true) : c ≠ mark ∧ c ≠ '\\' ∧ c ≠ '\n' := by
  rcases ne_of_hexValue? hc with ⟨hsingle, hdouble, hrest⟩
  simp only [isMark, Bool.or_eq_true, beq_iff_eq] at hmark
  rcases hmark with rfl | rfl
  · exact ⟨hsingle, hrest⟩
  · exact ⟨hdouble, hrest⟩

/-- What is to come of an escape, by its first character. -/
theorem IsEscapeEnd.cons {mark c : Char} {rest : List Char} {escaped : Bool}
    (hmark : isMark mark = true) (h : IsEscapeEnd escaped (c :: rest)) :
    (c != '\n' && (escaped || c != mark)) = true ∧ (!escaped && c == '\\') = false ∧
      IsEscapeEnd false rest := by
  rcases h with ⟨hfirst, hdigits⟩
  cases escaped with
  | true =>
      have hfeed : c ≠ '\n' := fun heq => hfirst rfl (congrArg some heq)
      exact ⟨by simpa using hfeed, rfl, fun h => (by cases h), hdigits⟩
  | false =>
      rcases (List.forall_mem_cons.1 hdigits) with ⟨hc, hrest⟩
      rcases ne_of_isMark hmark hc with ⟨hne, hslash, hfeed⟩
      exact ⟨by simp [hfeed, hne], by simp [hslash], fun h => (by cases h), hrest⟩

theorem leavesOpen_of_isEscapeEnd {mark : Char} (hmark : isMark mark = true) {escaped : Bool}
    {cs : List Char} (h : IsEscapeEnd escaped cs) : leavesOpen mark escaped cs = true := by
  induction cs generalizing escaped with
  | nil => rfl
  | cons c rest ih =>
      rcases h.cons hmark with ⟨hc, hnext, hrest⟩
      rw [leavesOpen, hc, hnext, ih hrest]
      rfl

/-- Behind some of its characters a quoted text goes wrong: they leave it open; and if it is
    not terminated, nothing or a line feed comes next. -/
def GoesWrong (mark : Char) (escaped : Bool) (cs : List Char) (more : Nat) (cause : Cause) : Prop :=
  leavesOpen mark escaped (cs.take more) = true ∧
    (cause = .unterminatedQuote ∧ (∀ c ∈ (cs.drop more).head?, c = '\n') ∨
      cause = .invalidEscape)

section GoesWrong

variable {mark : Char} {escaped : Bool} {cs : List Char} {more : Nat} {cause : Cause}

theorem GoesWrong.cons {c : Char} (hc : (c != '\n' && (escaped || c != mark)) = true)
    (h : GoesWrong mark (!escaped && c == '\\') cs more cause) :
    GoesWrong mark escaped (c :: cs) (more + 1) cause := by
  rcases h with ⟨hopen, hcause⟩
  refine ⟨?_, hcause⟩
  rw [List.take_succ_cons, leavesOpen, hc, hopen]
  rfl

theorem JudgesEscape.goesWrong (hmark : isMark mark = true)
    (h : JudgesEscape cs (.error (more, cause))) : GoesWrong mark true cs more cause := by
  rcases h with ⟨hend, hcause⟩
  refine ⟨leavesOpen_of_isEscapeEnd hmark hend, ?_⟩
  rcases hcause with ⟨rfl, rfl, rfl⟩ | rfl
  · exact Or.inl ⟨rfl, fun c hc => by cases hc⟩
  · exact Or.inr rfl

/-- The check of a quoted text stops where it goes wrong. It may have begun inside an escape,
    of which `remaining` characters were to come. -/
theorem goesWrong_of_quoteLength (hmark : isMark mark = true) {remaining seen good : Nat}
    (h : quoteLength mark remaining seen cs = .error (good, cause))
    (hremaining : escaped = true → 0 < remaining)
    (hend : IsEscapeEnd escaped (cs.take remaining)) :
    ∃ more, good = seen + more ∧ GoesWrong mark escaped cs more cause := by
  induction cs generalizing remaining seen escaped with
  | nil =>
      have hnothing : ∀ c ∈ ([] : List Char).head?, c = '\n' := by
        intro c hc
        cases hc
      cases remaining <;> cases h <;> exact ⟨0, rfl, rfl, Or.inl ⟨rfl, hnothing⟩⟩
  | cons c rest ih =>
      -- A character is passed, and the rest goes wrong.
      have hpass : ∀ {remaining : Nat}, (c != '\n' && (escaped || c != mark)) = true →
          quoteLength mark remaining (seen + 1) rest = .error (good, cause) →
          ((!escaped && c == '\\') = true → 0 < remaining) →
          IsEscapeEnd (!escaped && c == '\\') (rest.take remaining) →
          ∃ more, good = seen + more ∧ GoesWrong mark escaped (c :: rest) more cause := by
        intro remaining hc h hremaining hend
        rcases ih h hremaining hend with ⟨more, rfl, hwrong⟩
        exact ⟨more + 1, by omega, hwrong.cons hc⟩
      cases remaining with
      | succ remaining =>
          rw [List.take_succ_cons] at hend
          rcases hend.cons hmark with ⟨hc, hnext, hrest⟩
          refine hpass hc h ?_ ?_ <;> rw [hnext]
          · exact fun h => by cases h
          · exact hrest
      | zero =>
          obtain rfl : escaped = false :=
            Bool.eq_false_iff.2 fun h => absurd (hremaining h) (by omega)
          rw [quoteLength] at h
          by_cases hfeed : c = '\n'
          · rw [if_pos hfeed] at h
            cases h
            exact ⟨0, rfl, rfl, Or.inl ⟨rfl, fun d hd => (Option.some.inj hd) ▸ hfeed⟩⟩
          rw [if_neg hfeed] at h
          by_cases hclose : c = mark
          · rw [if_pos hclose] at h
            cases h
          rw [if_neg hclose] at h
          have hc : (c != '\n' && (false || c != mark)) = true := by simp [hfeed, hclose]
          by_cases hslash : c = '\\'
          · rw [if_pos hslash] at h
            have hescape := judgesEscape_escapeLength hmark rest
            have hnext : (!false && c == '\\') = true := by simp [hslash]
            -- The text goes wrong in the escape, or the escape is what is to come.
            split at h
            case h_1 more cause' hlength =>
              cases h
              rw [hlength] at hescape
              have hwrong := hescape.goesWrong hmark
              rw [← hnext] at hwrong
              exact ⟨more + 1, by omega, hwrong.cons hc⟩
            case h_2 length hlength =>
              rw [hlength] at hescape
              refine hpass hc h (fun _ => hescape.1) ?_
              rw [hnext]
              exact hescape.2
          · rw [if_neg hslash] at h
            have hnext : (!false && c == '\\') = false := by simp [hslash]
            refine hpass hc h ?_ ?_ <;> rw [hnext]
            · exact fun h => by cases h
            · exact isEscapeEnd_nil false

end GoesWrong

end Formula

end Questionnaire
