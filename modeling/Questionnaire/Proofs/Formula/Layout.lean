import Questionnaire.Proofs.Formula.OpenQuotes

/-!
# Where Tokens Lie

A scan cuts a formula into tokens and blanks, and says of each token where it begins.
`Laid` is that relation, from the beginning of the formula on: tokens and blanks follow
one another, and the position of a token is the one behind all that comes before it. A
position is told from the text alone: `Position.behind` counts the line feeds before it
and the characters behind the last of them.

A scan that goes wrong has laid all tokens before the one that it cannot make out. What
is wrong there is a character that begins no token, or something inside a quoted text.

## Main definitions

* `Position.behind`: The position behind the beginning of a text.
* `Token.written`: How a token is written.
* `Laid`: The tokens and blanks that a text is made of.
* `Scan.Describes`: What a scan says of a text.

## Theorems

* `Position.advance_behind`: Walking on over a text leads behind it.
* `tokenAt_eq_ok`, `tokenAt_eq_error`: A token is written where it was found, and where none
  was, something is wrong.
* `Scan.describes_ofChars`: The scan of a formula.
-/

namespace Questionnaire

namespace Formula

/-! ### Positions -/

/-- The position behind the beginning of a text: its line and its column there, counted
    from one. -/
def Position.behind (front : List Char) : Position :=
  ⟨1 + front.count '\n', 1 + (front.reverse.takeWhile fun c => c != '\n').length⟩

theorem Position.step_behind (front : List Char) (c : Char) :
    (behind front).step c = behind (front ++ [c]) := by
  rw [behind, step, behind, List.count_append, List.reverse_append, List.reverse_singleton,
    List.singleton_append, List.takeWhile_cons]
  by_cases hfeed : c = '\n'
  · subst hfeed
    rfl
  · have hcount : [c].count '\n' = 0 := List.count_eq_zero.2 (by simpa using Ne.symm hfeed)
    rw [if_neg hfeed, if_pos (bne_iff_ne.2 hfeed), hcount]
    rfl

/-- Walking on over a text leads to the position behind it. -/
theorem Position.advance_behind (front cs : List Char) :
    (behind front).advance cs = behind (front ++ cs) := by
  induction cs generalizing front with
  | nil => rw [advance_nil, List.append_nil]
  | cons c cs ih => rw [advance_cons, step_behind, ih, List.append_assoc, List.singleton_append]

/-! ### Tokens -/

/-- How a token is written. -/
def Token.written : Token → List Char
  | word text | number text | quote text => text.toList
  | symbol s => s.text.toList

theorem prefix_dashedWords (cs : List Char) : dashedWords cs <+: cs := by
  induction cs with
  | nil => exact List.prefix_refl _
  | cons c rest ih =>
      rw [dashedWords]
      split
      · exact (List.prefix_cons_inj c).2 ih
      · exact List.nil_prefix

/-- A beginning, and a beginning of what follows it. -/
theorem append_prefix_of_drop {as bs cs : List Char} (ha : as <+: cs)
    (hb : bs <+: cs.drop as.length) : as ++ bs <+: cs := by
  rcases ha with ⟨rest, rfl⟩
  rw [List.drop_left] at hb
  exact (List.prefix_append_right_inj as).2 hb

theorem prefix_word (cs : List Char) : word cs <+: cs := by
  rw [word]
  split
  · exact append_prefix_of_drop (List.takeWhile_prefix _) (prefix_dashedWords _)
  · exact List.takeWhile_prefix _

theorem prefix_fraction (cs : List Char) : fraction cs <+: cs := by
  unfold fraction
  split
  · exact (List.prefix_cons_inj _).2 (List.takeWhile_prefix _)
  · exact List.nil_prefix

theorem prefix_exponent (cs : List Char) : exponent cs <+: cs := by
  cases cs with
  | nil => exact List.prefix_refl _
  | cons c rest =>
      rw [exponent]
      split
      · refine (List.prefix_cons_inj c).2 (append_prefix_of_drop ?_ (List.takeWhile_prefix _))
        -- The sign is the next character, or there is none.
        cases rest with
        | nil => exact List.prefix_refl _
        | cons d rest =>
            rw [List.take_succ_cons, List.take_zero, List.filter_cons]
            split
            · exact (List.prefix_cons_inj d).2 List.nil_prefix
            · exact List.nil_prefix
      · exact List.nil_prefix

theorem prefix_numeral (cs : List Char) : numeral cs <+: cs := by
  rw [numeral]
  refine append_prefix_of_drop (append_prefix_of_drop (List.takeWhile_prefix _)
    (prefix_fraction _)) ?_
  rw [List.length_append, ← List.drop_drop]
  exact prefix_exponent _

theorem numeral_ne_nil {c : Char} {rest : List Char}
    (hc : (c.isDigit || (c == '.' && beginsWith Char.isDigit rest)) = true) :
    numeral (c :: rest) ≠ [] := by
  rw [numeral]
  cases hdigit : c.isDigit with
  | true =>
      rw [List.takeWhile_cons_of_pos hdigit, List.cons_append, List.cons_append]
      exact List.cons_ne_nil _ _
  | false =>
      rw [hdigit, Bool.false_or, Bool.and_eq_true, beq_iff_eq] at hc
      rcases hc with ⟨rfl, _⟩
      -- There are no digits before the point.
      exact List.cons_ne_nil '.' _

theorem quoteLength_le {mark : Char} {escaped seen length : Nat} {cs : List Char}
    (h : quoteLength mark escaped seen cs = .ok length) : length ≤ seen + cs.length := by
  induction cs generalizing escaped seen with
  | nil => cases escaped <;> cases h
  | cons c rest ih =>
      have hrest : ∀ {escaped}, quoteLength mark escaped (seen + 1) rest = .ok length →
          length ≤ seen + (c :: rest).length := by
        intro escaped h
        have hle := ih h
        rw [List.length_cons]
        omega
      cases escaped with
      | succ escaped => exact hrest h
      | zero =>
          rw [quoteLength] at h
          split at h
          case isTrue => cases h
          case isFalse =>
            split at h
            case isTrue =>
              cases h
              rw [List.length_cons]
              omega
            case isFalse =>
              split at h
              case isTrue =>
                split at h
                case h_1 => cases h
                case h_2 => exact hrest h
              case isFalse => exact hrest h

/-- The characters of a beginning that is not empty, by its first one. -/
theorem exists_of_prefix_cons {c : Char} {rest as : List Char} (h : as <+: c :: rest)
    (hne : as ≠ []) : ∃ after, c :: rest = as ++ after ∧ as.length = as.length - 1 + 1 := by
  rcases h with ⟨after, hafter⟩
  have hpos := List.length_pos_iff.2 hne
  exact ⟨after, hafter.symm, by omega⟩

theorem Symbol.text_of_ofPair {c d : Char} {s : Symbol} (h : ofPair c d = some s) :
    s.text.toList = [c, d] := by
  unfold ofPair at h
  split at h <;> cases h <;> rfl

theorem Symbol.text_of_ofChar {c : Char} {s : Symbol} (h : ofChar c = some s) :
    s.text.toList = [c] := by
  unfold ofChar at h
  split at h <;> cases h <;> rfl

/-- A token is written where it was found, and it is as long as the scan takes it to be. -/
theorem tokenAt_eq_ok {c : Char} {rest : List Char} {t : Token} {more : Nat}
    (h : tokenAt c rest = .ok (t, more)) :
    ∃ after, c :: rest = t.written ++ after ∧ t.written.length = more + 1 := by
  rw [tokenAt] at h
  split at h
  case isTrue hword =>
    cases h
    rw [Token.written, String.toList_ofList]
    refine exists_of_prefix_cons (prefix_word _) ?_
    have hne : (c :: rest).takeWhile Text.isWordChar ≠ [] := by
      rw [List.takeWhile_cons_of_pos (Text.isWordChar_of_isWordStart hword)]
      exact List.cons_ne_nil _ _
    rw [word]
    split
    · exact List.append_ne_nil_of_left_ne_nil hne _
    · exact hne
  case isFalse =>
    split at h
    case isTrue hnumber =>
      cases h
      rw [Token.written, String.toList_ofList]
      exact exists_of_prefix_cons (prefix_numeral _) (numeral_ne_nil hnumber)
    case isFalse =>
      split at h
      case isTrue =>
        split at h
        case h_1 length hlength =>
          cases h
          have hle := quoteLength_le hlength
          refine ⟨rest.drop more, ?_, ?_⟩
          · rw [Token.written, String.toList_ofList, List.cons_append, List.take_append_drop]
          · rw [Token.written, String.toList_ofList, List.length_cons, List.length_take]
            omega
        case h_2 => cases h
      case isFalse =>
        split at h
        case h_1 s hpair =>
          cases h
          rcases Option.bind_eq_some_iff.1 hpair with ⟨d, hhead, hpair⟩
          rw [Token.written, Symbol.text_of_ofPair hpair]
          cases rest with
          | nil => cases hhead
          | cons d rest =>
              cases hhead
              exact ⟨rest, rfl, rfl⟩
        case h_2 =>
          split at h
          case h_1 s hchar =>
            cases h
            rw [Token.written, Symbol.text_of_ofChar hchar]
            exact ⟨rest, rfl, rfl⟩
          case h_2 => cases h

/-- Where no token can be made out, a character begins none, or a quoted text goes wrong. -/
theorem tokenAt_eq_error {c : Char} {rest : List Char} {good : Nat} {cause : Cause}
    (h : tokenAt c rest = .error (good, cause)) :
    good = 0 ∧ cause = .invalidCharacter c ∨
      isMark c = true ∧ ∃ more, good = more + 1 ∧ GoesWrong c false rest more cause := by
  rw [tokenAt] at h
  split at h
  case isTrue => cases h
  case isFalse =>
    split at h
    case isTrue => cases h
    case isFalse =>
      split at h
      case isTrue hquote =>
        rw [Bool.or_comm] at hquote
        split at h
        case h_1 => cases h
        case h_2 more cause' hlength =>
          cases h
          rcases goesWrong_of_quoteLength hquote hlength (fun h => by cases h)
            (isEscapeEnd_nil false) with ⟨more, rfl, hwrong⟩
          exact Or.inr ⟨hquote, more, by omega, hwrong⟩
      case isFalse =>
        split at h
        case h_1 => cases h
        case h_2 =>
          split at h
          case h_1 => cases h
          case h_2 =>
            cases h
            exact Or.inl ⟨rfl, rfl⟩

/-! ### The scan of a text -/

/-- A text is made of tokens, each at the position where it begins, and of blanks. -/
inductive Laid : List Lexeme → List Char → Prop
  | start : Laid [] []
  | blank {xs : List Lexeme} {front : List Char} {c : Char} (h : Laid xs front)
      (hblank : Text.isBlank c = true) : Laid xs (front ++ [c])
  | token {xs : List Lexeme} {front : List Char} (h : Laid xs front) (t : Token) :
      Laid (xs ++ [⟨t, .behind front⟩]) (front ++ t.written)

/-- What a scan says of a text, of which it has laid some tokens before. -/
structure Scan.Describes (cs : List Char) (before : List Lexeme) (scan : Scan) : Prop where
  /-- A token lies where it begins, behind those before it. -/
  lexeme : ∀ first x after, scan.lexemes = first ++ x :: after →
    ∃ front rest, cs = front ++ (x.token.written ++ rest) ∧ Laid (before ++ first) front ∧
      x.position = .behind front
  /-- A scan that stops at the end has laid the text. -/
  stop : ∀ p, scan.stop = .ok p → Laid (before ++ scan.lexemes) cs ∧ p = .behind cs
  /-- A scan that goes wrong has laid the text before the token that cannot be made out. -/
  fault : ∀ fault, scan.stop = .error fault → ∃ front c rest good cause,
    cs = front ++ c :: rest ∧ Laid (before ++ scan.lexemes) front ∧
      tokenAt c rest = .error (good, cause) ∧
        fault = ⟨.behind (front ++ (c :: rest).take good), cause⟩

/-- Characters inside of a token are passed. -/
theorem Scan.resume_append (p : Position) (passed cs : List Char) :
    resume passed.length p (passed ++ cs) = resume 0 (p.advance passed) cs := by
  induction passed generalizing p with
  | nil => rfl
  | cons c passed ih => exact ih (p.step c)

/-- A token is scanned where it begins, and the scan goes on behind it. -/
theorem Scan.resume_token {c : Char} {rest : List Char} {t : Token} {more : Nat}
    (hblank : Text.isBlank c = false) (htoken : tokenAt c rest = .ok (t, more))
    (front : List Char) :
    ∃ after, c :: rest = t.written ++ after ∧ after.length ≤ rest.length ∧
      let scan := resume 0 (.behind (front ++ t.written)) after
      resume 0 (.behind front) (c :: rest) =
        ⟨⟨t, .behind front⟩ :: scan.lexemes, scan.stop⟩ := by
  rcases tokenAt_eq_ok htoken with ⟨after, hwritten, hlength⟩
  refine ⟨after, hwritten, ?_, ?_⟩
  · have htotal := congrArg List.length hwritten
    rw [List.length_append, List.length_cons] at htotal
    omega
  · cases hcs : t.written with
    | nil =>
        rw [hcs] at hlength
        cases hlength
    | cons d passed =>
        rw [hcs, List.cons_append, List.cons.injEq] at hwritten
        rcases hwritten with ⟨rfl, rfl⟩
        rw [hcs, List.length_cons, Nat.add_right_cancel_iff] at hlength
        -- The scan passes as many characters as the token has left behind its first.
        subst hlength
        rw [resume, if_neg (Bool.eq_false_iff.1 hblank), htoken]
        dsimp only
        rw [resume_append, Position.step_behind, Position.advance_behind, List.append_assoc,
          List.singleton_append]

/-- At the end of a text nothing more is to be laid. -/
theorem Scan.describes_end {before : List Lexeme} {front : List Char} (hfront : Laid before front) :
    Describes front before ⟨[], .ok (.behind front)⟩ := by
  refine ⟨fun first x after h => ?_, fun p h => ?_, fun fault h => (by cases h)⟩
  · exact absurd h.symm (List.append_ne_nil_of_right_ne_nil _ (List.cons_ne_nil _ _))
  · cases h
    rw [List.append_nil]
    exact ⟨hfront, rfl⟩

/-- Nor is it where no token can be made out. -/
theorem Scan.describes_error {before : List Lexeme} {front : List Char} (hfront : Laid before front)
    {c : Char} {rest : List Char} {stop : Nat × Cause} (htoken : tokenAt c rest = .error stop) :
    Describes (front ++ c :: rest) before
      ⟨[], .error ⟨.behind (front ++ (c :: rest).take stop.1), stop.2⟩⟩ := by
  refine ⟨fun first x after h => ?_, fun p h => (by cases h), fun fault h => ?_⟩
  · exact absurd h.symm (List.append_ne_nil_of_right_ne_nil _ (List.cons_ne_nil _ _))
  · cases h
    rw [List.append_nil]
    exact ⟨front, c, rest, stop.1, stop.2, rfl, hfront, htoken, rfl⟩

/-- A token, and what is laid behind it. -/
theorem Scan.Describes.cons {before : List Lexeme} {front after : List Char} {t : Token}
    {scan : Scan} (hfront : Laid before front)
    (h : scan.Describes (front ++ (t.written ++ after)) (before ++ [⟨t, .behind front⟩])) :
    Describes (front ++ (t.written ++ after)) before
      ⟨⟨t, .behind front⟩ :: scan.lexemes, scan.stop⟩ := by
  refine ⟨fun first x last hsplit => ?_, fun p hstop => ?_, fun fault hstop => ?_⟩
  · cases first with
    | nil =>
        cases hsplit
        rw [List.append_nil]
        exact ⟨front, after, rfl, hfront, rfl⟩
    | cons y first =>
        rw [List.cons_append, List.cons.injEq] at hsplit
        rcases hsplit with ⟨rfl, hsplit⟩
        rw [List.append_cons]
        exact h.lexeme first x last hsplit
  · rw [List.append_cons]
    exact h.stop p hstop
  · rw [List.append_cons]
    exact h.fault fault hstop

/-- A scan describes the text that it has laid and the text that it goes on with. -/
theorem Scan.describes_resume {before : List Lexeme} {front : List Char}
    (hfront : Laid before front) :
    (cs : List Char) → (resume 0 (.behind front) cs).Describes (front ++ cs) before
  | [] => by
      rw [List.append_nil]
      exact describes_end hfront
  | c :: rest => by
      cases hblank : Text.isBlank c with
      | true =>
          have hrest := describes_resume (hfront.blank hblank) rest
          rw [List.append_assoc, List.singleton_append, ← Position.step_behind] at hrest
          rw [resume, if_pos hblank]
          exact hrest
      | false =>
          cases htoken : tokenAt c rest with
          | error stop =>
              rw [resume, if_neg (Bool.eq_false_iff.1 hblank), htoken]
              dsimp only
              rw [Position.advance_behind]
              exact describes_error hfront htoken
          | ok token =>
              rcases token with ⟨t, more⟩
              rcases resume_token hblank htoken front with ⟨after, hwritten, hle, hresume⟩
              have hrest := describes_resume (hfront.token t) after
              rw [List.append_assoc] at hrest
              rw [hresume, hwritten]
              exact hrest.cons hfront
  -- A token has a character at least, so what comes behind it is shorter.
  termination_by cs => cs.length
  decreasing_by all_goals (rw [List.length_cons]; omega)

/-- The scan of a formula lays its tokens where they lie. -/
theorem Scan.describes_ofChars (cs : List Char) : (ofChars cs).Describes cs [] :=
  describes_resume .start cs

end Formula

end Questionnaire
