import Questionnaire.Proofs.Formula.Acceptance
import Questionnaire.Proofs.Formula.Blame
import Questionnaire.Proofs.Formula.LookAhead
import Questionnaire.Proofs.Formula.Moving

/-!
# Blanks Between the Tokens of a Formula

How a formula is spaced has no meaning. `Loosened` relates a text that is made of some tokens
and blanks to one that has more blanks between the same tokens. If the scan of the first one
finds these tokens and goes on to its end, so does the scan of the second: at each token, what
follows has only been widened, and the token is found as before.

What the tokens are read as depends on their order alone, not on their places. A formula that
is scanned to its end does not have the marker of one that is already compiled, however it is
spaced. So a compiler answers the same, and only the position of an error may differ.

## Main definitions

* `Loosened`: A text with more blanks between its tokens.
* `Scan.Yields`: A scan with some tokens that goes on to the end.
* `Error.kind`: An error without its position.

## Theorems

* `Scan.loosened_tokensIn`: A text that is scanned to its end is made of tokens and blanks.
* `Scan.yields_token_iff`: A scan at a token.
* `Scan.yields_ofChars`: The scan of a text with more blanks.
* `Compiler.compile_loosened`: The answer of a compiler to a formula with more blanks.
-/

namespace Questionnaire

namespace Formula

open Text (isBlank skipBlanks)

/-! ### Blanks between tokens -/

/-- Whether a text is made of some tokens and blanks, and another one of the same tokens and
    blanks and more blanks, wherever they may be put in: before the first token, between two
    tokens, or after the last one. -/
inductive Loosened : List Token → List Char → List Char → Prop
  | nil : Loosened [] [] []
  | token {ts : List Token} {cs ds : List Char} (t : Token) (h : Loosened ts cs ds) :
      Loosened (t :: ts) (t.written ++ cs) (t.written ++ ds)
  | blank {ts : List Token} {cs ds : List Char} {c : Char} (hblank : isBlank c = true)
      (h : Loosened ts cs ds) : Loosened ts (c :: cs) (c :: ds)
  | inserted {ts : List Token} {cs ds : List Char} {c : Char} (hblank : isBlank c = true)
      (h : Loosened ts cs ds) : Loosened ts cs (c :: ds)

theorem Loosened.append {ts us : List Token} {cs ds cs' ds' : List Char}
    (h : Loosened ts cs ds) (h' : Loosened us cs' ds') :
    Loosened (ts ++ us) (cs ++ cs') (ds ++ ds') := by
  induction h with
  | nil => exact h'
  | token t _ ih =>
      rw [List.append_assoc, List.append_assoc]
      exact .token t ih
  | blank hblank _ ih => exact .blank hblank ih
  | inserted hblank _ ih => exact .inserted hblank ih

/-- A text that is laid is made of its tokens and blanks. -/
theorem Laid.loosened {xs : List Lexeme} {front : List Char} (h : Laid xs front) :
    Loosened (xs.map Lexeme.token) front front := by
  induction h with
  | start => exact .nil
  | blank _ hblank ih =>
      have hone := ih.append (.blank hblank .nil)
      rwa [List.append_nil] at hone
  | token _ t ih =>
      have hone := ih.append (.token t .nil)
      rw [List.append_nil] at hone
      rwa [List.map_append]

/-- So is every text that is scanned to its end, and blanks may be put in between its tokens. -/
theorem Scan.loosened_tokensIn {cs : List Char} {p : Position} (h : (ofChars cs).stop = .ok p) :
    Loosened (tokensIn cs) cs cs :=
  ((describes_ofChars cs).stop p h).1.loosened

theorem Loosened.widened {ts : List Token} {cs ds : List Char} (h : Loosened ts cs ds) :
    Widened cs ds := by
  induction h with
  | nil => exact .nil
  | token t _ ih => exact ih.append t.written
  | blank _ _ ih => exact .same _ ih
  | inserted hblank _ ih => exact .blank hblank ih

namespace Scan

/-- Whether a scan goes on to the end, with these tokens. -/
def Yields (ts : List Token) (scan : Scan) : Prop :=
  scan.lexemes.map Lexeme.token = ts ∧ ∃ p, scan.stop = .ok p

theorem resume_blank {c : Char} (hblank : isBlank c = true) (p : Position) (cs : List Char) :
    resume 0 p (c :: cs) = resume 0 (p.step c) cs := by
  rw [resume, if_pos hblank]

/-- What is written of a token that is scanned first begins with no blank. -/
theorem exists_written {t : Token} {ts : List Token} {p : Position} {cs : List Char}
    (h : (resume 0 p cs).lexemes.map Lexeme.token = t :: ts) :
    ∃ c xs, t.written = c :: xs ∧ isBlank c = false := by
  induction cs generalizing p with
  | nil => cases h
  | cons c rest ih =>
      cases hblank : isBlank c with
      | true =>
          rw [resume_blank hblank] at h
          exact ih h
      | false =>
          rw [resume, if_neg (Bool.eq_false_iff.1 hblank)] at h
          cases htoken : tokenAt c rest with
          | error stop =>
              rw [htoken] at h
              cases h
          | ok found =>
              rw [htoken] at h
              cases h
              rcases tokenAt_eq_ok htoken with ⟨after, hwritten, hlength⟩
              -- A token has one character at least, and here it begins with this one.
              cases hcs : found.1.written with
              | nil =>
                  rw [hcs] at hlength
                  cases hlength
              | cons d xs =>
                  rw [hcs, List.cons_append, List.cons.injEq] at hwritten
                  exact ⟨d, xs, rfl, hwritten.1 ▸ hblank⟩

/-- At a token, a scan goes on to the end if the token is there and the scan goes on behind it. -/
theorem yields_token_iff {t : Token} {ts : List Token} {c : Char} {xs cs : List Char}
    (hblank : isBlank c = false) (ht : t.written = c :: xs) (p : Position) :
    (resume 0 p (c :: (xs ++ cs))).Yields (t :: ts) ↔
      tokenAt c (xs ++ cs) = .ok (t, xs.length) ∧
        (resume 0 (p.advance (c :: xs)) cs).Yields ts := by
  rw [resume, if_neg (Bool.eq_false_iff.1 hblank)]
  cases htoken : tokenAt c (xs ++ cs) with
  | error stop => exact iff_of_false (by rintro ⟨⟨⟩, _⟩) (by rintro ⟨⟨⟩, _⟩)
  | ok found =>
      rcases found with ⟨t', more⟩
      rcases tokenAt_eq_ok htoken with ⟨after, _, hlength⟩
      have hbehind : resume xs.length (p.step c) (xs ++ cs) = resume 0 (p.advance (c :: xs)) cs :=
        resume_append (p.step c) xs cs
      rw [Yields]
      dsimp only
      constructor
      · rintro ⟨htokens, hstop⟩
        rw [List.map_cons, List.cons.injEq] at htokens
        rcases htokens with ⟨rfl, htokens⟩
        rw [ht, List.length_cons, Nat.add_right_cancel_iff] at hlength
        subst hlength
        rw [hbehind] at htokens hstop
        exact ⟨rfl, htokens, hstop⟩
      · rintro ⟨hfound, htokens, hstop⟩
        cases hfound
        rw [hbehind]
        exact ⟨congrArg (t :: ·) htokens, hstop⟩

theorem yields_loosened {ts : List Token} {cs ds : List Char} (h : Loosened ts cs ds)
    {p : Position} (hscan : (resume 0 p cs).Yields ts) (q : Position) :
    (resume 0 q ds).Yields ts := by
  induction h generalizing p q with
  | nil => exact ⟨rfl, q, rfl⟩
  | blank hblank _ ih =>
      rw [resume_blank hblank] at hscan ⊢
      exact ih hscan _
  | inserted hblank _ ih =>
      rw [resume_blank hblank]
      exact ih hscan _
  | token t h ih =>
      -- What follows the token is widened, so the token is found where it was found before.
      rcases exists_written hscan.1 with ⟨c, xs, ht, hblank⟩
      rw [ht, List.cons_append] at hscan ⊢
      rw [yields_token_iff hblank ht] at hscan ⊢
      exact ⟨tokenAt_append h.widened ht hscan.1, ih hscan.2 _⟩

end Scan

/-- With more blanks between the tokens of a text, its scan goes on to the end with the same
    tokens. -/
theorem Scan.yields_ofChars {ts : List Token} {cs ds : List Char} (h : Loosened ts cs ds)
    (hscan : (ofChars cs).Yields ts) : (ofChars ds).Yields ts :=
  yields_loosened h hscan .start

/-! ### Compiling a formula with more blanks -/

theorem Scan.exists_resume_skipBlanks (p : Position) (cs : List Char) :
    ∃ q, resume 0 p cs = resume 0 q (skipBlanks cs) := by
  induction cs generalizing p with
  | nil => exact ⟨p, rfl⟩
  | cons c rest ih =>
      cases hblank : isBlank c with
      | true =>
          rw [resume_blank hblank, Text.skipBlanks_cons hblank]
          exact ih _
      | false =>
          rw [Text.skipBlanks_eq_self hblank]
          exact ⟨p, rfl⟩

/-- A scan that goes on to the end has not met the marker of a compiled formula. -/
theorem raw?_eq_none_of_stop {formula : String} {p : Position}
    (h : (Scan.ofChars formula.toList).stop = .ok p) : raw? formula = none := by
  rw [raw?_eq_none_iff]
  rintro ⟨rest, hmarker⟩
  rcases Scan.exists_resume_skipBlanks .start formula.toList with ⟨q, hskip⟩
  -- Behind the word of the marker, its colon begins no token.
  have hword : tokenAt 'j' ('s' :: ':' :: rest) = .ok (.word "js", 1) := by rfl
  have hcolon : tokenAt ':' rest = .error (0, .invalidCharacter ':') := by
    cases rest <;> rfl
  rw [Scan.ofChars, hskip, ← hmarker] at h
  change (Scan.resume 0 q ('j' :: 's' :: ':' :: rest)).stop = _ at h
  rw [Scan.resume, if_neg (by decide), hword] at h
  change (Scan.resume 0 _ (':' :: rest)).stop = _ at h
  rw [Scan.resume, if_neg (by decide), hcolon] at h
  cases h

/-- What an error says, apart from its position in the formula. -/
def Error.kind (e : Error) : Place × Cause :=
  (e.place, e.fault.cause)

theorem mapError_compile {formula : String} (h : raw? formula = none) (place : Place)
    (subject : String) :
    (compile formula place subject).mapError Error.kind =
      (((Expr.ofScan place.hasColumns (Scan.ofChars formula.toList)).mapError Fault.cause).map
        (Expr.render subject)).mapError (Prod.mk place) := by
  rw [compile_of_not_raw h, parse]
  cases Expr.ofScan place.hasColumns (Scan.ofChars formula.toList) <;> rfl

/-- Blanks between the tokens of a formula do not matter. If its scan goes on to the end, then
    with more blanks it has the same tokens, and it is compiled to the same text or refused with
    an error of the same kind. -/
theorem Compiler.compile_loosened (c d : Compiler) {formula wide : String} (place : Place)
    (subject : String) (hscan : ∃ p, (Scan.ofChars formula.toList).stop = .ok p)
    (h : Loosened (tokensIn formula.toList) formula.toList wide.toList) :
    tokensIn wide.toList = tokensIn formula.toList ∧
      (∃ q, (Scan.ofChars wide.toList).stop = .ok q) ∧
      (d.compile wide place subject).1.mapError Error.kind =
        (c.compile formula place subject).1.mapError Error.kind := by
  rcases hscan with ⟨p, hstop⟩
  rcases Scan.yields_ofChars h ⟨rfl, p, hstop⟩ with ⟨htokens, q, hstop'⟩
  refine ⟨htokens, ⟨q, hstop'⟩, ?_⟩
  -- Neither text is marked as compiled, and what is read of them has the same tokens.
  rw [d.fst_compile, c.fst_compile, mapError_compile (raw?_eq_none_of_stop hstop'),
    mapError_compile (raw?_eq_none_of_stop hstop),
    Expr.ofScan_congr place.hasColumns htokens hstop hstop']

/-- More blanks around the parentheses of a call, one of them a line feed. -/
theorem Compiler.compile_loosened_call :
    let formula := "string-length(.)>=1e2"
    let wide := "string-length\n( . ) >= 1e2 "
    (∃ p, (Scan.ofChars formula.toList).stop = .ok p) ∧
      Loosened (tokensIn formula.toList) formula.toList wide.toList ∧
      tokensIn wide.toList = tokensIn formula.toList ∧
      (new.compile wide .constraint "a").1.mapError Error.kind =
        (new.compile formula .constraint "a").1.mapError Error.kind := by
  intro formula wide
  have hscan : ∃ p, (Scan.ofChars formula.toList).stop = .ok p := ⟨⟨1, 22⟩, by decide +kernel⟩
  have htokens : tokensIn formula.toList = [.word "string-length", .symbol .openParen,
      .symbol .dot, .symbol .closeParen, .symbol .atLeast, .number "1e2"] := by
    decide +kernel
  have hloose : Loosened (tokensIn formula.toList) "string-length(.)>=1e2".toList
      "string-length\n( . ) >= 1e2 ".toList := by
    rw [htokens]
    exact .token (.word "string-length") <| .inserted (by decide) <|
      .token (.symbol .openParen) <| .inserted (by decide) <|
        .token (.symbol .dot) <| .inserted (by decide) <|
          .token (.symbol .closeParen) <| .inserted (by decide) <|
            .token (.symbol .atLeast) <| .inserted (by decide) <|
              .token (.number "1e2") <| .inserted (by decide) .nil
  rcases compile_loosened new new .constraint "a" hscan hloose with ⟨hsame, _, hanswer⟩
  exact ⟨hscan, hloose, hsame, hanswer⟩

end Formula

end Questionnaire
