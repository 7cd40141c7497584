import Questionnaire.Proofs.Formula.Spacing
import Questionnaire.Proofs.Survey.Naming

/-!
# Names and References

A question is called by a name, and a formula refers to it by that name between braces. What
a name is, is said twice: a test of its characters decides which names a survey may have, and
the scan of a formula decides which texts between braces are read as one word. The two agree.
A name is read back from its reference, and a text that is read back is a name.

The second half is the harder one, since a text may close the brace early and go on with more
of a formula, and the answer might still look like the text. It does not: the answer goes on
behind the first name with an operator, where the text goes on with the brace.

## Main definitions

* `reference`: A reference to what is between its braces.
* `questionNamed`: A question of a name.

## Theorems

* `Scan.exists_of_yields`: What lies at the beginning of a text with some tokens.
* `tokenAt_word_iff`: In front of a brace, words are names.
* `Expr.render_of_dollar`: What an expression becomes that begins with a reference.
* `Compiler.compile_reference_iff`: Names are what is read back from a reference.
* `Compiler.names_and_references`: So are the names of surveys.
-/

namespace Questionnaire

namespace Formula

open Text (isBlank skipBlanks)

/-- A formula that refers to what is between its braces. -/
def reference (s : String) : String :=
  "$\x7b" ++ s ++ "\x7d"

/-! ### The scan of a reference -/

theorem Scan.ofChars_reference (s : String) :
    let behind := resume 0 ⟨1, 3⟩ (s.toList ++ ['\x7d'])
    ofChars (reference s).toList =
      ⟨⟨.symbol .dollar, ⟨1, 1⟩⟩ :: ⟨.symbol .openBrace, ⟨1, 2⟩⟩ :: behind.lexemes,
        behind.stop⟩ := by
  intro behind
  have hchars : (reference s).toList = '$' :: '\x7b' :: (s.toList ++ ['\x7d']) := by
    rw [reference, String.toList_append, String.toList_append]
    rfl
  have hdollar : ∀ rest, tokenAt '$' ('\x7b' :: rest) = .ok (.symbol .dollar, 0) := by
    intro rest
    rfl
  have hbrace : ∀ rest, tokenAt '\x7b' rest = .ok (.symbol .openBrace, 0) := by
    intro rest
    -- What follows is not known, but no symbol of two characters begins with a brace.
    cases rest <;> rfl
  rw [ofChars, hchars, resume, if_neg (by decide), hdollar]
  dsimp only
  rw [resume, if_neg (by decide), hbrace]
  rfl

/-- The brace that closes a reference is the last thing to be found in it. -/
theorem Scan.yields_closeBrace (p : Position) :
    (resume 0 p ['\x7d']).Yields [.symbol .closeBrace] :=
  ⟨rfl, _, rfl⟩

/-- At the beginning of a text with some tokens lie blanks and the first token. -/
theorem Scan.exists_of_yields {t : Token} {ts : List Token} {p : Position} {cs : List Char}
    (h : (resume 0 p cs).Yields (t :: ts)) :
    ∃ c xs after q, skipBlanks cs = c :: (xs ++ after) ∧ isBlank c = false ∧
      t.written = c :: xs ∧ tokenAt c (xs ++ after) = .ok (t, xs.length) ∧
        (resume 0 q after).Yields ts := by
  rcases exists_resume_skipBlanks p cs with ⟨q, hskip⟩
  rw [hskip] at h
  cases hcs : skipBlanks cs with
  | nil =>
      rw [hcs] at h
      cases h.1
  | cons d rest =>
      rw [hcs] at h
      have hblank := Text.isBlank_of_skipBlanks hcs
      rcases exists_written h.1 with ⟨c, xs, hwritten, -⟩
      -- Since the scan yields tokens, there is one here, and it is the first of them.
      cases htoken : tokenAt d rest with
      | error stop =>
          rw [resume, if_neg (Bool.eq_false_iff.1 hblank), htoken] at h
          cases h.1
      | ok found =>
          rcases tokenAt_eq_ok htoken with ⟨after, hlies, -⟩
          have hfirst : found.1 = t := by
            have htokens := h.1
            rw [resume, if_neg (Bool.eq_false_iff.1 hblank), htoken, List.map_cons,
              List.cons.injEq] at htokens
            exact htokens.1
          rw [hfirst, hwritten, List.cons_append, List.cons.injEq] at hlies
          rcases hlies with ⟨rfl, rfl⟩
          rw [yields_token_iff hblank hwritten] at h
          exact ⟨d, xs, after, _, rfl, hblank, hwritten, h.1, h.2⟩

/-! ### Words and names -/

/-- Words that are joined by dashes do not reach to the brace, since they need a parenthesis
    there. -/
theorem dashedName_eq_nil {cs : List Char} (h : cs = dashedName cs ++ ['\x7d']) :
    dashedName cs = [] := by
  rw [dashedName]
  split
  case isFalse => rfl
  case isTrue hparen =>
    rw [dashedName, if_pos hparen] at h
    have hdrop := congrArg (List.drop (dashedWords cs).length) h
    rw [List.drop_left] at hdrop
    rw [hdrop] at hparen
    cases hparen

/-- What lies in front of a brace is one word if it has no other characters than a word. -/
theorem word_append_closeBrace (cs : List Char) :
    word (cs ++ ['\x7d']) = cs ↔ ∀ c ∈ cs, Text.isWordChar c = true := by
  constructor
  · intro h
    obtain ⟨rest, hrest⟩ := List.takeWhile_prefix Text.isWordChar (l := cs ++ ['\x7d'])
    rw [word_eq, followed] at h
    generalize hshort : (cs ++ ['\x7d']).takeWhile Text.isWordChar = short at h hrest
    rw [← hrest, List.drop_left] at h
    -- Behind the characters of a word there may be dashes, and then the brace.
    have hbehind : rest = dashedName rest ++ ['\x7d'] := by
      rw [← h, List.append_assoc] at hrest
      exact List.append_cancel_left hrest
    rw [dashedName_eq_nil hbehind, List.append_nil] at h
    intro c hc
    rw [← h, ← hshort] at hc
    exact List.mem_takeWhile_imp hc
  · intro h
    have hshort : (cs ++ ['\x7d']).takeWhile Text.isWordChar = cs := by
      rw [List.takeWhile_append_of_pos h]
      exact List.append_nil cs
    rw [word_eq, followed, hshort, List.drop_left]
    exact List.append_nil cs

/-- A word begins as a name does. -/
theorem isWordStart_of_tokenAt {c : Char} {rest : List Char} {name : String} {more : Nat}
    (h : tokenAt c rest = .ok (.word name, more)) : Text.isWordStart c = true := by
  rw [tokenAt] at h
  split at h
  case isTrue hstart => exact hstart
  case isFalse =>
    split at h
    case isTrue => cases h
    case isFalse =>
      split at h
      case isTrue => split at h <;> cases h
      case isFalse =>
        split at h
        case h_1 => cases h
        case h_2 => split at h <;> cases h

/-- What lies in front of a brace is one word if and only if it is a name. -/
theorem tokenAt_word_iff {name : String} {c : Char} {cs : List Char} (h : name.toList = c :: cs) :
    tokenAt c (cs ++ ['\x7d']) = .ok (.word name, cs.length) ↔ Text.isName name = true := by
  have hname : Text.isName name = true ↔
      Text.isWordStart c = true ∧ ∀ d ∈ c :: cs, Text.isWordChar d = true := by
    rw [Text.isName, h, Bool.and_eq_true, List.all_eq_true, List.forall_mem_cons]
    exact and_congr_right fun hstart =>
      (and_iff_right (Text.isWordChar_of_isWordStart hstart)).symm
  rw [hname, ← word_append_closeBrace]
  constructor
  · intro htoken
    have hstart := isWordStart_of_tokenAt htoken
    rw [tokenAt, if_pos hstart, Except.ok.injEq, Prod.mk.injEq, Token.word.injEq] at htoken
    rw [List.cons_append, ← h, ← htoken.1, String.toList_ofList]
    exact ⟨hstart, rfl⟩
  · rintro ⟨hstart, hword⟩
    rw [List.cons_append] at hword
    have htext : String.ofList (c :: cs) = name := by
      rw [← h, String.ofList_toList]
    rw [tokenAt, if_pos hstart]
    dsimp only
    rw [hword, htext, List.length_cons, Nat.add_sub_cancel]

/-! ### Expressions that begin with a reference -/

/-- No operator begins with a brace. -/
theorem Operator.head?_skipBlanks_render (op : Operator) (cs : List Char) :
    (skipBlanks (op.render.toList ++ cs)).head? ≠ some '\x7d' := by
  cases op <;> exact fun h => absurd (Option.some.inj h) (by decide)

/-- An expression whose first token is that of a reference begins with a name in braces. It
    becomes the name, or the name with an operator and more behind it. -/
theorem Expr.render_of_dollar (subject : String) : (e : Expr) → {ts : List Token} →
    e.tokens = .symbol .dollar :: ts →
      ∃ name us, ts = .symbol .openBrace :: .word name :: .symbol .closeBrace :: us ∧
        (us = [] ∧ e.render subject = name ∨
          ∃ (op : Operator) (more : String), e.render subject = name ++ (op.render ++ more))
  | .term (.atom (some sign) a), ts, h => by cases sign <;> cases h
  | .term (.atom none a), ts, h => by
      cases a with
      | field name =>
          cases h
          exact ⟨name, [], rfl, Or.inl ⟨rfl, String.empty_append⟩⟩
      | truth value => cases value <;> cases h
      | number | quote | self | column => cases h
  | .term (.group (some sign) inner), ts, h => by cases sign <;> cases h
  | .term (.group none inner), ts, h => by cases h
  | .term (.call (some sign) f args), ts, h => by cases sign <;> cases h
  | .term (.call none f args), ts, h => by cases h
  | .chain left op right, ts, h => by
      -- The row on the left has tokens, so it begins with the reference as well.
      rcases beginsInside_tokens left with ⟨t, rest, hleft, -⟩
      rw [tokens, hleft, List.cons_append, List.cons.injEq] at h
      rcases h with ⟨rfl, rfl⟩
      rcases render_of_dollar subject left hleft with ⟨name, us, rfl, hrender⟩
      refine ⟨name, us ++ op.token :: right.tokens, rfl, Or.inr ?_⟩
      rw [render]
      rcases hrender with ⟨-, hrender⟩ | ⟨op', more, hrender⟩
      · exact ⟨op, right.render subject, by rw [hrender, String.append_assoc]⟩
      · refine ⟨op', more ++ (op.render ++ right.render subject), ?_⟩
        rw [hrender]
        simp only [String.append_assoc]

/-! ### Compiling a reference -/

theorem raw?_reference (s : String) : raw? (reference s) = none := by
  rw [raw?_eq_none_iff, reference, String.toList_append, String.toList_append]
  rintro ⟨rest, h⟩
  cases h

/-- A name between braces is one word. -/
theorem spells_reference {s : String} (h : Text.isName s = true) :
    (Scan.ofChars (reference s).toList).Spells (.term (.atom none (.field s))) := by
  rw [Scan.ofChars_reference]
  obtain ⟨c, cs, hs⟩ : ∃ c cs, s.toList = c :: cs := by
    cases hs : s.toList with
    | nil =>
        rw [Text.isName, hs] at h
        cases h
    | cons c cs => exact ⟨c, cs, rfl⟩
  have hword := (tokenAt_word_iff hs).2 h
  have hwritten : Token.written (.word s) = c :: cs := hs
  have hblank : isBlank c = false :=
    isBlank_of_isWordChar (Text.isWordChar_of_isWordStart (isWordStart_of_tokenAt hword))
  have hyields : (Scan.resume 0 ⟨1, 3⟩ (s.toList ++ ['\x7d'])).Yields
      [.word s, .symbol .closeBrace] := by
    rw [hs, List.cons_append, Scan.yields_token_iff hblank hwritten]
    exact ⟨hword, Scan.yields_closeBrace _⟩
  exact ⟨hyields.2, congrArg (_ :: _ :: ·) hyields.1⟩

/-- If what is between the braces is what the formula becomes, it is a name. -/
theorem isName_of_spells_reference {s subject : String} {e : Expr}
    (h : (Scan.ofChars (reference s).toList).Spells e) (hs : e.render subject = s) :
    Text.isName s = true := by
  rw [Scan.ofChars_reference] at h
  rcases h with ⟨hstop, htokens⟩
  rcases e.render_of_dollar subject htokens.symm with ⟨name, us, hrest, hrender⟩
  rw [List.map_cons, List.cons.injEq] at hrest
  rcases Scan.exists_of_yields ⟨hrest.2, hstop⟩ with
    ⟨c, xs, after, p, hskip, hblank, hname, hword, hbehind⟩
  -- Blanks may lie behind the name, and then the brace that closes it.
  rcases Scan.exists_of_yields hbehind with ⟨_, _, _, _, hskip', -, hbrace, -, -⟩
  have hname : name.toList = c :: xs := hname
  -- Since the text begins with the name, no blanks lie in front of the name, and what lies
  -- behind it is the rest of the text with the brace.
  have hafter : ∀ rest, s.toList = name.toList ++ rest → after = rest ++ ['\x7d'] := by
    intro rest hrest
    rw [hrest, hname, List.cons_append, List.cons_append, Text.skipBlanks_eq_self hblank,
      List.cons.injEq, List.append_assoc] at hskip
    exact (List.append_cancel_left hskip.2).symm
  rw [hs] at hrender
  rcases hrender with ⟨-, rfl⟩ | ⟨op, more, rfl⟩
  · rw [hafter [] (List.append_nil _).symm] at hword
    exact (tokenAt_word_iff hname).1 hword
  · -- Behind the name the formula goes on with the brace, but its text with an operator.
    rw [hafter _ String.toList_append, String.toList_append, List.append_assoc] at hskip'
    refine absurd ?_ (op.head?_skipBlanks_render (more.toList ++ ['\x7d']))
    rw [hskip']
    cases hbrace
    rfl

/-- Names are the texts that are read back from a reference, whatever question the formula
    belongs to and wherever it stands. -/
theorem Compiler.compile_reference_iff (c : Compiler) (s : String) (place : Place)
    (subject : String) :
    (c.compile (reference s) place subject).1 = .ok s ↔ Text.isName s = true := by
  rw [c.fst_compile, compile_of_not_raw (raw?_reference s), map_eq_ok]
  constructor
  · rintro ⟨e, hparse, hrender⟩
    exact isName_of_spells_reference (parse_eq_ok_iff.1 hparse).1 hrender
  · intro h
    refine ⟨_, parse_eq_ok_iff.2 ⟨spells_reference h, trivial, Nat.zero_le _⟩, ?_⟩
    exact String.empty_append

/-! ### The names of a survey -/

/-- A question of a name. -/
def questionNamed (s : String) : Row :=
  (Row.ofCells 2 [("type", "text")]).set "name" s

/-- A survey of one question is well named, whatever name the question has. -/
theorem wellNamed_questionNamed {s : String} (h : Text.isName s = true) :
    (questionNamed s).name = s ∧ Survey.WellNamed [questionNamed s] := by
  have hne : s ≠ "" := Survey.ne_empty_of_isName h
  have hname : (questionNamed s).name = s := by
    change (((questionNamed s).cells.get? ⟨"name", ""⟩).or _).getD "" = s
    rw [questionNamed, Row.get?_set, if_pos (by decide), if_neg hne]
    rfl
  have hkind : (questionNamed s).kind = .question .text := by
    have htype : (questionNamed s).type = "text" := by
      change (((questionNamed s).cells.get? ⟨"type", ""⟩).or _).getD "" = "text"
      rw [questionNamed, Row.get?_set, if_neg (by decide)]
      rfl
    rw [Row.kind, htype]
    rfl
  refine ⟨hname, ?_, ?_, List.pairwise_singleton _ _⟩
  · rw [List.forall_mem_singleton, hkind]
    rintro ⟨⟩
  · rw [List.forall_mem_singleton, hname]
    exact fun _ _ => h

/-- What can be a name in a survey can be referred to in a formula, and nothing else can. -/
theorem Compiler.names_and_references (c : Compiler) (s : String) (place : Place)
    (subject : String) :
    (Text.isName s = true ↔ (c.compile (reference s) place subject).1 = .ok s) ∧
      ((∃ survey, Survey.checkNames survey = .ok () ∧ ∃ r ∈ survey, r.name = s ∧ s ≠ "") ↔
        (c.compile (reference s) place subject).1 = .ok s) := by
  rw [compile_reference_iff, and_iff_right Iff.rfl]
  constructor
  · rintro ⟨survey, hcheck, r, hr, rfl, hne⟩
    have hnamed := Survey.checkNames_eq_ok_iff.1 hcheck
    refine hnamed.identifiers r hr ?_ fun h => hne h.2
    exact Bool.eq_false_iff.2 fun hend => hne (hnamed.ends r hr hend)
  · intro h
    rcases wellNamed_questionNamed h with ⟨hname, hnamed⟩
    exact ⟨_, Survey.checkNames_eq_ok_iff.2 hnamed, _, List.mem_singleton_self _, hname,
      Survey.ne_empty_of_isName h⟩

/-- A text that closes the brace early, and one with a blank: both are formulas, but they do not
    become the text. -/
example :
    compile (reference "a\x7d - $\x7bb") .constraint "q" = .ok "a - b" ∧
      compile (reference " a") .constraint "q" = .ok "a" := by
  decide +kernel

end Formula

end Questionnaire
