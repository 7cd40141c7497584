import Questionnaire.Formula.Compile
import Questionnaire.Proofs.Formula.Layout
import Questionnaire.Proofs.Formula.Prefixes
import Questionnaire.Proofs.Formula.Steps

/-!
# What an Error Points At

An error in a formula has a position, and something stands there that is to blame. For
most causes it is the first token that cannot stand where it stands: the tokens before it
begin a sentence, and with it they begin none. For the others it is a word that the tokens
after it have shown to be wrong, a parenthesis that nests too deep, or a character that the
scan cannot make a token of.

All of it is said in terms of the formula: `StandsAt` is about the tokens of its scan and
the characters before them, and `Cause.Blames` says of each cause what stands at the end of
the characters before its position.

## Main definitions

* `StandsAt`: What comes behind some tokens, and where.
* `CutsOff`: A token that ends what begins a sentence.
* `Cause.Blames`: What stands where an error points.
* `Fault.PointsInto`: A fault at a position of a formula, with what is to blame there.

## Theorems

* `Reading.cutsOff_of_next`, `Reading.cutsOff_of_finish`: What is refused goes on with no
  sentence.
* `pointsInto_of_next`, `pointsInto_of_stop`, `pointsInto_of_finish`: The fault of a step, of a
  scan, and at the end of a formula.
* `Compiler.pointsInto_of_compile`: The error of a compiler.
-/

namespace Questionnaire

namespace Formula

/-- The tokens of a text. -/
def tokensIn (cs : List Char) : List Token :=
  (Scan.ofChars cs).lexemes.map Lexeme.token

/-- Behind some tokens of a text, and the blanks between them, comes another one, or the end. -/
def StandsAt (cs : List Char) (before : List Lexeme) (found : Option Token) (front : List Char) :
    Prop :=
  Laid before front ∧
    match found with
    | some t => front ++ t.written <+: cs ∧
        ∃ after, (Scan.ofChars cs).lexemes = before ++ ⟨t, .behind front⟩ :: after
    | none => front = cs ∧ (Scan.ofChars cs).lexemes = before ∧
        (Scan.ofChars cs).stop = .ok (.behind front)

/-- Some tokens begin a sentence, in which only calls that are open behind them may have wrong
    counts of arguments. But the next token goes on with none. At the end of a formula there is
    no next token. -/
def CutsOff (columns : Bool) (ts : List Token) (found : Option Token) : Prop :=
  (∃ (e : Expr) (rest : List Token), e.tokens = ts ++ rest ∧ e.IsSentenceAt columns ts.length ∧
      e.depth ≤ depthLimit) ∧
    ∀ (e : Expr) (rest : List Token), e.IsSentenceAt columns ts.length →
      e.tokens = ts ++ rest → rest.head? ≠ found

/-- Some characters of a text end in a quoted text, which begins where a token may and is still
    open. -/
def EndsInQuote (cs front : List Char) : Prop :=
  ∃ start mark body, front = start ++ mark :: body ∧ Laid (Scan.ofChars cs).lexemes start ∧
    isMark mark = true ∧ leavesOpen mark false body = true

/-- What stands in a formula behind some of its characters, where an error with a cause points. -/
def Cause.Blames (columns : Bool) (cs front : List Char) : Cause → Prop
  | unknownFunction name => Function.find? name = none ∧
      ∃ before, StandsAt cs before (some (.word name)) front ∧
        before.map Lexeme.token ++ [.word name, .symbol .openParen] <+: tokensIn cs
  | argumentCount f actual => f.accepts actual = false ∧
      ∃ before, StandsAt cs before (some (.word f.name)) front ∧
        ∃ args : List Expr, args.length = actual ∧
          before.map Lexeme.token ++ .word f.name :: .symbol .openParen ::
            (commaSeparated (Expr.tokensEach args) ++ [.symbol .closeParen]) <+: tokensIn cs
  | bareName name => columns = false ∧
      ∃ before, StandsAt cs before (some (.word name)) front ∧
        ¬before.map Lexeme.token ++ [.word name, .symbol .openParen] <+: tokensIn cs
  -- As many parentheses are open as may be, which was not exceeded before, and here is another.
  | tooDeep limit => limit = depthLimit ∧
      ∃ before t, StandsAt cs before (some t) front ∧
        (t = .symbol .openParen ∨ ∃ name, t = .word name ∧
          before.map Lexeme.token ++ [t, .symbol .openParen] <+: tokensIn cs) ∧
        opened (before.map Lexeme.token) = closed (before.map Lexeme.token) + limit ∧
        ∀ ts, ts <+: before.map Lexeme.token → opened ts ≤ closed ts + limit
  | invalidCharacter c => Laid (Scan.ofChars cs).lexemes front ∧ front ++ [c] <+: cs
  | invalidEscape => EndsInQuote cs front
  | unterminatedQuote => EndsInQuote cs front ∧ (front = cs ∨ front ++ ['\n'] <+: cs)
  | cause => ∃ before found, StandsAt cs before found front ∧ cause.Refuses found ∧
      CutsOff columns (before.map Lexeme.token) found

/-- A fault is at a position of a formula, and what stands there is to blame. -/
def Fault.PointsInto (columns : Bool) (cs : List Char) (fault : Fault) : Prop :=
  ∃ front, front <+: cs ∧ fault.position = .behind front ∧ fault.cause.Blames columns cs front

/-! ### What stands where -/

section StandsAt

variable {cs : List Char} {before after : List Lexeme}

theorem standsAt_of_lexemes {x : Lexeme} (h : (Scan.ofChars cs).lexemes = before ++ x :: after) :
    ∃ front, front <+: cs ∧ x.position = .behind front ∧
      StandsAt cs before (some x.token) front := by
  rcases (Scan.describes_ofChars cs).lexeme before x after h with
    ⟨front, rest, hcs, hlaid, hposition⟩
  refine ⟨front, ⟨_, hcs.symm⟩, hposition, hlaid, ⟨rest, ?_⟩, after, ?_⟩
  · rw [hcs, List.append_assoc]
  · rw [h, ← hposition]

theorem standsAt_end {p : Position} (h : (Scan.ofChars cs).stop = .ok p) :
    p = .behind cs ∧ StandsAt cs (Scan.ofChars cs).lexemes none cs := by
  rcases (Scan.describes_ofChars cs).stop p h with ⟨hlaid, rfl⟩
  exact ⟨rfl, hlaid, rfl, rfl, h⟩

/-- The word that was passed last. -/
theorem standsAt_of_getLast? {name : String} {p : Position}
    (h : (Scan.ofChars cs).lexemes = before ++ after)
    (hlast : before.getLast? = some ⟨.word name, p⟩) :
    ∃ first front, before = first ++ [⟨.word name, p⟩] ∧ front <+: cs ∧ p = .behind front ∧
      StandsAt cs first (some (.word name)) front ∧
        tokensIn cs = first.map Lexeme.token ++ .word name :: after.map Lexeme.token := by
  rcases List.getLast?_eq_some_iff.1 hlast with ⟨first, rfl⟩
  rw [List.append_assoc, List.singleton_append] at h
  rcases standsAt_of_lexemes h with ⟨front, hfront, hposition, hstands⟩
  refine ⟨first, front, rfl, hfront, hposition, hstands, ?_⟩
  rw [tokensIn, h, List.map_append, List.map_cons]

/-- Whether a word is called is a matter of the token behind it. -/
theorem called_prefix_iff {first ts : List Token} {name : String}
    (h : tokensIn cs = first ++ .word name :: ts) :
    first ++ [.word name, .symbol .openParen] <+: tokensIn cs ↔
      ts.head? = some (.symbol .openParen) := by
  rw [h, List.prefix_append_right_inj, List.prefix_cons_inj]
  cases ts with
  | nil => simp
  | cons t ts => simp [List.cons_prefix_cons, eq_comm]

end StandsAt

/-! ### The fault of a step -/

namespace Reading

variable {columns : Bool} {before : List Lexeme} {r : Reading}

/-- What the run over some tokens has made sure of. -/
theorem passed_of_run (hrun : before.foldlM (next columns) .start = .ok r) :
    r.Sound columns ∧ r.tokens = before.map Lexeme.token ∧ r.NamedIn before := by
  have hstart : Sound columns start := ⟨trivial, trivial⟩
  rcases sound_run hstart hrun with ⟨hr, htokens⟩
  have hnothing : NamedIn [] start := ⟨trivial, by simp [start]⟩
  exact ⟨hr, htokens, namedIn_run hstart rfl hnothing hrun⟩

/-- No more parentheses than the limit are open behind any of the tokens. -/
theorem opened_le_of_run (hrun : before.foldlM (next columns) .start = .ok r) (ts : List Token)
    (hts : ts <+: before.map Lexeme.token) : opened ts ≤ closed ts + depthLimit := by
  -- The run over all the tokens has run over these first.
  rcases List.prefix_map_iff.1 hts with ⟨first, hfirst, rfl⟩
  rcases hfirst with ⟨later, rfl⟩
  rw [List.foldlM_append] at hrun
  rcases bind_eq_ok.1 hrun with ⟨middle, hrun, _⟩
  rcases passed_of_run hrun with ⟨hmiddle, htokens, _⟩
  have hopened := middle.opened_tokens
  have hlimit := length_le_of_soundAll hmiddle.1
  rw [htokens] at hopened
  omega

/-- What was passed begins a sentence, and what is refused goes on with none. -/
theorem cutsOff_of_not_spelled (hrun : before.foldlM (next columns) .start = .ok r)
    (hword : ∀ slot name p, r.stage = .word slot name p → columns = true) {found : Option Token}
    (h : ∀ (e : Expr) (rest : List Token), e.Shaped columns →
      e.tokens = before.map Lexeme.token ++ rest → rest.head? ≠ found) :
    CutsOff columns (before.map Lexeme.token) found := by
  rcases passed_of_run hrun with ⟨hr, htokens, _⟩
  have hsentence := exists_sentence hr hword
  rw [htokens] at hsentence
  exact ⟨hsentence, fun e rest he => h e rest he.1⟩

theorem cutsOff_of_next {x : Lexeme} {fault : Fault}
    (hrun : before.foldlM (next columns) .start = .ok r)
    (hnext : next columns r x = .error fault) (hcount : fault.cause.isCount = false)
    (hword : ∀ slot name p, r.stage = .word slot name p → columns = true) :
    CutsOff columns (before.map Lexeme.token) (some x.token) := by
  refine cutsOff_of_not_spelled hrun hword fun e rest he htokens hhead => ?_
  rcases List.head?_eq_some_iff.1 hhead with ⟨rest, rfl⟩
  exact not_spelled hrun hnext hcount he rest htokens

theorem cutsOff_of_finish {p : Position} {fault : Fault}
    (hrun : before.foldlM (next columns) .start = .ok r)
    (hfinish : r.finish columns p = .error fault)
    (hword : ∀ slot name p, r.stage = .word slot name p → columns = true) :
    CutsOff columns (before.map Lexeme.token) none := by
  refine cutsOff_of_not_spelled hrun hword fun e rest he htokens hhead => ?_
  rw [List.head?_eq_none_iff.1 hhead, List.append_nil] at htokens
  exact not_spelled_end hrun hfinish he htokens

end Reading

theorem Cause.isCount_of_refuses {cause : Cause} {found : Option Token}
    (h : cause.Refuses found) : cause.isCount = false := by
  cases cause with
  | argumentCount => exact h.elim
  | tooDeep => exact h.elim
  | _ => rfl

theorem Cause.blames_of_refuses {columns : Bool} {cs front : List Char} {before : List Lexeme}
    {cause : Cause} {found : Option Token} (h : cause.Refuses found)
    (hstands : StandsAt cs before found front)
    (hcut : CutsOff columns (before.map Lexeme.token) found) : cause.Blames columns cs front := by
  cases cause with
  | unexpectedToken | expected | doubleEquals | unaryNot | parentReference | consecutiveSigns =>
      exact ⟨before, found, hstands, h, hcut⟩
  | _ => exact h.elim

section Faults

variable {columns : Bool} {cs : List Char} {fault : Fault}

/-- The fault of a call that ends with a wrong count of arguments. Its name stands as deep in
    the tokens as there are tokens before its frame. -/
theorem pointsInto_of_count {before after : List Lexeme} {x : Lexeme} {r : Reading}
    {outer : List Frame} {slot : Slot} {f : Function} {p : Position} {all : List Expr}
    (hlexemes : (Scan.ofChars cs).lexemes = before ++ x :: after)
    (htokens : r.tokens = before.map Lexeme.token)
    (hnamed : before[(Frame.tokensOf outer ++ slot.tokens).length]? = some ⟨.word f.name, p⟩)
    (htoken : x.token = .symbol .closeParen)
    (hspelled : r.tokens = Frame.tokensOf outer ++ (slot.tokens ++ .word f.name ::
      .symbol .openParen :: commaSeparated (Expr.tokensEach all)))
    (haccepts : f.accepts all.length = false) :
    Fault.PointsInto columns cs ⟨p, .argumentCount f all.length⟩ := by
  rcases List.getElem?_eq_some_iff.1 hnamed with ⟨hlt, hname⟩
  generalize hfirst : before.take (Frame.tokensOf outer ++ slot.tokens).length = first
  have hsplit : before = first ++ ⟨.word f.name, p⟩ ::
      before.drop ((Frame.tokensOf outer ++ slot.tokens).length + 1) := by
    rw [← hname, ← hfirst, ← List.drop_eq_getElem_cons hlt, List.take_append_drop]
  have hbefore : first.map Lexeme.token = Frame.tokensOf outer ++ slot.tokens := by
    rw [← hfirst, List.map_take, ← htokens, hspelled, ← List.append_assoc, List.take_left]
  have hlexemes' := hlexemes
  rw [hsplit, List.append_assoc, List.cons_append] at hlexemes'
  rcases standsAt_of_lexemes hlexemes' with ⟨front, hfront, hposition, hstands⟩
  refine ⟨front, hfront, hposition, haccepts, first, hstands, all, rfl,
    after.map Lexeme.token, ?_⟩
  rw [hbefore, tokensIn, hlexemes, List.map_append, ← htokens, hspelled, List.map_cons, htoken]
  simp only [List.append_assoc, List.cons_append, List.nil_append]

/-- The fault of a step at one of the tokens of a formula. -/
theorem pointsInto_of_next {before after : List Lexeme} {x : Lexeme} {r : Reading}
    (hlexemes : (Scan.ofChars cs).lexemes = before ++ x :: after)
    (hrun : before.foldlM (Reading.next columns) .start = .ok r)
    (hnext : Reading.next columns r x = .error fault) : fault.PointsInto columns cs := by
  rcases Reading.passed_of_run hrun with ⟨hr, htokens, hframes, hword⟩
  have hstep := Reading.step_next hr x
  have hopened := r.opened_tokens
  have hlimit := Reading.length_le_of_soundAll hr.1
  rw [hnext] at hstep
  cases hstep with
  | refused hcause hcolumns =>
      have hcut := Reading.cutsOff_of_next hrun hnext (Cause.isCount_of_refuses hcause) hcolumns
      rcases standsAt_of_lexemes hlexemes with ⟨front, hfront, hposition, hstands⟩
      exact ⟨front, hfront, hposition, Cause.blames_of_refuses hcause hstands hcut⟩
  | deepGroup htoken hdeep =>
      rcases standsAt_of_lexemes hlexemes with ⟨front, hfront, hposition, hstands⟩
      refine ⟨front, hfront, hposition, rfl, before, x.token, hstands, Or.inl htoken, ?_,
        Reading.opened_le_of_run hrun⟩
      rw [← htokens]
      omega
  | @deepCall slot name p hstage htoken hdeep =>
      rcases standsAt_of_getLast? hlexemes (hword slot name p hstage) with
        ⟨first, front, rfl, hfront, hposition, hstands, htokensIn⟩
      have hcalled := (called_prefix_iff htokensIn).2 (congrArg some htoken)
      refine ⟨front, hfront, hposition, rfl, first, .word name, hstands,
        Or.inr ⟨name, rfl, hcalled⟩, ?_, fun ts hts => Reading.opened_le_of_run hrun ts ?_⟩
      -- The word itself is no parenthesis.
      · rw [htokens, List.map_append, opened_append, closed_append] at hopened
        change opened (first.map Lexeme.token) + 0 = closed (first.map Lexeme.token) + 0 + _
          at hopened
        omega
      · rw [List.map_append]
        exact hts.trans (List.prefix_append _ _)
  | @unknown slot name p hstage htoken hfind =>
      rcases standsAt_of_getLast? hlexemes (hword slot name p hstage) with
        ⟨first, front, _, hfront, hposition, hstands, htokensIn⟩
      have hcalled := (called_prefix_iff htokensIn).2 (congrArg some htoken)
      exact ⟨front, hfront, hposition, hfind, first, hstands, hcalled⟩
  | @bare slot name p hstage htoken hcolumns =>
      rcases standsAt_of_getLast? hlexemes (hword slot name p hstage) with
        ⟨first, front, _, hfront, hposition, hstands, htokensIn⟩
      refine ⟨front, hfront, hposition, hcolumns, first, hstands, fun hcalled => htoken ?_⟩
      exact Option.some.inj ((called_prefix_iff htokensIn).1 hcalled)
  | count all hframe htoken hspelled haccepts =>
      rw [hframe] at hframes
      exact pointsInto_of_count hlexemes htokens hframes.1 htoken hspelled haccepts

theorem pointsInto_of_finish {p : Position} {r : Reading}
    (hrun : (Scan.ofChars cs).lexemes.foldlM (Reading.next columns) .start = .ok r)
    (hstop : (Scan.ofChars cs).stop = .ok p) (hfinish : r.finish columns p = .error fault) :
    fault.PointsInto columns cs := by
  rcases Reading.finish_eq_error hfinish with ⟨rfl, hcause, hcolumns⟩ |
    ⟨slot, name, hstage, hcolumns, hcause⟩
  · rcases standsAt_end hstop with ⟨hposition, hstands⟩
    have hcut := Reading.cutsOff_of_finish hrun hfinish hcolumns
    exact ⟨cs, List.prefix_refl cs, hposition, Cause.blames_of_refuses hcause hstands hcut⟩
  · rcases Reading.passed_of_run hrun with ⟨_, _, _, hword⟩
    rcases standsAt_of_getLast? (List.append_nil _).symm (hword slot name _ hstage) with
      ⟨first, front, _, hfront, hposition, hstands, htokensIn⟩
    refine ⟨front, hfront, hposition, ?_⟩
    rw [hcause]
    refine ⟨hcolumns, first, hstands, fun hcalled => ?_⟩
    cases (called_prefix_iff htokensIn).1 hcalled

/-- The fault of a scan. -/
theorem pointsInto_of_stop (hstop : (Scan.ofChars cs).stop = .error fault) :
    fault.PointsInto columns cs := by
  rcases (Scan.describes_ofChars cs).fault fault hstop with
    ⟨start, c, rest, good, cause, hcs, hlaid, htoken, rfl⟩
  rw [List.nil_append] at hlaid
  rcases tokenAt_eq_error htoken with ⟨rfl, rfl⟩ | ⟨hmark, more, rfl, hopen, hcause⟩
  · refine ⟨start, ⟨_, hcs.symm⟩, ?_, hlaid, rest, ?_⟩
    · rw [List.take_zero, List.append_nil]
    · rw [hcs, List.append_assoc, List.singleton_append]
  · have hfront : cs = start ++ c :: rest.take more ++ rest.drop more := by
      rw [hcs, List.append_assoc, List.cons_append, List.take_append_drop]
    have hquote : EndsInQuote cs (start ++ c :: rest.take more) :=
      ⟨start, c, rest.take more, rfl, hlaid, hmark, hopen⟩
    refine ⟨start ++ c :: rest.take more, ⟨_, hfront.symm⟩, rfl, ?_⟩
    rcases hcause with ⟨rfl, hfeed⟩ | rfl
    -- A text that is not terminated goes on to the end of the formula or of its line.
    · refine ⟨hquote, ?_⟩
      cases hafter : rest.drop more with
      | nil =>
          rw [hafter, List.append_nil] at hfront
          exact Or.inl hfront.symm
      | cons d later =>
          rw [hafter] at hfeed hfront
          cases hfeed d rfl
          exact Or.inr ⟨later, by rw [hfront, List.append_assoc, List.singleton_append]⟩
    · exact hquote

/-- The fault of a formula. -/
theorem Expr.pointsInto_of_ofScan (h : Expr.ofScan columns (Scan.ofChars cs) = .error fault) :
    fault.PointsInto columns cs := by
  rcases Expr.ofScan_eq_error h with ⟨before, x, after, r, hlexemes, hrun, hnext⟩ | hstop |
    ⟨r, p, hrun, hstop, hfinish⟩
  · exact pointsInto_of_next hlexemes hrun hnext
  · exact pointsInto_of_stop hstop
  · exact pointsInto_of_finish hrun hstop hfinish

end Faults

/-- If a compiler fails on a formula, its error points into the formula, at what is to blame. -/
theorem Compiler.pointsInto_of_compile (c : Compiler) {formula subject : String} {place : Place}
    {e : Error} (h : (c.compile formula place subject).1 = .error e) :
    e.place = place ∧ e.fault.PointsInto place.hasColumns formula.toList := by
  rw [c.fst_compile] at h
  cases hraw : raw? formula with
  | some text =>
      rw [compile_of_raw hraw] at h
      cases h
  | none =>
      rw [compile_of_not_raw hraw, parse] at h
      cases hread : Expr.ofScan place.hasColumns (Scan.ofChars formula.toList) with
      | ok expr =>
          rw [hread] at h
          cases h
      | error fault =>
          rw [hread] at h
          cases h
          exact ⟨rfl, Expr.pointsInto_of_ofScan hread⟩

/-- A number where `pi`, which takes no arguments but is still open, would have to end. -/
theorem Compiler.pointsInto_of_compile_number :
    (Compiler.new.compile "'é' =\n  max(1, pi(2 3" .relevant "q").1 =
        .error ⟨.relevant, ⟨2, 15⟩, .expected .moreArguments (some (.number "3"))⟩ ∧
      Fault.PointsInto false "'é' =\n  max(1, pi(2 3".toList
        ⟨⟨2, 15⟩, .expected .moreArguments (some (.number "3"))⟩ := by
  have h : (Compiler.new.compile "'é' =\n  max(1, pi(2 3" .relevant "q").1 =
      .error ⟨.relevant, ⟨2, 15⟩, .expected .moreArguments (some (.number "3"))⟩ := by rfl
  exact ⟨h, (pointsInto_of_compile .new h).2⟩

end Formula

end Questionnaire
