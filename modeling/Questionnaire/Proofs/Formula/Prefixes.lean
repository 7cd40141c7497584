import Questionnaire.Proofs.Formula.Completeness

/-!
# What a Formula May Begin With

The reading of a formula stops at the first token that cannot stand there, and this is
meant literally. The tokens before it begin some sentence: the term that is missing can be
written, and every open parenthesis and call can be closed, none of which nests any deeper.
The token itself does not go on with any: if it did, the tokens of that sentence would have
been read past it.

The counts of arguments are a different matter. `pi(1` begins no sentence, since `pi` takes
no arguments, but that is not known until the call has ended. So the counts of calls that
are still open are left out where sentences are asked for, and of all calls where they are
ruled out.

## Main definitions

* `Expr.FitsAt`: A part of a formula that fits, but for the counts of open calls.

## Theorems

* `Stage.exists_fits`: The term that is missing can be written.
* `Reading.exists_sentence`: What has been read begins a sentence.
* `Reading.not_spelled`: A token that is refused goes on with none.
* `Reading.not_spelled_end`: Nor does the end of the formula.
-/

namespace Questionnaire

namespace Formula

/-! ### What can follow -/

/-- An expression that begins at an index, inside `level` frames, fits, but for the counts of
    calls that are open at the token of the index `i`. -/
structure Expr.FitsAt (columns : Bool) (i start level : Nat) (e : Expr) : Prop where
  shaped : e.Shaped columns
  counted : ∀ call ∈ e.calls start, call.IsOpenAt i ∨ call.IsRight
  depth : e.depth + level ≤ depthLimit

/-- The same for a term. -/
structure Term.FitsAt (columns : Bool) (i start level : Nat) (t : Term) : Prop where
  shaped : t.Shaped columns
  counted : ∀ call ∈ t.calls start, call.IsOpenAt i ∨ call.IsRight
  depth : t.depth + level ≤ depthLimit

section FitsAt

variable {columns : Bool} {i start level : Nat} {slot : Slot} {frames : List Frame}

theorem Expr.Fits.fitsAt {e : Expr} (h : e.Fits columns level) :
    e.FitsAt columns i start level := by
  rcases (Expr.allowed_iff start e).1 h.1 with ⟨hshaped, hright⟩
  exact ⟨hshaped, fun call hcall => Or.inr (hright call hcall), h.2⟩

/-- Filling a sound place with a term that fits, behind what is to its left. -/
theorem Slot.fitsAt_fill {t : Option Sign → Term} (hs : slot.Sound columns level)
    (ht : ∀ first, first + (Sign.tokens slot.sign).length = start + slot.tokens.length →
      (t slot.sign).FitsAt columns i first level)
    (hsign : (t slot.sign).isSigned = slot.sign.isSome) :
    (slot.fill t).FitsAt columns i start level := by
  rcases slot with ⟨left, sign⟩
  cases left with
  | none =>
      rcases ht start rfl with ⟨hshaped, hcounted, hdepth⟩
      exact ⟨hshaped, hcounted, hdepth⟩
  | some before =>
      rcases before with ⟨e, op⟩
      rcases hs with ⟨he, hop⟩
      have heAt : e.FitsAt columns i start level := he.fitsAt
      rcases ht (start + e.tokens.length + 1) (by simp [Slot.tokens]; omega) with
        ⟨hshaped, hcounted, hdepth⟩
      refine ⟨⟨heAt.shaped, hshaped, fun hs => ?_⟩, ?_, ?_⟩
      · rw [hsign, hop hs]
        rfl
      · intro call hcall
        rcases List.mem_append.1 hcall with hcall | hcall
        · exact heAt.counted call hcall
        · exact hcounted call hcall
      · have hleft := heAt.depth
        change max e.depth (t sign).depth + level ≤ depthLimit
        change (t sign).depth + level ≤ depthLimit at hdepth
        omega

/-- An expression in parentheses. -/
theorem Slot.fitsAt_group {e : Expr} (hs : slot.Sound columns level)
    (he : e.FitsAt columns i (start + slot.tokens.length + 1) (level + 1)) :
    (slot.fill (.group · e)).FitsAt columns i start level := by
  refine fitsAt_fill hs (fun first hfirst => ⟨he.shaped, ?_, ?_⟩) rfl
  · intro call hcall
    refine he.counted call ?_
    rw [← hfirst]
    exact hcall
  · have hdepth := he.depth
    simp only [Term.depth]
    omega

theorem Expr.callsEach_append (start : Nat) (es : List Expr) (e : Expr) :
    Expr.callsEach start (es ++ [e]) = Expr.callsEach start es ++
      e.calls (start + (es.flatMap fun a => a.tokens ++ [.symbol .comma]).length) := by
  induction es generalizing start with
  | nil => simp [Expr.callsEach]
  | cons a es ih =>
      rw [List.cons_append, Expr.callsEach, ih, Expr.callsEach, List.append_assoc,
        List.flatMap_cons, List.length_append, List.length_append, List.length_singleton]
      simp only [Nat.add_assoc]

theorem Expr.shapedEach_append {es : List Expr} {e : Expr} :
    Expr.ShapedEach columns (es ++ [e]) ↔ Expr.ShapedEach columns es ∧ e.Shaped columns := by
  induction es with
  | nil => simp [Expr.ShapedEach]
  | cons a es ih => rw [List.cons_append, Expr.ShapedEach, ih, Expr.ShapedEach, and_assoc]

/-- A call that is open where a formula is cut, with one more argument. -/
theorem Slot.fitsAt_call {f : Function} {p : Position} {args : List Expr} {e : Expr}
    (hcall : (Frame.call slot f p args).Sound columns level)
    (he : e.FitsAt columns i (start + (Frame.call slot f p args).tokens.length) (level + 1))
    (hfirst : start + (Frame.call slot f p args).tokens.length ≤ i)
    (hlast : i ≤ start + (Frame.call slot f p args).tokens.length + e.tokens.length) :
    (slot.fill (.call · f (args ++ [e]))).FitsAt columns i start level := by
  rcases hcall with ⟨hs, hfind, hargs, hargsDepth⟩
  have hlength : (Frame.call slot f p args).tokens.length = slot.tokens.length + 2 +
      (args.flatMap fun a => a.tokens ++ [.symbol .comma]).length := by
    simp only [Frame.tokens, List.length_append, List.length_cons]
    omega
  rw [hlength] at he hfirst hlast
  refine fitsAt_fill hs (fun first hstart => ⟨⟨hfind, ?_⟩, ?_, ?_⟩) rfl
  · exact Expr.shapedEach_append.2 ⟨((Expr.allowedEach_iff 0 args).1 hargs).1, he.shaped⟩
  · intro call hcall
    rcases List.mem_cons.1 hcall with rfl | hcall
    -- The call itself: its name and parenthesis have been passed, and its end has not.
    · left
      rw [CallSite.IsOpenAt, commaSeparated_append, List.length_append]
      dsimp only
      omega
    · rw [Expr.callsEach_append] at hcall
      rcases List.mem_append.1 hcall with hcall | hcall
      · exact Or.inr (((Expr.allowedEach_iff _ args).1 hargs).2 call hcall)
      · refine he.counted call ?_
        rw [← Nat.add_assoc, ← Nat.add_assoc, ← hstart]
        exact hcall
  · have hdepth := he.depth
    simp only [Term.depth, Expr.depthEach_append]
    omega

/-- A term without parts that is missing. -/
theorem Slot.fits_atom {a : Atom} (hf : Frame.SoundAll columns frames)
    (hs : slot.Sound columns frames.length) (ha : (Term.atom slot.sign a).Allowed columns) :
    (slot.fill (.atom · a)).Fits columns frames.length ∧
      (slot.fill (.atom · a)).tokens = slot.tokens ++ a.tokens := by
  refine ⟨Slot.fits_fill hs ⟨ha, ?_⟩ rfl, Slot.tokens_fill rfl⟩
  simp only [Term.depth, Nat.zero_add]
  exact Reading.length_le_of_soundAll hf

/-- Inside the innermost frame, an expression can be completed. A word that has been read is
    the name of a column, where there are any. -/
theorem Stage.exists_fits {stage : Stage} (hf : Frame.SoundAll columns frames)
    (hstage : stage.Sound columns frames)
    (hword : ∀ slot name p, stage = .word slot name p → columns = true) :
    ∃ (e : Expr) (rest : List Token), e.tokens = stage.tokens ++ rest ∧
      e.Fits columns frames.length := by
  -- Wherever a term is missing, one without parts will do, as long as it may begin with what
  -- has been read of it.
  have hatom : ∀ {slot : Slot} (a : Atom) (rest : List Token), slot.Sound columns frames.length →
      (Term.atom slot.sign a).Allowed columns → stage.tokens ++ rest = slot.tokens ++ a.tokens →
      ∃ (e : Expr) (rest : List Token), e.tokens = stage.tokens ++ rest ∧
        e.Fits columns frames.length := by
    intro slot a rest hs ha hrest
    rcases slot.fits_atom hf hs ha with ⟨hfits, htokens⟩
    exact ⟨_, rest, by rw [htokens, hrest], hfits⟩
  cases stage with
  | operand slot => exact hatom (.number "0") [.number "0"] hstage trivial rfl
  | arguments =>
      have hfirst : Slot.first.Sound columns frames.length := trivial
      exact hatom (.number "0") [.number "0"] hfirst trivial rfl
  | brace slot =>
      refine hatom (.field "a") [.symbol .openBrace, .word "a", .symbol .closeBrace] hstage
        trivial ?_
      rw [Stage.tokens, List.append_assoc]
      rfl
  | fieldName slot =>
      refine hatom (.field "a") [.word "a", .symbol .closeBrace] hstage trivial ?_
      rw [Stage.tokens, List.append_assoc]
      rfl
  | closingBrace slot name =>
      refine hatom (.field name) [.symbol .closeBrace] hstage trivial ?_
      rw [Stage.tokens, List.append_assoc]
      rfl
  | word slot name p =>
      rcases hstage with ⟨hs, hTrue, hFalse⟩
      have hcolumns := hword slot name p rfl
      exact hatom (.column name) [] hs ⟨hcolumns, hTrue, hFalse⟩ (List.append_nil _)
  | operator e => exact ⟨e, [], (List.append_nil _).symm, hstage⟩

/-- The innermost frame around an expression can be closed. The formula is cut somewhere
    inside the expression or at its end. -/
theorem Frame.exists_term {frame : Frame} (hframe : frame.Sound columns level) {e : Expr}
    (he : e.FitsAt columns i (start + frame.tokens.length) (level + 1))
    (hfirst : start + frame.tokens.length ≤ i)
    (hlast : i ≤ start + frame.tokens.length + e.tokens.length) :
    ∃ whole : Expr, whole.tokens = frame.tokens ++ e.tokens ++ [.symbol .closeParen] ∧
      whole.FitsAt columns i start level := by
  cases frame with
  | group slot =>
      refine ⟨slot.fill (.group · e), ?_, Slot.fitsAt_group hframe.1 ?_⟩
      · rw [Slot.tokens_fill (t := (.group · e)) rfl]
        simp [Frame.tokens]
      · rw [Frame.tokens, List.length_append, List.length_singleton, ← Nat.add_assoc] at he
        exact he
  | call slot f p args =>
      refine ⟨slot.fill (.call · f (args ++ [e])), ?_, Slot.fitsAt_call hframe he hfirst hlast⟩
      rw [Slot.tokens_fill (t := (.call · f (args ++ [e]))) rfl, commaSeparated_append]
      simp [Frame.tokens]

/-- The frames around an expression can be closed, one after another. The formula is cut
    somewhere inside the expression or at its end. -/
theorem Frame.exists_closed (hf : Frame.SoundAll columns frames) {e : Expr}
    (he : e.FitsAt columns i (Frame.tokensOf frames).length frames.length)
    (hfirst : (Frame.tokensOf frames).length ≤ i)
    (hlast : i ≤ (Frame.tokensOf frames).length + e.tokens.length) :
    ∃ (whole : Expr) (rest : List Token),
      whole.tokens = Frame.tokensOf frames ++ e.tokens ++ rest ∧
        whole.FitsAt columns i 0 0 := by
  induction frames generalizing e with
  | nil => exact ⟨e, [], by simp [Frame.tokensOf], he⟩
  | cons frame outer ih =>
      rcases hf with ⟨hframe, houter⟩
      rw [Frame.tokensOf, List.length_append] at hfirst hlast he
      rcases Frame.exists_term hframe he hfirst hlast with ⟨term, hterm, htermFits⟩
      have hlength := congrArg List.length hterm
      simp only [List.length_append, List.length_singleton] at hlength
      -- The closing parenthesis comes behind the cut, which is so inside the whole term.
      rcases ih houter htermFits (by omega) (by omega) with ⟨whole, rest, hwhole, hwholeFits⟩
      refine ⟨whole, .symbol .closeParen :: rest, ?_, hwholeFits⟩
      rw [hwhole, hterm, Frame.tokensOf]
      simp only [List.append_assoc, List.singleton_append]

/-- What has been read begins a sentence, but for the counts of the calls that are open. If
    the last token is a word, it has to be the name of a column. -/
theorem Reading.exists_sentence {r : Reading} (hr : r.Sound columns)
    (hword : ∀ slot name p, r.stage = .word slot name p → columns = true) :
    ∃ (e : Expr) (rest : List Token), e.tokens = r.tokens ++ rest ∧
      e.IsSentenceAt columns r.tokens.length ∧ e.depth ≤ depthLimit := by
  rcases Stage.exists_fits hr.1 hr.2 hword with ⟨e, rest, htokens, hfits⟩
  have hlength := congrArg List.length htokens
  rw [List.length_append] at hlength
  rcases Frame.exists_closed (i := r.tokens.length) hr.1 hfits.fitsAt
    (by rw [Reading.tokens, List.length_append]; omega)
    (by rw [Reading.tokens, List.length_append]; omega) with ⟨whole, after, hwhole, hwholeFits⟩
  refine ⟨whole, rest ++ after, ?_, ⟨hwholeFits.shaped, hwholeFits.counted⟩, hwholeFits.depth⟩
  rw [hwhole, htokens, Reading.tokens]
  simp only [List.append_assoc]

end FitsAt

/-! ### What cannot follow -/

namespace Reading

variable {columns : Bool} {before : List Lexeme} {r : Reading} {fault : Fault}

/-- A token that is refused, for another reason than a wrong count, goes on with no sentence,
    whatever the counts. -/
theorem not_spelled {x : Lexeme} (hrun : before.foldlM (next columns) .start = .ok r)
    (hnext : next columns r x = .error fault) (hcount : fault.cause.isCount = false) {e : Expr}
    (he : e.Shaped columns) (rest : List Token) :
    e.tokens ≠ before.map Lexeme.token ++ x.token :: rest := by
  intro htokens
  -- The sentence, with the tokens up to the refused one where they are in the formula.
  have hlead := Expr.leads_tokens true columns e [] he (fun h => by cases h)
    (before ++ x :: rest.map fun t => ⟨t, .start⟩) (by simp [htokens, Function.comp_def])
  have hfault : (before ++ x :: rest.map fun t => (⟨t, .start⟩ : Lexeme)).foldlM (next columns)
      .start = .error fault := by
    rw [List.foldlM_append, hrun]
    change (x :: rest.map fun t => (⟨t, .start⟩ : Lexeme)).foldlM (next columns) r = _
    rw [List.foldlM_cons, hnext]
    rfl
  rcases hlead with ⟨r', hr', _⟩ | ⟨_, fault', hfault', hcount'⟩
  · cases hfault.symm.trans hr'
  · -- A sentence that is not read fails for a count.
    cases hfault.symm.trans hfault'
    exact absurd (hcount.symm.trans hcount') Bool.false_ne_true

/-- The end of a formula that is refused is the end of no sentence. -/
theorem not_spelled_end {p : Position} (hrun : before.foldlM (next columns) .start = .ok r)
    (hfinish : r.finish columns p = .error fault) {e : Expr} (he : e.Shaped columns) :
    e.tokens ≠ before.map Lexeme.token := by
  intro htokens
  rcases Expr.leads_tokens true columns e [] he (fun h => by cases h) before htokens.symm with
    ⟨r', hr', hspells⟩ | ⟨_, fault', hfault', _⟩
  · cases hrun.symm.trans hr'
    cases hfinish.symm.trans hspells.finish_eq
  · cases hrun.symm.trans hfault'

end Reading

end Formula

end Questionnaire
