import Questionnaire.Formula.Expr.Reading

/-!
# What a Reading Has Read

A reading keeps the open parentheses and calls and the stage inside the innermost
one, but not the tokens it has passed. They can be told from it all the same:
every frame and every stage stands for the tokens that led there, and each step
adds the one token it takes. So once a formula ends with no frame open, the
expression that is left spells exactly the tokens of the formula.

The rules about signs, calls and columns of choices are checked when a token is
taken, long before the expression they belong to is complete. `Reading.Sound`
says what has been made sure of so far, part by part, and how deep every part
may still nest in the place where it stands.

## Main definitions

* `Slot.tokens`, `Frame.tokens`, `Stage.tokens`: The tokens behind a part of a
  reading.
* `Reading.tokens`: All tokens that a reading has passed.
* `Expr.Fits`: An expression is allowed and nests no deeper than the limit.
* `Reading.Sound`: What a reading has made sure of.

## Theorems

* `Slot.tokens_fill`: Filling a place appends the term.
* `Slot.fits_fill`: Filling a sound place gives an expression that fits.
* `Reading.sound_next`: A step keeps a reading sound and adds its token.
* `Reading.sound_run`: So does a run.
* `Expr.sound_ofScan`: A scan that spells an expression spells just that one.
-/

namespace Questionnaire

namespace Formula

/-- The tokens before the term in a place. -/
def Slot.tokens (slot : Slot) : List Token :=
  (match slot.left with
    | some (e, op) => e.tokens ++ [op.token]
    | none => []) ++ Sign.tokens slot.sign

/-- The tokens that opened a frame, with the arguments that a call has so far. -/
def Frame.tokens : Frame → List Token
  | .group slot => slot.tokens ++ [.symbol .openParen]
  | .call slot f _ args =>
    slot.tokens ++ .word f.name :: .symbol .openParen ::
      args.flatMap fun a => a.tokens ++ [.symbol .comma]

/-- The tokens passed since the innermost frame was opened, or since its last
    argument. -/
def Stage.tokens : Stage → List Token
  | .operand slot => slot.tokens
  | .arguments => []
  | .brace slot => slot.tokens ++ [.symbol .dollar]
  | .fieldName slot => slot.tokens ++ [.symbol .dollar, .symbol .openBrace]
  | .closingBrace slot name =>
    slot.tokens ++ [.symbol .dollar, .symbol .openBrace, .word name]
  | .word slot name _ => slot.tokens ++ [.word name]
  | .operator e => e.tokens

/-- The tokens that opened several frames, of which the innermost is the first. -/
def Frame.tokensOf : List Frame → List Token
  | [] => []
  | frame :: outer => Frame.tokensOf outer ++ frame.tokens

/-- The tokens that a reading has passed. -/
def Reading.tokens (r : Reading) : List Token :=
  Frame.tokensOf r.frames ++ r.stage.tokens

/-- An expression is allowed, and inside `level` frames it keeps to the limit of
    depth. -/
def Expr.Fits (columns : Bool) (level : Nat) (e : Expr) : Prop :=
  e.Allowed columns ∧ e.depth + level ≤ depthLimit

/-- The same for a term. -/
def Term.Fits (columns : Bool) (level : Nat) (t : Term) : Prop :=
  t.Allowed columns ∧ t.depth + level ≤ depthLimit

/-- The expression to the left of a place fits, and no sign in the place follows an
    operator that looks like one. -/
def Slot.Sound (columns : Bool) (level : Nat) (slot : Slot) : Prop :=
  match slot.left with
  | some (e, op) => e.Fits columns level ∧ (op.isSign = true → slot.sign = none)
  | none => True

/-- A frame inside `level` others is sound: it keeps to the limit of depth, its place
    is sound, and a call is of a function of the table with arguments that fit
    inside it. -/
def Frame.Sound (columns : Bool) (level : Nat) : Frame → Prop
  | .group slot => slot.Sound columns level ∧ level + 1 ≤ depthLimit
  | .call slot f _ args =>
    slot.Sound columns level ∧ Function.find? f.name = some f ∧
      Expr.AllowedEach columns args ∧ Expr.depthEach args + (level + 1) ≤ depthLimit

/-- Every frame is sound in the frames outside of it. -/
def Frame.SoundAll (columns : Bool) : List Frame → Prop
  | [] => True
  | frame :: outer => frame.Sound columns outer.length ∧ Frame.SoundAll columns outer

/-- A stage inside some frames is sound. -/
def Stage.Sound (columns : Bool) (frames : List Frame) : Stage → Prop
  | .operand slot | .brace slot | .fieldName slot | .closingBrace slot _ =>
    slot.Sound columns frames.length
  | .arguments => ∃ slot f p outer, frames = .call slot f p [] :: outer
  | .word slot name _ => slot.Sound columns frames.length ∧ name ≠ "True" ∧ name ≠ "False"
  | .operator e => e.Fits columns frames.length

/-- What a reading has made sure of: its frames and its stage are sound. -/
def Reading.Sound (columns : Bool) (r : Reading) : Prop :=
  Frame.SoundAll columns r.frames ∧ r.stage.Sound columns r.frames

theorem Sign.eq_of_ofToken {t : Token} {sign : Sign} (h : Sign.ofToken t = some sign) :
    t = .symbol sign.symbol := by
  unfold Sign.ofToken at h
  split at h
  · cases h
    rfl
  · cases h
    rfl
  · cases h

theorem Operator.eq_of_ofToken {t : Token} {op : Operator} (h : Operator.ofToken t = some op) :
    t = op.token := by
  unfold Operator.ofToken at h
  split at h <;> cases h <;> rfl

theorem Expr.tokensEach_eq_map (es : List Expr) : Expr.tokensEach es = es.map Expr.tokens := by
  induction es with
  | nil => rfl
  | cons e es ih => rw [Expr.tokensEach, ih, List.map_cons]

/-- The commas after the arguments before the last one are those between all of
    them. -/
theorem commaSeparated_append (es : List Expr) (e : Expr) :
    commaSeparated (Expr.tokensEach (es ++ [e])) =
      es.flatMap (fun a => a.tokens ++ [.symbol .comma]) ++ e.tokens := by
  rw [Expr.tokensEach_eq_map]
  induction es with
  | nil => rfl
  | cons a es ih =>
      cases es with
      | nil => simp [commaSeparated]
      | cons b es =>
          rw [List.flatMap_cons, List.append_assoc, ← ih]
          simp [commaSeparated]

theorem Expr.allowedEach_append {columns : Bool} {es : List Expr} {e : Expr} :
    Expr.AllowedEach columns (es ++ [e]) ↔ Expr.AllowedEach columns es ∧ e.Allowed columns := by
  induction es with
  | nil => simp [Expr.AllowedEach]
  | cons a es ih => rw [List.cons_append, Expr.AllowedEach, ih, Expr.AllowedEach, and_assoc]

theorem Expr.depthEach_append (es : List Expr) (e : Expr) :
    Expr.depthEach (es ++ [e]) = max (Expr.depthEach es) e.depth := by
  induction es with
  | nil => simp [Expr.depthEach]
  | cons a es ih => rw [List.cons_append, Expr.depthEach, ih, Expr.depthEach, Nat.max_assoc]

/-- Filling a place appends the tokens of the term behind its sign. -/
theorem Slot.tokens_fill {slot : Slot} {t : Option Sign → Term} {body : List Token}
    (h : (t slot.sign).tokens = Sign.tokens slot.sign ++ body) :
    (slot.fill t).tokens = slot.tokens ++ body := by
  rcases slot with ⟨left, sign⟩
  cases left with
  | none => simp only [Slot.fill, Slot.tokens, Expr.tokens, h, List.nil_append]
  | some before =>
      rcases before with ⟨e, op⟩
      simp only [Slot.fill, Slot.tokens, Expr.tokens, h, List.append_assoc, List.cons_append,
        List.nil_append]

/-- Filling a sound place with a term that fits gives an expression that fits. -/
theorem Slot.fits_fill {columns : Bool} {level : Nat} {slot : Slot} {t : Option Sign → Term}
    (hs : slot.Sound columns level) (ht : (t slot.sign).Fits columns level)
    (hsign : (t slot.sign).isSigned = slot.sign.isSome) :
    (slot.fill t).Fits columns level := by
  rcases slot with ⟨left, sign⟩
  rcases ht with ⟨hallowed, hdepth⟩
  cases left with
  | none => exact ⟨hallowed, hdepth⟩
  | some before =>
      rcases before with ⟨e, op⟩
      rcases hs with ⟨⟨heAllowed, heDepth⟩, hop⟩
      refine ⟨⟨heAllowed, hallowed, fun hs => ?_⟩, ?_⟩
      · rw [hsign, hop hs]
        rfl
      · change max e.depth (t sign).depth + level ≤ depthLimit
        change (t sign).depth + level ≤ depthLimit at hdepth
        omega

namespace Reading

variable {columns : Bool} {frames : List Frame} {slot : Slot} {x : Lexeme} {r r' : Reading}

/-- A complete term ends the stage: the reading stands behind an expression that
    fits, and the tokens of the term have been added. -/
theorem sound_term {t : Option Sign → Term} {body : List Token}
    (hf : Frame.SoundAll columns frames) (hs : slot.Sound columns frames.length)
    (ht : (t slot.sign).Fits columns frames.length)
    (hsign : (t slot.sign).isSigned = slot.sign.isSome)
    (htokens : (t slot.sign).tokens = Sign.tokens slot.sign ++ body) :
    Reading.Sound columns ⟨frames, .operator (slot.fill t)⟩ ∧
      Reading.tokens ⟨frames, .operator (slot.fill t)⟩ =
        Frame.tokensOf frames ++ slot.tokens ++ body := by
  refine ⟨⟨hf, Slot.fits_fill hs ht hsign⟩, ?_⟩
  simp only [Reading.tokens, Stage.tokens, Slot.tokens_fill htokens, List.append_assoc]

theorem length_le_of_soundAll (hf : Frame.SoundAll columns frames) :
    frames.length ≤ depthLimit := by
  cases frames with
  | nil => exact Nat.zero_le _
  | cons frame outer =>
      cases frame with
      | group slot => exact hf.1.2
      | call slot f p args =>
          have hdepth := hf.1.2.2.2
          rw [List.length_cons]
          omega

/-- Terms without parts nest nothing, so all that is asked of them is that they are
    allowed. -/
theorem sound_atom {a : Atom} (hf : Frame.SoundAll columns frames)
    (hs : slot.Sound columns frames.length) (ha : (Term.atom slot.sign a).Allowed columns) :
    Reading.Sound columns ⟨frames, .operator (slot.fill (.atom · a))⟩ ∧
      Reading.tokens ⟨frames, .operator (slot.fill (.atom · a))⟩ =
        Frame.tokensOf frames ++ slot.tokens ++ a.tokens := by
  refine sound_term hf hs ⟨ha, ?_⟩ rfl rfl
  simp only [Term.depth, Nat.zero_add]
  exact length_le_of_soundAll hf

/-- Opening a frame keeps a reading sound, if the frame itself is. -/
theorem sound_openFrame {frame : Frame} {stage : Stage} {p : Position}
    (h : openFrame frames frame stage p = .ok r') (hf : Frame.SoundAll columns frames)
    (hframe : frames.length + 1 ≤ depthLimit → frame.Sound columns frames.length)
    (hstage : stage.Sound columns (frame :: frames)) :
    r'.Sound columns ∧ r'.tokens = Frame.tokensOf frames ++ frame.tokens ++ stage.tokens := by
  unfold openFrame at h
  split at h
  case isTrue hlevel =>
    cases h
    exact ⟨⟨⟨hframe hlevel, hf⟩, hstage⟩, rfl⟩
  case isFalse => cases h

theorem sound_operand (hf : Frame.SoundAll columns frames)
    (hs : slot.Sound columns frames.length) (h : operand frames slot x = .ok r') :
    r'.Sound columns ∧ r'.tokens = Frame.tokensOf frames ++ slot.tokens ++ [x.token] := by
  unfold operand at h
  cases hsign : Sign.ofToken x.token with
  | some sign =>
      simp only [hsign] at h
      -- A sign: from now on the place has one.
      cases hfollows : slot.followsSign with
      | true => simp [hfollows] at h
      | false =>
          simp only [hfollows, Bool.false_eq_true, if_false, Except.ok.injEq] at h
          subst h
          rw [Sign.eq_of_ofToken hsign]
          rcases slot with ⟨left, sign'⟩
          -- The place had no sign, and no operator that looks like one stands before it.
          simp only [Slot.followsSign, Bool.or_eq_false_iff, Option.isSome_eq_false_iff,
            Option.isNone_iff_eq_none] at hfollows
          rcases hfollows with ⟨rfl, hop⟩
          refine ⟨⟨hf, ?_⟩, ?_⟩
          · cases left with
            | none => trivial
            | some before =>
                rcases before with ⟨e, op⟩
                have hop : op.isSign = false := hop
                exact ⟨hs.1, fun hisSign => absurd (hop.symm.trans hisSign) Bool.false_ne_true⟩
          · simp only [Reading.tokens, Stage.tokens, Slot.tokens, Sign.tokens, List.append_nil,
              List.append_assoc]
  | none =>
      simp only [hsign] at h
      rcases x with ⟨token, p⟩
      simp only at h ⊢
      split at h
      case h_1 text =>
        cases h
        -- A number.
        exact sound_atom hf hs trivial
      case h_2 text =>
        cases h
        -- A quoted text.
        exact sound_atom hf hs trivial
      case h_3 =>
        cases h
        -- The two truth values.
        exact sound_atom hf hs trivial
      case h_4 =>
        cases h
        exact sound_atom hf hs trivial
      case h_5 name hTrue hFalse =>
        -- Any other word waits for the token after it.
        cases h
        have hneTrue : name ≠ "True" := fun hname => hTrue (by rw [hname])
        have hneFalse : name ≠ "False" := fun hname => hFalse (by rw [hname])
        refine ⟨⟨hf, hs, hneTrue, hneFalse⟩, ?_⟩
        simp only [Reading.tokens, Stage.tokens, List.append_assoc]
      case h_6 =>
        cases h
        -- The question itself.
        exact sound_atom hf hs trivial
      case h_7 =>
        cases h
        -- A dollar sign begins a reference.
        refine ⟨⟨hf, hs⟩, ?_⟩
        simp only [Reading.tokens, Stage.tokens, List.append_assoc]
      case h_8 =>
        -- A parenthesis opens a frame, and the place moves into it.
        rcases sound_openFrame h hf (fun hlevel => ⟨hs, hlevel⟩) trivial with ⟨hr, htokens⟩
        refine ⟨hr, ?_⟩
        rw [htokens]
        simp only [Frame.tokens, Stage.tokens, Slot.tokens, Slot.first, Sign.tokens,
          List.append_assoc, List.append_nil]
      -- Whatever else stands here is a fault.
      all_goals cases h

theorem sound_endCall {f : Function} {p : Position} {args : List Expr}
    (h : endCall frames slot f p args = .ok r') (hf : Frame.SoundAll columns frames)
    (hcall : (Frame.call slot f p args).Sound columns frames.length) :
    r'.Sound columns ∧ r'.tokens = Frame.tokensOf frames ++ slot.tokens ++
      .word f.name :: .symbol .openParen ::
        (commaSeparated (Expr.tokensEach args) ++ [.symbol .closeParen]) := by
  rcases hcall with ⟨hs, hfind, hargs, hdepth⟩
  unfold endCall at h
  split at h
  case isTrue haccepts =>
    cases h
    refine sound_term hf hs ⟨⟨hfind, haccepts, hargs⟩, ?_⟩ rfl rfl
    simp only [Term.depth]
    omega
  case isFalse => cases h

theorem sound_addArgument {f : Function} {p : Position} {args : List Expr} {e : Expr}
    {level : Nat} (hcall : (Frame.call slot f p args).Sound columns level)
    (he : e.Fits columns (level + 1)) :
    (Frame.call slot f p (args ++ [e])).Sound columns level := by
  rcases hcall with ⟨hs, hfind, hargs, hdepth⟩
  refine ⟨hs, hfind, Expr.allowedEach_append.2 ⟨hargs, he.1⟩, ?_⟩
  have heDepth := he.2
  rw [Expr.depthEach_append]
  omega

theorem sound_operator {e : Expr} (h : operator frames e x = .ok r')
    (hf : Frame.SoundAll columns frames) (he : e.Fits columns frames.length) :
    r'.Sound columns ∧ r'.tokens = Frame.tokensOf frames ++ e.tokens ++ [x.token] := by
  unfold operator at h
  cases hop : Operator.ofToken x.token with
  | some op =>
      simp only [hop, Except.ok.injEq] at h
      subst h
      rw [Operator.eq_of_ofToken hop]
      refine ⟨⟨hf, he, fun _ => rfl⟩, ?_⟩
      simp only [Reading.tokens, Stage.tokens, Slot.tokens, Sign.tokens, List.append_nil,
        List.append_assoc]
  | none =>
      rcases x with ⟨token, q⟩
      simp only [hop] at h ⊢
      split at h
      case h_3 slot outer =>
        -- The end of parentheses.
        cases h
        have hterm : (Term.group slot.sign e).Fits columns outer.length := by
          have heDepth := he.2
          rw [List.length_cons] at heDepth
          refine ⟨he.1, ?_⟩
          simp only [Term.depth]
          omega
        rcases sound_term (t := (.group · e)) hf.2 hf.1.1 hterm rfl rfl with ⟨hr, htokens⟩
        refine ⟨hr, ?_⟩
        rw [htokens]
        simp only [Frame.tokensOf, Frame.tokens, List.append_assoc, List.cons_append,
          List.nil_append]
      case h_4 slot f p args outer =>
        -- The end of a call with at least one argument.
        rcases sound_endCall h hf.2 (sound_addArgument hf.1 he) with ⟨hr, htokens⟩
        refine ⟨hr, ?_⟩
        rw [htokens, commaSeparated_append]
        simp only [Frame.tokensOf, Frame.tokens, List.append_assoc, List.cons_append]
      case h_5 slot f p args outer =>
        cases h
        -- A comma: the call goes on with one more argument.
        refine ⟨⟨⟨sound_addArgument hf.1 he, hf.2⟩, trivial⟩, ?_⟩
        simp only [Reading.tokens, Frame.tokensOf, Frame.tokens, Stage.tokens, Slot.tokens,
          Slot.first, Sign.tokens, List.flatMap_append, List.flatMap_cons, List.flatMap_nil,
          List.append_nil, List.append_assoc, List.cons_append]
      -- Nothing else goes on with an expression or ends it.
      all_goals cases h

theorem sound_column {name : String} {p : Position} {e : Expr}
    (h : column columns slot name p = .ok e) (hf : Frame.SoundAll columns frames)
    (hs : slot.Sound columns frames.length) (hTrue : name ≠ "True") (hFalse : name ≠ "False") :
    e.Fits columns frames.length ∧ e.tokens = slot.tokens ++ [.word name] := by
  unfold column at h
  split at h
  case isTrue hcolumns =>
    cases h
    refine ⟨Slot.fits_fill hs ⟨⟨hcolumns, hTrue, hFalse⟩, ?_⟩ rfl, Slot.tokens_fill rfl⟩
    simp only [Term.depth, Nat.zero_add]
    exact length_le_of_soundAll hf
  case isFalse => cases h

/-- A step keeps a reading sound and adds its token to those that were passed. -/
theorem sound_next (hr : r.Sound columns) (h : next columns r x = .ok r') :
    r'.Sound columns ∧ r'.tokens = r.tokens ++ [x.token] := by
  rcases r with ⟨frames, stage⟩
  rcases hr with ⟨hf, hstage⟩
  unfold next at h
  cases stage with
  | operand slot => exact sound_operand hf hstage h
  | arguments =>
      simp only at h
      split at h
      case h_1 slot f p args outer hclose =>
        -- The call ends without arguments, and its frame is the innermost one.
        rcases hstage with ⟨slot', f', p', outer', heq⟩
        cases heq
        rcases sound_endCall h hf.2 hf.1 with ⟨hr, htokens⟩
        refine ⟨hr, ?_⟩
        rw [htokens, hclose]
        simp [Reading.tokens, Frame.tokensOf, Frame.tokens, Stage.tokens, Expr.tokensEach,
          commaSeparated]
      case h_2 =>
        -- The first argument is read like any other operand.
        have hfirst (outer : List Frame) : Slot.first.Sound columns outer.length := trivial
        exact sound_operand hf (hfirst _) h
  | brace slot =>
      simp only at h
      split at h
      case isTrue hopen =>
        cases h
        refine ⟨⟨hf, hstage⟩, ?_⟩
        rw [hopen]
        simp [Reading.tokens, Stage.tokens]
      case isFalse => cases h
  | fieldName slot =>
      simp only at h
      split at h
      case h_1 name hname =>
        cases h
        refine ⟨⟨hf, hstage⟩, ?_⟩
        rw [hname]
        simp [Reading.tokens, Stage.tokens]
      case h_2 => cases h
  | closingBrace slot name =>
      simp only at h
      split at h
      case isTrue hclose =>
        cases h
        rcases sound_atom hf hstage (a := .field name) trivial with ⟨hr, htokens⟩
        refine ⟨hr, ?_⟩
        rw [htokens, hclose]
        simp [Reading.tokens, Stage.tokens, Atom.tokens]
      case isFalse => cases h
  | word slot name p =>
      rcases hstage with ⟨hs, hTrue, hFalse⟩
      simp only at h
      split at h
      case isTrue hopen =>
        -- The word is called. It has to be the name of a function of the table.
        cases hfind : Function.find? name with
        | none => simp [hfind] at h
        | some f =>
            simp only [hfind] at h
            have hname : f.name = name := (Function.mem_table_of_find? hfind).2
            have hcall (hlevel : frames.length + 1 ≤ depthLimit) :
                (Frame.call slot f p []).Sound columns frames.length := by
              refine ⟨hs, by rw [hname, hfind], trivial, ?_⟩
              simpa only [Expr.depthEach, Nat.zero_add] using hlevel
            rcases sound_openFrame h hf hcall ⟨slot, f, p, frames, rfl⟩ with ⟨hr, htokens⟩
            refine ⟨hr, ?_⟩
            rw [htokens, hopen, ← hname]
            simp [Reading.tokens, Frame.tokens, Stage.tokens]
      case isFalse =>
        cases hcolumn : column columns slot name p with
        | error fault => simp [hcolumn, bind, Except.bind] at h
        | ok e =>
            simp only [hcolumn, bind, Except.bind] at h
            rcases sound_column hcolumn hf hs hTrue hFalse with ⟨he, htokens⟩
            -- The token is not about the word, so it is read behind the word.
            rcases sound_operator h hf he with ⟨hr, hrTokens⟩
            exact ⟨hr, by rw [hrTokens, htokens]; rfl⟩
  | operator e => exact sound_operator h hf hstage

/-- A run keeps a reading sound and adds its tokens. -/
theorem sound_run {xs : List Lexeme} (hr : r.Sound columns)
    (h : xs.foldlM (next columns) r = .ok r') :
    r'.Sound columns ∧ r'.tokens = r.tokens ++ xs.map Lexeme.token := by
  induction xs generalizing r with
  | nil =>
      cases h
      exact ⟨hr, (List.append_nil _).symm⟩
  | cons x xs ih =>
      rw [List.foldlM_cons] at h
      cases hnext : next columns r x with
      | error fault => simp [hnext, bind, Except.bind] at h
      | ok middle =>
          simp only [hnext, bind, Except.bind] at h
          rcases sound_next hr hnext with ⟨hmiddle, htokens⟩
          rcases ih hmiddle h with ⟨hr', htokens'⟩
          refine ⟨hr', ?_⟩
          rw [htokens', htokens, List.append_assoc, List.map_cons, List.singleton_append]

/-- A reading that ends in an expression has passed the tokens of that one. -/
theorem sound_finish {p : Position} {e : Expr} (hr : r.Sound columns)
    (h : r.finish columns p = .ok e) : e.Fits columns 0 ∧ r.tokens = e.tokens := by
  rcases r with ⟨frames, stage⟩
  rcases hr with ⟨hf, hstage⟩
  unfold finish at h
  cases stage with
  | word slot name wordAt =>
      rcases hstage with ⟨hs, hTrue, hFalse⟩
      cases hcolumn : column columns slot name wordAt with
      | error fault => simp [hcolumn, bind, Except.bind] at h
      | ok e' =>
          simp only [hcolumn, bind, Except.bind] at h
          rcases sound_column hcolumn hf hs hTrue hFalse with ⟨he, htokens⟩
          cases frames with
          | cons frame outer => cases h
          | nil =>
              cases h
              -- With no open frame, the tokens passed are those of the expression.
              exact ⟨he, htokens.symm⟩
  | operator e' =>
      cases frames with
      | cons frame outer => cases h
      | nil =>
          cases h
          exact ⟨hstage, rfl⟩
  | operand slot => cases h
  | arguments => cases h
  | brace slot => cases h
  | fieldName slot => cases h
  | closingBrace slot name => cases h

end Reading

/-- A scan that spells an expression was scanned to its end, and its tokens are those
    of the expression, which is allowed and keeps to the limit of depth. -/
theorem Expr.sound_ofScan {columns : Bool} {scan : Scan} {e : Expr}
    (h : Expr.ofScan columns scan = .ok e) :
    (∃ p, scan.stop = .ok p) ∧ scan.lexemes.map Lexeme.token = e.tokens ∧
      e.Allowed columns ∧ e.depth ≤ depthLimit := by
  unfold Expr.ofScan at h
  cases hrun : scan.lexemes.foldlM (Reading.next columns) .start with
  | error fault => simp [hrun, bind, Except.bind] at h
  | ok r =>
      cases hstop : scan.stop with
      | error fault => simp [hrun, hstop, bind, Except.bind] at h
      | ok p =>
          simp only [hrun, hstop, bind, Except.bind] at h
          -- At the start there is no frame and nothing has been passed.
          have hstart : Reading.Sound columns .start := ⟨trivial, trivial⟩
          rcases Reading.sound_run hstart hrun with ⟨hr, htokens⟩
          rcases Reading.sound_finish hr h with ⟨⟨hallowed, hdepth⟩, heTokens⟩
          refine ⟨⟨p, rfl⟩, ?_, hallowed, hdepth⟩
          rw [← heTokens, htokens]
          rfl

end Formula

end Questionnaire
