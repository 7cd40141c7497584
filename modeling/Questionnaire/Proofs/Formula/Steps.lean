import Questionnaire.Proofs.Formula.Soundness
import Questionnaire.Proofs.Outcome

/-!
# The Steps of a Reading

What one token can do to a reading, said once: the frames and words that are there after
the step, and the faults that can come of it with what they are about. A fault is about the
token itself, or about a word before it that this token has decided: the name of a function
that does not exist, is called in too deep a place or has got a wrong count of arguments, or
a plain name where there are no columns. Such a word was recorded with its position when it
was read, and `Reading.NamedIn` says that it still stands where it stood among the tokens
that were passed.

## Main definitions

* `Cause.Refuses`: A cause that is about a token which cannot stand where it stands.
* `Reading.Step`: What a step can lead to.
* `Reading.NamedIn`: The words that a reading has recorded.

## Theorems

* `Reading.step_next`: Every step is one of these.
* `Reading.namedIn_run`: A run records words where they stand.
* `Expr.ofScan_eq_error`: Where the reading of a formula ends in a fault.
-/

namespace Questionnaire

namespace Formula

/-- Whether a cause is about a token that cannot stand where it stands, or about the end of
    the formula, and names it. -/
def Cause.Refuses (found : Option Token) : Cause → Prop
  | unexpectedToken t | expected _ t => t = found
  | doubleEquals => found = some (.symbol .twoEquals)
  | unaryNot => found = some (.symbol .bang)
  | parentReference => found = some (.symbol .twoDots)
  | consecutiveSigns => found = some (.symbol .plus) ∨ found = some (.symbol .minus)
  | _ => False

namespace Reading

/-- What a step can lead to: the frames that are open and the word that is behind it, or a
    fault. -/
inductive Step (columns : Bool) (r : Reading) (x : Lexeme) : Except Fault Reading → Prop
  /-- The stage changes inside the innermost frame. -/
  | stage (stage : Stage) (hword : ∀ slot name p, stage ≠ .word slot name p) :
      Step columns r x (.ok ⟨r.frames, stage⟩)
  /-- A word waits for the next token. -/
  | word (slot : Slot) {name : String} (htoken : x.token = .word name) :
      Step columns r x (.ok ⟨r.frames, .word slot name x.position⟩)
  /-- Parentheses are opened. -/
  | group (slot : Slot) : Step columns r x (.ok ⟨.group slot :: r.frames, .operand .first⟩)
  /-- The call of the function that the word before names. -/
  | call {slot : Slot} {f : Function} {p : Position} (hstage : r.stage = .word slot f.name p) :
      Step columns r x (.ok ⟨.call slot f p [] :: r.frames, .arguments⟩)
  /-- The innermost frame is closed. -/
  | close {frame : Frame} {outer : List Frame} (e : Expr) (hframes : r.frames = frame :: outer) :
      Step columns r x (.ok ⟨outer, .operator e⟩)
  /-- The innermost call goes on with another argument. -/
  | comma {slot : Slot} {f : Function} {p : Position} {args : List Expr} {outer : List Frame}
      (e : Expr) (hframes : r.frames = .call slot f p args :: outer) :
      Step columns r x (.ok ⟨.call slot f p (args ++ [e]) :: outer, .operand .first⟩)
  /-- The token cannot stand here. A word before it is the name of a column. -/
  | refused {cause : Cause} (hcause : cause.Refuses (some x.token))
      (hword : ∀ slot name p, r.stage = .word slot name p → columns = true) :
      Step columns r x (.error ⟨x.position, cause⟩)
  /-- Parentheses in too deep a place. -/
  | deepGroup (htoken : x.token = .symbol .openParen) (hdeep : depthLimit ≤ r.frames.length) :
      Step columns r x (.error ⟨x.position, .tooDeep depthLimit⟩)
  /-- A call in too deep a place. -/
  | deepCall {slot : Slot} {name : String} {p : Position} (hstage : r.stage = .word slot name p)
      (htoken : x.token = .symbol .openParen) (hdeep : depthLimit ≤ r.frames.length) :
      Step columns r x (.error ⟨p, .tooDeep depthLimit⟩)
  /-- The call of a function that does not exist. -/
  | unknown {slot : Slot} {name : String} {p : Position} (hstage : r.stage = .word slot name p)
      (htoken : x.token = .symbol .openParen) (hfind : Function.find? name = none) :
      Step columns r x (.error ⟨p, .unknownFunction name⟩)
  /-- A plain name where there are no columns. -/
  | bare {slot : Slot} {name : String} {p : Position} (hstage : r.stage = .word slot name p)
      (htoken : x.token ≠ .symbol .openParen) (hcolumns : columns = false) :
      Step columns r x (.error ⟨p, .bareName name⟩)
  /-- The end of a call with a wrong count of arguments. -/
  | count {slot : Slot} {f : Function} {p : Position} {args : List Expr} {outer : List Frame}
      (all : List Expr) (hframes : r.frames = .call slot f p args :: outer)
      (htoken : x.token = .symbol .closeParen)
      (htokens : r.tokens = Frame.tokensOf outer ++ (slot.tokens ++ .word f.name ::
        .symbol .openParen :: commaSeparated (Expr.tokensEach all)))
      (haccepts : f.accepts all.length = false) :
      Step columns r x (.error ⟨p, .argumentCount f all.length⟩)

variable {columns : Bool} {r : Reading} {x : Lexeme}

theorem step_operand (hword : ∀ slot name p, r.stage ≠ .word slot name p) (slot : Slot) :
    Step columns r x (operand r.frames slot x) := by
  have hrefused : ∀ {cause : Cause}, cause.Refuses (some x.token) →
      Step columns r x (.error ⟨x.position, cause⟩) := by
    intro cause hcause
    exact .refused hcause fun slot name p hstage => absurd hstage (hword slot name p)
  rw [operand]
  cases hsign : Sign.ofToken x.token with
  | some sign =>
      have htoken := Sign.eq_of_ofToken hsign
      dsimp only
      split
      · refine hrefused ?_
        rw [htoken]
        cases sign with
        | plus => exact Or.inl rfl
        | minus => exact Or.inr rfl
      · exact .stage _ (by simp)
  | none =>
      dsimp only
      split
      case h_5 name hTrue hFalse htoken => exact .word slot htoken
      case h_8 htoken =>
        rw [openFrame]
        split
        · exact .group slot
        · exact .deepGroup htoken (by omega)
      case h_9 htoken => exact hrefused (congrArg some htoken)
      case h_10 htoken => exact hrefused (congrArg some htoken)
      case h_11 => exact hrefused rfl
      -- The other tokens are a term, or begin a field.
      all_goals exact .stage _ (by simp)

theorem step_endCall {slot : Slot} {f : Function} {p : Position} {args : List Expr}
    {outer : List Frame} (all : List Expr) (hframes : r.frames = .call slot f p args :: outer)
    (htoken : x.token = .symbol .closeParen)
    (htokens : r.tokens = Frame.tokensOf outer ++ (slot.tokens ++ .word f.name ::
      .symbol .openParen :: commaSeparated (Expr.tokensEach all))) :
    Step columns r x (endCall outer slot f p all) := by
  rw [endCall]
  split
  case isTrue => exact .close _ hframes
  case isFalse haccepts => exact .count all hframes htoken htokens (Bool.eq_false_iff.2 haccepts)

theorem refuses_cannotEnd (frames : List Frame) (found : Option Token) (p : Position) :
    ∃ cause, cannotEnd frames found p = ⟨p, cause⟩ ∧ cause.Refuses found := by
  rcases frames with _ | ⟨_ | _, _⟩ <;> exact ⟨_, rfl, rfl⟩

theorem step_operator (hword : ∀ slot name p, r.stage = .word slot name p → columns = true)
    {e : Expr} (he : r.tokens = Frame.tokensOf r.frames ++ e.tokens) :
    Step columns r x (operator r.frames e x) := by
  unfold operator
  cases hop : Operator.ofToken x.token with
  | some op => exact .stage _ (by simp)
  | none =>
      dsimp only
      split
      case h_1 htoken => exact .refused (congrArg some htoken) hword
      case h_2 htoken => exact .refused (congrArg some htoken) hword
      case h_3 slot outer _ hframes => exact .close _ hframes
      case h_4 slot f p args outer htoken hframes =>
        refine step_endCall _ hframes htoken ?_
        rw [he, hframes, commaSeparated_append]
        simp [Frame.tokensOf, Frame.tokens]
      case h_5 slot f p args outer _ hframes => exact .comma e hframes
      case h_6 =>
        rcases refuses_cannotEnd r.frames (some x.token) x.position with ⟨cause, hfault, hcause⟩
        rw [hfault]
        exact .refused hcause hword

/-- Every step of a sound reading is one of these. -/
theorem step_next (hr : r.Sound columns) (x : Lexeme) :
    Step columns r x (next columns r x) := by
  rw [next]
  cases hstage : r.stage with
  | operand slot => exact step_operand (by simp [hstage]) slot
  | arguments =>
      have hword : ∀ slot name p, r.stage ≠ .word slot name p := by simp [hstage]
      dsimp only
      split
      case h_1 slot f p args outer htoken hframes =>
        -- Behind its parenthesis a call has no arguments yet.
        have hsound := hr.2
        rw [hstage, hframes] at hsound
        rcases hsound with ⟨_, _, _, _, heq⟩
        cases heq
        refine step_endCall [] hframes htoken ?_
        rw [Reading.tokens, hframes, hstage]
        simp [Frame.tokensOf, Frame.tokens, Stage.tokens, Expr.tokensEach, commaSeparated]
      case h_2 => exact step_operand hword .first
  | brace slot | fieldName slot | closingBrace slot _ =>
      have hword : ∀ slot name p, r.stage = .word slot name p → columns = true := by simp [hstage]
      dsimp only
      split
      · exact .stage _ (by simp)
      · exact .refused rfl hword
  | word slot name p =>
      dsimp only
      split
      case isTrue htoken =>
        split
        case h_1 f hfind =>
          rw [← (Function.mem_table_of_find? hfind).2] at hstage
          rw [openFrame]
          split
          · exact .call hstage
          · exact .deepCall hstage htoken (by omega)
        case h_2 hfind => exact .unknown hstage htoken hfind
      case isFalse htoken =>
        rw [column]
        cases hcolumns : columns with
        | false => exact .bare hstage htoken rfl
        | true =>
            -- The name of a column is a term, and this token comes behind it.
            refine step_operator (fun _ _ _ _ => rfl) ?_
            rw [Reading.tokens, hstage, Slot.tokens_fill rfl]
            rfl
  | operator e =>
      refine step_operator (by simp [hstage]) ?_
      rw [Reading.tokens, hstage]
      rfl

theorem refuses_of_end {frames : List Frame} {e : Expr} {p : Position} {fault : Fault}
    (h : (if frames.isEmpty then .ok e else .error (cannotEnd frames none p)) =
      Except.error (α := Expr) fault) : fault.position = p ∧ fault.cause.Refuses none := by
  split at h
  · cases h
  · rcases refuses_cannotEnd frames none p with ⟨cause, hfault, hcause⟩
    rw [hfault] at h
    cases h
    exact ⟨rfl, hcause⟩

/-- At the end of a formula, the end itself cannot stand where it stands, or the last word is
    a plain name where there are no columns. -/
theorem finish_eq_error {p : Position} {fault : Fault} (h : r.finish columns p = .error fault) :
    (fault.position = p ∧ fault.cause.Refuses none ∧
        ∀ slot name p, r.stage = .word slot name p → columns = true) ∨
      ∃ slot name, r.stage = .word slot name fault.position ∧ columns = false ∧
        fault.cause = .bareName name := by
  rw [finish] at h
  cases hstage : r.stage with
  | word slot name wordAt =>
      rw [hstage] at h
      dsimp only at h
      rw [column] at h
      cases columns with
      | false =>
          cases h
          exact Or.inr ⟨slot, name, rfl, rfl, rfl⟩
      | true =>
          rcases refuses_of_end h with ⟨hposition, hcause⟩
          exact Or.inl ⟨hposition, hcause, fun _ _ _ _ => rfl⟩
  | operator e =>
      rw [hstage] at h
      rcases refuses_of_end h with ⟨hposition, hcause⟩
      exact Or.inl ⟨hposition, hcause, by simp⟩
  | _ =>
      rw [hstage] at h
      cases h
      exact Or.inl ⟨rfl, rfl, by simp⟩

end Reading

/-! ### Recorded words -/

/-- The names of the calls that are open stand among the lexemes that were passed, each at the
    position that was recorded. -/
def Frame.NamedIn (passed : List Lexeme) : List Frame → Prop
  | [] => True
  | .group _ :: outer => Frame.NamedIn passed outer
  | .call slot f p _ :: outer =>
    passed[(Frame.tokensOf outer ++ slot.tokens).length]? = some ⟨.word f.name, p⟩ ∧
      Frame.NamedIn passed outer

/-- So does a word that waits for the next token: it was passed last. -/
def Reading.NamedIn (passed : List Lexeme) (r : Reading) : Prop :=
  Frame.NamedIn passed r.frames ∧
    ∀ slot name p, r.stage = .word slot name p → passed.getLast? = some ⟨.word name, p⟩

theorem Frame.NamedIn.append {passed : List Lexeme} {frames : List Frame}
    (h : Frame.NamedIn passed frames) (more : List Lexeme) :
    Frame.NamedIn (passed ++ more) frames := by
  induction frames with
  | nil => trivial
  | cons frame outer ih =>
      cases frame with
      | group slot => exact ih h
      | call slot f p args =>
          refine ⟨?_, ih h.2⟩
          have hin := (List.getElem?_eq_some_iff.1 h.1).1
          rw [List.getElem?_append_left hin, h.1]

theorem Frame.NamedIn.outer {passed : List Lexeme} {frame : Frame} {outer : List Frame}
    (h : Frame.NamedIn passed (frame :: outer)) : Frame.NamedIn passed outer := by
  cases frame with
  | group slot => exact h
  | call slot f p args => exact h.2

namespace Reading

variable {columns : Bool} {r r' : Reading} {x : Lexeme} {passed : List Lexeme}

theorem namedIn_next (hr : r.Sound columns) (htokens : r.tokens = passed.map Lexeme.token)
    (h : r.NamedIn passed) (hnext : next columns r x = .ok r') : r'.NamedIn (passed ++ [x]) := by
  have hstep := step_next hr x
  rw [hnext] at hstep
  rcases h with ⟨hframes, hword⟩
  cases hstep with
  | stage stage hstage => exact ⟨hframes.append _, fun slot name p heq => absurd heq (hstage _ _ _)⟩
  | word slot htoken =>
      refine ⟨hframes.append _, fun slot' name' p heq => ?_⟩
      cases heq
      rw [List.getLast?_concat, ← htoken]
  | group slot => exact ⟨hframes.append _, by simp⟩
  | @call slot f p hstage =>
      refine ⟨⟨?_, hframes.append _⟩, by simp⟩
      -- The name of the function is the last token that was passed.
      have hlast := hword slot f.name p hstage
      have hlength := congrArg List.length htokens
      rw [Reading.tokens, hstage, Stage.tokens, ← List.append_assoc, List.length_append,
        List.length_singleton, List.length_map] at hlength
      rw [List.getLast?_eq_getElem?, ← hlength, Nat.add_sub_cancel] at hlast
      rw [List.getElem?_append_left (by omega), hlast]
  | close e heq =>
      rw [heq] at hframes
      exact ⟨hframes.outer.append _, by simp⟩
  | comma e heq =>
      rw [heq] at hframes
      exact ⟨hframes.append _, by simp⟩

/-- A run records words where they stand. -/
theorem namedIn_run {xs : List Lexeme} (hr : r.Sound columns)
    (htokens : r.tokens = passed.map Lexeme.token) (h : r.NamedIn passed)
    (hrun : xs.foldlM (next columns) r = .ok r') : r'.NamedIn (passed ++ xs) := by
  induction xs generalizing r passed with
  | nil =>
      cases hrun
      rwa [List.append_nil]
  | cons x xs ih =>
      rw [List.foldlM_cons] at hrun
      rcases bind_eq_ok.1 hrun with ⟨middle, hnext, hrun⟩
      rcases sound_next hr hnext with ⟨hmiddle, hmiddleTokens⟩
      rw [List.append_cons]
      refine ih hmiddle ?_ (namedIn_next hr htokens h hnext) hrun
      rw [hmiddleTokens, htokens, List.map_append, List.map_singleton]

end Reading

/-! ### Where a reading ends -/

/-- Steps that end in an error do so at one of them. -/
theorem exists_of_foldlM_error {ε σ α : Type} {f : σ → α → Except ε σ} {xs : List α} {s : σ}
    {e : ε} (h : xs.foldlM f s = .error e) :
    ∃ before x after t, xs = before ++ x :: after ∧ before.foldlM f s = .ok t ∧
      f t x = .error e := by
  induction xs generalizing s with
  | nil => cases h
  | cons x xs ih =>
      rw [List.foldlM_cons] at h
      cases hx : f s x with
      | error e' =>
          rw [hx] at h
          cases h
          exact ⟨[], x, xs, s, rfl, rfl, hx⟩
      | ok t =>
          rw [hx] at h
          rcases ih h with ⟨before, y, after, t', rfl, hrun, hy⟩
          refine ⟨x :: before, y, after, t', rfl, ?_, hy⟩
          rw [List.foldlM_cons, hx]
          exact hrun

/-- A formula is not read for a fault at one of its tokens, in its scan behind them, or at its
    end. -/
theorem Expr.ofScan_eq_error {columns : Bool} {scan : Scan} {fault : Fault}
    (h : Expr.ofScan columns scan = .error fault) :
    (∃ before x after r, scan.lexemes = before ++ x :: after ∧
        before.foldlM (Reading.next columns) .start = .ok r ∧
          Reading.next columns r x = .error fault) ∨
      scan.stop = .error fault ∨
        ∃ r p, scan.lexemes.foldlM (Reading.next columns) .start = .ok r ∧
          scan.stop = .ok p ∧ r.finish columns p = .error fault := by
  rw [Expr.ofScan] at h
  cases hrun : scan.lexemes.foldlM (Reading.next columns) .start with
  | error fault' =>
      rw [hrun] at h
      cases h
      exact Or.inl (exists_of_foldlM_error hrun)
  | ok r =>
      rw [hrun] at h
      cases hstop : scan.stop with
      | error fault' =>
          rw [hstop] at h
          cases h
          exact Or.inr (Or.inl rfl)
      | ok p =>
          rw [hstop] at h
          exact Or.inr (Or.inr ⟨r, p, rfl, rfl, h⟩)

end Formula

end Questionnaire
