import Questionnaire.Formula.Expr.Reading

/-!
# Moving Tokens

The reading of a formula carries positions and never looks at them. If its tokens are moved,
each to a place that depends on the old one alone, every step is taken as before, and the
positions that are recorded on the way are moved with the tokens: that of a word that waits
for the next token, those of the names of open calls, and in the end that of a fault.

Moved to one and the same place, two scans with the same tokens are the same scan. So the
tokens of a formula decide whether it is read, as which expression, and what the cause is if
it is not.

## Main definitions

* `Reading.moved`, `Scan.moved`, `Fault.moved`: Positions after a move.

## Theorems

* `Reading.next_moved`, `Reading.finish_moved`: A step and the end after a move.
* `Expr.ofScan_moved`: The reading of a scan after a move.
* `Expr.ofScan_congr`: Only the tokens of a scan matter.
-/

namespace Questionnaire

namespace Formula

/-! ### Moves -/

section Moved

variable (g : Position → Position)

/-- A token that is moved. -/
def Lexeme.moved (x : Lexeme) : Lexeme :=
  ⟨x.token, g x.position⟩

/-- A fault that is moved. -/
def Fault.moved (fault : Fault) : Fault :=
  ⟨g fault.position, fault.cause⟩

/-- The scan of a text whose tokens, and whose end, are moved. -/
def Scan.moved (scan : Scan) : Scan :=
  ⟨scan.lexemes.map (Lexeme.moved g), (scan.stop.map g).mapError (Fault.moved g)⟩

/-- A frame, with the name of a call moved. -/
def Frame.moved : Frame → Frame
  | group slot => group slot
  | call slot f p args => call slot f (g p) args

/-- A stage, with a word that waits for the next token moved. -/
def Stage.moved : Stage → Stage
  | word slot name p => word slot name (g p)
  | stage => stage

namespace Reading

/-- What has been read of tokens that are moved. -/
def moved (r : Reading) : Reading :=
  ⟨r.frames.map (Frame.moved g), r.stage.moved g⟩

/-- What a step leads to if the tokens are moved. -/
def outcomeMoved (x : Except Fault Reading) : Except Fault Reading :=
  (x.map (moved g)).mapError (Fault.moved g)

/-! ### Steps after a move -/

variable (columns : Bool) (frames : List Frame) (slot : Slot)

theorem openFrame_moved (frame : Frame) {stage : Stage} (hstage : stage.moved g = stage)
    (p : Position) :
    openFrame (frames.map (Frame.moved g)) (frame.moved g) stage (g p) =
      outcomeMoved g (openFrame frames frame stage p) := by
  rw [openFrame, openFrame, List.length_map]
  split
  · change _ = Except.ok (⟨_, stage.moved g⟩ : Reading)
    rw [hstage]
    rfl
  · rfl

theorem operand_moved (x : Lexeme) :
    operand (frames.map (Frame.moved g)) slot (x.moved g) =
      outcomeMoved g (operand frames slot x) := by
  rcases x with ⟨t, p⟩
  cases t with
  | word name =>
      -- A truth value is a term, and any other word waits for the next token.
      by_cases hTrue : name = "True"
      · rw [hTrue]
        rfl
      by_cases hFalse : name = "False"
      · rw [hFalse]
        rfl
      have hwaits (fs : List Frame) (q : Position) :
          operand fs slot ⟨.word name, q⟩ = .ok ⟨fs, .word slot name q⟩ := by
        simp only [operand, Sign.ofToken]
      dsimp only [Lexeme.moved]
      rw [hwaits, hwaits]
      rfl
  | number text => rfl
  | quote text => rfl
  | symbol s =>
      cases s with
      | openParen => exact openFrame_moved g frames (.group slot) rfl p
      | plus | minus =>
          dsimp only [operand, Lexeme.moved, Sign.ofToken]
          split <;> rfl
      | _ => rfl

theorem endCall_moved (f : Function) (p : Position) (args : List Expr) :
    endCall (frames.map (Frame.moved g)) slot f (g p) args =
      outcomeMoved g (endCall frames slot f p args) := by
  rw [endCall, endCall]
  split <;> rfl

theorem cannotEnd_moved (found : Option Token) (p : Position) :
    cannotEnd (frames.map (Frame.moved g)) found (g p) = (cannotEnd frames found p).moved g := by
  rcases frames with _ | ⟨_ | _, _⟩ <;> rfl

theorem operator_moved (e : Expr) (x : Lexeme) :
    operator (frames.map (Frame.moved g)) e (x.moved g) =
      outcomeMoved g (operator frames e x) := by
  rcases x with ⟨t, p⟩
  dsimp only [operator, Lexeme.moved]
  cases Operator.ofToken t with
  | some op => rfl
  | none =>
      -- Any other token is refused by the innermost frame, whose kind a move does not change.
      have hother : Except.error (cannotEnd (frames.map (Frame.moved g)) (some t) (g p)) =
          outcomeMoved g (.error (cannotEnd frames (some t) p)) := by
        rw [cannotEnd_moved]
        rfl
      dsimp only
      cases t with
      | symbol s =>
          cases s with
          | closeParen =>
              rcases frames with _ | ⟨slot | ⟨slot, f, q, args⟩, outer⟩
              · rfl
              · rfl
              · exact endCall_moved g outer slot f q (args ++ [e])
          | comma => rcases frames with _ | ⟨_ | _, _⟩ <;> rfl
          | twoEquals | bang => rfl
          | _ => exact hother
      | _ => exact hother

/-- A step after a move is the one that was taken before it. -/
theorem next_moved (r : Reading) (x : Lexeme) :
    next columns (r.moved g) (x.moved g) = outcomeMoved g (next columns r x) := by
  rcases r with ⟨frames, stage⟩
  rcases x with ⟨t, p⟩
  cases stage with
  | operand slot => exact operand_moved g frames slot ⟨t, p⟩
  | arguments =>
      -- Only the end of the call is read here, and everything else as a term.
      have hother := operand_moved g frames .first ⟨t, p⟩
      cases t with
      | symbol s =>
          cases s with
          | closeParen =>
              rcases frames with _ | ⟨slot | ⟨slot, f, q, args⟩, outer⟩
              · rfl
              · rfl
              · exact endCall_moved g outer slot f q args
          | _ => exact hother
      | _ => exact hother
  | brace slot | closingBrace slot name =>
      dsimp only [next, moved, Stage.moved, Lexeme.moved]
      split <;> rfl
  | fieldName slot => cases t <;> rfl
  | word slot name q =>
      dsimp only [next, moved, Stage.moved, Lexeme.moved]
      split
      case isTrue =>
        cases Function.find? name with
        | none => rfl
        | some f => exact openFrame_moved g frames (.call slot f q []) rfl q
      case isFalse =>
        -- The word is a term, and the token is read behind it.
        cases columns with
        | false => rfl
        | true => exact operator_moved g frames _ ⟨t, p⟩
  | operator e => exact operator_moved g frames e ⟨t, p⟩

theorem run_moved (r : Reading) (xs : List Lexeme) :
    (xs.map (Lexeme.moved g)).foldlM (next columns) (r.moved g) =
      outcomeMoved g (xs.foldlM (next columns) r) := by
  induction xs generalizing r with
  | nil => rfl
  | cons x xs ih =>
      rw [List.map_cons, List.foldlM_cons, List.foldlM_cons, next_moved]
      cases next columns r x with
      | error fault => rfl
      | ok r' => exact ih r'

theorem finish_moved (r : Reading) (p : Position) :
    (r.moved g).finish columns (g p) = (r.finish columns p).mapError (Fault.moved g) := by
  rcases r with ⟨frames, stage⟩
  have hend (e : Expr) :
      (if (frames.map (Frame.moved g)).isEmpty then Except.ok e
        else .error (cannotEnd (frames.map (Frame.moved g)) none (g p))) =
      (if frames.isEmpty then Except.ok e
        else .error (cannotEnd frames none p)).mapError (Fault.moved g) := by
    rw [cannotEnd_moved, List.isEmpty_map]
    split <;> rfl
  cases stage with
  | word slot name q =>
      cases columns with
      | false => rfl
      | true => exact hend _
  | operator e => exact hend e
  | _ => rfl

end Reading

/-- The reading of a scan whose tokens are moved. -/
theorem Expr.ofScan_moved (columns : Bool) (scan : Scan) :
    ofScan columns (scan.moved g) = (ofScan columns scan).mapError (Fault.moved g) := by
  rw [ofScan, ofScan]
  have hrun : (scan.moved g).lexemes.foldlM (Reading.next columns) .start =
      Reading.outcomeMoved g (scan.lexemes.foldlM (Reading.next columns) .start) :=
    Reading.run_moved g columns .start scan.lexemes
  rw [hrun]
  cases scan.lexemes.foldlM (Reading.next columns) .start with
  | error fault => rfl
  | ok r =>
      cases hstop : scan.stop with
      | error fault =>
          rw [Scan.moved, hstop]
          rfl
      | ok p =>
          rw [Scan.moved, hstop]
          exact Reading.finish_moved g columns r p

end Moved

/-- Scans with the same tokens that go on to the end are read alike, but for the position of a
    fault. -/
theorem Expr.ofScan_congr (columns : Bool) {scan other : Scan}
    (htokens : other.lexemes.map Lexeme.token = scan.lexemes.map Lexeme.token)
    {p q : Position} (hstop : scan.stop = .ok p) (hother : other.stop = .ok q) :
    (ofScan columns other).mapError Fault.cause = (ofScan columns scan).mapError Fault.cause := by
  -- All positions are moved to the first one.
  have hplaced (s : Scan) : s.lexemes.map (Lexeme.moved fun _ => .start) =
      (s.lexemes.map Lexeme.token).map fun t => ⟨t, .start⟩ := by
    rw [List.map_map]
    rfl
  have hsame : other.moved (fun _ => .start) = scan.moved fun _ => .start := by
    rw [Scan.moved, Scan.moved, hplaced, hplaced, htokens, hstop, hother]
    rfl
  have hcause (x : Except Fault Expr) : x.mapError Fault.cause =
      (x.mapError (Fault.moved fun _ => .start)).mapError Fault.cause := by
    cases x <;> rfl
  rw [hcause, hcause (ofScan columns scan), ← ofScan_moved, ← ofScan_moved, hsame]

end Formula

end Questionnaire
