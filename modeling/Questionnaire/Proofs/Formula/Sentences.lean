import Mathlib.Tactic.Tauto
import Questionnaire.Proofs.Formula.Soundness

/-!
# Sentences but for the Counts of Arguments

A count of arguments is wrong only once the call has ended. Up to there the tokens of a
call say nothing about how many arguments it will have, so what a formula may begin with
is a question about expressions whose other rules hold. `Expr.Shaped` leaves out the counts,
and `Expr.calls` lists the calls of an expression with the places of their names and of
their closing parentheses, so that the counts can be asked for one by one.

The parentheses of an expression match, and a reading has opened one more for each of its
frames. So how deep a reading has come can be told from the tokens that it has passed.

## Main definitions

* `Expr.Shaped`: An expression that is allowed, but for the counts of arguments.
* `CallSite`: A call and where it stands among the tokens of its expression.
* `Expr.calls`: The calls of an expression.
* `Expr.IsSentenceAt`: An expression whose only wrong counts are those of calls that are
  open at a token.
* `opened`, `closed`: How many parentheses tokens open and close.

## Theorems

* `Expr.allowed_iff`: An allowed expression is one without wrong counts.
* `Expr.standsIn_of_mem_calls`: The calls of an expression stand where they say.
* `Expr.matched_tokens`: The parentheses of an expression match.
* `Reading.opened_tokens`: As many parentheses are open as there are frames.
-/

namespace Questionnaire

namespace Formula

mutual

/-- Whether an expression has the shape of one that is allowed: see `Term.Shaped`; and no
    sign follows a plus or minus. -/
def Expr.Shaped (columns : Bool) : Expr → Prop
  | .term t => t.Shaped columns
  | .chain left op right =>
    left.Shaped columns ∧ right.Shaped columns ∧ (op.isSign = true → right.isSigned = false)

/-- Whether a term has the shape of one that is allowed, whatever the counts of arguments. -/
def Term.Shaped (columns : Bool) : Term → Prop
  | .atom _ (.column name) => columns = true ∧ name ≠ "True" ∧ name ≠ "False"
  | .atom _ _ => True
  | .group _ inner => inner.Shaped columns
  | .call _ f args => Function.find? f.name = some f ∧ Expr.ShapedEach columns args

/-- Whether each of several expressions has the shape of one that is allowed. -/
def Expr.ShapedEach (columns : Bool) : List Expr → Prop
  | [] => True
  | e :: es => e.Shaped columns ∧ Expr.ShapedEach columns es

end

/-- A call and where it stands: the indices of its name and of its closing parenthesis among
    the tokens. -/
structure CallSite where
  name : Nat
  close : Nat
  function : Function
  /-- The number of arguments. -/
  count : Nat

namespace CallSite

/-- Whether a call has a right count of arguments. -/
def IsRight (call : CallSite) : Prop :=
  call.function.accepts call.count = true

/-- Whether a call is open at the token of an index: its parenthesis comes before that token,
    and the one that closes it does not. -/
def IsOpenAt (call : CallSite) (i : Nat) : Prop :=
  call.name + 1 < i ∧ i ≤ call.close

end CallSite

mutual

/-- The calls of an expression whose tokens begin at an index. -/
def Expr.calls (start : Nat) : Expr → List CallSite
  | .term t => t.calls start
  | .chain left _ right => left.calls start ++ right.calls (start + left.tokens.length + 1)

/-- The calls of a term. -/
def Term.calls (start : Nat) : Term → List CallSite
  | .atom _ _ => []
  | .group sign inner => inner.calls (start + (Sign.tokens sign).length + 1)
  | .call sign f args =>
    let name := start + (Sign.tokens sign).length
    ⟨name, name + 2 + (commaSeparated (Expr.tokensEach args)).length, f, args.length⟩ ::
      Expr.callsEach (name + 2) args

/-- The calls of several expressions with commas between them. -/
def Expr.callsEach (start : Nat) : List Expr → List CallSite
  | [] => []
  | e :: es => e.calls start ++ Expr.callsEach (start + e.tokens.length + 1) es

end

/-- Whether an expression is allowed, but for the counts of arguments of calls that are open
    at the token of an index. -/
def Expr.IsSentenceAt (columns : Bool) (i : Nat) (e : Expr) : Prop :=
  e.Shaped columns ∧ ∀ call ∈ e.calls 0, call.IsOpenAt i ∨ call.IsRight

/-! ### Allowed expressions -/

mutual

/-- An expression is allowed if it has the shape of one and no call has a wrong count. -/
theorem Expr.allowed_iff {columns : Bool} (start : Nat) : (e : Expr) →
    (e.Allowed columns ↔ e.Shaped columns ∧ ∀ call ∈ e.calls start, call.IsRight)
  | .term t => Term.allowed_iff start t
  | .chain left op right => by
      simp only [Expr.Allowed, Expr.Shaped, Expr.calls, List.forall_mem_append,
        Expr.allowed_iff start left, Term.allowed_iff (start + left.tokens.length + 1) right]
      -- The same facts on both sides, grouped by operand here and by kind there.
      tauto

/-- The same for a term. -/
theorem Term.allowed_iff {columns : Bool} (start : Nat) : (t : Term) →
    (t.Allowed columns ↔ t.Shaped columns ∧ ∀ call ∈ t.calls start, call.IsRight)
  | .atom sign a => by
      cases a <;> simp [Term.Allowed, Term.Shaped, Term.calls]
  | .group sign inner => Expr.allowed_iff _ inner
  | .call sign f args => by
      simp only [Term.Allowed, Term.Shaped, Term.calls, List.forall_mem_cons,
        Expr.allowedEach_iff (start + (Sign.tokens sign).length + 2) args, CallSite.IsRight]
      tauto

/-- The same for several expressions. -/
theorem Expr.allowedEach_iff {columns : Bool} (start : Nat) : (es : List Expr) →
    (Expr.AllowedEach columns es ↔
      Expr.ShapedEach columns es ∧ ∀ call ∈ Expr.callsEach start es, call.IsRight)
  | [] => by simp [Expr.AllowedEach, Expr.ShapedEach, Expr.callsEach]
  | e :: es => by
      simp only [Expr.AllowedEach, Expr.ShapedEach, Expr.callsEach, List.forall_mem_append,
        Expr.allowed_iff start e, Expr.allowedEach_iff (start + e.tokens.length + 1) es]
      tauto

end

/-! ### Where calls stand -/

/-- A call stands where it says, among tokens that begin at an index. -/
def CallSite.StandsIn (call : CallSite) (start : Nat) (ts : List Token) : Prop :=
  ∃ before args after,
    ts = before ++ .word call.function.name :: .symbol .openParen ::
      (commaSeparated (Expr.tokensEach args) ++ .symbol .closeParen :: after) ∧
    call.name = start + before.length ∧
    call.close = call.name + 2 + (commaSeparated (Expr.tokensEach args)).length ∧
    call.count = args.length

namespace CallSite.StandsIn

variable {call : CallSite} {start : Nat} {ts : List Token}

theorem behind (h : call.StandsIn start ts) {before : List Token} {first : Nat}
    (hfirst : start = first + before.length) : call.StandsIn first (before ++ ts) := by
  rcases h with ⟨before', args, after, rfl, hname, hrest⟩
  refine ⟨before ++ before', args, after, by rw [List.append_assoc], ?_, hrest⟩
  rw [List.length_append]
  omega

theorem append (h : call.StandsIn start ts) (more : List Token) :
    call.StandsIn start (ts ++ more) := by
  rcases h with ⟨before, args, after, rfl, hrest⟩
  exact ⟨before, args, after ++ more, by simp, hrest⟩

end CallSite.StandsIn

mutual

/-- The calls of an expression stand where they say. -/
theorem Expr.standsIn_of_mem_calls {start : Nat} {call : CallSite} : (e : Expr) →
    call ∈ e.calls start → call.StandsIn start e.tokens
  | .term t, h => Term.standsIn_of_mem_calls t h
  | .chain left op right, h => by
      rw [Expr.tokens]
      rcases List.mem_append.1 h with h | h
      · exact (Expr.standsIn_of_mem_calls left h).append _
      · rw [List.append_cons]
        refine (Term.standsIn_of_mem_calls right h).behind ?_
        rw [List.length_append, List.length_singleton, Nat.add_assoc]

theorem Term.standsIn_of_mem_calls {start : Nat} {call : CallSite} : (t : Term) →
    call ∈ t.calls start → call.StandsIn start t.tokens
  | .atom sign a, h => by cases h
  | .group sign inner, h => by
      rw [Term.tokens, List.append_cons]
      refine ((Expr.standsIn_of_mem_calls inner h).append _).behind ?_
      rw [List.length_append, List.length_singleton, Nat.add_assoc]
  | .call sign f args, h => by
      rw [Term.tokens]
      rcases List.mem_cons.1 h with rfl | h
      · exact ⟨Sign.tokens sign, args, [], rfl, rfl, rfl, rfl⟩
      · rw [List.append_cons, List.append_cons]
        refine ((Expr.standsIn_of_mem_callsEach args h).append _).behind ?_
        simp only [List.length_append, List.length_singleton, Nat.add_assoc]

theorem Expr.standsIn_of_mem_callsEach {start : Nat} {call : CallSite} : (es : List Expr) →
    call ∈ Expr.callsEach start es →
      call.StandsIn start (commaSeparated (Expr.tokensEach es))
  | [], h => by cases h
  | [e], h => by
      rw [Expr.callsEach, Expr.callsEach, List.append_nil] at h
      exact Expr.standsIn_of_mem_calls e h
  | e :: b :: es, h => by
      -- There is a comma only where another expression follows.
      change call.StandsIn start
        (e.tokens ++ .symbol .comma :: commaSeparated (Expr.tokensEach (b :: es)))
      rcases List.mem_append.1 h with h | h
      · exact (Expr.standsIn_of_mem_calls e h).append _
      · rw [List.append_cons]
        refine (Expr.standsIn_of_mem_callsEach (b :: es) h).behind ?_
        rw [List.length_append, List.length_singleton, Nat.add_assoc]

end

/-! ### Parentheses -/

/-- How many parentheses some tokens open. -/
def opened (ts : List Token) : Nat :=
  ts.count (.symbol .openParen)

/-- How many parentheses some tokens close. -/
def closed (ts : List Token) : Nat :=
  ts.count (.symbol .closeParen)

@[simp]
theorem opened_append (ts us : List Token) : opened (ts ++ us) = opened ts + opened us :=
  List.count_append

@[simp]
theorem closed_append (ts us : List Token) : closed (ts ++ us) = closed ts + closed us :=
  List.count_append

theorem opened_openParen (ts : List Token) :
    opened (.symbol .openParen :: ts) = opened ts + 1 :=
  List.count_cons_self

theorem closed_openParen (ts : List Token) : closed (.symbol .openParen :: ts) = closed ts :=
  List.count_cons_of_ne (by decide)

/-- Tokens whose parentheses match, as far as their number goes. -/
def Matched (ts : List Token) : Prop :=
  opened ts = closed ts

namespace Matched

variable {ts us : List Token}

theorem append (ht : Matched ts) (hu : Matched us) : Matched (ts ++ us) := by
  rw [Matched, opened_append, closed_append, ht, hu]

/-- A token that is no parenthesis. -/
theorem cons {t : Token} (hopen : t ≠ .symbol .openParen) (hclose : t ≠ .symbol .closeParen)
    (h : Matched ts) : Matched (t :: ts) := by
  rw [Matched, opened, closed, List.count_cons_of_ne hopen, List.count_cons_of_ne hclose]
  exact h

theorem paren (h : Matched ts) :
    Matched (.symbol .openParen :: (ts ++ [.symbol .closeParen])) := by
  rw [Matched] at h
  rw [Matched, opened_openParen, closed_openParen, opened_append, closed_append, h]
  rfl

end Matched

theorem Sign.matched_tokens (sign : Option Sign) : Matched (Sign.tokens sign) := by
  rcases sign with _ | _ | _ <;> rfl

theorem Operator.matched_token (op : Operator) : Matched [op.token] := by
  cases op <;> rfl

theorem Atom.matched_tokens (a : Atom) : Matched a.tokens := by
  cases a with
  | truth value => cases value <;> rfl
  | _ => rfl

mutual

/-- The parentheses of an expression match. -/
theorem Expr.matched_tokens : (e : Expr) → Matched e.tokens
  | .term t => t.matched_tokens
  | .chain left op right =>
      left.matched_tokens.append (op.matched_token.append right.matched_tokens)

theorem Term.matched_tokens : (t : Term) → Matched t.tokens
  | .atom sign a => (Sign.matched_tokens sign).append a.matched_tokens
  | .group sign inner => (Sign.matched_tokens sign).append inner.matched_tokens.paren
  | .call sign f args => by
      refine (Sign.matched_tokens sign).append (.cons ?_ ?_ (Expr.matched_tokensEach args).paren)
      · rintro ⟨⟩
      · rintro ⟨⟩

theorem Expr.matched_tokensEach : (es : List Expr) →
    Matched (commaSeparated (Expr.tokensEach es))
  | [] => rfl
  | [e] => e.matched_tokens
  | e :: b :: es =>
      e.matched_tokens.append (.cons (by decide) (by decide) (Expr.matched_tokensEach (b :: es)))

end

/-! ### The parentheses of a reading -/

theorem Slot.matched_tokens (slot : Slot) : Matched slot.tokens := by
  rcases slot with ⟨left, sign⟩
  cases left with
  | none => exact Sign.matched_tokens sign
  | some before =>
      rcases before with ⟨e, op⟩
      exact (e.matched_tokens.append op.matched_token).append (Sign.matched_tokens sign)

theorem Stage.matched_tokens (stage : Stage) : Matched stage.tokens := by
  cases stage with
  | operand slot => exact slot.matched_tokens
  | arguments => rfl
  | operator e => exact e.matched_tokens
  | brace slot | fieldName slot | closingBrace slot _ | word slot _ _ =>
      exact slot.matched_tokens.append rfl

/-- A frame opens one parenthesis. -/
theorem Frame.opened_tokens (frame : Frame) : opened frame.tokens = closed frame.tokens + 1 := by
  cases frame with
  | group slot =>
      have hslot := slot.matched_tokens
      rw [Matched] at hslot
      rw [Frame.tokens, opened_append, closed_append, hslot]
      rfl
  | call slot f p args =>
      have hcomma : Matched [.symbol .comma] := rfl
      have hargs : Matched (args.flatMap fun a => a.tokens ++ [.symbol .comma]) := by
        induction args with
        | nil => rfl
        | cons a args ih => exact (a.matched_tokens.append hcomma).append ih
      have hname : Matched (slot.tokens ++ [.word f.name]) := slot.matched_tokens.append rfl
      rw [Matched] at hargs hname
      rw [Frame.tokens, List.append_cons, opened_append, closed_append, opened_openParen,
        closed_openParen, hargs, hname, Nat.add_assoc]

theorem Frame.opened_tokensOf (frames : List Frame) :
    opened (Frame.tokensOf frames) = closed (Frame.tokensOf frames) + frames.length := by
  induction frames with
  | nil => rfl
  | cons frame outer ih =>
      rw [Frame.tokensOf, opened_append, closed_append, ih, frame.opened_tokens,
        List.length_cons]
      omega

/-- As many parentheses are open as there are frames. -/
theorem Reading.opened_tokens (r : Reading) :
    opened r.tokens = closed r.tokens + r.frames.length := by
  have hstage := r.stage.matched_tokens
  rw [Matched] at hstage
  rw [Reading.tokens, opened_append, closed_append, Frame.opened_tokensOf, hstage]
  omega

end Formula

end Questionnaire
