import Questionnaire.Proofs.Formula.Sentences

/-!
# Reading What an Expression Spells

The converse of soundness: the tokens of an allowed expression are read without a
fault, and what is read is that expression. The induction follows the
expression, so what is proved of each part has to hold inside any open frames
and wherever the part begins, not only for a whole formula.

Where a part ends, the reading need not be complete: behind a plain word it
waits for the next token, which may open a call. `Reading.Spells` holds of both
the waiting and the finished reading, and says that any other token finds the
expression in place.

The argument is made once for two kinds of readings. A strict one has to read the tokens
of an allowed expression to their end. A lax one is about an expression that only has the
shape of an allowed one, and may stop where a count is wrong: of the arguments of a call,
or of the levels that parentheses nest. No other fault can come up in it.

## Main definitions

* `Cause.isCount`: Whether a fault is one of a wrong count.
* `Reading.Leads`: Tokens lead from a reading to one with a property.
* `Reading.Spells`: A reading stands behind an expression.
* `Slot.behind`: A place without a sign.

## Theorems

* `Reading.Spells.next_eq`: What follows an expression is an operator or its end.
* `Expr.leads_tokens`: The tokens of an expression lead behind it.
* `Expr.ofScan_tokens`: A scan of the tokens of an expression spells it.
-/

namespace Questionnaire

namespace Formula

/-- Whether what is wrong is a count: of the arguments of a call, or of levels. -/
def Cause.isCount : Cause → Bool
  | argumentCount _ _ | tooDeep _ => true
  | _ => false

namespace Reading

variable {lax columns : Bool} {frames : List Frame} {r : Reading} {P Q : Reading → Prop}

/-- Wherever they stand in a formula, the tokens lead from a reading to one with a
    property. A lax reading may stop at a wrong count instead. -/
def Leads (lax columns : Bool) (r : Reading) (ts : List Token) (P : Reading → Prop) : Prop :=
  ∀ xs : List Lexeme, xs.map Lexeme.token = ts →
    (∃ r', xs.foldlM (next columns) r = .ok r' ∧ P r') ∨
      lax = true ∧ ∃ fault, xs.foldlM (next columns) r = .error fault ∧ fault.cause.isCount = true

theorem leads_nil (h : P r) : Leads lax columns r [] P := by
  intro xs hxs
  rw [List.map_eq_nil_iff.1 hxs]
  exact Or.inl ⟨r, rfl, h⟩

theorem leads_cons {t : Token} {ts : List Token}
    (h : ∀ p, ∃ r', next columns r ⟨t, p⟩ = .ok r' ∧ Leads lax columns r' ts P) :
    Leads lax columns r (t :: ts) P := by
  intro xs hxs
  rcases List.map_eq_cons_iff.1 hxs with ⟨⟨token, p⟩, rest, rfl, htoken, hrest⟩
  cases htoken
  rcases h p with ⟨middle, hnext, hlead⟩
  rw [List.foldlM_cons, hnext]
  exact hlead rest hrest

/-- A lax reading may stop at any token where a count is wrong. -/
theorem leads_stop {t : Token} {ts : List Token} (hlax : lax = true)
    (h : ∀ p, ∃ fault, next columns r ⟨t, p⟩ = .error fault ∧ fault.cause.isCount = true) :
    Leads lax columns r (t :: ts) P := by
  intro xs hxs
  rcases List.map_eq_cons_iff.1 hxs with ⟨⟨token, p⟩, rest, rfl, htoken, _⟩
  cases htoken
  rcases h p with ⟨fault, hnext, hcount⟩
  rw [List.foldlM_cons, hnext]
  exact Or.inr ⟨hlax, fault, rfl, hcount⟩

theorem leads_append {ts us : List Token} (h : Leads lax columns r ts P)
    (hnext : ∀ r', P r' → Leads lax columns r' us Q) : Leads lax columns r (ts ++ us) Q := by
  intro xs hxs
  -- The lexemes split where the tokens do.
  rcases List.map_eq_append_iff.1 hxs with ⟨first, second, rfl, hfirst, hsecond⟩
  rw [List.foldlM_append]
  rcases h first hfirst with ⟨middle, hrun, hmiddle⟩ | ⟨hlax, fault, hrun, hcount⟩
  · rw [hrun]
    exact hnext middle hmiddle second hsecond
  · rw [hrun]
    exact Or.inr ⟨hlax, fault, rfl, hcount⟩

/-- A reading inside some frames stands behind an expression. If the expression ends
    in a plain word, the reading may still wait for the token after it. -/
def Spells (columns : Bool) (frames : List Frame) (e : Expr) (r : Reading) : Prop :=
  r = ⟨frames, .operator e⟩ ∨
    ∃ slot name p, r = ⟨frames, .word slot name p⟩ ∧
      column columns slot name p = .ok e

/-- Whatever follows an expression, but for the parenthesis of a call, is taken as
    an operator or an end. -/
theorem Spells.next_eq {e : Expr} {x : Lexeme} (h : Spells columns frames e r)
    (hx : x.token ≠ .symbol .openParen) : next columns r x = operator frames e x := by
  rcases h with rfl | ⟨slot, name, p, rfl, hcolumn⟩
  · rfl
  · simp only [next, if_neg hx, hcolumn, bind, Except.bind]

/-- At the end of the formula the expression behind which a reading stands is the
    whole formula, if no frame is open. -/
theorem Spells.finish_eq {e : Expr} {p : Position} (h : Spells columns [] e r) :
    finish columns r p = .ok e := by
  rcases h with rfl | ⟨slot, name, wordAt, rfl, hcolumn⟩
  · rfl
  · simp only [finish, hcolumn, bind, Except.bind, List.isEmpty_nil, if_true]

end Reading

/-- A place behind an expression and an operator, or at the beginning of an
    expression, with no sign yet. -/
def Slot.behind (left : Option (Expr × Operator)) : Slot :=
  ⟨left, none⟩

theorem Slot.fill_behind (left : Option (Expr × Operator)) (sign : Option Sign)
    (t : Option Sign → Term) :
    (Slot.behind left).fill (fun _ => t sign) = Slot.fill ⟨left, sign⟩ t := by
  cases left with
  | none => rfl
  | some before => rfl

theorem Operator.ofToken_token (op : Operator) : Operator.ofToken op.token = some op := by
  cases op <;> rfl

theorem Operator.token_ne_openParen (op : Operator) : op.token ≠ .symbol .openParen := by
  cases op <;> exact fun h => by cases h

theorem Sign.ofToken_symbol (sign : Sign) : Sign.ofToken (.symbol sign.symbol) = some sign := by
  cases sign <;> rfl

/-- Whether tokens begin with one that does not end a call. -/
def BeginsInside (ts : List Token) : Prop :=
  ∃ t rest, ts = t :: rest ∧ t ≠ .symbol .closeParen

theorem BeginsInside.append {ts : List Token} (h : BeginsInside ts) (us : List Token) :
    BeginsInside (ts ++ us) := by
  rcases h with ⟨t, rest, rfl, ht⟩
  exact ⟨t, rest ++ us, rfl, ht⟩

theorem BeginsInside.sign_append {ts : List Token} (h : BeginsInside ts) (sign : Option Sign) :
    BeginsInside (Sign.tokens sign ++ ts) := by
  cases sign with
  | none => exact h
  | some s => exact ⟨_, ts, rfl, by cases s <;> exact fun h => by cases h⟩

theorem Term.beginsInside_tokens (t : Term) : BeginsInside t.tokens := by
  cases t with
  | atom sign a =>
      refine BeginsInside.sign_append ?_ sign
      cases a with
      | truth value => cases value <;> exact ⟨_, _, rfl, fun h => by cases h⟩
      | _ => exact ⟨_, _, rfl, fun h => by cases h⟩
  | group sign inner => exact BeginsInside.sign_append ⟨_, _, rfl, fun h => by cases h⟩ sign
  | call sign f args => exact BeginsInside.sign_append ⟨_, _, rfl, fun h => by cases h⟩ sign

theorem Expr.beginsInside_tokens (e : Expr) : BeginsInside e.tokens := by
  cases e with
  | term t => exact t.beginsInside_tokens
  | chain left op right =>
      exact (Expr.beginsInside_tokens left).append (op.token :: right.tokens)

namespace Reading

variable {lax columns : Bool} {frames : List Frame} {slot : Slot} {P : Reading → Prop}

/-- A sign is taken where no sign and no operator that looks like one came before. -/
theorem leads_sign {left : Option (Expr × Operator)} {sign : Option Sign} {ts : List Token}
    (hsign : ∀ e op, left = some (e, op) → op.isSign = true → sign = none)
    (h : Leads lax columns ⟨frames, .operand ⟨left, sign⟩⟩ ts P) :
    Leads lax columns ⟨frames, .operand (.behind left)⟩ (Sign.tokens sign ++ ts) P := by
  cases sign with
  | none => exact h
  | some s =>
      have hfollows : (Slot.behind left).followsSign = false := by
        cases left with
        | none => rfl
        | some before =>
            rcases before with ⟨e, op⟩
            cases hop : op.isSign with
            | false => exact hop
            | true => exact absurd (hsign e op rfl hop) (Option.some_ne_none s)
      refine leads_cons (fun p => ⟨⟨frames, .operand ⟨left, some s⟩⟩, ?_, h⟩)
      simp only [next, operand, Sign.ofToken_symbol]
      rw [hfollows]
      rfl

/-- A word other than a truth value is kept until the next token decides about it. -/
theorem next_word {name : String} (p : Position) (hTrue : name ≠ "True")
    (hFalse : name ≠ "False") :
    next columns ⟨frames, .operand slot⟩ ⟨.word name, p⟩ = .ok ⟨frames, .word slot name p⟩ := by
  simp only [next, operand, Sign.ofToken]

/-- The tokens of a term without parts lead behind it. -/
theorem leads_atom {a : Atom} (ha : (Term.atom slot.sign a).Shaped columns) :
    Leads lax columns ⟨frames, .operand slot⟩ a.tokens
      (Spells columns frames (slot.fill (.atom · a))) := by
  cases a with
  | number text => exact leads_cons (fun p => ⟨_, rfl, leads_nil (Or.inl rfl)⟩)
  | quote text => exact leads_cons (fun p => ⟨_, rfl, leads_nil (Or.inl rfl)⟩)
  | self => exact leads_cons (fun p => ⟨_, rfl, leads_nil (Or.inl rfl)⟩)
  | truth value =>
      cases value with
      | true => exact leads_cons (fun p => ⟨_, rfl, leads_nil (Or.inl rfl)⟩)
      | false => exact leads_cons (fun p => ⟨_, rfl, leads_nil (Or.inl rfl)⟩)
  | field name =>
      refine leads_cons (fun _ => ⟨_, rfl, leads_cons (fun _ => ⟨_, rfl, ?_⟩)⟩)
      exact leads_cons (fun _ => ⟨_, rfl, leads_cons (fun _ => ⟨_, rfl, leads_nil (Or.inl rfl)⟩)⟩)
  | column name =>
      rcases ha with ⟨hcolumns, hTrue, hFalse⟩
      refine leads_cons (fun p => ⟨_, next_word p hTrue hFalse, leads_nil (Or.inr ?_)⟩)
      exact ⟨slot, name, p, rfl, by simp only [column, hcolumns, if_true]⟩

/-- An expression in parentheses is a term, where one more frame may be opened. -/
theorem leads_group {inner : Expr} (hlevel : lax = false → frames.length < depthLimit)
    (hinner : Leads lax columns ⟨.group slot :: frames, .operand .first⟩ inner.tokens
      (Spells columns (.group slot :: frames) inner)) :
    Leads lax columns ⟨frames, .operand slot⟩
      (.symbol .openParen :: (inner.tokens ++ [.symbol .closeParen]))
      (Spells columns frames (slot.fill (.group · inner))) := by
  by_cases hopens : frames.length < depthLimit
  · refine leads_cons (fun p => ⟨⟨.group slot :: frames, .operand .first⟩, if_pos hopens, ?_⟩)
    -- Behind the inner expression, the parenthesis closes the frame.
    refine leads_append hinner (fun r hr => leads_cons (fun q => ⟨_, ?_, leads_nil (Or.inl rfl)⟩))
    rw [hr.next_eq (fun h => by cases h)]
    rfl
  · refine leads_stop ?_ (fun p => ⟨⟨p, .tooDeep depthLimit⟩, if_neg hopens, rfl⟩)
    exact Bool.of_not_eq_false fun hstrict => hopens (hlevel hstrict)

/-- The end of a call, behind its last argument or without any. -/
theorem leads_endCall {f : Function} {p : Position} {args : List Expr} {r : Reading}
    (hend : ∀ q, next columns r ⟨.symbol .closeParen, q⟩ = endCall frames slot f p args)
    (haccepts : lax = false → f.accepts args.length = true) :
    Leads lax columns r [.symbol .closeParen]
      (Spells columns frames (slot.fill (.call · f args))) := by
  by_cases hcount : f.accepts args.length = true
  · refine leads_cons (fun q => ⟨_, ?_, leads_nil (Or.inl rfl)⟩)
    rw [hend]
    exact if_pos hcount
  · refine leads_stop (Bool.of_not_eq_false fun hstrict => hcount (haccepts hstrict))
      (fun q => ⟨⟨p, .argumentCount f args.length⟩, ?_, rfl⟩)
    rw [hend]
    exact if_neg hcount

/-- The arguments of a call that are still to come, and its end. -/
theorem leads_arguments {f : Function} {p : Position} {args done : List Expr} {e : Expr}
    (hlead : ∀ a ∈ e :: args, ∀ done,
      Leads lax columns ⟨.call slot f p done :: frames, .operand .first⟩ a.tokens
        (Spells columns (.call slot f p done :: frames) a))
    (haccepts : lax = false → f.accepts (done ++ e :: args).length = true) :
    Leads lax columns ⟨.call slot f p done :: frames, .operand .first⟩
      (commaSeparated (Expr.tokensEach (e :: args)) ++ [.symbol .closeParen])
      (Spells columns frames (slot.fill (.call · f (done ++ e :: args)))) := by
  induction args generalizing e done with
  | nil =>
      refine leads_append (hlead e List.mem_cons_self done) (fun r hr => ?_)
      -- The last argument is ended by the parenthesis of the call.
      exact leads_endCall (fun q => hr.next_eq (fun h => by cases h)) haccepts
  | cons b args ih =>
      have hrest : lax = false → f.accepts (done ++ [e] ++ b :: args).length = true := by
        rwa [List.append_assoc, List.singleton_append]
      -- Any other one is ended by a comma, and then it is done.
      have htail := ih (fun a ha => hlead a (List.mem_cons_of_mem e ha)) hrest
      rw [List.append_assoc, List.singleton_append] at htail
      rw [show commaSeparated (Expr.tokensEach (e :: b :: args)) ++ [.symbol .closeParen] =
        e.tokens ++ .symbol .comma ::
          (commaSeparated (Expr.tokensEach (b :: args)) ++ [.symbol .closeParen]) by
        simp only [Expr.tokensEach, commaSeparated, List.append_assoc, List.cons_append]]
      refine leads_append (hlead e List.mem_cons_self done) (fun r hr => ?_)
      refine leads_cons (fun q => ⟨_, ?_, htail⟩)
      rw [hr.next_eq (fun h => by cases h)]
      rfl

/-- The first token of an argument is taken as after a comma. -/
theorem leads_first {f : Function} {p : Position} {ts : List Token} (hts : BeginsInside ts)
    (h : Leads lax columns ⟨.call slot f p [] :: frames, .operand .first⟩ ts P) :
    Leads lax columns ⟨.call slot f p [] :: frames, .arguments⟩ ts P := by
  rcases hts with ⟨t, rest, rfl, ht⟩
  intro xs hxs
  have hrun := h xs hxs
  rcases List.map_eq_cons_iff.1 hxs with ⟨x, rest, rfl, rfl, _⟩
  rw [List.foldlM_cons] at hrun ⊢
  -- Only a closing parenthesis would be taken differently here.
  have hnext : next columns ⟨.call slot f p [] :: frames, .arguments⟩ x =
      next columns ⟨.call slot f p [] :: frames, .operand .first⟩ x := by
    simp only [next]
    split
    · contradiction
    · rfl
  rw [hnext]
  exact hrun

/-- A call of a function of the table with a right count of arguments is a term, where
    one more frame may be opened. -/
theorem leads_call {f : Function} {args : List Expr} (hfind : Function.find? f.name = some f)
    (hlevel : lax = false → frames.length < depthLimit)
    (haccepts : lax = false → f.accepts args.length = true)
    (hlead : ∀ a ∈ args, ∀ p done,
      Leads lax columns ⟨.call slot f p done :: frames, .operand .first⟩ a.tokens
        (Spells columns (.call slot f p done :: frames) a)) :
    Leads lax columns ⟨frames, .operand slot⟩
      (.word f.name :: .symbol .openParen ::
        (commaSeparated (Expr.tokensEach args) ++ [.symbol .closeParen]))
      (Spells columns frames (slot.fill (.call · f args))) := by
  -- The table has no function with the name of a truth value.
  have hTrue : f.name ≠ "True" := by
    intro h
    rw [h] at hfind
    cases hfind
  have hFalse : f.name ≠ "False" := by
    intro h
    rw [h] at hfind
    cases hfind
  refine leads_cons (fun p => ⟨_, next_word p hTrue hFalse, ?_⟩)
  have hopen : ∀ q, next columns ⟨frames, .word slot f.name p⟩ ⟨.symbol .openParen, q⟩ =
      openFrame frames (.call slot f p []) .arguments p := by
    intro q
    simp only [next, hfind, if_true]
  -- Name and parenthesis open the frame of the call.
  by_cases hopens : frames.length < depthLimit
  · refine leads_cons (fun q => ⟨⟨.call slot f p [] :: frames, .arguments⟩, ?_, ?_⟩)
    · rw [hopen]
      exact if_pos hopens
    cases args with
    | nil => exact leads_endCall (fun q => rfl) haccepts
    | cons e args =>
        -- What remains is that the arguments do not begin with a closing parenthesis.
        refine leads_first ?_ (leads_arguments (fun a ha => hlead a ha p) haccepts)
        cases args with
        | nil => exact e.beginsInside_tokens.append _
        | cons b args => exact (e.beginsInside_tokens.append _).append _
  · refine leads_stop (Bool.of_not_eq_false fun hstrict => hopens (hlevel hstrict))
      (fun q => ⟨⟨p, .tooDeep depthLimit⟩, ?_, rfl⟩)
    rw [hopen]
    exact if_neg hopens

end Reading

theorem Expr.allowed_of_mem {columns : Bool} {es : List Expr} {e : Expr}
    (h : Expr.AllowedEach columns es) (he : e ∈ es) : e.Allowed columns := by
  induction es with
  | nil => cases he
  | cons a es ih =>
      rcases List.mem_cons.1 he with rfl | he
      · exact h.1
      · exact ih h.2 he

theorem Expr.shaped_of_mem {columns : Bool} {es : List Expr} {e : Expr}
    (h : Expr.ShapedEach columns es) (he : e ∈ es) : e.Shaped columns := by
  induction es with
  | nil => cases he
  | cons a es ih =>
      rcases List.mem_cons.1 he with rfl | he
      · exact h.1
      · exact ih h.2 he

theorem Expr.depth_le_depthEach {es : List Expr} {e : Expr} (he : e ∈ es) :
    e.depth ≤ Expr.depthEach es := by
  induction es with
  | nil => cases he
  | cons a es ih =>
      rw [Expr.depthEach]
      rcases List.mem_cons.1 he with rfl | he
      · exact Nat.le_max_left _ _
      · exact Nat.le_trans (ih he) (Nat.le_max_right _ _)

/-- A term without a sign behind an operator that looks like one has none to read. -/
theorem Slot.sign_eq_none {left : Option (Expr × Operator)} {sign : Option Sign}
    (h : ∀ e op, left = some (e, op) → op.isSign = true → sign.isSome = false) :
    ∀ e op, left = some (e, op) → op.isSign = true → sign = none := by
  intro e op heq hop
  exact Option.isNone_iff_eq_none.1 (Option.isSome_eq_false_iff.1 (h e op heq hop))

mutual

/-- The tokens of an expression lead behind it, inside any frames: if it fits, or in a lax
    reading, if it has the shape of one that may. -/
theorem Expr.leads_tokens (lax columns : Bool) : (e : Expr) → (frames : List Frame) →
    e.Shaped columns → (lax = false → e.Fits columns frames.length) →
      Reading.Leads lax columns ⟨frames, .operand .first⟩ e.tokens
        (Reading.Spells columns frames e)
  | .term t, frames, hshaped, h => by
      refine Term.leads_tokens lax columns t frames none hshaped h ?_
      intro e op hnone
      cases hnone
  | .chain left op right, frames, hshaped, h => by
      rcases hshaped with ⟨hleft, hright, hop⟩
      have hleftFits : lax = false → left.Fits columns frames.length := by
        intro hstrict
        rcases h hstrict with ⟨⟨hallowed, _, _⟩, hdepth⟩
        simp only [Expr.depth] at hdepth
        exact ⟨hallowed, by omega⟩
      have hrightFits : lax = false → right.Fits columns frames.length := by
        intro hstrict
        rcases h hstrict with ⟨⟨_, hallowed, _⟩, hdepth⟩
        simp only [Expr.depth] at hdepth
        exact ⟨hallowed, by omega⟩
      -- The operator is read behind the left part, and the term in the place behind it.
      refine Reading.leads_append (Expr.leads_tokens lax columns left frames hleft hleftFits)
        (fun r hr => ?_)
      refine Reading.leads_cons
        (fun p => ⟨⟨frames, .operand (.behind (some (left, op)))⟩, ?_, ?_⟩)
      · rw [hr.next_eq op.token_ne_openParen]
        simp only [Reading.operator, Operator.ofToken_token]
        rfl
      · refine Term.leads_tokens lax columns right frames (some (left, op)) hright hrightFits
          (fun e' op' heq hsign => ?_)
        cases heq
        exact hop hsign

/-- The tokens of a term lead behind it, with what is to its left. -/
theorem Term.leads_tokens (lax columns : Bool) : (t : Term) → (frames : List Frame) →
    (left : Option (Expr × Operator)) → t.Shaped columns →
      (lax = false → t.Fits columns frames.length) →
      (∀ e op, left = some (e, op) → op.isSign = true → t.isSigned = false) →
        Reading.Leads lax columns ⟨frames, .operand (.behind left)⟩ t.tokens
          (Reading.Spells columns frames ((Slot.behind left).fill fun _ => t))
  | .atom sign a, frames, left, hshaped, h, hsign => by
      rw [Slot.fill_behind left sign (.atom · a)]
      exact Reading.leads_sign (Slot.sign_eq_none hsign) (Reading.leads_atom hshaped)
  | .group sign inner, frames, left, hshaped, h, hsign => by
      rw [Slot.fill_behind left sign (.group · inner)]
      have hlevel : lax = false → frames.length < depthLimit := by
        intro hstrict
        have hdepth := (h hstrict).2
        simp only [Term.depth] at hdepth
        omega
      -- Inside the parentheses one more frame is open and one level less is left.
      refine Reading.leads_sign (Slot.sign_eq_none hsign) (Reading.leads_group hlevel ?_)
      refine Expr.leads_tokens lax columns inner _ hshaped (fun hstrict => ?_)
      rcases h hstrict with ⟨hallowed, hdepth⟩
      simp only [Term.depth] at hdepth
      refine ⟨hallowed, ?_⟩
      rw [List.length_cons]
      omega
  | .call sign f args, frames, left, hshaped, h, hsign => by
      rcases hshaped with ⟨hfind, hshaped⟩
      rw [Slot.fill_behind left sign (.call · f args)]
      have hlevel : lax = false → frames.length < depthLimit := by
        intro hstrict
        have hdepth := (h hstrict).2
        simp only [Term.depth] at hdepth
        omega
      refine Reading.leads_sign (Slot.sign_eq_none hsign)
        -- The same holds for the arguments of a call.
        (Reading.leads_call hfind hlevel (fun hstrict => (h hstrict).1.2.1)
          (fun a ha p done => ?_))
      refine Expr.leads_tokensEach lax columns args a ha _ (Expr.shaped_of_mem hshaped ha)
        (fun hstrict => ?_)
      rcases h hstrict with ⟨⟨_, _, hallowed⟩, hdepth⟩
      simp only [Term.depth] at hdepth
      refine ⟨Expr.allowed_of_mem hallowed ha, ?_⟩
      have hle := Expr.depth_le_depthEach ha
      rw [List.length_cons]
      omega

/-- The tokens of each of several expressions lead behind it. -/
theorem Expr.leads_tokensEach (lax columns : Bool) : (es : List Expr) → ∀ e ∈ es,
    ∀ frames : List Frame, e.Shaped columns → (lax = false → e.Fits columns frames.length) →
      Reading.Leads lax columns ⟨frames, .operand .first⟩ e.tokens
        (Reading.Spells columns frames e)
  | [], _, h, _ => by cases h
  | a :: es, e, h, frames => by
      have hfirst := Expr.leads_tokens lax columns a frames
      have hrest := Expr.leads_tokensEach lax columns es e
      rcases List.mem_cons.1 h with rfl | h
      · exact hfirst
      · exact hrest h frames

end

/-- A scan to the end of a formula, of the tokens of an expression that fits, spells
    that expression. -/
theorem Expr.ofScan_tokens {columns : Bool} {scan : Scan} {p : Position} {e : Expr}
    (hstop : scan.stop = .ok p) (htokens : scan.lexemes.map Lexeme.token = e.tokens)
    (hallowed : e.Allowed columns) (hdepth : e.depth ≤ depthLimit) :
    Expr.ofScan columns scan = .ok e := by
  have hshaped := ((Expr.allowed_iff 0 e).1 hallowed).1
  rcases Expr.leads_tokens false columns e [] hshaped (fun _ => ⟨hallowed, hdepth⟩)
    scan.lexemes htokens with ⟨r, hrun, hr⟩ | ⟨hlax, _⟩
  case inr => cases hlax
  have hrun : scan.lexemes.foldlM (Reading.next columns) .start = .ok r := hrun
  simp only [Expr.ofScan, hrun, hstop, bind, Except.bind]
  exact hr.finish_eq

end Formula

end Questionnaire
