import Questionnaire.Proofs.Json.Grammar

/-!
# Printed Values

A printed value is valid, and its value is the one that was printed. The layout
does not matter, as long as the unit of indentation is made of spaces: all that
a layout adds stands between tokens.

A lexer reads a printed value piece by piece. The pieces differ in where they
leave it. Punctuation leaves it between tokens, and so do strings, which end with
a quotation mark of their own. But a number or a word is pending until something
else comes, and so a value as a whole only leaves the lexer settled. Whatever can
follow a value in a text makes it read on as if it stood between tokens, and
that is what `step_of_settle` says.

## Main definitions

* `Begins`: A piece that is read between tokens.
* `Closes`: A piece that is read behind a value and leaves a lexer between tokens.

## Theorems

* `unescape_escape`: A string that is escaped stands for itself.
* `integer?_digits`: So does an integer.
* `closes_symbol`: A symbol with spaces around it.
* `begins_write`: The tokens of a printed value.
* `spells_print`: A printed value is valid, in every layout.
-/

namespace Questionnaire

namespace Json

/-! ### Strings -/

/-- How a character stands in a string: by a short escape, by its code, or by itself. -/
theorem escapeChar_cases (c : Char) :
    (∃ e, escapeChar c = ['\\', e] ∧ shortEscape? e = some c) ∨
      (c.toNat < 0x20 ∧ escapeChar c =
        ['\\', 'u', '0', '0', hexDigit (c.toNat / 16), hexDigit (c.toNat % 16)]) ∨
      (¬ c.toNat < 0x20 ∧ c ≠ '"' ∧ c ≠ '\\' ∧ escapeChar c = [c]) := by
  by_cases hshort : c ∈ ['"', '\\', '\x08', '\x0c', '\n', '\r', '\t']
  · simp only [List.mem_cons, List.not_mem_nil, or_false] at hshort
    rcases hshort with rfl | rfl | rfl | rfl | rfl | rfl | rfl
    all_goals exact Or.inl ⟨_, rfl, rfl⟩
  · simp only [List.mem_cons, List.not_mem_nil, or_false, not_or] at hshort
    rcases hshort with ⟨hmark, hbackslash, hback, hfeed, hline, hreturn, htab⟩
    by_cases hcontrol : c.toNat < 0x20
    · refine Or.inr (Or.inl ⟨hcontrol, ?_⟩)
      simp [escapeChar, hmark, hbackslash, hback, hfeed, hline, hreturn, htab, hcontrol]
    · refine Or.inr (Or.inr ⟨hcontrol, hmark, hbackslash, ?_⟩)
      simp [escapeChar, hmark, hbackslash, hback, hfeed, hline, hreturn, htab, hcontrol]

theorem codeUnit?_hexDigit {n : Nat} (h : n < 0x20) :
    codeUnit? '0' '0' (hexDigit (n / 16)) (hexDigit (n % 16)) = some n := by
  have hall : ∀ m : Fin 0x20,
      codeUnit? '0' '0' (hexDigit (m / 16)) (hexDigit (m % 16)) = some m.val := by decide
  exact hall ⟨n, h⟩

/-- A character, as it stands in a string, stands for itself. -/
theorem unescape_escapeChar (c : Char) (rest : List Char) :
    unescape (escapeChar c ++ rest) = (unescape rest).map (c :: ·) := by
  rcases escapeChar_cases c with
    ⟨e, hescape, hshort⟩ | ⟨hcontrol, hescape⟩ | ⟨hcontrol, hmark, hbackslash, hescape⟩
  · have hletter : e ≠ 'u' := by
      rintro rfl
      cases hshort
    rw [hescape, List.cons_append, List.singleton_append, unescape.eq_3, hshort]
    · rfl
    · intro _ _ _ _ _ he
      exact absurd he hletter
  · have hvalid : c.toNat.isValidChar := c.valid
    rw [hescape]
    simp only [List.cons_append, List.nil_append, unescape]
    rw [codeUnit?_hexDigit hcontrol]
    dsimp only
    rw [if_pos hvalid, Char.ofNat_toNat]
  · rw [hescape, List.singleton_append, unescape.eq_4]
    · simp [hmark, hbackslash, hcontrol]
    · intro _ _ _ _ _ hc
      exact absurd hc hbackslash
    · intro _ _ hc
      exact absurd hc hbackslash

/-- A string that is escaped stands for itself. -/
theorem unescape_escape (cs : List Char) : unescape (cs.flatMap escapeChar) = some cs := by
  induction cs with
  | nil => rfl
  | cons c rest ih =>
      rw [List.flatMap_cons, unescape_escapeChar, ih]
      rfl

theorem hexDigit_ne {n : Nat} (h : n < 16) : hexDigit n ≠ '"' ∧ hexDigit n ≠ '\\' := by
  have hall : ∀ m : Fin 16, hexDigit m ≠ '"' ∧ hexDigit m ≠ '\\' := by decide
  exact hall ⟨n, h⟩

/-- No character of a string ends it as it stands there. -/
theorem run_escapeChar (ts : List Token) (text : List Char) (c : Char) :
    Lexer.run ⟨ts, .inside text⟩ (escapeChar c) = some ⟨ts, .inside (text ++ escapeChar c)⟩ := by
  rcases escapeChar_cases c with
    ⟨e, hescape, _⟩ | ⟨hcontrol, hescape⟩ | ⟨_, hmark, hbackslash, hescape⟩
  · rw [hescape]
    simp [Lexer.run, Lexer.step]
  · have hhigh := hexDigit_ne (show c.toNat / 16 < 16 by omega)
    have hlow := hexDigit_ne (show c.toNat % 16 < 16 by omega)
    rw [hescape]
    simp [Lexer.run, Lexer.step, hhigh, hlow]
  · rw [hescape]
    simp [Lexer.run, Lexer.step, hmark, hbackslash]

theorem run_escape (ts : List Token) (text cs : List Char) :
    Lexer.run ⟨ts, .inside text⟩ (cs.flatMap escapeChar) =
      some ⟨ts, .inside (text ++ cs.flatMap escapeChar)⟩ := by
  induction cs generalizing text with
  | nil => simp
  | cons c rest ih =>
      rw [List.flatMap_cons, Lexer.run_append, run_escapeChar, Option.bind_some, ih,
        List.append_assoc]

/-- A string ends with its own quotation mark, and a lexer stands between tokens again. -/
theorem run_quote (ts : List Token) (s : String) :
    Lexer.run ⟨ts, .ready⟩ (quote s) = some ⟨ts ++ [.string s], .ready⟩ := by
  have hopen : Lexer.step ⟨ts, .ready⟩ '"' = some ⟨ts, .inside []⟩ := rfl
  have hclose : Lexer.step ⟨ts, .inside (s.toList.flatMap escapeChar)⟩ '"' =
      some ⟨ts ++ [.string s], .ready⟩ := by
    rw [Lexer.step]
    dsimp only
    rw [if_pos rfl, unescape_escape, Option.map_some, String.ofList_toList]
  rw [quote, List.cons_append, Lexer.run_cons, hopen, Option.bind_some, Lexer.run_append,
    run_escape, List.nil_append, Option.bind_some, Lexer.run_cons, hclose]
  rfl

/-! ### Numbers -/

/-- The digits of a number begin with a zero only if the number is zero. -/
theorem head?_toDigits {n : Nat} (h : 0 < n) : (Nat.toDigits 10 n).head? ≠ some '0' := by
  induction n using Nat.strongRecOn with
  | ind n ih =>
      by_cases hlt : n < 10
      · have hall : ∀ m : Fin 10, 0 < m.val → Nat.digitChar m ≠ '0' := by decide
        rw [Nat.toDigits_of_lt_base hlt, List.head?_cons]
        exact fun heq => hall ⟨n, hlt⟩ h (Option.some.inj heq)
      · have hfirst := ih (n / 10) (by omega) (by omega)
        rw [Nat.toDigits_of_base_le (by decide) (by omega)]
        cases hdigits : Nat.toDigits 10 (n / 10) with
        | nil => exact absurd hdigits Nat.toDigits_ne_nil
        | cons c rest =>
            rw [hdigits] at hfirst
            exact hfirst

theorem natural?_toDigits (n : Nat) : natural? (Nat.toDigits 10 n) = some n := by
  by_cases hzero : n = 0
  · subst hzero
    rfl
  · have hhead := head?_toDigits (Nat.pos_of_ne_zero hzero)
    have hdigits : (Nat.toDigits 10 n).all Char.isDigit = true :=
      List.all_eq_true.2 fun c hc => Nat.isDigit_of_mem_toDigits (by decide) (by decide) hc
    rw [natural?.eq_def]
    split
    case h_1 hnil => exact absurd hnil Nat.toDigits_ne_nil
    case h_2 hdigit =>
      rw [hdigit] at hhead
      exact absurd rfl hhead
    case h_3 hdigit =>
      rw [hdigit] at hhead
      exact absurd rfl hhead
    case h_4 => rw [if_pos hdigits, Nat.ofDigitChars_ten_toDigits]

theorem integer?_digits (n : Int) : integer? (digits n) = some n := by
  cases n with
  | ofNat n =>
      rw [digits, Nat.toString_eq_repr, Nat.toList_repr, integer?.eq_2, natural?_toDigits]
      · rfl
      · intro rest hminus
        have hmem : '-' ∈ Nat.toDigits 10 n := by
          rw [hminus]
          exact List.mem_cons_self
        cases Nat.isDigit_of_mem_toDigits (by decide) (by decide) hmem
  | negSucc n =>
      rw [digits, Nat.toString_eq_repr, Nat.toList_repr, integer?, natural?_toDigits]
      rfl

theorem run_isDigit (ts : List Token) (text : List Char) {cs : List Char}
    (h : ∀ c ∈ cs, c.isDigit = true) :
    Lexer.run ⟨ts, .number text⟩ cs = some ⟨ts, .number (text ++ cs)⟩ := by
  induction cs generalizing text with
  | nil => simp
  | cons c rest ih =>
      have hstep : Lexer.step ⟨ts, .number text⟩ c = some ⟨ts, .number (text ++ [c])⟩ :=
        if_pos (h c List.mem_cons_self)
      rw [Lexer.run_cons, hstep, Option.bind_some,
        ih _ fun d hd => h d (List.mem_cons_of_mem _ hd), List.append_assoc]
      rfl

theorem begin_of_isDigit (ts : List Token) {c : Char} (h : c.isDigit = true) :
    Lexer.begin ts c = some ⟨ts, .number [c]⟩ := by
  have hspace : isSpace c = false := by
    rw [Bool.eq_false_iff]
    intro hspace
    simp only [isSpace, Bool.or_eq_true, beq_iff_eq] at hspace
    rcases hspace with ((rfl | rfl) | rfl) | rfl <;> cases h
  have hmark : c ≠ '"' := by
    rintro rfl
    cases h
  simp [Lexer.begin, hspace, hmark, h]

/-- A number is pending at its end. -/
theorem run_digits (ts : List Token) (n : Int) :
    Lexer.run ⟨ts, .ready⟩ (digits n) = some ⟨ts, .number (digits n)⟩ := by
  have hdigits (m : Nat) : ∀ c ∈ Nat.toDigits 10 m, c.isDigit = true :=
    fun _ hc => Nat.isDigit_of_mem_toDigits (by decide) (by decide) hc
  cases n with
  | ofNat m =>
      rw [digits, Nat.toString_eq_repr, Nat.toList_repr]
      have hall := hdigits m
      cases htext : Nat.toDigits 10 m with
      | nil => exact absurd htext Nat.toDigits_ne_nil
      | cons c rest =>
          rw [htext] at hall
          have hstep : Lexer.step ⟨ts, .ready⟩ c = some ⟨ts, .number [c]⟩ :=
            begin_of_isDigit ts (hall c List.mem_cons_self)
          rw [Lexer.run_cons, hstep, Option.bind_some,
            run_isDigit ts [c] fun d hd => hall d (List.mem_cons_of_mem _ hd)]
          rfl
  | negSucc m =>
      have hstep : Lexer.step ⟨ts, .ready⟩ '-' = some ⟨ts, .number ['-']⟩ := rfl
      rw [digits, Nat.toString_eq_repr, Nat.toList_repr, Lexer.run_cons, hstep, Option.bind_some,
        run_isDigit ts ['-'] (hdigits _)]
      rfl

/-! ### Pieces -/

/-- A piece that is read between tokens. Its last token may be pending. -/
def Begins (cs : List Char) (us : List Token) : Prop :=
  ∀ ts, ∃ l, Lexer.run ⟨ts, .ready⟩ cs = some l ∧ l.settle = some (ts ++ us)

/-- A piece that is read behind a value, and leaves a lexer between tokens. -/
def Closes (cs : List Char) (us : List Token) : Prop :=
  ∀ l ts, l.settle = some ts → Lexer.run l cs = some ⟨ts ++ us, .ready⟩

theorem Closes.append {as bs : List Char} {us vs : List Token} (ha : Closes as us)
    (hb : Closes bs vs) : Closes (as ++ bs) (us ++ vs) := by
  intro l ts hl
  rw [Lexer.run_append, ha l ts hl, Option.bind_some, hb ⟨ts ++ us, .ready⟩ _ rfl,
    List.append_assoc]

/-- A value between two such pieces. -/
theorem Closes.around {as bs cs : List Char} {us vs ws : List Token} (ha : Closes as us)
    (hb : Begins bs vs) (hc : Closes cs ws) : Closes (as ++ (bs ++ cs)) (us ++ (vs ++ ws)) := by
  intro l ts hl
  rcases hb (ts ++ us) with ⟨l', hrun, hsettle⟩
  rw [Lexer.run_append, ha l ts hl, Option.bind_some, Lexer.run_append, hrun, Option.bind_some,
    hc l' _ hsettle]
  simp only [List.append_assoc]

theorem Closes.begins {cs : List Char} {us : List Token} (h : Closes cs us) : Begins cs us :=
  fun ts => ⟨⟨ts ++ us, .ready⟩, h ⟨ts, .ready⟩ ts rfl, rfl⟩

/-- What continues neither a number nor a word is read as if it stood between tokens. -/
theorem step_of_settle {l : Lexer} {ts : List Token} (h : l.settle = some ts) {c : Char}
    (hdigit : c.isDigit = false) (hlower : c.isLower = false) : l.step c = Lexer.begin ts c := by
  rcases l with ⟨us, mode⟩
  cases mode with
  | ready =>
      cases h
      rfl
  | number text =>
      rw [Lexer.step]
      dsimp only
      rw [hdigit, h]
      rfl
  | word text =>
      rw [Lexer.step]
      dsimp only
      rw [hlower, h]
      rfl
  | inside text => cases h
  | escaped text => cases h

theorem closes_quote (s : String) : Closes (quote s) [.string s] := by
  intro l ts hl
  have hfirst : l.step '"' = Lexer.step ⟨ts, .ready⟩ '"' := step_of_settle hl rfl rfl
  rw [← run_quote, quote, List.cons_append, Lexer.run_cons, hfirst, ← Lexer.run_cons]

theorem begin_of_isSpace (ts : List Token) {c : Char} (h : isSpace c = true) :
    Lexer.begin ts c = some ⟨ts, .ready⟩ :=
  if_pos h

theorem run_isSpace (ts : List Token) {cs : List Char} (h : ∀ c ∈ cs, isSpace c = true) :
    Lexer.run ⟨ts, .ready⟩ cs = some ⟨ts, .ready⟩ := by
  induction cs with
  | nil => rfl
  | cons c rest ih =>
      have hstep : Lexer.step ⟨ts, .ready⟩ c = some ⟨ts, .ready⟩ :=
        begin_of_isSpace ts (h c List.mem_cons_self)
      rw [Lexer.run_cons, hstep, Option.bind_some,
        ih fun d hd => h d (List.mem_cons_of_mem _ hd)]

/-- A symbol with spaces around it. -/
theorem closes_symbol {c : Char} {t : Token} (ht : Token.ofChar c = some t)
    (before after : List Char) (hbefore : ∀ d ∈ before, isSpace d = true)
    (hafter : ∀ d ∈ after, isSpace d = true) : Closes (before ++ c :: after) [t] := by
  have hsymbol : c.isDigit = false ∧ c.isLower = false ∧
      ∀ ts, Lexer.begin ts c = some ⟨ts ++ [t], .ready⟩ := by
    rw [Token.ofChar.eq_def] at ht
    split at ht
    all_goals
      cases ht
      try exact ⟨rfl, rfl, fun _ => rfl⟩
  rcases hsymbol with ⟨hdigit, hlower, hbegin⟩
  have hlast (l : Lexer) (ts : List Token) (hl : l.settle = some ts) :
      Lexer.run l (c :: after) = some ⟨ts ++ [t], .ready⟩ := by
    rw [Lexer.run_cons, step_of_settle hl hdigit hlower, hbegin, Option.bind_some,
      run_isSpace _ hafter]
  intro l ts hl
  cases before with
  | nil => exact hlast l ts hl
  | cons d rest =>
      -- The first space ends what was pending.
      have hd := hbefore d List.mem_cons_self
      have hspace : d.isDigit = false ∧ d.isLower = false := by
        simp only [isSpace, Bool.or_eq_true, beq_iff_eq] at hd
        rcases hd with ((rfl | rfl) | rfl) | rfl <;> exact ⟨rfl, rfl⟩
      rw [List.cons_append, Lexer.run_cons, step_of_settle hl hspace.1 hspace.2,
        begin_of_isSpace ts hd, Option.bind_some, Lexer.run_append,
        run_isSpace ts fun e he => hbefore e (List.mem_cons_of_mem _ he), Option.bind_some]
      exact hlast _ ts rfl

/-! ### Layouts -/

/-- Whether a layout indents with spaces only. -/
def Style.IsSpaced : Style → Prop
  | compact => True
  | indented unit => ∀ c ∈ unit, isSpace c = true

theorem Style.isSpace_of_mem_newline {style : Style} (h : style.IsSpaced) (level : Nat) :
    ∀ c ∈ style.newline level, isSpace c = true := by
  intro c hc
  cases style with
  | compact => cases hc
  | indented unit =>
      rcases List.mem_cons.1 hc with rfl | hc
      · rfl
      · rcases List.mem_flatten.1 hc with ⟨copy, hcopy, hc⟩
        rw [List.eq_of_mem_replicate hcopy] at hc
        exact h c hc

theorem Style.isSpace_of_mem_colon (style : Style) :
    ∃ spaces, style.colon = ':' :: spaces ∧ ∀ c ∈ spaces, isSpace c = true := by
  cases style with
  | compact =>
      refine ⟨[], rfl, ?_⟩
      intro c hc
      cases hc
  | indented unit =>
      refine ⟨[' '], rfl, ?_⟩
      intro c hc
      rw [List.mem_singleton.1 hc]
      rfl

section Layout

variable {style : Style}

/-- What begins an array or an object, or stands between its parts. -/
theorem closes_opening (h : style.IsSpaced) (level : Nat) (c : Char) {t : Token}
    (ht : Token.ofChar c = some t) : Closes (c :: style.newline level) [t] := by
  refine closes_symbol ht [] (style.newline level) ?_ (Style.isSpace_of_mem_newline h level)
  intro d hd
  cases hd

/-- What ends an array or an object. -/
theorem closes_ending (h : style.IsSpaced) (level : Nat) {c : Char} {t : Token}
    (ht : Token.ofChar c = some t) : Closes (style.newline level ++ [c]) [t] := by
  refine closes_symbol ht (style.newline level) [] (Style.isSpace_of_mem_newline h level) ?_
  intro d hd
  cases hd

theorem closes_key (style : Style) (key : String) :
    Closes (quote key ++ style.colon) [.string key, .colon] := by
  rcases style.isSpace_of_mem_colon with ⟨spaces, hcolon, hspaces⟩
  rw [hcolon]
  refine (closes_quote key).append (closes_symbol rfl [] spaces ?_ hspaces)
  intro c hc
  cases hc

mutual

/-- The tokens of a printed value. -/
theorem begins_write (h : style.IsSpaced) (level : Nat) (j : Json) :
    Begins (write style level j) j.tokens := by
  match j with
  | bool true | bool false =>
      intro ts
      exact ⟨_, rfl, rfl⟩
  | integer n =>
      intro ts
      refine ⟨_, run_digits ts n, ?_⟩
      rw [Lexer.settle]
      dsimp only
      rw [integer?_digits]
      rfl
  | string s => exact (closes_quote s).begins
  | array [] =>
      intro ts
      exact ⟨_, rfl, by simp [Lexer.settle, tokens]⟩
  | array (item :: items) =>
      have hpieces := (closes_opening h (level + 1) '[' rfl).around
        (begins_write h (level + 1) item) (closes_writeItems h (level + 1) level items)
      rw [write, tokens]
      simpa only [List.append_assoc, List.cons_append, List.nil_append] using hpieces.begins
  | object [] =>
      intro ts
      exact ⟨_, rfl, by simp [Lexer.settle, tokens]⟩
  | object ((key, value) :: members) =>
      have hkey := (closes_opening h (level + 1) '\x7b' rfl).append (closes_key style key)
      have hpieces := hkey.around (begins_write h (level + 1) value)
        (closes_writeMembers h (level + 1) level members)
      rw [write, tokens]
      simpa only [List.append_assoc, List.cons_append, List.nil_append] using hpieces.begins

/-- The tokens of what follows the first item of an array, with its end. -/
theorem closes_writeItems (h : style.IsSpaced) (level outer : Nat) (items : List Json) :
    Closes (writeItems style level items ++ (style.newline outer ++ [']']))
      (tokensOfItems items) := by
  match items with
  | [] => exact closes_ending h outer rfl
  | item :: items =>
      have hpieces := (closes_opening h level ',' rfl).around
        (begins_write h level item) (closes_writeItems h level outer items)
      rw [writeItems, tokensOfItems]
      simpa only [List.append_assoc, List.cons_append, List.nil_append] using hpieces

/-- The tokens of what follows the first member of an object, with its end. -/
theorem closes_writeMembers (h : style.IsSpaced) (level outer : Nat)
    (members : List (String × Json)) :
    Closes (writeMembers style level members ++ (style.newline outer ++ ['\x7d']))
      (tokensOfMembers members) := by
  match members with
  | [] => exact closes_ending h outer rfl
  | (key, value) :: members =>
      have hpieces := ((closes_opening h level ',' rfl).append (closes_key style key)).around
        (begins_write h level value) (closes_writeMembers h level outer members)
      rw [writeMembers, tokensOfMembers]
      simpa only [List.append_assoc, List.cons_append, List.nil_append] using hpieces

end

/-- A printed value is valid and has the value that was printed. -/
theorem spells_print (h : style.IsSpaced) (j : Json) : Spells (print style j) j := by
  rcases begins_write h 0 j [] with ⟨l, hrun, hsettle⟩
  rw [Spells, lex, print, String.toList_ofList, hrun]
  exact hsettle

end Layout

end Json

end Questionnaire
