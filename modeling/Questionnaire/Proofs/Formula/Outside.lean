import Mathlib.Data.List.Chain
import Mathlib.Data.List.Infix

/-!
# Texts Outside of Quotation

What a compiled formula looks like to someone who only knows where quoted texts
begin and end. A quotation mark outside of a quoted text opens one, the next
mark like it closes it, and a backslash inside takes the character after it out
of consideration. What is left are the stretches outside, and `IsContained` says
of them what keeps a text within one expression: the parentheses match, and
nothing stands there that would begin a comment, a statement, a block or a line.

This is stated without regard to how the text was made. To prove it of a text
that was put together from parts, `Watch` reads it character by character and
remembers what the parts before have left: whether a quoted text is open, the
last character, and how many parentheses are open. A watch that reaches the end
of a text has read the text before and the text after it one by one, so a fact
about a whole is a chain of facts about its parts.

## Main definitions

* `Side`: Where the reader of a text stands.
* `stretches`: The stretches of a text outside of its quoted texts.
* `IsMatched`: Every parenthesis has its partner.
* `breakouts`: What must not stand outside of quoted texts.
* `IsContained`: A text stays within one expression.
* `Watch`, `Watch.step`, `Watch.run`: A reader that stops where a text breaks out.

## Theorems

* `Watch.run_append`: A watch reads two texts one after the other.
* `Watch.step_outside`, `Watch.step_quoted`: What one step passes.
* `Watch.exists_stretches_of_run`: What a watch that reaches the end has seen.
* `isContained_of_run`: A text that a watch reads to its end is contained.
-/

namespace Questionnaire

namespace Formula

/-- Where the reader of a text stands: outside of quoted texts, inside one, or behind a
    backslash inside one. -/
inductive Side
  | outside
  | inside (mark : Char)
  | escaped (mark : Char)
deriving DecidableEq, Repr

/-- Whether a character opens a quoted text. -/
def isMark (c : Char) : Bool :=
  c == '\'' || c == '"'

/-- The stretches of a text outside of its quoted texts: the one before the first of
    them, those between them, and the one behind the last. A text whose last quoted
    text is not closed has none. -/
def stretches : Side → List Char → Option (List (List Char))
  | .outside, [] => some [[]]
  | .inside _, [] => none
  | .escaped _, [] => none
  | .outside, c :: rest =>
    if isMark c then (stretches (.inside c) rest).map ([] :: ·)
    else (stretches .outside rest).map (List.modifyHead (c :: ·))
  | .inside mark, c :: rest =>
    if c = mark then stretches .outside rest
    else if c = '\\' then stretches (.escaped mark) rest
    else stretches (.inside mark) rest
  | .escaped mark, _ :: rest => stretches (.inside mark) rest

/-- Whether every parenthesis has its partner: nowhere are more closed than were opened,
    and at the end none is open. -/
def IsMatched (cs : List Char) : Prop :=
  (∀ front, front <+: cs → front.count ')' ≤ front.count '(') ∧ cs.count '(' = cs.count ')'

/-- What must not stand outside of quoted texts. -/
def breakouts : List String :=
  ["//", "/*", "++", "--", ";", "`", "[", "]", "\x7b", "\x7d", "\n"]

/-- Whether a text stays within one expression: every quoted text is closed, the
    parentheses outside match, and nothing outside breaks out of the expression. -/
def IsContained (cs : List Char) : Prop :=
  ∃ ss, stretches .outside cs = some ss ∧ IsMatched ss.flatten ∧
    ∀ s ∈ ss, ∀ b ∈ breakouts, ¬ b.toList <:+: s

/-! ### Reading with a watch -/

/-- Whether a character breaks out of an expression by itself. -/
def isBarred (c : Char) : Bool :=
  [';', '`', '[', ']', '\x7b', '\x7d', '\n'].contains c

/-- Whether two neighbours break out of an expression together. -/
def clash (a b : Char) : Bool :=
  (a == '/' && (b == '/' || b == '*')) || (a == '+' && b == '+') || (a == '-' && b == '-')

/-- What a reader remembers of the text before: where it stands, the last character
    outside or the mark of the quoted text after it, and how many parentheses are
    open. -/
structure Watch where
  side : Side
  last : Char
  depth : Nat
deriving DecidableEq, Repr

namespace Watch

/-- The watch after one more character, if the text has not broken out. -/
def step (w : Watch) (c : Char) : Option Watch :=
  match w.side with
  | .outside =>
    if isMark c then some ⟨.inside c, c, w.depth⟩
    else if isBarred c || clash w.last c then none
    else if c = '(' then some ⟨.outside, c, w.depth + 1⟩
    else if c = ')' then if w.depth = 0 then none else some ⟨.outside, c, w.depth - 1⟩
    else some ⟨.outside, c, w.depth⟩
  | .inside mark =>
    if c = mark then some ⟨.outside, w.last, w.depth⟩
    else if c = '\\' then some ⟨.escaped mark, w.last, w.depth⟩
    else some w
  | .escaped mark => some ⟨.inside mark, w.last, w.depth⟩

/-- The watch after a text. -/
def run (w : Watch) (cs : List Char) : Option Watch :=
  cs.foldlM step w

@[simp]
theorem run_nil (w : Watch) : w.run [] = some w :=
  rfl

theorem run_cons (w : Watch) (c : Char) (cs : List Char) :
    w.run (c :: cs) = (w.step c).bind fun w' => w'.run cs :=
  rfl

theorem run_append (w : Watch) (as bs : List Char) :
    w.run (as ++ bs) = (w.run as).bind fun w' => w'.run bs :=
  List.foldlM_append

/-- Whether a stretch behind a character has nothing in it that breaks out. -/
def IsClear (last : Char) (s : List Char) : Prop :=
  (last :: s).IsChain (fun a b => clash a b = false) ∧ ∀ c ∈ s, isBarred c = false

theorem IsClear.cons {last c : Char} {s : List Char} (hclash : clash last c = false)
    (hbarred : isBarred c = false) (h : IsClear c s) : IsClear last (c :: s) := by
  refine ⟨List.isChain_cons_cons.2 ⟨hclash, h.1⟩, ?_⟩
  intro d hd
  rcases List.mem_cons.1 hd with rfl | hd
  · exact hbarred
  · exact h.2 d hd

/-- What a watch has seen that reads a text to an end outside of quoted texts, when
    `depth` parentheses were open before it. The first stretch continues the text
    before, so it is looked at behind the last character of that. -/
structure Seen (w : Watch) (depth : Nat) (ss : List (List Char)) : Prop where
  /-- Parentheses are closed only where one is open. -/
  opened : ∀ front, front <+: ss.flatten → front.count ')' ≤ w.depth + front.count '('
  counted : w.depth + ss.flatten.count '(' = depth + ss.flatten.count ')'
  clear : ∃ s rest, ss = s :: rest ∧ IsClear w.last s ∧ ∀ t ∈ rest, ∃ before, IsClear before t

theorem Seen.nil (w : Watch) : Seen w w.depth [[]] := by
  refine ⟨?_, rfl, [], [], rfl, ⟨List.isChain_singleton _, ?_⟩, ?_⟩
  · intro front hfront
    rw [List.prefix_nil.1 hfront]
    exact Nat.zero_le _
  · intro c hc
    cases hc
  · intro t ht
    cases ht

/-- One more stretch in front, for the quoted text that is opened there. -/
theorem Seen.quoted {w : Watch} {c : Char} {depth : Nat} {ss : List (List Char)}
    (h : Seen ⟨.inside c, c, w.depth⟩ depth ss) : Seen w depth ([] :: ss) := by
  rcases h with ⟨hopened, hcounted, s, rest, rfl, hs, hrest⟩
  refine ⟨hopened, hcounted, [], s :: rest, rfl, ⟨List.isChain_singleton _, ?_⟩, ?_⟩
  · intro d hd
    cases hd
  · intro t ht
    rcases List.mem_cons.1 ht with rfl | ht
    · exact ⟨c, hs⟩
    · exact hrest t ht

/-- One more character in front of the first stretch. `depth'` is the number of open
    parentheses behind it. -/
theorem Seen.cons {w : Watch} {c : Char} {depth depth' : Nat} {ss : List (List Char)}
    (hclash : clash w.last c = false) (hbarred : isBarred c = false)
    (hdepth : w.depth + [c].count '(' = depth' + [c].count ')')
    (h : Seen ⟨.outside, c, depth'⟩ depth ss) : Seen w depth (ss.modifyHead (c :: ·)) := by
  rcases h with ⟨hopened, hcounted, s, rest, rfl, hs, hrest⟩
  have hflatten : ((s :: rest).modifyHead (c :: ·)).flatten = [c] ++ (s :: rest).flatten := rfl
  refine ⟨?_, ?_, c :: s, rest, rfl, hs.cons hclash hbarred, hrest⟩
  · rw [hflatten]
    intro front hfront
    rcases List.prefix_cons_iff.1 hfront with rfl | ⟨front', rfl, hfront'⟩
    · exact Nat.zero_le _
    · have hle := hopened front' hfront'
      rw [← List.singleton_append, List.count_append, List.count_append]
      dsimp only at hle
      omega
  · rw [hflatten, List.count_append, List.count_append]
    dsimp only at hcounted
    omega

/-- Outside of quoted texts a watch passes the mark of a quoted text, or a character that
    breaks out of nothing and closes no parenthesis that is not open. -/
theorem step_outside {last c : Char} {depth : Nat} {w' : Watch}
    (h : step ⟨.outside, last, depth⟩ c = some w') :
    (isMark c = true ∧ w' = ⟨.inside c, c, depth⟩) ∨
      (isMark c = false ∧ isBarred c = false ∧ clash last c = false ∧
        ∃ depth', depth + [c].count '(' = depth' + [c].count ')' ∧
          w' = ⟨.outside, c, depth'⟩) := by
  rw [step] at h
  dsimp only at h
  split at h
  case isTrue hmark =>
    cases h
    exact Or.inl ⟨hmark, rfl⟩
  case isFalse hmark =>
    split at h
    case isTrue => cases h
    case isFalse hclear =>
      rw [Bool.or_eq_true, not_or, Bool.not_eq_true, Bool.not_eq_true] at hclear
      refine Or.inr ⟨Bool.eq_false_iff.2 hmark, hclear.1, hclear.2, ?_⟩
      split at h
      case isTrue hopen =>
        cases h
        subst hopen
        exact ⟨depth + 1, rfl, rfl⟩
      case isFalse hopen =>
        split at h
        case isTrue hclose =>
          split at h
          case isTrue => cases h
          case isFalse hpos =>
            cases h
            subst hclose
            have hone : [')'].count ')' = 1 := rfl
            have hnone : [')'].count '(' = 0 := rfl
            exact ⟨depth - 1, by omega, rfl⟩
        case isFalse hclose =>
          cases h
          have hone : [c].count ')' = 0 :=
            List.count_eq_zero.2 (by simpa using Ne.symm hclose)
          have hnone : [c].count '(' = 0 :=
            List.count_eq_zero.2 (by simpa using Ne.symm hopen)
          exact ⟨depth, by omega, rfl⟩

/-- Inside a quoted text a watch sees nothing but its end. -/
theorem step_quoted {w w' : Watch} {c : Char} (hside : w.side ≠ .outside)
    (h : w.step c = some w') :
    w'.last = w.last ∧ w'.depth = w.depth ∧
      ∀ rest, stretches w.side (c :: rest) = stretches w'.side rest := by
  rcases w with ⟨side, last, depth⟩
  cases side with
  | outside => exact absurd rfl hside
  | inside mark =>
      rw [step] at h
      dsimp only at h
      split at h
      case isTrue hmark =>
        cases h
        refine ⟨rfl, rfl, fun rest => ?_⟩
        rw [stretches, if_pos hmark]
      case isFalse hmark =>
        split at h
        case isTrue hescape =>
          cases h
          refine ⟨rfl, rfl, fun rest => ?_⟩
          rw [stretches, if_neg hmark, if_pos hescape]
        case isFalse hescape =>
          cases h
          refine ⟨rfl, rfl, fun rest => ?_⟩
          rw [stretches, if_neg hmark, if_neg hescape]
  | escaped mark =>
      cases h
      refine ⟨rfl, rfl, fun rest => ?_⟩
      rw [stretches]

/-- A watch that reads a text to an end outside of quoted texts has seen its stretches. -/
theorem exists_stretches_of_run {w w' : Watch} {cs : List Char} (h : w.run cs = some w')
    (hend : w'.side = .outside) :
    ∃ ss, stretches w.side cs = some ss ∧ Seen w w'.depth ss := by
  induction cs generalizing w with
  | nil =>
      cases h
      rw [hend]
      exact ⟨[[]], rfl, .nil w'⟩
  | cons c rest ih =>
      rw [run_cons] at h
      rcases Option.bind_eq_some_iff.1 h with ⟨middle, hstep, hrun⟩
      rcases ih hrun with ⟨ss, hss, hseen⟩
      by_cases hside : w.side = .outside
      · rcases w with ⟨side, last, depth⟩
        dsimp only at hside
        subst hside
        rcases step_outside hstep with ⟨hmark, rfl⟩ | ⟨hmark, hbarred, hclash, depth', hdepth, rfl⟩
        · refine ⟨[] :: ss, ?_, hseen.quoted⟩
          rw [stretches, if_pos hmark, hss]
          rfl
        -- The character stands in front of the first stretch of the rest.
        · refine ⟨_, ?_, hseen.cons hclash hbarred hdepth⟩
          rw [stretches, hmark, hss]
          rfl
      · rcases step_quoted hside hstep with ⟨hlast, hdepth, hstretches⟩
        rcases hseen with ⟨hopened, hcounted, hclear⟩
        rw [hdepth] at hopened hcounted
        rw [hlast] at hclear
        exact ⟨ss, (hstretches rest).trans hss, hopened, hcounted, hclear⟩

/-- Nothing breaks out of a clear stretch. -/
theorem IsClear.not_breakout {last : Char} {s : List Char} (h : IsClear last s) {b : String}
    (hb : b ∈ breakouts) : ¬ b.toList <:+: s := by
  intro hpart
  have hbarred : b.toList.any isBarred = false :=
    List.any_eq_false.2 fun c hc => Bool.eq_false_iff.1 (h.2 c (hpart.subset hc))
  have hchain := List.IsChain.infix h.1.tail hpart
  -- Each of them is a barred character or a pair that clashes.
  simp only [breakouts, List.mem_cons, List.not_mem_nil, or_false] at hb
  rcases hb with rfl | rfl | rfl | rfl | rfl | rfl | rfl | rfl | rfl | rfl | rfl
  case inl | inr.inl | inr.inr.inl | inr.inr.inr.inl => revert hchain; decide
  all_goals revert hbarred; decide

end Watch

/-- A text that a watch reads from its beginning to an end outside of quoted texts, with no
    parenthesis open, stays within one expression. -/
theorem isContained_of_run {cs : List Char} {first last : Char}
    (h : Watch.run ⟨.outside, first, 0⟩ cs = some ⟨.outside, last, 0⟩) : IsContained cs := by
  rcases Watch.exists_stretches_of_run h rfl with
    ⟨ss, hss, hopened, hcounted, s, rest, rfl, hs, hrest⟩
  refine ⟨s :: rest, hss, ⟨?_, ?_⟩, ?_⟩
  · intro front hfront
    have hle := hopened front hfront
    dsimp only at hle
    omega
  · dsimp only at hcounted
    omega
  · intro t ht b hb
    rcases List.mem_cons.1 ht with rfl | ht
    · exact hs.not_breakout hb
    · rcases hrest t ht with ⟨before, hbefore⟩
      exact hbefore.not_breakout hb

end Formula

end Questionnaire
