import Questionnaire.Document.Failure

/-!
# Outcomes of Computations

A computation that may fail is a chain of steps, and a fact about its result is a
fact about each of the steps. The lemmas here take a chain apart from both ends:
if it gave a result, each step gave one; and if no step leads to a defect, the
chain does not.

`Failure.Clean` is the second property. It is kept as a statement about what the
outcome is not, because that form passes through a chain; `clean_iff_lift` says
that it is the same as the outcome being one of errors only. `FailsOnly` says of the
errors what they are, and it passes through a chain in the same way.

## Main definitions

* `Failure.Clean`: An outcome that is no defect.
* `FailsOnly`: An outcome whose errors have a property.
* `Failure.Meets`: A failure that has a property, if it is an error.

## Theorems

* `bind_eq_ok`, `map_eq_ok`, `mapError_eq_ok`, `Failure.lift_eq_ok`: The steps behind a
  result.
* `bind_eq_error`: The steps behind an error.
* `mapM_eq_ok_iff`, `exists_mapM_eq_ok_iff`, `mapM_range_eq_ok_iff`: The results of several
  computations.
* `exists_of_any`, `eq_error_of_decide`, `exists_of_error`: A result, or an error, that can
  be computed is there.
* `Failure.clean_bind`, `Failure.clean_map`: Steps without defects.
* `Failure.clean_iff_lift`: What an outcome without a defect is.
* `FailsOnly.bind`, `FailsOnly.map`, `FailsOnly.lift`: Steps whose errors have a property.
-/

namespace Questionnaire

variable {ε α β : Type}

theorem bind_eq_ok {x : Except ε α} {f : α → Except ε β} {b : β} :
    (x >>= f) = .ok b ↔ ∃ a, x = .ok a ∧ f a = .ok b := by
  cases x with
  | error e =>
      constructor
      · intro h
        cases h
      · rintro ⟨a, h, _⟩
        cases h
  | ok a =>
      constructor
      · intro h
        exact ⟨a, rfl, h⟩
      · rintro ⟨a', h, hf⟩
        cases h
        exact hf

theorem bind_eq_error {x : Except ε α} {f : α → Except ε β} {e : ε} :
    (x >>= f) = .error e ↔ x = .error e ∨ ∃ a, x = .ok a ∧ f a = .error e := by
  cases x with
  | error e' =>
      constructor
      · intro h
        cases h
        exact .inl rfl
      · rintro (h | ⟨a, h, _⟩)
        · cases h
          rfl
        · cases h
  | ok a =>
      constructor
      · intro h
        exact .inr ⟨a, rfl, h⟩
      · rintro (h | ⟨a', h, hf⟩)
        · cases h
        · cases h
          exact hf

theorem map_eq_ok {x : Except ε α} {f : α → β} {b : β} :
    x.map f = .ok b ↔ ∃ a, x = .ok a ∧ f a = b := by
  cases x with
  | error e =>
      constructor
      · intro h
        cases h
      · rintro ⟨a, h, _⟩
        cases h
  | ok a =>
      constructor
      · intro h
        cases h
        exact ⟨a, rfl, rfl⟩
      · rintro ⟨a', h, hf⟩
        cases h
        rw [← hf]
        rfl

/-- Errors that are told in another way leave results as they are. -/
theorem mapError_eq_ok {ε' : Type} {x : Except ε α} {f : ε → ε'} {a : α} :
    x.mapError f = .ok a ↔ x = .ok a := by
  cases x with
  | error e => exact iff_of_false (by rintro ⟨⟩) (by rintro ⟨⟩)
  | ok a' =>
      change Except.ok a' = Except.ok a ↔ Except.ok a' = Except.ok a
      rw [Except.ok.injEq, Except.ok.injEq]

/-- Several computations give results together if each of them gives one. -/
theorem mapM_eq_ok_iff {f : α → Except ε β} {xs : List α} {ys : List β} :
    xs.mapM f = .ok ys ↔ xs.map f = ys.map .ok := by
  induction xs generalizing ys with
  | nil =>
      cases ys with
      | nil => exact iff_of_true rfl rfl
      | cons y ys => exact iff_of_false (by rintro ⟨⟩) (by rintro ⟨⟩)
  | cons x xs ih =>
      rw [List.mapM_cons]
      constructor
      · intro h
        rcases bind_eq_ok.1 h with ⟨y, hy, h⟩
        rcases bind_eq_ok.1 h with ⟨rest, hrest, h⟩
        cases h
        rw [List.map_cons, List.map_cons, hy, ih.1 hrest]
      · intro h
        cases ys with
        | nil => cases h
        | cons y ys =>
            rw [List.map_cons, List.map_cons, List.cons.injEq] at h
            rw [h.1, ih.2 h.2]
            rfl

theorem exists_mapM_eq_ok_iff {f : α → Except ε β} {xs : List α} :
    (∃ ys, xs.mapM f = .ok ys) ↔ ∀ x ∈ xs, ∃ y, f x = .ok y := by
  induction xs with
  | nil => exact iff_of_true ⟨[], rfl⟩ (List.forall_mem_nil _)
  | cons x xs ih =>
      rw [List.forall_mem_cons, ← ih, List.mapM_cons]
      constructor
      · rintro ⟨ys, h⟩
        rcases bind_eq_ok.1 h with ⟨y, hy, h⟩
        rcases bind_eq_ok.1 h with ⟨rest, hrest, _⟩
        exact ⟨⟨y, hy⟩, rest, hrest⟩
      · rintro ⟨⟨y, hy⟩, rest, hrest⟩
        rw [hy, hrest]
        exact ⟨y :: rest, rfl⟩

theorem mapM_range_succ {ε β : Type} (n : Nat) (f : Nat → Except ε β) :
    (List.range (n + 1)).mapM f = do
      let first ← f 0
      let others ← (List.range n).mapM fun i => f (i + 1)
      return first :: others := by
  rw [List.range_succ_eq_map, List.mapM_cons, List.mapM_map]
  rfl

/-- Results by their indices. -/
theorem mapM_range_eq_ok_iff {ε β : Type} {n : Nat} {f : Nat → Except ε β} {ys : List β} :
    (List.range n).mapM f = .ok ys ↔
      ys.length = n ∧ ∀ i y, ys[i]? = some y → f i = .ok y := by
  rw [mapM_eq_ok_iff]
  constructor
  · intro h
    have hlength : ys.length = n := by
      have hlengths := congrArg List.length h
      rw [List.length_map, List.length_map, List.length_range] at hlengths
      exact hlengths.symm
    refine ⟨hlength, fun i y hy => ?_⟩
    have hget := congrArg (fun zs => zs[i]?) h
    have hlt : i < n := hlength ▸ (List.getElem?_eq_some_iff.1 hy).1
    simpa [hy, hlt] using hget
  · rintro ⟨rfl, h⟩
    refine List.ext_getElem (by simp) ?_
    intro i hi hi'
    rw [List.length_map] at hi'
    rw [List.getElem_map, List.getElem_map, List.getElem_range]
    exact h i _ (List.getElem?_eq_getElem hi')

/-- A result that can be computed with a property that can be computed. -/
theorem exists_of_any {x : Except ε α} {P : α → Prop} (p : α → Bool)
    (h : x.toOption.any p = true) (hp : ∀ a, x = .ok a → p a = true → P a) :
    ∃ a, x = .ok a ∧ P a := by
  cases x with
  | error e => cases h
  | ok a => exact ⟨a, rfl, hp a rfl h⟩

/-- An outcome whose error can be computed. -/
theorem eq_error_of_decide [DecidableEq ε] {x : Except ε α} {e : ε}
    (h : (match x with | .error e' => decide (e' = e) | .ok _ => false) = true) :
    x = .error e := by
  cases x with
  | error e' => rw [of_decide_eq_true h]
  | ok a => cases h

/-- An error that can be computed. -/
theorem exists_of_error {x : Except Failure α} {P : ConversionError → Prop} (e : ConversionError)
    (h : (match x with | .error failure => decide (failure = .error e) | .ok _ => false) = true)
    (hP : x = .error (.error e) → P e) :
    ∃ e, x = .error (.error e) ∧ P e := by
  cases x with
  | error failure =>
      cases of_decide_eq_true h
      exact ⟨e, rfl, hP rfl⟩
  | ok a => cases h

namespace Failure

theorem lift_eq_ok {x : Except ConversionError α} {a : α} : lift x = .ok a ↔ x = .ok a :=
  mapError_eq_ok

/-- An outcome that is no defect. -/
def Clean (x : Except Failure α) : Prop :=
  ∀ d, x ≠ .error (.defect d)

@[simp]
theorem clean_ok (a : α) : Clean (.ok a) := by
  intro d h
  cases h

@[simp]
theorem clean_lift (x : Except ConversionError α) : Clean (lift x) := by
  intro d h
  cases x with
  | error e => cases h
  | ok a => cases h

theorem clean_bind {x : Except Failure α} {f : α → Except Failure β} (hx : Clean x)
    (hf : ∀ a, x = .ok a → Clean (f a)) : Clean (x >>= f) := by
  intro d h
  cases x with
  | error e =>
      cases h
      exact hx d rfl
  | ok a => exact hf a rfl d h

theorem clean_map {x : Except Failure α} (f : α → β) (hx : Clean x) : Clean (x.map f) := by
  intro d h
  cases x with
  | error e =>
      cases h
      exact hx d rfl
  | ok a => cases h

/-- Without a defect, an outcome is a result or an error of the conversion. -/
theorem clean_iff_lift {x : Except Failure α} : Clean x ↔ ∃ y, x = lift y := by
  constructor
  · intro h
    cases x with
    | ok a => exact ⟨.ok a, rfl⟩
    | error failure =>
        cases failure with
        | error e => exact ⟨.error e, rfl⟩
        | defect d => exact absurd rfl (h d)
  · rintro ⟨y, rfl⟩
    exact clean_lift y

end Failure

/-! ### The errors of an outcome -/

/-- An outcome whose error, if it has one, has a property. -/
def FailsOnly (P : ε → Prop) (x : Except ε α) : Prop :=
  ∀ e, x = .error e → P e

/-- A failure that is a defect, or an error with a property. -/
def Failure.Meets (P : ConversionError → Prop) : Failure → Prop
  | error e => P e
  | defect _ => True

section FailsOnly

variable {P Q : ε → Prop}

@[simp]
theorem failsOnly_ok (a : α) : FailsOnly P (.ok a) := by
  intro e h
  cases h

@[simp]
theorem failsOnly_error {e : ε} : FailsOnly P (.error e : Except ε α) ↔ P e := by
  constructor
  · intro h
    exact h e rfl
  · rintro h _ ⟨⟩
    exact h

namespace FailsOnly

theorem mono {x : Except ε α} (h : FailsOnly P x) (hPQ : ∀ e, P e → Q e) : FailsOnly Q x :=
  fun e he => hPQ e (h e he)

theorem bind {x : Except ε α} {f : α → Except ε β} (hx : FailsOnly P x)
    (hf : ∀ a, x = .ok a → FailsOnly P (f a)) : FailsOnly P (x >>= f) := by
  intro e h
  cases x with
  | error e' =>
      cases h
      exact hx e rfl
  | ok a => exact hf a rfl e h

theorem map {x : Except ε α} (f : α → β) (hx : FailsOnly P x) : FailsOnly P (x.map f) := by
  intro e h
  cases x with
  | error e' =>
      cases h
      exact hx e rfl
  | ok a => cases h

theorem mapError {ε' : Type} {P : ε' → Prop} {x : Except ε α} {f : ε → ε'}
    (hx : FailsOnly (fun e => P (f e)) x) : FailsOnly P (x.mapError f) := by
  intro e h
  cases x with
  | error e' =>
      cases h
      exact hx e' rfl
  | ok a => cases h

theorem lift {P : ConversionError → Prop} {x : Except ConversionError α} (hx : FailsOnly P x) :
    FailsOnly (Failure.Meets P) (Failure.lift x) :=
  mapError hx

theorem assert {P : ConversionError → Prop} (x : Except Defect α) :
    FailsOnly (Failure.Meets P) (Failure.assert x) := by
  refine mapError ?_
  intro d _
  trivial

end FailsOnly

end FailsOnly

end Questionnaire
