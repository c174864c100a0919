import Mathlib.Tactic.Common

/-!
# Fallible steps

Checks in sequence are written in the `Except` monad with two primitives: a guard
that fails unless a condition holds, and the unwrapping of an optional value.  Each
has one lemma that says when it succeeds, so a successful sequence of checks is taken
apart into the conditions it established.

Main results:

- Theorem `bind_eq_ok`: a sequence succeeds exactly when each part does.
- Theorems `ensure_eq_ok` and `okOr_eq_ok`: what a successful check establishes.
- Theorem `Corresponds.bind`: sequences whose parts correspond do so themselves.
-/

namespace Library

universe u

variable {ε α β : Type u}

/-- Succeed when `p` holds and fail with `e` otherwise. -/
def ensure {ε : Type u} (p : Prop) [Decidable p] (e : ε) : Except ε PUnit.{u + 1} :=
  if p then .ok ⟨⟩ else .error e

/-- The value of an optional result, or the error `e`. -/
def okOr (o : Option α) (e : ε) : Except ε α :=
  match o with
  | some a => .ok a
  | none => .error e

@[simp]
theorem bind_eq_ok {x : Except ε α} {f : α → Except ε β} {b : β} :
    (x >>= f) = .ok b ↔ ∃ a, x = .ok a ∧ f a = .ok b := by
  rcases x with e | a
  · constructor
    · intro h
      cases h
    · rintro ⟨a, ha, -⟩
      cases ha
  · constructor
    · intro h
      exact ⟨a, rfl, h⟩
    · rintro ⟨a', ha, h⟩
      cases ha
      exact h

@[simp]
theorem ensure_eq_ok {p : Prop} [Decidable p] {e : ε} {u : PUnit} :
    ensure p e = .ok u ↔ p := by
  unfold ensure
  split
  · next h => simp [h]
  · next h => simp [h]

@[simp]
theorem okOr_eq_ok {o : Option α} {e : ε} {a : α} : okOr o e = .ok a ↔ o = some a := by
  cases o with
  | none => simp [okOr]
  | some b => simp [okOr]

@[simp]
theorem mapError_eq_ok {ε' : Type u} {x : Except ε α} {f : ε → ε'} {a : α} :
    x.mapError f = .ok a ↔ x = .ok a := by
  cases x with
  | error e => simp [Except.mapError]
  | ok b => simp [Except.mapError]

/-- Errors of a sequence are renamed in each of its parts. -/
theorem mapError_bind {ε' : Type u} (g : ε → ε') (x : Except ε α) (f : α → Except ε β) :
    (x >>= f).mapError g = x.mapError g >>= fun a => (f a).mapError g := by
  cases x <;> rfl

theorem mapError_ensure {ε' : Type u} (g : ε → ε') (p : Prop) [Decidable p] (e : ε) :
    (ensure p e).mapError g = ensure p (g e) := by
  unfold ensure
  split <;> rfl

theorem mapError_okOr {ε' : Type u} (g : ε → ε') (o : Option α) (e : ε) :
    (okOr o e).mapError g = okOr o (g e) := by
  cases o <;> rfl

/-- A check written as a branch fails with its own error only. -/
@[simp]
theorem ite_error_eq_error {p : Prop} [Decidable p] {e e' : ε} {a : α} :
    (if p then Except.error e else Except.ok a) = .error e' ↔ p ∧ e = e' := by
  split
  · next h => simp [h]
  · next h => simp [h]

/-! ## Corresponding results -/

/-- Two computations correspond: both fail, with corresponding errors, or both succeed,
with corresponding values. -/
inductive Corresponds {ε ε' α β : Type} (E : ε → ε' → Prop) (R : α → β → Prop) :
    Except ε α → Except ε' β → Prop where
  | ok {a : α} {b : β} (h : R a b) : Corresponds E R (.ok a) (.ok b)
  | error {e : ε} {e' : ε'} (h : E e e') : Corresponds E R (.error e) (.error e')

namespace Corresponds

variable {ε ε' α β γ δ : Type} {E : ε → ε' → Prop} {R : α → β → Prop} {S : γ → δ → Prop}
  {x : Except ε α} {y : Except ε' β}

/-- Sequences whose parts correspond do so themselves. -/
theorem bind {f : α → Except ε γ} {g : β → Except ε' δ} (h : Corresponds E R x y)
    (hnext : ∀ a b, R a b → Corresponds E S (f a) (g b)) :
    Corresponds E S (x >>= f) (y >>= g) := by
  cases h with
  | ok h => exact hnext _ _ h
  | error h => exact .error h

/-- Checks of equivalent conditions correspond. -/
theorem ensure {p q : Prop} [Decidable p] [Decidable q] {e : ε} {e' : ε'} (hpq : p ↔ q)
    (he : E e e') : Corresponds E (fun _ _ => p ∧ q) (ensure p e) (ensure q e') := by
  unfold Library.ensure
  by_cases hp : p
  · rw [if_pos hp, if_pos (hpq.mp hp)]
    exact .ok ⟨hp, hpq.mp hp⟩
  · rw [if_neg hp, if_neg (mt hpq.mpr hp)]
    exact .error he

theorem imp {R' : α → β → Prop} (h : Corresponds E R x y) (hR : ∀ a b, R a b → R' a b) :
    Corresponds E R' x y := by
  cases h with
  | ok h => exact .ok (hR _ _ h)
  | error h => exact .error h

/-- Corresponding values are those the computations return. -/
theorem returned (h : Corresponds E R x y) :
    Corresponds E (fun a b => R a b ∧ x = .ok a ∧ y = .ok b) x y := by
  cases h with
  | ok h => exact .ok ⟨h, rfl, rfl⟩
  | error h => exact .error h

/-- A success has a corresponding one. -/
theorem exists_of_ok_right {b : β} (h : Corresponds E R x y) (hy : y = .ok b) :
    ∃ a, x = .ok a ∧ R a b := by
  cases h with
  | ok h =>
    cases hy
    exact ⟨_, rfl, h⟩
  | error h => cases hy

theorem exists_of_ok_left {a : α} (h : Corresponds E R x y) (hx : x = .ok a) :
    ∃ b, y = .ok b ∧ R a b := by
  cases h with
  | ok h =>
    cases hx
    exact ⟨_, rfl, h⟩
  | error h => cases hx

end Corresponds

end Library
