import Mathlib.Order.Defs.Unbundled
import Mathlib.Tactic.Common

/-!
# Computations with a state that may fail

A method that changes its object and may return an error is embedded as a
computation that takes a state and returns a result with the state it has
reached.  A failure does not undo anything: what had been written before it
stays written.

Reasoning about such a computation is by its weakest precondition, which is
pushed through the structure of the computation, and by relations between the
state before and the state after it.

Main results:

- Definition `Fallible` with its monad, `outcome`, `mapError` and `zoom`.
- Theorem `wp_bind`: the precondition of a sequence.
- Theorem `wp_mono`: a callee is used through what is known about it.
- Theorem `Keeps.bind`: a transitive relation that every part keeps is kept by the
  whole.
- Theorem `Avoids.bind`: an error that no part fails with is not an error of the whole.
- Theorem `Returns.bind`: what the last part returns is what the whole returns.
-/

namespace Library

/-- A computation on a state `σ` that returns an `α` or fails with an `ε`. -/
def Fallible (σ ε α : Type) : Type := σ → Except ε α × σ

namespace Fallible

variable {σ τ ε ε' α β : Type}

instance : Monad (Fallible σ ε) where
  pure a := fun s => (.ok a, s)
  bind m f := fun s =>
    match m s with
    | (.ok a, s') => f a s'
    | (.error e, s') => (.error e, s')

instance : MonadExceptOf ε (Fallible σ ε) where
  throw e := fun s => (.error e, s)
  tryCatch m handle := fun s =>
    match m s with
    | (.ok a, s') => (.ok a, s')
    | (.error e, s') => handle e s'

instance : MonadStateOf σ (Fallible σ ε) where
  get := fun s => (.ok s, s)
  set s := fun _ => (.ok ⟨⟩, s)
  modifyGet f := fun s => (.ok (f s).1, (f s).2)

/-- Run a computation and go on with its result, whether it is an error or not. -/
def outcome (m : Fallible σ ε α) : Fallible σ ε' (Except ε α) :=
  fun s => (.ok (m s).1, (m s).2)

/-- Run a computation and translate its errors. -/
def mapError (f : ε → ε') (m : Fallible σ ε α) : Fallible σ ε' α :=
  fun s => ((m s).1.mapError f, (m s).2)

/-- Run a computation on a part of the state. -/
def zoom (part : τ → σ) (update : τ → σ → τ) (m : Fallible σ ε α) : Fallible τ ε α :=
  fun t => ((m (part t)).1, update t (m (part t)).2)

/-- Fail unless a condition holds. -/
def require (p : Prop) [Decidable p] (e : ε) : Fallible σ ε Unit :=
  fun s => (if p then .ok () else .error e, s)

/-- The value of an option, or an error. -/
def orThrow (o : Option α) (e : ε) : Fallible σ ε α :=
  fun s => (match o with | some a => .ok a | none => .error e, s)

/-- Run a computation if a condition holds. -/
def onlyIf (p : Prop) [Decidable p] (m : Fallible σ ε Unit) : Fallible σ ε Unit :=
  if p then m else pure ()

/-- An outcome that is already known. -/
def ofResult (x : Except ε α) : Fallible σ ε α :=
  fun s => (x, s)

/-! ## Sequences -/

theorem bind_of_pure (a : α) (f : α → Fallible σ ε β) :
    (pure a : Fallible σ ε α) >>= f = f a := rfl

/-- Returning the result changes nothing. -/
theorem bind_return (m : Fallible σ ε α) : (m >>= fun a => pure a) = m := by
  funext s
  simp only [bind]
  rcases m s with ⟨_ | _, _⟩ <;> rfl

/-- Sequences associate. -/
theorem bind_bind {γ : Type} (m : Fallible σ ε α) (f : α → Fallible σ ε β)
    (g : β → Fallible σ ε γ) : m >>= f >>= g = m >>= fun a => f a >>= g := by
  funext s
  simp only [bind]
  rcases m s with ⟨_ | _, _⟩ <;> rfl

/-! ## Weakest preconditions -/

/-- What has to hold of the state for the result and the final state to satisfy `Q`. -/
def wp (m : Fallible σ ε α) (Q : Except ε α → σ → Prop) (s : σ) : Prop :=
  Q (m s).1 (m s).2

variable {m : Fallible σ ε α} {f : α → Fallible σ ε β} {Q : Except ε α → σ → Prop}
  {R : Except ε β → σ → Prop} {s : σ}

/-- A result leaves the state as it is. -/
@[simp]
theorem wp_pure (a : α) : wp (pure a : Fallible σ ε α) Q s ↔ Q (.ok a) s := Iff.rfl

/-- So does an error. -/
@[simp]
theorem wp_throw (e : ε) : wp (throw e : Fallible σ ε α) Q s ↔ Q (.error e) s := Iff.rfl

/-- The continuation of a computation: it goes on after a success only. -/
def andThen (f : α → Fallible σ ε β) (R : Except ε β → σ → Prop) : Except ε α → σ → Prop
  | .ok a, s => wp (f a) R s
  | .error e, s => R (.error e) s

@[simp]
theorem andThen_ok (a : α) : andThen f R (.ok a) s ↔ wp (f a) R s := Iff.rfl

@[simp]
theorem andThen_error (e : ε) : andThen f R (.error e) s ↔ R (.error e) s := Iff.rfl

/-- A sequence goes on from the result of its first part. -/
@[simp]
theorem wp_bind : wp (m >>= f) R s ↔ wp m (andThen f R) s := by
  change R (Bind.bind m f s).1 (Bind.bind m f s).2 ↔ andThen f R (m s).1 (m s).2
  simp only [bind]
  rcases m s with ⟨_ | _, _⟩ <;> rfl

/-- Reading the state returns it. -/
@[simp]
theorem wp_get {Q : Except ε σ → σ → Prop} :
    wp (get : Fallible σ ε σ) Q s ↔ Q (.ok s) s := Iff.rfl

/-- Changing the state returns nothing. -/
@[simp]
theorem wp_modify {Q : Except ε PUnit → σ → Prop} (g : σ → σ) :
    wp (modify g : Fallible σ ε PUnit) Q s ↔ Q (.ok ⟨⟩) (g s) := Iff.rfl

/-- Reading the state goes on with it. -/
theorem wp_get_bind {f : σ → Fallible σ ε β} : wp (get >>= f) R s ↔ wp (f s) R s :=
  wp_bind

theorem wp_modify_bind {f : PUnit → Fallible σ ε β} (g : σ → σ) :
    wp (modify g >>= f) R s ↔ wp (f ⟨⟩) R (g s) :=
  wp_bind

/-- The outcome of a computation is its result, even if it fails. -/
@[simp]
theorem wp_outcome {Q : Except ε' (Except ε α) → σ → Prop} :
    wp (outcome m : Fallible σ ε' (Except ε α)) Q s ↔ wp m (fun r => Q (.ok r)) s := Iff.rfl

/-- Errors may be translated. -/
@[simp]
theorem wp_mapError {g : ε → ε'} {Q : Except ε' α → σ → Prop} :
    wp (mapError g m) Q s ↔ wp m (fun r => Q (r.mapError g)) s := Iff.rfl

/-- A computation on a part changes that part only. -/
@[simp]
theorem wp_zoom {part : τ → σ} {update : τ → σ → τ} {Q : Except ε α → τ → Prop} {t : τ} :
    wp (zoom part update m) Q t ↔ wp m (fun r s => Q r (update t s)) (part t) := Iff.rfl

variable {Q' : Except ε α → σ → Prop} {p : Prop}

/-- A check goes on or fails. -/
@[simp]
theorem wp_require [Decidable p] {e : ε} {Q : Except ε Unit → σ → Prop} :
    wp (require p e) Q s ↔ (p → Q (.ok ()) s) ∧ (¬ p → Q (.error e) s) := by
  unfold wp require
  by_cases h : p <;> simp [h]

/-- A missing value is an error. -/
@[simp]
theorem wp_orThrow {o : Option α} {e : ε} :
    wp (orThrow o e) Q s ↔
      (∀ a, o = some a → Q (.ok a) s) ∧ (o = none → Q (.error e) s) := by
  unfold wp orThrow
  cases o <;> simp

/-- A pure result leaves the state as it is. -/
@[simp]
theorem wp_ofResult {x : Except ε α} : wp (ofResult x) Q s ↔ Q x s := Iff.rfl

/-- A choice is judged by its branches. -/
@[simp]
theorem wp_ite [Decidable p] {m' : Fallible σ ε α} :
    wp (if p then m else m') Q s ↔ (p → wp m Q s) ∧ (¬ p → wp m' Q s) := by
  by_cases h : p <;> simp [h]

/-- What is skipped changes nothing. -/
@[simp]
theorem wp_onlyIf [Decidable p] {m : Fallible σ ε Unit} {Q : Except ε Unit → σ → Prop} :
    wp (onlyIf p m) Q s ↔ (p → wp m Q s) ∧ (¬ p → Q (.ok ()) s) :=
  wp_ite

/-- A computation is used through what is known about it. -/
theorem wp_mono (h : wp m Q s) (hQ : ∀ r s', Q r s' → Q' r s') :
    wp m Q' s :=
  hQ _ _ h

/-- Two facts about a computation are used together. -/
theorem wp_and (h : wp m Q s) (h' : wp m Q' s) :
    wp m (fun r s' => Q r s' ∧ Q' r s') s :=
  ⟨h, h'⟩

/-! ## Relations between the state before and the state after -/

/-- Every run of the computation relates its first state to its last one. -/
def Keeps (R : σ → σ → Prop) (m : Fallible σ ε α) : Prop :=
  ∀ s, wp m (fun _ s' => R s s') s

namespace Keeps

variable {R : σ → σ → Prop}

/-- A change that the relation allows keeps it. -/
theorem modify {g : σ → σ} (h : ∀ s, R s (g s)) : Keeps R (modify g : Fallible σ ε PUnit) := h

/-- Catching the error keeps the relation. -/
theorem outcome (hm : Keeps R m) :
    Keeps R (outcome m : Fallible σ ε' (Except ε α)) := hm

/-- A choice keeps what both branches keep. -/
theorem ite {p : Prop} [Decidable p] {m' : Fallible σ ε α} (hm : Keeps R m) (hm' : Keeps R m') :
    Keeps R (if p then m else m') := by
  by_cases h : p
  · rwa [if_pos h]
  · rwa [if_neg h]

variable [IsPreorder σ R]

/-- A computation that does not write keeps every reflexive relation. -/
theorem of_still (h : ∀ s, (m s).2 = s) : Keeps R m := by
  intro s
  unfold wp
  rw [h]
  exact Std.Refl.refl s

theorem pure (a : α) : Keeps R (Pure.pure a : Fallible σ ε α) := of_still fun _ => rfl

theorem throw (e : ε) : Keeps R (MonadExcept.throw e : Fallible σ ε α) := of_still fun _ => rfl

theorem get : Keeps R (MonadState.get : Fallible σ ε σ) := of_still fun _ => rfl

theorem require {p : Prop} [Decidable p] {e : ε} : Keeps R (require p e) := of_still fun _ => rfl

theorem orThrow {o : Option α} {e : ε} : Keeps R (orThrow o e) := of_still fun _ => rfl

theorem ofResult {x : Except ε α} : Keeps R (ofResult x) := of_still fun _ => rfl

theorem onlyIf {p : Prop} [Decidable p] {m : Fallible σ ε Unit} (hm : Keeps R m) :
    Keeps R (onlyIf p m) :=
  ite hm (pure ())

/-- A sequence keeps a transitive relation that its parts keep. -/
theorem bind (hm : Keeps R m) (hf : ∀ a, Keeps R (f a)) : Keeps R (m >>= f) := by
  intro s
  rw [wp_bind]
  refine wp_mono (hm s) ?_
  intro r s' hr
  cases r with
  | ok a =>
    rw [andThen_ok]
    exact wp_mono (hf a s') fun _ _ h => IsTrans.trans _ _ _ hr h
  | error e => exact hr

end Keeps

/-- A fact that a step does not destroy. -/
def Carried (I : σ → Prop) (s s' : σ) : Prop := I s → I s'

instance (I : σ → Prop) : IsPreorder σ (Carried I) where
  refl _ h := h
  trans _ _ _ h h' hs := h' (h hs)

/-- To carry a fact through a computation it may be assumed at the start. -/
theorem Keeps.of_carried {I : σ → Prop} (h : ∀ s, I s → wp m (fun _ s' => I s') s) :
    Keeps (Carried I) m :=
  fun s hs => h s hs

/-! ## A computation with more errors -/

theorem get_bind (f : σ → Fallible σ ε β) (s : σ) :
    (MonadState.get >>= f : Fallible σ ε β) s = f s s := rfl

/-- A value that is there is passed on. -/
theorem orThrow_bind {o : Option α} {a : α} (h : o = some a) (e : ε) (f : α → Fallible σ ε β) :
    orThrow o e >>= f = f a := by
  subst h
  rfl

variable (g : ε → ε')

/-- The error of a missing value is translated. -/
theorem mapError_orThrow (o : Option α) (e : ε) :
    mapError g (orThrow o e : Fallible σ ε α) = orThrow o (g e) := by
  cases o with
  | none => rfl
  | some a => rfl

/-- So is that of a check. -/
theorem mapError_require (p : Prop) [Decidable p] (e : ε) :
    mapError g (require p e : Fallible σ ε Unit) = require p (g e) := by
  unfold mapError require
  by_cases h : p
  · simp only [if_pos h]
    rfl
  · simp only [if_neg h]
    rfl

/-- Two sequences agree up to the translation of errors if their parts do. -/
theorem bind_eq_mapError {g : ε → ε'} {m' : Fallible σ ε' α} {f' : α → Fallible σ ε' β}
    (hm : m' s = mapError g m s)
    (hf : ∀ a s', m s = (.ok a, s') → f' a s' = mapError g (f a) s') :
    (m' >>= f') s = mapError g (m >>= f) s := by
  simp only [bind, mapError] at hm hf ⊢
  rw [hm]
  rcases hms : m s with ⟨_ | a, s'⟩
  · rfl
  · exact hf a s' hms

/-! ## Errors that do not occur -/

/-- No run of the computation fails with the error `e`. -/
def Avoids (e : ε) (m : Fallible σ ε α) : Prop :=
  ∀ s, wp m (fun r _ => r ≠ .error e) s

/-- What the translation never gives is not the error. -/
theorem mapError_ne_error {x : Except ε α} {g : ε → ε'} {e' : ε'} (h : ∀ e, g e ≠ e') :
    x.mapError g ≠ .error e' := by
  cases x with
  | ok a => exact nofun
  | error e => exact fun heq => h e (Except.error.inj heq)

namespace Avoids

variable {e e' : ε}

theorem pure (a : α) : Avoids e (Pure.pure a : Fallible σ ε α) := fun _ => nofun

theorem get : Avoids e (MonadState.get : Fallible σ ε σ) := fun _ => nofun

theorem modify (g : σ → σ) : Avoids e (modify g : Fallible σ ε PUnit) := fun _ => nofun

theorem require {p : Prop} [Decidable p] (h : e' ≠ e) :
    Avoids e (Fallible.require p e' : Fallible σ ε Unit) := by
  intro s
  rw [wp_require]
  exact ⟨fun _ => nofun, fun _ heq => h (Except.error.inj heq)⟩

theorem ofResult {x : Except ε α} (h : x ≠ .error e) :
    Avoids e (Fallible.ofResult x : Fallible σ ε α) :=
  fun _ => h

theorem onlyIf {p : Prop} [Decidable p] {m : Fallible σ ε Unit} (hm : Avoids e m) :
    Avoids e (Fallible.onlyIf p m) := by
  intro s
  rw [wp_onlyIf]
  exact ⟨fun _ => hm s, fun _ => nofun⟩

theorem zoom {part : τ → σ} {update : τ → σ → τ} (hm : Avoids e m) :
    Avoids e (Fallible.zoom part update m) :=
  fun t => hm (part t)

theorem mapError {g : ε → ε'} {e' : ε'} (h : ∀ e, g e ≠ e') :
    Avoids e' (Fallible.mapError g m) :=
  fun _ => mapError_ne_error h

theorem bind (hm : Avoids e m) (hf : ∀ a, Avoids e (f a)) : Avoids e (m >>= f) := by
  intro s
  rw [wp_bind]
  refine wp_mono (hm s) ?_
  rintro (e' | a) s' hr
  · exact fun heq => hr (congrArg Except.error (Except.error.inj heq))
  · rw [andThen_ok]
    exact hf a s'

end Avoids

/-! ## Values that are returned -/

/-- What is known of every value of the last part and its state is known of the whole. -/
theorem wp_bind_last {P : β → σ → Prop}
    (hf : ∀ a s, wp (f a) (fun r s' => ∀ b, r = .ok b → P b s') s) (s : σ) :
    wp (m >>= f) (fun r s' => ∀ b, r = .ok b → P b s') s := by
  rw [wp_bind]
  unfold wp
  rcases m s with ⟨e | a, s'⟩
  · rintro b ⟨⟩
  · exact hf a s'

/-- Every value that the computation returns satisfies `P`. -/
def Returns (P : α → Prop) (m : Fallible σ ε α) : Prop :=
  ∀ s, wp m (fun r _ => ∀ a, r = .ok a → P a) s

namespace Returns

variable {P : β → Prop}

theorem pure {b : β} (h : P b) : Returns P (Pure.pure b : Fallible σ ε β) := by
  rintro s b' ⟨⟩
  exact h

theorem bind (hf : ∀ a, Returns P (f a)) : Returns P (m >>= f) :=
  fun s => wp_bind_last (fun a s' => hf a s') s

end Returns

end Fallible

end Library
