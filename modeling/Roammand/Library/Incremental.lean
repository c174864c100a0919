import Mathlib.Data.List.Basic
import Mathlib.Data.List.Induction
import Mathlib.Tactic.Common

/-!
# Incremental decoders

A decoder that reads a stream keeps a state between the pieces of the stream that it is given.
If it can be described one symbol at a time, then what it emits and whether it fails depend on
the stream alone and not on the pieces; only what it has emitted within the piece that makes it
fail is lost.

Main results:

- Definition `Incremental` with `feed` and `pushAll`: the stream as a whole, and in pieces.
- Theorem `Incremental.feed_append`: a stream is its first part and then the rest.
- Theorem `Incremental.pushAll_spec`: pieces compared with the whole stream.
-/

namespace Library

universe u v w x

/-- A decoder that takes one symbol at a time, emits results and may fail. -/
structure Incremental (σ : Type u) (β : Type v) (ω : Type w) (ε : Type x) where
  take : σ → β → σ × Except ε (List ω)

/-- What has become of a stream: the state reached, what has been emitted, and the failure. -/
structure Fed (σ : Type u) (ω : Type w) (ε : Type x) where
  state : σ
  emitted : List ω
  failure : Option ε

namespace Incremental

variable {σ : Type u} {β : Type v} {ω : Type w} {ε : Type x} (D : Incremental σ β ω ε)

/-- Take the symbols of a stream until one makes the decoder fail. -/
def feed : σ → List β → Fed σ ω ε
  | s, [] => { state := s, emitted := [], failure := none }
  | s, b :: bs =>
    match D.take s b with
    | (s', .error e) => { state := s', emitted := [], failure := some e }
    | (s', .ok out) =>
      let rest := feed s' bs
      { rest with emitted := out ++ rest.emitted }

/-- Take the pieces of a stream; a piece that makes the decoder fail emits nothing. -/
def pushAll : σ → List (List β) → Fed σ ω ε
  | s, [] => { state := s, emitted := [], failure := none }
  | s, piece :: pieces =>
    let first := D.feed s piece
    match first.failure with
    | some e => { state := first.state, emitted := [], failure := some e }
    | none =>
      let rest := pushAll first.state pieces
      { rest with emitted := first.emitted ++ rest.emitted }

variable {D}

@[simp]
theorem feed_nil (s : σ) : D.feed s [] = { state := s, emitted := [], failure := none } := rfl

variable {s s' : σ}

theorem feed_cons_ok {b : β} {out : List ω} (h : D.take s b = (s', .ok out)) (bs : List β) :
    D.feed s (b :: bs) =
      { D.feed s' bs with emitted := out ++ (D.feed s' bs).emitted } := by
  rw [feed, h]

theorem feed_cons_error {b : β} {e : ε} (h : D.take s b = (s', .error e)) (bs : List β) :
    D.feed s (b :: bs) = { state := s', emitted := [], failure := some e } := by
  rw [feed, h]

/-- A stream that fails early is not read further. -/
theorem feed_append_of_failure {s : σ} {xs : List β} {e : ε}
    (h : (D.feed s xs).failure = some e) (ys : List β) : D.feed s (xs ++ ys) = D.feed s xs := by
  induction xs generalizing s with
  | nil => cases h
  | cons b xs ih =>
    rcases htake : D.take s b with ⟨s', e' | out⟩
    · rw [List.cons_append, feed_cons_error htake, feed_cons_error htake]
    · rw [feed_cons_ok htake] at h
      rw [List.cons_append, feed_cons_ok htake, feed_cons_ok htake, ih h]

/-- A stream is its first part and then the rest. -/
theorem feed_append {s : σ} {xs : List β} (h : (D.feed s xs).failure = none) (ys : List β) :
    D.feed s (xs ++ ys) =
      { D.feed (D.feed s xs).state ys with
        emitted := (D.feed s xs).emitted ++ (D.feed (D.feed s xs).state ys).emitted } := by
  induction xs generalizing s with
  | nil => rfl
  | cons b xs ih =>
    rcases htake : D.take s b with ⟨s', e' | out⟩
    · rw [feed_cons_error htake] at h
      cases h
    · rw [feed_cons_ok htake] at h ⊢
      rw [List.cons_append, feed_cons_ok htake, ih h, List.append_assoc]

/-- The pieces before the one that fails are the stream so far; without a failure they are the
whole stream. -/
theorem pushAll_spec (s : σ) (pieces : List (List β)) :
    (D.pushAll s pieces).failure = (D.feed s pieces.flatten).failure ∧
      (D.pushAll s pieces).state = (D.feed s pieces.flatten).state ∧
      ∃ before rest, pieces = before ++ rest ∧
        (D.feed s before.flatten).failure = none ∧
        (D.pushAll s pieces).emitted = (D.feed s before.flatten).emitted ∧
        ((D.pushAll s pieces).failure = none → rest = []) ∧
        ((D.pushAll s pieces).failure ≠ none → ∃ piece after, rest = piece :: after ∧
          (D.feed s (before ++ [piece]).flatten).failure = (D.pushAll s pieces).failure) := by
  induction pieces generalizing s with
  | nil => exact ⟨rfl, rfl, [], [], rfl, rfl, rfl, fun _ => rfl, fun h => absurd rfl h⟩
  | cons piece pieces ih =>
    cases hfirst : (D.feed s piece).failure with
    | some e =>
      have hpush : D.pushAll s (piece :: pieces) =
          { state := (D.feed s piece).state, emitted := [], failure := some e } := by
        rw [pushAll]
        simp only [hfirst]
      have hfeed : D.feed s (piece :: pieces).flatten = D.feed s piece := by
        rw [List.flatten_cons, feed_append_of_failure hfirst]
      rw [hpush, hfeed]
      refine ⟨hfirst.symm, rfl, [], piece :: pieces, rfl, rfl, rfl, nofun, fun _ => ?_⟩
      refine ⟨piece, pieces, rfl, ?_⟩
      simpa using hfirst
    | none =>
      have hpush : D.pushAll s (piece :: pieces) =
          { D.pushAll (D.feed s piece).state pieces with
            emitted := (D.feed s piece).emitted ++
              (D.pushAll (D.feed s piece).state pieces).emitted } := by
        rw [pushAll]
        simp only [hfirst]
      have hfeed : ∀ more, D.feed s (piece ++ more) =
          { D.feed (D.feed s piece).state more with
            emitted := (D.feed s piece).emitted ++
              (D.feed (D.feed s piece).state more).emitted } :=
        fun more => feed_append hfirst more
      obtain ⟨hfailure, hstate, before, rest, rfl, hbefore, hemitted, hdone, hfails⟩ :=
        ih (D.feed s piece).state
      rw [hpush, List.flatten_cons, hfeed]
      refine ⟨hfailure, hstate, piece :: before, rest, rfl, ?_, ?_, hdone, fun hne => ?_⟩
      · rw [List.flatten_cons, hfeed]
        exact hbefore
      · rw [List.flatten_cons, hfeed, hemitted]
      · obtain ⟨failing, after, hrest, hlast⟩ := hfails hne
        refine ⟨failing, after, hrest, ?_⟩
        rw [List.cons_append, List.flatten_cons, hfeed]
        exact hlast

end Incremental

end Library
