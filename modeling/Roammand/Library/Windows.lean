import Mathlib.Data.List.Basic
import Mathlib.Tactic.Common
import Mathlib.Algebra.Order.Ring.Int

/-!
# Entries that fall into disjoint windows

A limiter that counts in windows of a fixed length lets entries through over time.  What it
promises is that there are disjoint windows of that length such that every entry falls into one
of them and what falls into one window stays within a bound.  The windows are not known
beforehand: one is opened at a time, filled, and given up when its time is over.

Main results:

- Definition `FallIntoWindows`: entries fall into disjoint windows, within a bound each.
- Definition `Filling`: the same while a window is being filled.
- Theorems `Filling.later`, `Filling.close`, `Filling.open_window` and `Filling.admit`: what can
  happen to windows that are being filled.
-/

namespace Library

universe u

/-- A time lies in the window of a length that begins at a start. -/
def InWindow (length start t : Int) : Prop := start ≤ t ∧ t < start + length

instance (length start t : Int) : Decidable (InWindow length start t) :=
  inferInstanceAs (Decidable (_ ∧ _))

section windows

variable {α : Type u} (time : α → Int) (length : Int)

/-- The entries that lie in a window. -/
def windowEntries (start : Int) (entries : List α) : List α :=
  entries.filter fun e => InWindow length start (time e)

/-- Entries fall into disjoint windows of a length, and the entries of one window satisfy `P`. -/
def FallIntoWindows (P : List α → Prop) (entries : List α) : Prop :=
  ∃ starts : List Int, starts.Pairwise (fun s t => s + length ≤ t) ∧
    (∀ e ∈ entries, ∃ s ∈ starts, InWindow length s (time e)) ∧
    ∀ s ∈ starts, P (windowEntries time length s entries)

/-- Windows that have been filled with entries up to a time.  All windows but the one that is
open are over. -/
structure FillingWith (P : List α → Prop) (starts : List Int) (entries : List α)
    (current : Option Int) (now : Int) : Prop where
  disjoint : starts.Pairwise (fun s t => s + length ≤ t)
  covered : ∀ e ∈ entries, ∃ s ∈ starts, InWindow length s (time e)
  within : ∀ s ∈ starts, P (windowEntries time length s entries)
  begun : ∀ s ∈ starts, s ≤ now
  past : ∀ s ∈ starts, current ≠ some s → s + length ≤ now
  current_mem : ∀ s, current = some s → s ∈ starts

/-- Entries fall into windows, one of which may still be open. -/
def Filling (P : List α → Prop) (entries : List α) (current : Option Int) (now : Int) : Prop :=
  ∃ starts, FillingWith time length P starts entries current now

variable {time} {length}

theorem windowEntries_append (start : Int) (entries entries' : List α) :
    windowEntries time length start (entries ++ entries') =
      windowEntries time length start entries ++ windowEntries time length start entries' :=
  List.filter_append ..

theorem windowEntries_of_mem {start : Int} {e : α} (h : InWindow length start (time e)) :
    windowEntries time length start [e] = [e] := by
  simp [windowEntries, h]

theorem windowEntries_of_not_mem {start : Int} {e : α} (h : ¬ InWindow length start (time e)) :
    windowEntries time length start [e] = [] := by
  simp [windowEntries, h]

section filling

variable {P : List α → Prop} {entries : List α} {current : Option Int} {now start : Int}

/-- Nothing has come yet. -/
theorem filling_nil (now : Int) : Filling time length P [] none now := by
  refine ⟨[], .nil, ?_, ?_, ?_, ?_, ?_⟩ <;> simp

/-- Time passes. -/
theorem Filling.later (h : Filling time length P entries current now) {now' : Int}
    (hnow : now ≤ now') : Filling time length P entries current now' := by
  obtain ⟨starts, h⟩ := h
  refine ⟨starts, h.disjoint, h.covered, h.within, ?_, ?_, h.current_mem⟩
  · intro s hs
    exact (h.begun s hs).trans hnow
  · intro s hs hne
    exact (h.past s hs hne).trans hnow

/-- The open window is given up once it is over. -/
theorem Filling.close (h : Filling time length P entries (some start) now)
    (hover : start + length ≤ now) : Filling time length P entries none now := by
  obtain ⟨starts, h⟩ := h
  refine ⟨starts, h.disjoint, h.covered, h.within, h.begun, ?_, nofun⟩
  intro s hs _
  by_cases heq : s = start
  · rw [heq]
    exact hover
  · apply h.past s hs
    intro hs'
    exact heq (Option.some.inj hs').symm

/-- A window is opened when no other is open. -/
theorem Filling.open_window (h : Filling time length P entries none now) (hempty : P []) :
    Filling time length P entries (some now) now ∧
      windowEntries time length now entries = [] := by
  obtain ⟨starts, h⟩ := h
  have hnone : windowEntries time length now entries = [] := by
    rw [windowEntries, List.filter_eq_nil_iff]
    intro e he hin
    obtain ⟨s, hs, hin'⟩ := h.covered e he
    have hover := h.past s hs nofun
    have hlate := (of_decide_eq_true hin).1
    have hearly := hin'.2
    omega
  refine ⟨⟨starts ++ [now], ?_, ?_, ?_, ?_, ?_, ?_⟩, hnone⟩
  · rw [List.pairwise_append]
    refine ⟨h.disjoint, List.pairwise_singleton _ _, ?_⟩
    intro s hs t ht
    rw [List.mem_singleton.mp ht]
    exact h.past s hs nofun
  · intro e he
    obtain ⟨s, hs, hin⟩ := h.covered e he
    exact ⟨s, List.mem_append_left _ hs, hin⟩
  · intro s hs
    rcases List.mem_append.mp hs with hs | hs
    · exact h.within s hs
    · rw [List.mem_singleton.mp hs, hnone]
      exact hempty
  · intro s hs
    rcases List.mem_append.mp hs with hs | hs
    · exact h.begun s hs
    · exact (List.mem_singleton.mp hs).le
  · intro s hs hne
    rcases List.mem_append.mp hs with hs | hs
    · exact h.past s hs nofun
    · exact absurd (congrArg some (List.mem_singleton.mp hs).symm) hne
  · intro s hs
    exact List.mem_append_right _ (List.mem_singleton.mpr (Option.some.inj hs).symm)

theorem Filling.begun (h : Filling time length P entries (some start) now) : start ≤ now := by
  obtain ⟨starts, h⟩ := h
  exact h.begun start (h.current_mem start rfl)

/-- An entry is added to the open window. -/
theorem Filling.admit (h : Filling time length P entries (some start) now)
    (hopen : now < start + length) {e : α} (he : time e = now)
    (hwithin : P (windowEntries time length start entries ++ [e])) :
    Filling time length P (entries ++ [e]) (some start) now ∧
      windowEntries time length start (entries ++ [e]) =
        windowEntries time length start entries ++ [e] := by
  have hbegun := h.begun
  obtain ⟨starts, h⟩ := h
  have hin : InWindow length start (time e) := by
    rw [he]
    exact ⟨hbegun, hopen⟩
  have hstart : windowEntries time length start (entries ++ [e]) =
      windowEntries time length start entries ++ [e] := by
    rw [windowEntries_append, windowEntries_of_mem hin]
  refine ⟨⟨starts, h.disjoint, ?_, ?_, h.begun, h.past, h.current_mem⟩, hstart⟩
  · intro e' he'
    rcases List.mem_append.mp he' with he' | he'
    · exact h.covered e' he'
    · rw [List.mem_singleton.mp he']
      exact ⟨start, h.current_mem start rfl, hin⟩
  · intro s hs
    by_cases heq : s = start
    · rw [heq, hstart]
      exact hwithin
    · have hover := h.past s hs fun hs' => heq (Option.some.inj hs').symm
      have hout : ¬ InWindow length s (time e) := by
        intro hin'
        have hearly := hin'.2
        omega
      rw [windowEntries_append, windowEntries_of_not_mem hout, List.append_nil]
      exact h.within s hs

theorem Filling.fallIntoWindows (h : Filling time length P entries current now) :
    FallIntoWindows time length P entries := by
  obtain ⟨starts, h⟩ := h
  exact ⟨starts, h.disjoint, h.covered, h.within⟩

end filling

end windows

end Library
