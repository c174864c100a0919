import Mathlib.Data.Nat.Basic
import Mathlib.Tactic.Common

/-!
# Checked and saturating 64-bit arithmetic

Unsigned 64-bit quantities are carried as natural numbers, and each arithmetic
operation that can leave the range states what it does at the edge: a checked
operation answers `none`, a saturating one stops at the bound.

Main results:

- Theorems `checkedAdd_eq_some` and `checkedSub_eq_some`: a checked operation
  succeeds exactly when the exact result is in range.
-/

namespace Library

/-- The largest unsigned 64-bit value. -/
def u64Max : Nat := 18446744073709551615

/-- Addition that answers `none` when the sum is not representable. -/
def checkedAdd (a b : Nat) : Option Nat :=
  if a + b ≤ u64Max then some (a + b) else none

/-- Subtraction that answers `none` below zero. -/
def checkedSub (a b : Nat) : Option Nat :=
  if b ≤ a then some (a - b) else none

/-- Addition that stops at the largest representable value. -/
def saturatingAdd (a b : Nat) : Nat := min (a + b) u64Max

variable {a b c : Nat}

theorem checkedAdd_eq_some :
    checkedAdd a b = some c ↔ a + b ≤ u64Max ∧ c = a + b := by
  unfold checkedAdd
  split
  · next h => simp [h, eq_comm]
  · next h => simp [h]

theorem checkedAdd_eq_none {a b : Nat} :
    checkedAdd a b = none ↔ u64Max < a + b := by
  unfold checkedAdd
  split
  · next h => simpa using h
  · next h => simpa using h

theorem checkedSub_eq_some :
    checkedSub a b = some c ↔ b ≤ a ∧ c = a - b := by
  unfold checkedSub
  split
  · next h => simp [h, eq_comm]
  · next h => simp [h]

end Library
