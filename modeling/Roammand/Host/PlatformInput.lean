import Roammand.Host.PeerSession
import Mathlib.Data.Finset.Basic
import Mathlib.Data.Finset.Image

/-!
# The keys that the Host holds down

The input sink of the Host remembers which keys it has pressed.  A key event first brings
all other modifiers in line with the modifier bits that it carries, so the held modifiers
after a key event are those of the event, whatever was held before.

Here the platform accepts every transition.

Main results:

- Definition `pressedKeys`: the keys that are down after a stream of input.
- Theorem `modifiers_keyboard`: the modifiers after a key event depend on it alone.
-/

namespace Roammand

namespace Host

namespace PlatformInputSink

/-! ## The sink -/

/-- The directions of a key. -/
inductive NativeDirection where
  | press
  | release

/-- The first usage of a modifier. -/
def firstModifierUsage : Nat := 0xe0

/-- The number of modifiers. -/
def modifierCount : Nat := 8

/-- Move one key. -/
def setKey (usage : Nat) (direction : NativeDirection) (keys : Finset Nat) : Finset Nat :=
  match direction with
  | .press => insert usage keys
  | .release => keys.erase usage

variable (events : List ReliableInputEvent) (modifierBits currentUsage : Nat) (keys : Finset Nat)

/-- Bring one modifier in line with its bit, unless the event is about it. -/
def reconcileModifier (bit : Nat) :
    Finset Nat :=
  if firstModifierUsage + bit = currentUsage then keys
  else if modifierBits.testBit bit then setKey (firstModifierUsage + bit) .press keys
  else setKey (firstModifierUsage + bit) .release keys

/-- Bring all modifiers in line with the bits, but for the key of the event. -/
def reconcileModifiers : Finset Nat :=
  (List.range modifierCount).foldl (reconcileModifier modifierBits currentUsage) keys

/-- A key event.  One without an action is an error, after the modifiers were moved. -/
def keyboard (action : KeyboardAction) (usage modifierBits : Nat) (keys : Finset Nat) :
    Finset Nat :=
  let keys := reconcileModifiers modifierBits usage keys
  match action with
  | .down => setKey usage .press keys
  | .up => setKey usage .release keys
  | .unspecified => keys

/-- The keys after an event of the reliable channel. -/
def apply : ReliableInputEvent → Finset Nat
  | .keyboard action usage modifierBits =>
    match KeyboardAction.ofInt32? action with
    | some action => keyboard action usage.toNat modifierBits.toNat keys
    | none => keys
  | .releaseAllInput => ∅
  | _ => keys

/-- The keys that are down after a stream of events. -/
def pressedKeys : Finset Nat := events.foldl apply ∅

/-- The modifiers among some keys. -/
def modifiers : Finset Nat :=
  keys.filter fun usage => firstModifierUsage ≤ usage ∧ usage < firstModifierUsage + modifierCount

/-- The modifiers that are down after a stream of events. -/
def heldModifiers : Finset Nat := modifiers (pressedKeys events)

/-! ## Modifiers after a key event -/

variable (down : Bool)

/-- The modifiers that a key event asks for. -/
def askedModifiers (usage modifierBits : Nat) : Finset Nat :=
  ((List.range modifierCount).map (firstModifierUsage + ·)).toFinset.filter fun modifier =>
    if modifier = usage then down else modifierBits.testBit (modifier - firstModifierUsage)

theorem mem_reconcileModifier (modifierBits usage : Nat) (keys : Finset Nat) (bit other : Nat) :
    firstModifierUsage + other ∈ reconcileModifier modifierBits usage keys bit ↔
      if other = bit ∧ firstModifierUsage + bit ≠ usage then modifierBits.testBit bit = true
      else firstModifierUsage + other ∈ keys := by
  unfold reconcileModifier
  by_cases hsame : other = bit
  · subst hsame
    by_cases hcurrent : firstModifierUsage + other = usage
    · simp [hcurrent]
    · by_cases hbit : modifierBits.testBit other = true <;> simp [hcurrent, hbit, setKey]
  · have hne : firstModifierUsage + other ≠ firstModifierUsage + bit := by omega
    by_cases hcurrent : firstModifierUsage + bit = usage
    · simp [hcurrent, hsame]
    · by_cases hbit : modifierBits.testBit bit = true <;> simp [hcurrent, hbit, setKey, hsame]

theorem mem_foldl_reconcileModifier (modifierBits usage : Nat) (bits : List Nat)
    (keys : Finset Nat) (other : Nat) :
    firstModifierUsage + other ∈ bits.foldl (reconcileModifier modifierBits usage) keys ↔
      if other ∈ bits ∧ firstModifierUsage + other ≠ usage then
        modifierBits.testBit other = true
      else firstModifierUsage + other ∈ keys := by
  induction bits generalizing keys with
  | nil => simp
  | cons bit bits ih =>
    rw [List.foldl_cons, ih, mem_reconcileModifier]
    by_cases hcurrent : firstModifierUsage + other = usage
    · have hbit : ¬ (other = bit ∧ firstModifierUsage + bit ≠ usage) := fun h =>
        h.2 (h.1 ▸ hcurrent)
      simp [hcurrent, hbit]
    · by_cases hlater : other ∈ bits
      · simp [hcurrent, hlater]
      · by_cases hsame : other = bit
        · subst hsame
          simp [hcurrent, hlater]
        · simp [hlater, hsame]

/-- The modifiers after a key event are the ones that it asks for, whatever was down
before. -/
theorem modifiers_keyboard (usage modifierBits : Nat) (keys : Finset Nat) :
    modifiers (keyboard (if down then .down else .up) usage modifierBits keys) =
      askedModifiers down usage modifierBits := by
  ext modifier
  simp only [modifiers, askedModifiers, Finset.mem_filter, List.mem_toFinset, List.mem_map,
    List.mem_range]
  constructor
  · rintro ⟨hmem, hlow, hhigh⟩
    obtain ⟨bit, rfl⟩ := Nat.exists_eq_add_of_le hlow
    refine ⟨⟨bit, by omega, rfl⟩, ?_⟩
    by_cases hcurrent : firstModifierUsage + bit = usage
    · cases down
      · simp [keyboard, setKey, hcurrent] at hmem
      · simp [hcurrent]
    · have hreconciled : firstModifierUsage + bit ∈ reconcileModifiers modifierBits usage keys := by
        cases down <;> simpa [keyboard, setKey, hcurrent] using hmem
      rw [reconcileModifiers, mem_foldl_reconcileModifier,
        if_pos ⟨List.mem_range.mpr (by omega), hcurrent⟩] at hreconciled
      simpa [hcurrent] using hreconciled
  · rintro ⟨⟨bit, hbit, rfl⟩, hasked⟩
    refine ⟨?_, by omega, by omega⟩
    by_cases hcurrent : firstModifierUsage + bit = usage
    · cases down
      · simp [hcurrent] at hasked
      · simp [keyboard, setKey, hcurrent]
    · have hreconciled : firstModifierUsage + bit ∈ reconcileModifiers modifierBits usage keys := by
        rw [reconcileModifiers, mem_foldl_reconcileModifier,
          if_pos ⟨List.mem_range.mpr hbit, hcurrent⟩]
        simpa [hcurrent] using hasked
      cases down <;> simpa [keyboard, setKey, hcurrent] using hreconciled

/-! ## Streams -/

theorem pressedKeys_append (events more : List ReliableInputEvent) :
    pressedKeys (events ++ more) = more.foldl apply (pressedKeys events) :=
  List.foldl_append

end PlatformInputSink

end Host

end Roammand
