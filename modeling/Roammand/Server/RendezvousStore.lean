import Mathlib.Data.Finmap
import Mathlib.Data.Finset.Card
import Roammand.Library.Heap
import Roammand.Library.Run
import Roammand.Protocol.SignalingService

/-!
# The rendezvous store of the signaling service

The store keeps every open pairing rendezvous in six structures that are updated by hand:
the rendezvous by identifier, an index of desktop codes, an index of members, the number of
rendezvous of each Host, and a heap of expiry entries with an index into it.

An expiry entry is shared between the heap and the index, and the heap writes the entry's
position into it.  The entries therefore live in cells, and the heap and the index hold
references to cells.  An operation that would stop with a run-time error (a missing entry, a
position outside the heap) or that would not end returns `none`.

Main results:

- Definitions `RendezvousExpiryHeap.push` and `RendezvousExpiryHeap.remove`.
- Definitions `RendezvousStore.create`, `joinByID`, `joinByCode`, `peer`, `complete`,
  `removeForDevice` and `sweep`.
- Definition `RendezvousStore.machine`: the store as a machine over its operations.
-/

namespace Roammand

namespace Server

open Library Protocol

/-! ## Identifiers -/

/-- The identifier of a device: 32 bytes. -/
abbrev DeviceID := { bytes : Bytes // bytes.length = deviceIdBytes }

/-- The identifier of a rendezvous: 16 bytes. -/
abbrev RendezvousID := { bytes : Bytes // bytes.length = rendezvousIdBytes }

/-- A SHA-256 digest. -/
abbrev CodeHash := { bytes : Bytes // bytes.length = 32 }

/-- A point in time, in nanoseconds. -/
abbrev Time := Int

/-- A finite map. -/
abbrev Table (κ : Type) (α : Type) := Finmap fun _ : κ => α

theorem Table.lookup_insert {κ α : Type} [DecidableEq κ] (t : Table κ α) (k k' : κ) (a : α) :
    (t.insert k a).lookup k' = if k' = k then some a else t.lookup k' := by
  by_cases h : k' = k
  · subst h
    rw [if_pos rfl, Finmap.lookup_insert]
  · rw [if_neg h, Finmap.lookup_insert_of_ne t h]

theorem Table.lookup_erase {κ α : Type} [DecidableEq κ] (t : Table κ α) (k k' : κ) :
    (t.erase k).lookup k' = if k' = k then none else t.lookup k' := by
  by_cases h : k' = k
  · subst h
    rw [if_pos rfl, Finmap.lookup_erase]
  · rw [if_neg h, Finmap.lookup_erase_ne h]

/-- The order in which a loop over the keys of a map visits them. -/
structure RangeOrder (α : Type) where
  enumerate : Finset α → List α
  nodup : ∀ keys, (enumerate keys).Nodup
  mem_iff : ∀ keys a, a ∈ enumerate keys ↔ a ∈ keys

/-- The operations on text that pairing codes go through. -/
structure CodeText where
  toUpper : String → String
  trimSpace : String → String
  sum256 : String → CodeHash

/-- The digest that stands for a pairing code. -/
def CodeText.pairingCodeHash (text : CodeText) (pairingCode : String) : CodeHash :=
  text.sum256 ("roammand-pairing-code:" ++ text.toUpper (text.trimSpace pairingCode))

/-! ## Expiry entries -/

/-- When a rendezvous expires, with the position of the entry in the heap. -/
structure RendezvousExpiry where
  id : RendezvousID
  expiresAt : Time
  index : Int

/-- A reference to an expiry entry. -/
abbrev ExpiryRef := Nat

/-- The expiry heap, with the cells its references point to. -/
structure RendezvousExpiryHeap where
  entries : List ExpiryRef
  cells : ExpiryRef → RendezvousExpiry

namespace RendezvousExpiryHeap

/-- The reference at a position. -/
def ref (h : RendezvousExpiryHeap) (k : Nat) : ExpiryRef := h.entries.getD k 0

/-- The expiry at a position. -/
def expiryAt (h : RendezvousExpiryHeap) (k : Nat) : Time := (h.cells (h.ref k)).expiresAt

/-- Write the position of an entry into it. -/
def setIndex (h : RendezvousExpiryHeap) (r : ExpiryRef) (index : Int) : RendezvousExpiryHeap :=
  { h with cells := Function.update h.cells r { h.cells r with index } }

/-- The comparison of two positions. -/
def less (h : RendezvousExpiryHeap) (left right : Nat) : Bool :=
  decide (h.expiryAt left < h.expiryAt right)

/-- Exchange two positions and write them into the entries. -/
def swap (h : RendezvousExpiryHeap) (left right : Nat) : RendezvousExpiryHeap :=
  let entries := (h.entries.set left (h.ref right)).set right (h.ref left)
  ({ h with entries }.setIndex (h.ref right) left).setIndex (h.ref left) right

/-- The heap as a container for the sifts. -/
def container : HeapInterface RendezvousExpiryHeap where
  len h := h.entries.length
  less := less
  swap := swap

/-- Put a reference at the end of the heap. -/
def append (h : RendezvousExpiryHeap) (r : ExpiryRef) : RendezvousExpiryHeap :=
  { h.setIndex r h.entries.length with entries := h.entries ++ [r] }

/-- Take the last reference off. -/
def pop (h : RendezvousExpiryHeap) : RendezvousExpiryHeap :=
  { h.setIndex (h.ref (h.entries.length - 1)) (-1) with entries := h.entries.dropLast }

/-- `heap.Push`. -/
def push (h : RendezvousExpiryHeap) (r : ExpiryRef) : RendezvousExpiryHeap :=
  let h := h.append r
  container.up h (h.entries.length - 1)

/-- `heap.Remove`, which fails on a position outside the heap. -/
def remove (h : RendezvousExpiryHeap) (index : Int) : Option RendezvousExpiryHeap :=
  if 0 ≤ index ∧ index < h.entries.length then
    let i := index.toNat
    let n := h.entries.length - 1
    some (if n = i then h.pop else (container.repair (h.swap i n) i n).pop)
  else none

end RendezvousExpiryHeap

/-! ## The store -/

/-- Errors of the store. -/
inductive RendezvousError where
  | rendezvousExists
  | pairingCodeExists
  | rendezvousNotFound
  | rendezvousFull
  | rendezvousSelfJoin
  | rendezvousNotMember
  | rendezvousNotHost
  | rendezvousNotJoined
  | rendezvousInvalid
  | rendezvousLimit
  | rendezvousCapacity

/-- How a rendezvous is found.  The source's type has room for more values than it names. -/
inductive PairingKind where
  | qr
  | desktopCode
  | other (value : UInt8)
  deriving DecidableEq

/-- A pairing rendezvous. -/
structure Rendezvous where
  id : RendezvousID
  kind : PairingKind
  host : DeviceID
  controller : Option DeviceID
  codeHash : CodeHash
  expiresAt : Time
  deriving DecidableEq

/-- The value that a missing key reads as. -/
def Rendezvous.zero : Rendezvous where
  id := ⟨List.replicate rendezvousIdBytes 0, List.length_replicate⟩
  kind := .other 0
  host := ⟨List.replicate deviceIdBytes 0, List.length_replicate⟩
  controller := none
  codeHash := ⟨List.replicate 32 0, List.length_replicate⟩
  expiresAt := -62135596800000000000

/-- The rendezvous of each device. -/
abbrev MemberIndex := Table DeviceID (Finset RendezvousID)

/-- The store.  `allocated` counts the expiry entries made so far. -/
structure RendezvousStore where
  byID : Table RendezvousID Rendezvous
  codeIndex : Table CodeHash RendezvousID
  memberIndex : MemberIndex
  hostCounts : Table DeviceID Int
  expirations : RendezvousExpiryHeap
  expiryIndex : Table RendezvousID ExpiryRef
  maxPerHost : Int
  maxTotal : Int
  allocated : ExpiryRef

/-- An empty store; both limits must be positive. -/
def newRendezvousStore (maxPerHost maxTotal : Int) : Option RendezvousStore :=
  if maxPerHost ≤ 0 ∨ maxTotal ≤ 0 then none
  else some {
    byID := ∅
    codeIndex := ∅
    memberIndex := ∅
    hostCounts := ∅
    expirations := { entries := [], cells := fun _ => ⟨Rendezvous.zero.id, 0, 0⟩ }
    expiryIndex := ∅
    maxPerHost
    maxTotal
    allocated := 0 }

namespace MemberIndex

/-- Enter a rendezvous under a device. -/
def indexMemberLocked (index : MemberIndex) (deviceID : DeviceID) (id : RendezvousID) :
    MemberIndex :=
  index.insert deviceID (insert id ((index.lookup deviceID).getD ∅))

/-- Take a rendezvous out from under a device. -/
def removeMemberIndexLocked (index : MemberIndex) (deviceID : DeviceID) (id : RendezvousID) :
    MemberIndex :=
  let ids := ((index.lookup deviceID).getD ∅).erase id
  if ids.card = 0 then index.erase deviceID else index.insert deviceID ids

end MemberIndex

namespace RendezvousStore

/-- How many rendezvous are stored. -/
def len (s : RendezvousStore) : Nat := s.byID.keys.card

/-- The rendezvous under an identifier, unless it has expired. -/
def activeLocked (s : RendezvousStore) (id : RendezvousID) (now : Time) :
    Except RendezvousError Rendezvous :=
  match s.byID.lookup id with
  | none => .error .rendezvousNotFound
  | some rendezvous =>
    if now < rendezvous.expiresAt then .ok rendezvous else .error .rendezvousNotFound

/-- The counts after one rendezvous of a Host is gone. -/
def uncount (counts : Table DeviceID Int) (host : DeviceID) : Table DeviceID Int :=
  let remaining := (counts.lookup host).getD 0 - 1
  if remaining ≤ 0 then counts.erase host else counts.insert host remaining

/-- Take a rendezvous out of the store. -/
def deleteLocked (s : RendezvousStore) (rendezvous : Rendezvous) : Option RendezvousStore :=
  match s.byID.lookup rendezvous.id with
  | none => some s
  | some stored =>
    match s.expiryIndex.lookup stored.id with
    | none => none
    | some expiry =>
      match s.expirations.remove (s.expirations.cells expiry).index with
      | none => none
      | some expirations =>
        let members := s.memberIndex.removeMemberIndexLocked stored.host stored.id
        some { s with
          byID := s.byID.erase stored.id
          expirations
          expiryIndex := s.expiryIndex.erase stored.id
          memberIndex :=
            match stored.controller with
            | none => members
            | some controller => members.removeMemberIndexLocked controller stored.id
          codeIndex :=
            if stored.kind = .desktopCode then s.codeIndex.erase stored.codeHash
            else s.codeIndex
          hostCounts := uncount s.hostCounts stored.host }

/-- The loop of `sweepLocked`, for at most `fuel` rounds. -/
def sweepLoop (now : Time) :
    Nat → RendezvousStore → List Rendezvous → Option (List Rendezvous × RendezvousStore)
  | 0, _, _ => none
  | fuel + 1, s, removed =>
    match s.expirations.entries with
    | [] => some (removed, s)
    | expiry :: _ =>
      if now < (s.expirations.cells expiry).expiresAt then some (removed, s)
      else
        let rendezvous :=
          (s.byID.lookup (s.expirations.cells expiry).id).getD Rendezvous.zero
        match s.deleteLocked rendezvous with
        | none => none
        | some s => sweepLoop now fuel s (removed ++ [rendezvous])

/-- Remove the expired rendezvous. -/
def sweepLocked (s : RendezvousStore) (now : Time) :
    Option (List Rendezvous × RendezvousStore) :=
  sweepLoop now (s.expirations.entries.length + 1) s []

/-- `Sweep`. -/
def sweep (s : RendezvousStore) (now : Time) : Option (List Rendezvous × RendezvousStore) :=
  s.sweepLocked now

/-- Why a rendezvous with valid arguments cannot be added. -/
def refusal (s : RendezvousStore) (rendezvous : Rendezvous) : Option RendezvousError :=
  if rendezvous.id ∈ s.byID then some .rendezvousExists
  else if rendezvous.kind = .desktopCode ∧ rendezvous.codeHash ∈ s.codeIndex then
    some .pairingCodeExists
  else if s.maxTotal ≤ s.len then some .rendezvousCapacity
  else if s.maxPerHost ≤ (s.hostCounts.lookup rendezvous.host).getD 0 then
    some .rendezvousLimit
  else none

/-- Add a rendezvous. -/
def add (s : RendezvousStore) (stored : Rendezvous) : RendezvousStore :=
  let expirations := { s.expirations with
    cells := Function.update s.expirations.cells s.allocated
      { id := stored.id, expiresAt := stored.expiresAt, index := 0 } }
  { s with
    byID := s.byID.insert stored.id stored
    expirations := expirations.push s.allocated
    expiryIndex := s.expiryIndex.insert stored.id s.allocated
    memberIndex := s.memberIndex.indexMemberLocked stored.host stored.id
    hostCounts := s.hostCounts.insert stored.host
      ((s.hostCounts.lookup stored.host).getD 0 + 1)
    codeIndex :=
      if stored.kind = .desktopCode then s.codeIndex.insert stored.codeHash stored.id
      else s.codeIndex
    allocated := s.allocated + 1 }

/-- What `Create` returns: the rendezvous it swept away, and an error. -/
structure CreateReply where
  removed : List Rendezvous
  err : Option RendezvousError

/-- The part of `Create` that follows the check of the kind and the code. -/
def createChecked (s : RendezvousStore) (rendezvous : Rendezvous) (now : Time) :
    Option (CreateReply × RendezvousStore) :=
  if ¬ now < rendezvous.expiresAt then some (⟨[], some .rendezvousInvalid⟩, s)
  else
    match s.sweepLocked now with
    | none => none
    | some (removed, s) =>
      match s.refusal rendezvous with
      | some err => some (⟨removed, some err⟩, s)
      | none => some (⟨removed, none⟩, s.add rendezvous)

variable (text : CodeText)

/-- The rendezvous that `Create` stores, if its kind and code go together. -/
def checkedKind (rendezvous : Rendezvous) (pairingCode : String) :
    Option Rendezvous :=
  match rendezvous.kind with
  | .qr => if pairingCode ≠ "" then none else some rendezvous
  | .desktopCode =>
    if pairingCode = "" then none
    else some { rendezvous with codeHash := text.pairingCodeHash pairingCode }
  | .other _ => none

/-- `Create`. -/
def create (s : RendezvousStore) (rendezvous : Rendezvous)
    (pairingCode : String) (now : Time) : Option (CreateReply × RendezvousStore) :=
  match checkedKind text rendezvous pairingCode with
  | none => some (⟨[], some .rendezvousInvalid⟩, s)
  | some rendezvous => s.createChecked rendezvous now

/-- Make a device the controller of a rendezvous. -/
def joinLocked (s : RendezvousStore) (id : RendezvousID) (controller : DeviceID) (now : Time) :
    Except RendezvousError Rendezvous × RendezvousStore :=
  match s.activeLocked id now with
  | .error err => (.error err, s)
  | .ok rendezvous =>
    if rendezvous.host = controller then (.error .rendezvousSelfJoin, s)
    else
      match rendezvous.controller with
      | some joined =>
        if joined = controller then (.ok rendezvous, s) else (.error .rendezvousFull, s)
      | none =>
        let rendezvous := { rendezvous with controller := some controller }
        (.ok rendezvous,
          { s with
            byID := s.byID.insert id rendezvous
            memberIndex := s.memberIndex.indexMemberLocked controller id })

/-- `JoinByID`. -/
def joinByID (s : RendezvousStore) (id : RendezvousID) (controller : DeviceID) (now : Time) :
    Except RendezvousError Rendezvous × RendezvousStore :=
  s.joinLocked id controller now

/-- `JoinByCode`. -/
def joinByCode (s : RendezvousStore) (pairingCode : String)
    (controller : DeviceID) (now : Time) : Except RendezvousError Rendezvous × RendezvousStore :=
  match s.codeIndex.lookup (text.pairingCodeHash pairingCode) with
  | none => (.error .rendezvousNotFound, s)
  | some id => s.joinLocked id controller now

/-- `Peer`: the other member of a rendezvous. -/
def peer (s : RendezvousStore) (id : RendezvousID) (sender : DeviceID) (now : Time) :
    Except RendezvousError (DeviceID × Rendezvous) :=
  match s.activeLocked id now with
  | .error err => .error err
  | .ok rendezvous =>
    match rendezvous.controller with
    | none => .error .rendezvousNotJoined
    | some controller =>
      if sender = rendezvous.host then .ok (controller, rendezvous)
      else if sender = controller then .ok (rendezvous.host, rendezvous)
      else .error .rendezvousNotMember

/-- `Complete`. -/
def complete (s : RendezvousStore) (id : RendezvousID) (host : DeviceID) (now : Time) :
    Option (Except RendezvousError Rendezvous × RendezvousStore) :=
  match s.activeLocked id now with
  | .error err => some (.error err, s)
  | .ok rendezvous =>
    if rendezvous.host ≠ host then some (.error .rendezvousNotHost, s)
    else
      match s.deleteLocked rendezvous with
      | none => none
      | some s => some (.ok rendezvous, s)

/-- The loop of `RemoveForDevice`.  A round deletes no key of the map it ranges over but its
own, so that the keys to visit are known at the start. -/
def removeLoop : List RendezvousID → RendezvousStore → List Rendezvous →
    Option (List Rendezvous × RendezvousStore)
  | [], s, removed => some (removed, s)
  | id :: ids, s, removed =>
    match s.byID.lookup id with
    | none => removeLoop ids s removed
    | some rendezvous =>
      match s.deleteLocked rendezvous with
      | none => none
      | some s => removeLoop ids s (removed ++ [rendezvous])

/-- `RemoveForDevice`. -/
def removeForDevice (s : RendezvousStore) (deviceID : DeviceID)
    (order : RangeOrder RendezvousID) : Option (List Rendezvous × RendezvousStore) :=
  removeLoop (order.enumerate ((s.memberIndex.lookup deviceID).getD ∅)) s []

/-! ## Runs -/

/-- A call of the store. -/
inductive Call where
  | create (rendezvous : Rendezvous) (pairingCode : String) (now : Time)
  | joinByID (id : RendezvousID) (controller : DeviceID) (now : Time)
  | joinByCode (pairingCode : String) (controller : DeviceID) (now : Time)
  | peer (id : RendezvousID) (sender : DeviceID) (now : Time)
  | complete (id : RendezvousID) (host : DeviceID) (now : Time)
  | removeForDevice (deviceID : DeviceID) (order : RangeOrder RendezvousID)
  | sweep (now : Time)

/-- What a call returns; `stuck` stands for a run-time error or a loop without end. -/
inductive Reply where
  | created (reply : CreateReply)
  | joined (result : Except RendezvousError Rendezvous)
  | peer (result : Except RendezvousError (DeviceID × Rendezvous))
  | completed (result : Except RendezvousError Rendezvous)
  | removed (rendezvous : List Rendezvous)
  | stuck

/-- The state and the reply of a call that may get stuck. -/
def settle {α : Type} (s : RendezvousStore) (reply : α → Reply) :
    Option (α × RendezvousStore) → RendezvousStore × Reply
  | none => (s, .stuck)
  | some (result, s) => (s, reply result)

/-- One call. -/
def step (s : RendezvousStore) : Call → RendezvousStore × Reply
  | .create rendezvous pairingCode now =>
    settle s .created (create text s rendezvous pairingCode now)
  | .joinByID id controller now =>
    let r := s.joinByID id controller now
    (r.2, .joined r.1)
  | .joinByCode pairingCode controller now =>
    let r := joinByCode text s pairingCode controller now
    (r.2, .joined r.1)
  | .peer id sender now => (s, .peer (s.peer id sender now))
  | .complete id host now => settle s .completed (s.complete id host now)
  | .removeForDevice deviceID order => settle s .removed (s.removeForDevice deviceID order)
  | .sweep now => settle s .removed (s.sweep now)

/-- The store under any sequence of calls. -/
def machine : Machine RendezvousStore Call Reply where
  step := step text

end RendezvousStore

end Server

end Roammand
