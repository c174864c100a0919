import Mathlib.Data.List.Induction
import Roammand.Library.Run
import Roammand.Library.UInt

/-!
# Privileged bridge: the lease manager

The broker hands out at most one lease at a time to the connected Host.  Every
privileged command is authorised against that lease: it names the lease, comes
before its expiry and carries the next sequence number.

Main results:

- Definitions `LeaseManager.acquire`, `renew`, `authorizeCommand`, `release`,
  `close`, `expire`, `connectHost` and `disconnectHost` follow the broker's
  operations with all their error paths.
- Theorem `LeaseManager.run_wellFormed`: a reachable manager holds a lease only for
  the connected Host generation.
- Theorem `LeaseManager.lease_discipline`: over every run, what happens between one
  granted lease and the next.
-/

namespace Roammand

namespace Bridge

open Library Machine

/-- Sixteen bytes, as a lease or session identifier or a broker instance id. -/
abbrev Bytes16 := Vector UInt8 16

/-- The all-zero identifier, which is never a valid lease id. -/
def zeroBytes16 : Bytes16 := Vector.replicate 16 0

/-- The shortest time between two renewals of one lease. -/
def renewIntervalMs : Nat := 5000

/-- How long a lease lasts from its grant or its last renewal. -/
def leaseDurationMs : Nat := 15000

/-- The longest accepted controller display name, in UTF-8 bytes. -/
def maxControllerNameBytes : Nat := 128

/-- The errors of the lease manager. -/
inductive LeaseError where
  | hostDisconnected
  | hostAlreadyConnected
  | leaseAlreadyActive
  | leaseNotActive
  | leaseExpired
  | staleGeneration
  | leaseIdMismatch
  | invalidLeaseId
  | randomUnavailable
  | renewedTooSoon
  | invalidSequence
  | invalidControllerName
  | timestampOverflow
  deriving DecidableEq

/-- A request for a lease. -/
structure AcquireLease where
  sessionId : Bytes16
  generation : Nat
  controllerDisplayName : String
  mayControlInput : Bool

/-- A lease as the broker records it. -/
structure Lease where
  id : Bytes16
  sessionId : Bytes16
  generation : Nat
  issuedAtMs : Nat
  expiresAtMs : Nat
  lastRenewedAtMs : Nat
  lastCommandSequence : Nat
  controllerDisplayName : String
  mayControlInput : Bool
  deriving DecidableEq

/-- The broker's lease state. -/
structure LeaseManager where
  brokerInstanceId : Bytes16
  hostGeneration : Option Nat
  active : Option Lease
  lastReleased : Option (Bytes16 × Nat)

/-- A Unicode control character (general category Cc). -/
def isControlChar (c : Char) : Bool :=
  c.toNat ≤ 0x1f || (0x7f ≤ c.toNat && c.toNat ≤ 0x9f)

/-- A controller name is nonempty, at most 128 bytes and free of control
characters. -/
def validateControllerName (value : String) : Except LeaseError Unit :=
  if value.isEmpty ∨ maxControllerNameBytes < value.utf8ByteSize ∨
      value.toList.any isControlChar then
    .error .invalidControllerName
  else
    .ok ()

/-- A lease reference names the generation and the id of the active lease. -/
def validateActiveRef (lease : Lease) (id : Bytes16) (generation : Nat) :
    Except LeaseError Unit :=
  if generation ≠ lease.generation then .error .staleGeneration
  else if id ≠ lease.id then .error .leaseIdMismatch
  else .ok ()

namespace LeaseManager

/-- A manager with no Host and no lease. -/
def new (brokerInstanceId : Bytes16) : LeaseManager :=
  { brokerInstanceId, hostGeneration := none, active := none, lastReleased := none }

/-- Drop the active lease and remember its reference. -/
def freezeActive (m : LeaseManager) : LeaseManager × Bool :=
  match m.active with
  | none => (m, false)
  | some lease =>
    ({ m with active := none, lastReleased := some (lease.id, lease.generation) }, true)

/-- Register the sole authenticated Host connection. -/
def connectHost (m : LeaseManager) (generation : Nat) :
    LeaseManager × Except LeaseError Unit :=
  if m.hostGeneration.isSome then (m, .error .hostAlreadyConnected)
  else if generation = 0 then (m, .error .staleGeneration)
  else ({ m with hostGeneration := some generation }, .ok ())

/-- Forget the Host and freeze its lease. -/
def disconnectHost (m : LeaseManager) : LeaseManager × Bool :=
  freezeActive { m with hostGeneration := none }

/-- Grant the only active lease.  `nextLeaseId` is the answer of the random
identifier source. -/
def acquire (m : LeaseManager) (request : AcquireLease) (nowMs : Nat)
    (nextLeaseId : Except LeaseError Bytes16) : LeaseManager × Except LeaseError Lease :=
  match m.hostGeneration with
  | none => (m, .error .hostDisconnected)
  | some hostGeneration =>
    if m.active.isSome then (m, .error .leaseAlreadyActive)
    else if request.generation ≠ hostGeneration then (m, .error .staleGeneration)
    else match validateControllerName request.controllerDisplayName with
    | .error e => (m, .error e)
    | .ok () => match nextLeaseId with
      | .error e => (m, .error e)
      | .ok id =>
        if id = zeroBytes16 then (m, .error .invalidLeaseId)
        else match checkedAdd nowMs leaseDurationMs with
        | none => (m, .error .timestampOverflow)
        | some expiresAtMs =>
          let lease : Lease :=
            { id
              sessionId := request.sessionId
              generation := request.generation
              issuedAtMs := nowMs
              expiresAtMs
              lastRenewedAtMs := nowMs
              lastCommandSequence := 0
              controllerDisplayName := request.controllerDisplayName
              mayControlInput := request.mayControlInput }
          ({ m with active := some lease, lastReleased := none }, .ok lease)

/-- Extend the active lease at the fixed cadence. -/
def renew (m : LeaseManager) (id : Bytes16) (generation nowMs : Nat) :
    LeaseManager × Except LeaseError Lease :=
  match m.active with
  | none => (m, .error .leaseNotActive)
  | some lease =>
    match validateActiveRef lease id generation with
    | .error e => (m, .error e)
    | .ok () =>
      if lease.expiresAtMs ≤ nowMs then (m.freezeActive.1, .error .leaseExpired)
      else match checkedAdd lease.lastRenewedAtMs renewIntervalMs with
      | none => (m, .error .timestampOverflow)
      | some nextRenewal =>
        if nowMs < nextRenewal then (m, .error .renewedTooSoon)
        else match checkedAdd nowMs leaseDurationMs with
        | none =>
          ({ m with active := some { lease with lastRenewedAtMs := nowMs } },
            .error .timestampOverflow)
        | some expiresAtMs =>
          let renewed := { lease with lastRenewedAtMs := nowMs, expiresAtMs }
          ({ m with active := some renewed }, .ok renewed)

/-- Authorise the next command of the active lease. -/
def authorizeCommand (m : LeaseManager) (id : Bytes16) (generation sequence nowMs : Nat) :
    LeaseManager × Except LeaseError Unit :=
  match m.active with
  | none => (m, .error .leaseNotActive)
  | some lease =>
    match validateActiveRef lease id generation with
    | .error e => (m, .error e)
    | .ok () =>
      if lease.expiresAtMs ≤ nowMs then (m.freezeActive.1, .error .leaseExpired)
      else match checkedAdd lease.lastCommandSequence 1 with
      | none => (m, .error .invalidSequence)
      | some expected =>
        if sequence ≠ expected then (m, .error .invalidSequence)
        else
          ({ m with active := some { lease with lastCommandSequence := sequence } }, .ok ())

/-- End the lease, answering `false` when it is the one ended last. -/
def releaseOrClose (m : LeaseManager) (id : Bytes16) (generation : Nat) :
    LeaseManager × Except LeaseError Bool :=
  match m.active with
  | some lease =>
    match validateActiveRef lease id generation with
    | .error e => (m, .error e)
    | .ok () => (m.freezeActive.1, .ok true)
  | none =>
    if m.lastReleased = some (id, generation) then (m, .ok false)
    else (m, .error .leaseNotActive)

/-- Release a lease. -/
def release (m : LeaseManager) (id : Bytes16) (generation : Nat) :
    LeaseManager × Except LeaseError Bool :=
  m.releaseOrClose id generation

/-- Close a lease. -/
def close (m : LeaseManager) (id : Bytes16) (generation : Nat) :
    LeaseManager × Except LeaseError Bool :=
  m.releaseOrClose id generation

/-- Freeze the active lease when its time is over. -/
def expire (m : LeaseManager) (nowMs : Nat) : LeaseManager × Option Bytes16 :=
  match m.active with
  | none => (m, none)
  | some lease =>
    if lease.expiresAtMs ≤ nowMs then (m.freezeActive.1, some lease.id) else (m, none)

/-- Whether the active lease lets the controller drive input. -/
def inputMayBeEnabled (m : LeaseManager) : Bool :=
  m.active.any (·.mayControlInput)

/-! ## The manager as a machine -/

end LeaseManager

/-- One operation on the manager with its arguments. -/
inductive LeaseOp where
  | connectHost (generation : Nat)
  | disconnectHost
  | acquire (request : AcquireLease) (nowMs : Nat) (nextLeaseId : Except LeaseError Bytes16)
  | renew (id : Bytes16) (generation nowMs : Nat)
  | authorizeCommand (id : Bytes16) (generation sequence nowMs : Nat)
  | release (id : Bytes16) (generation : Nat)
  | close (id : Bytes16) (generation : Nat)
  | expire (nowMs : Nat)

/-- The time an operation is given, if it takes one. -/
def LeaseOp.time : LeaseOp → Option Nat
  | .acquire _ nowMs _ => some nowMs
  | .renew _ _ nowMs => some nowMs
  | .authorizeCommand _ _ _ nowMs => some nowMs
  | .expire nowMs => some nowMs
  | _ => none

/-- What an operation answers. -/
inductive LeaseReply where
  | connected (result : Except LeaseError Unit)
  | disconnected (frozen : Bool)
  | acquired (result : Except LeaseError Lease)
  | renewed (result : Except LeaseError Lease)
  | authorized (result : Except LeaseError Unit)
  | released (result : Except LeaseError Bool)
  | expired (id : Option Bytes16)

/-- The lease an operation granted. -/
def LeaseReply.granted : LeaseReply → Option Lease
  | .acquired (.ok lease) => some lease
  | _ => none

/-- The lease an operation renewed, as it stands after the renewal. -/
def LeaseReply.renewal : LeaseReply → Option Lease
  | .renewed (.ok lease) => some lease
  | _ => none

/-- The operation authorised a command. -/
def LeaseReply.authorizes : LeaseReply → Bool
  | .authorized (.ok _) => true
  | _ => false

/-- The operation ended whatever lease there was: it was released or closed, it
was found expired, the Host disconnected or a new Host generation connected. -/
def LeaseReply.ends : LeaseReply → Bool
  | .connected (.ok _) => true
  | .disconnected _ => true
  | .renewed (.error .leaseExpired) => true
  | .authorized (.error .leaseExpired) => true
  | .released (.ok true) => true
  | .expired (some _) => true
  | _ => false

/-- A reply that grants, renews, authorises and ends nothing. -/
def LeaseReply.Idle (reply : LeaseReply) : Prop :=
  reply.granted = none ∧ reply.renewal = none ∧ reply.authorizes = false ∧
    reply.ends = false

namespace LeaseManager

/-- The lease manager as a machine. -/
def machine : Machine LeaseManager LeaseOp LeaseReply where
  step m op := match op with
    | .connectHost generation =>
      let r := m.connectHost generation
      (r.1, .connected r.2)
    | .disconnectHost =>
      let r := m.disconnectHost
      (r.1, .disconnected r.2)
    | .acquire request nowMs nextLeaseId =>
      let r := m.acquire request nowMs nextLeaseId
      (r.1, .acquired r.2)
    | .renew id generation nowMs =>
      let r := m.renew id generation nowMs
      (r.1, .renewed r.2)
    | .authorizeCommand id generation sequence nowMs =>
      let r := m.authorizeCommand id generation sequence nowMs
      (r.1, .authorized r.2)
    | .release id generation =>
      let r := m.release id generation
      (r.1, .released r.2)
    | .close id generation =>
      let r := m.close id generation
      (r.1, .released r.2)
    | .expire nowMs =>
      let r := m.expire nowMs
      (r.1, .expired r.2)

/-- Everything one operation can do to the Host generation and the active lease. -/
inductive Effect (m : LeaseManager) : LeaseOp → LeaseReply → LeaseManager → Prop
  | idle {op reply} (hreply : reply.Idle) : Effect m op reply m
  | connect {g} (hfree : m.hostGeneration = none) :
      Effect m (.connectHost g) (.connected (.ok ())) { m with hostGeneration := some g }
  | finish {op reply m'} (hends : reply.ends = true) (hgranted : reply.granted = none)
      (hrenewal : reply.renewal = none) (hauthorizes : reply.authorizes = false)
      (hactive : m'.active = none) : Effect m op reply m'
  | grant {request now ids lease} (hfree : m.active = none)
      (hhost : m.hostGeneration = some lease.generation)
      (hrequest : lease.sessionId = request.sessionId ∧
        lease.generation = request.generation ∧
        lease.mayControlInput = request.mayControlInput)
      (hissued : lease.issuedAtMs = now) (hrenewed : lease.lastRenewedAtMs = now)
      (hsequence : lease.lastCommandSequence = 0)
      (hexpires : lease.expiresAtMs = now + leaseDurationMs) :
      Effect m (.acquire request now ids) (.acquired (.ok lease))
        { m with active := some lease, lastReleased := none }
  | renew {now cur} (hactive : m.active = some cur) (hbefore : now < cur.expiresAtMs)
      (hcadence : cur.lastRenewedAtMs + renewIntervalMs ≤ now) :
      Effect m (.renew cur.id cur.generation now)
        (.renewed (.ok { cur with
          lastRenewedAtMs := now, expiresAtMs := now + leaseDurationMs }))
        { m with active := some { cur with
          lastRenewedAtMs := now, expiresAtMs := now + leaseDurationMs } }
  | overflow {now cur} (hactive : m.active = some cur)
      (hcadence : cur.lastRenewedAtMs + renewIntervalMs ≤ now) :
      Effect m (.renew cur.id cur.generation now) (.renewed (.error .timestampOverflow))
        { m with active := some { cur with lastRenewedAtMs := now } }
  | authorize {now cur} (hactive : m.active = some cur)
      (hbefore : now < cur.expiresAtMs) :
      Effect m (.authorizeCommand cur.id cur.generation (cur.lastCommandSequence + 1) now)
        (.authorized (.ok ()))
        { m with active := some { cur with
          lastCommandSequence := cur.lastCommandSequence + 1 } }

theorem validateActiveRef_ok {lease : Lease} {id : Bytes16} {generation : Nat}
    (h : validateActiveRef lease id generation = .ok ()) :
    id = lease.id ∧ generation = lease.generation := by
  unfold validateActiveRef at h
  split at h
  · cases h
  · next hg =>
    split at h
    · cases h
    · next hid => exact ⟨not_not.mp hid, not_not.mp hg⟩

/-- A failed reference check never reports an expired lease. -/
theorem validateActiveRef_error {lease : Lease} {id : Bytes16} {generation : Nat}
    {e : LeaseError} (h : validateActiveRef lease id generation = .error e) :
    e ≠ .leaseExpired := by
  unfold validateActiveRef at h
  split at h
  · cases h; decide
  · split at h
    · cases h; decide
    · cases h

variable (m : LeaseManager)

@[simp]
theorem freezeActive_active : m.freezeActive.1.active = none := by
  unfold freezeActive
  split
  · next h => exact h
  · rfl

theorem connectHost_effect (g : Nat) :
    Effect m (.connectHost g) (.connected (m.connectHost g).2) (m.connectHost g).1 := by
  unfold connectHost
  split
  · exact .idle ⟨rfl, rfl, rfl, rfl⟩
  · next h =>
    split
    · exact .idle ⟨rfl, rfl, rfl, rfl⟩
    · exact .connect (by simpa using h)

theorem acquire_effect (request : AcquireLease) (now : Nat) (ids : Except LeaseError Bytes16) :
    Effect m (.acquire request now ids) (.acquired (m.acquire request now ids).2)
      (m.acquire request now ids).1 := by
  unfold acquire
  split
  · exact .idle ⟨rfl, rfl, rfl, rfl⟩
  · next hostGeneration hhost =>
    split
    · exact .idle ⟨rfl, rfl, rfl, rfl⟩
    · next hactive =>
      split
      · exact .idle ⟨rfl, rfl, rfl, rfl⟩
      · next hgen =>
        split
        · exact .idle ⟨rfl, rfl, rfl, rfl⟩
        · split
          · exact .idle ⟨rfl, rfl, rfl, rfl⟩
          · split
            · exact .idle ⟨rfl, rfl, rfl, rfl⟩
            · split
              · exact .idle ⟨rfl, rfl, rfl, rfl⟩
              · next hsum =>
                have hexp := (checkedAdd_eq_some.mp hsum).2
                refine .grant (by simpa using hactive) ?_ ⟨rfl, rfl, rfl⟩ rfl rfl rfl hexp
                rw [hhost, not_not.mp hgen]

/-- When a lease is granted, and which. -/
theorem acquire_eq_ok {m : LeaseManager} {request : AcquireLease} {now : Nat}
    {ids : Except LeaseError Bytes16} {lease : Lease} :
    (m.acquire request now ids).2 = .ok lease ↔
      m.hostGeneration = some request.generation ∧ m.active = none ∧
      validateControllerName request.controllerDisplayName = .ok () ∧
      ∃ id, ids = .ok id ∧ id ≠ zeroBytes16 ∧ now + leaseDurationMs ≤ u64Max ∧
        lease = {
          id
          sessionId := request.sessionId
          generation := request.generation
          issuedAtMs := now
          expiresAtMs := now + leaseDurationMs
          lastRenewedAtMs := now
          lastCommandSequence := 0
          controllerDisplayName := request.controllerDisplayName
          mayControlInput := request.mayControlInput } := by
  constructor
  · intro h
    unfold acquire at h
    split at h
    · cases h
    · next hostGeneration hhost =>
      split_ifs at h with hactive hgeneration
      split at h
      · cases h
      · next hname =>
        split at h
        · cases h
        · next id =>
          split_ifs at h with hzero
          split at h
          · cases h
          · next expiresAtMs hsum =>
            obtain ⟨hmax, rfl⟩ := checkedAdd_eq_some.mp hsum
            cases h
            refine ⟨?_, by simpa using hactive, hname, id, rfl, hzero, hmax, rfl⟩
            rw [hhost, not_not.mp hgeneration]
  · rintro ⟨hhost, hactive, hname, id, rfl, hzero, hmax, rfl⟩
    have hsum : checkedAdd now leaseDurationMs = some (now + leaseDurationMs) :=
      checkedAdd_eq_some.mpr ⟨hmax, rfl⟩
    simp [acquire, hhost, hactive, hname, hzero, hsum]

theorem renew_effect (id : Bytes16) (generation now : Nat) :
    Effect m (.renew id generation now) (.renewed (m.renew id generation now).2)
      (m.renew id generation now).1 := by
  unfold renew
  split
  · exact .idle ⟨rfl, rfl, rfl, rfl⟩
  · next cur hactive =>
    split
    · next e href =>
      have hne := validateActiveRef_error href
      cases e <;> first | exact .idle ⟨rfl, rfl, rfl, rfl⟩ | exact absurd rfl hne
    · next href =>
      obtain ⟨rfl, rfl⟩ := validateActiveRef_ok href
      split
      · exact .finish rfl rfl rfl rfl (freezeActive_active m)
      · next hlive =>
        split
        · exact .idle ⟨rfl, rfl, rfl, rfl⟩
        · next hnext =>
          have hcadence := (checkedAdd_eq_some.mp hnext).2
          split
          · exact .idle ⟨rfl, rfl, rfl, rfl⟩
          · next hlate =>
            have hlate : cur.lastRenewedAtMs + renewIntervalMs ≤ now := by omega
            split
            · exact .overflow hactive hlate
            · next hsum =>
              obtain ⟨-, rfl⟩ := checkedAdd_eq_some.mp hsum
              exact .renew hactive (by omega) hlate

theorem authorizeCommand_effect (id : Bytes16) (generation sequence now : Nat) :
    Effect m (.authorizeCommand id generation sequence now)
      (.authorized (m.authorizeCommand id generation sequence now).2)
      (m.authorizeCommand id generation sequence now).1 := by
  unfold authorizeCommand
  split
  · exact .idle ⟨rfl, rfl, rfl, rfl⟩
  · next cur hactive =>
    split
    · next e href =>
      have hne := validateActiveRef_error href
      cases e <;> first | exact .idle ⟨rfl, rfl, rfl, rfl⟩ | exact absurd rfl hne
    · next href =>
      obtain ⟨rfl, rfl⟩ := validateActiveRef_ok href
      split
      · exact .finish rfl rfl rfl rfl (freezeActive_active m)
      · next hlive =>
        split
        · exact .idle ⟨rfl, rfl, rfl, rfl⟩
        · next hnext =>
          obtain ⟨-, rfl⟩ := checkedAdd_eq_some.mp hnext
          split
          · exact .idle ⟨rfl, rfl, rfl, rfl⟩
          · next hseq =>
            rw [not_not.mp hseq]
            exact .authorize hactive (by omega)

theorem releaseOrClose_effect (op : LeaseOp) (id : Bytes16) (generation : Nat) :
    Effect m op (.released (m.releaseOrClose id generation).2)
      (m.releaseOrClose id generation).1 := by
  unfold releaseOrClose
  split
  · split
    · exact .idle ⟨rfl, rfl, rfl, rfl⟩
    · exact .finish rfl rfl rfl rfl (freezeActive_active m)
  · split
    · exact .idle ⟨rfl, rfl, rfl, rfl⟩
    · exact .idle ⟨rfl, rfl, rfl, rfl⟩

theorem expire_effect (now : Nat) :
    Effect m (.expire now) (.expired (m.expire now).2) (m.expire now).1 := by
  unfold expire
  split
  · exact .idle ⟨rfl, rfl, rfl, rfl⟩
  · split
    · exact .finish rfl rfl rfl rfl (freezeActive_active m)
    · exact .idle ⟨rfl, rfl, rfl, rfl⟩

/-- Every step of the manager has one of the listed effects. -/
theorem step_effect (op : LeaseOp) :
    Effect m op (machine.step m op).2 (machine.step m op).1 := by
  cases op with
  | connectHost g => exact connectHost_effect m g
  | disconnectHost => exact .finish rfl rfl rfl rfl (freezeActive_active _)
  | acquire request now ids => exact acquire_effect m request now ids
  | renew id generation now => exact renew_effect m id generation now
  | authorizeCommand id generation sequence now =>
    exact authorizeCommand_effect m id generation sequence now
  | release id generation => exact releaseOrClose_effect m _ id generation
  | close id generation => exact releaseOrClose_effect m _ id generation
  | expire now => exact expire_effect m now

/-! ## What holds over a run -/

/-- A lease is only active for the connected Host generation. -/
def WellFormed (m : LeaseManager) : Prop :=
  ∀ lease, m.active = some lease → m.hostGeneration = some lease.generation

variable (brokerInstanceId : Bytes16)

theorem new_wellFormed : (new brokerInstanceId).WellFormed := by
  intro lease h
  cases h

/-- Every operation keeps the active lease tied to the connected Host. -/
theorem Effect.wellFormed {m m' : LeaseManager} {op : LeaseOp} {reply : LeaseReply}
    (heffect : Effect m op reply m') (h : m.WellFormed) : m'.WellFormed := by
  intro lease hlease
  cases heffect with
  | idle => exact h lease hlease
  | connect hfree =>
    have := h lease hlease
    rw [hfree] at this
    cases this
  | finish _ _ _ _ hactive => rw [hactive] at hlease; cases hlease
  | grant _ hhost => cases hlease; exact hhost
  | renew hactive =>
    have hhost := h _ hactive
    cases hlease
    exact hhost
  | overflow hactive =>
    have hhost := h _ hactive
    cases hlease
    exact hhost
  | authorize hactive =>
    have hhost := h _ hactive
    cases hlease
    exact hhost

theorem run_wellFormed (ops : List LeaseOp) :
    (machine.run (new brokerInstanceId) ops).WellFormed :=
  run_invariant WellFormed (G := fun _ _ => True) (fun m op h _ => (step_effect m op).wellFormed h)
    (new_wellFormed brokerInstanceId) (guarded_true _ _)

end LeaseManager

/-- One step of the manager in a run. -/
abbrev LeaseEvent := Occurrence LeaseManager LeaseOp LeaseReply

/-- The granted lease `lease` as its last accepted renewal in `events` left it. -/
def latestLease (lease : Lease) (events : List LeaseEvent) : Lease :=
  (events.filterMap (·.output.renewal)).getLast?.getD lease

variable (events : List LeaseEvent)

/-- How many commands were authorised in `events`. -/
def commandCount : Nat :=
  events.countP (·.output.authorizes)

theorem latestLease_snoc (lease : Lease) (events : List LeaseEvent) (e : LeaseEvent) :
    latestLease lease (events ++ [e]) =
      e.output.renewal.getD (latestLease lease events) := by
  unfold latestLease
  cases h : e.output.renewal with
  | none => simp [h]
  | some renewed => simp [h]

theorem commandCount_snoc (e : LeaseEvent) :
    commandCount (events ++ [e]) =
      commandCount events + if e.output.authorizes then 1 else 0 := by
  simp [commandCount, List.countP_append, List.countP_cons]

/-- The recorded lease `cur` is the granted `lease` after `events`: same identity,
one sequence number for each authorised command, the expiry of the last renewal. -/
structure Tracks (lease : Lease) (events : List LeaseEvent) (cur : Lease) : Prop where
  id : cur.id = lease.id
  sessionId : cur.sessionId = lease.sessionId
  generation : cur.generation = lease.generation
  mayControlInput : cur.mayControlInput = lease.mayControlInput
  sequence : cur.lastCommandSequence = commandCount events
  expires : cur.expiresAtMs = (latestLease lease events).expiresAtMs
  renewed : (latestLease lease events).lastRenewedAtMs ≤ cur.lastRenewedAtMs

/-- After `events` the manager holds the granted lease exactly when none of them
ended it. -/
structure InForce (lease : Lease) (events : List LeaseEvent) (m : LeaseManager) : Prop where
  wellFormed : m.WellFormed
  ended : (∃ e ∈ events, e.output.ends = true) → m.active = none
  held : (∀ e ∈ events, e.output.ends = false) →
    ∃ cur, m.active = some cur ∧ Tracks lease events cur

/-- Events that change no count and no renewal keep what is tracked. -/
theorem Tracks.snoc_quiet {lease cur : Lease} {events : List LeaseEvent} {e : LeaseEvent}
    (h : Tracks lease events cur) (hrenewal : e.output.renewal = none)
    (hauthorizes : e.output.authorizes = false) : Tracks lease (events ++ [e]) cur where
  id := h.id
  sessionId := h.sessionId
  generation := h.generation
  mayControlInput := h.mayControlInput
  sequence := by rw [commandCount_snoc, hauthorizes]; simpa using h.sequence
  expires := by rw [latestLease_snoc, hrenewal]; exact h.expires
  renewed := by rw [latestLease_snoc, hrenewal]; exact h.renewed

variable {m m' : LeaseManager} {lease : Lease} {op : LeaseOp} {reply : LeaseReply}

/-- Without a grant, a manager that holds no lease gets none. -/
theorem LeaseManager.Effect.active_eq_none
    (heffect : Effect m op reply m') (hgranted : reply.granted = none)
    (hfree : m.active = none) : m'.active = none := by
  cases heffect with
  | idle => exact hfree
  | connect => exact hfree
  | finish _ _ _ _ hactive => exact hactive
  | grant => cases hgranted
  | renew hactive => rw [hfree] at hactive; cases hactive
  | overflow hactive => rw [hfree] at hactive; cases hactive
  | authorize hactive => rw [hfree] at hactive; cases hactive

/-- After an operation that ends the lease none is held. -/
theorem LeaseManager.Effect.active_eq_none_of_ends
    (heffect : Effect m op reply m') (hwf : m.WellFormed)
    (hends : reply.ends = true) : m'.active = none := by
  cases heffect with
  | idle hreply => rw [hreply.2.2.2] at hends; cases hends
  | connect hfree =>
    refine Option.eq_none_iff_forall_ne_some.mpr fun cur hactive => ?_
    have hhost := hwf cur hactive
    rw [hfree] at hhost
    cases hhost
  | finish _ _ _ _ hactive => exact hactive
  | grant => cases hends
  | renew => cases hends
  | overflow => cases hends
  | authorize => cases hends

/-- An operation that neither grants nor ends keeps the lease tracked. -/
theorem LeaseManager.Effect.tracks {e : LeaseEvent}
    {reply : LeaseReply} (heffect : Effect m op reply m') (hout : e.output = reply)
    (hgranted : reply.granted = none) (hends : reply.ends = false)
    {lease cur : Lease} {events : List LeaseEvent} (hcur : m.active = some cur)
    (h : Tracks lease events cur) :
    ∃ cur', m'.active = some cur' ∧ Tracks lease (events ++ [e]) cur' := by
  cases heffect with
  | idle hreply =>
    exact ⟨cur, hcur, h.snoc_quiet (by rw [hout, hreply.2.1]) (by rw [hout, hreply.2.2.1])⟩
  | connect => cases hends
  | finish hfinish => rw [hfinish] at hends; cases hends
  | grant => cases hgranted
  | @renew now _ hactive _ hcadence =>
    obtain rfl : _ = cur := Option.some.inj (hactive.symm.trans hcur)
    have hlatest := latestLease_snoc lease events e
    have hcount := commandCount_snoc events e
    rw [hout] at hlatest hcount
    refine ⟨_, rfl, h.id, h.sessionId, h.generation, h.mayControlInput, ?_, ?_, ?_⟩
    · rw [hcount]; exact h.sequence
    · rw [hlatest]; rfl
    · rw [hlatest]; exact le_rfl
  | @overflow now _ hactive hcadence =>
    obtain rfl : _ = cur := Option.some.inj (hactive.symm.trans hcur)
    have hquiet := h.snoc_quiet (e := e) (by rw [hout]; rfl) (by rw [hout]; rfl)
    refine ⟨_, rfl, h.id, h.sessionId, h.generation, h.mayControlInput,
      hquiet.sequence, hquiet.expires, ?_⟩
    calc (latestLease lease (events ++ [e])).lastRenewedAtMs ≤ _ := hquiet.renewed
      _ ≤ now := by omega
  | @authorize now _ hactive =>
    obtain rfl : _ = cur := Option.some.inj (hactive.symm.trans hcur)
    have hlatest := latestLease_snoc lease events e
    have hcount := commandCount_snoc events e
    rw [hout] at hlatest hcount
    refine ⟨_, rfl, h.id, h.sessionId, h.generation, h.mayControlInput, ?_, ?_, ?_⟩
    · rw [hcount, ← h.sequence]; rfl
    · rw [hlatest]; exact h.expires
    · rw [hlatest]; exact h.renewed

variable (brokerInstanceId : Bytes16) {events : List LeaseEvent}

/-- One operation that grants no new lease keeps the manager and the history in
step. -/
theorem InForce.snoc {m : LeaseManager} (h : InForce lease events m) (op : LeaseOp)
    (hgranted : (LeaseManager.machine.step m op).2.granted = none) :
    InForce lease (events ++ [LeaseManager.machine.occurrence m op])
      (LeaseManager.machine.step m op).1 := by
  have heffect := LeaseManager.step_effect m op
  obtain ⟨hwf, hended, hheld⟩ := h
  refine ⟨heffect.wellFormed hwf, ?_, ?_⟩
  · rintro ⟨e, he, hends⟩
    rw [List.mem_append, List.mem_singleton] at he
    rcases he with he | rfl
    · exact heffect.active_eq_none hgranted (hended ⟨e, he, hends⟩)
    · exact heffect.active_eq_none_of_ends hwf hends
  · intro hnone
    obtain ⟨cur, hcur, htracks⟩ := hheld fun e he => hnone e (List.mem_append_left _ he)
    exact heffect.tracks rfl hgranted
      (hnone (LeaseManager.machine.occurrence m op) (by simp)) hcur htracks

/-- A granted lease is in force when it is granted. -/
theorem inForce_of_granted {m : LeaseManager} {op : LeaseOp} {lease : Lease}
    (hwf : m.WellFormed) (h : (LeaseManager.machine.step m op).2.granted = some lease) :
    InForce lease [] (LeaseManager.machine.step m op).1 := by
  have heffect := LeaseManager.step_effect m op
  refine ⟨heffect.wellFormed hwf, by simp, fun _ => ?_⟩
  generalize (LeaseManager.machine.step m op).2 = reply at *
  generalize (LeaseManager.machine.step m op).1 = m' at *
  cases heffect with
  | idle hreply => rw [hreply.1] at h; cases h
  | connect => cases h
  | finish _ hgranted => rw [hgranted] at h; cases h
  | grant _ _ _ _ _ hsequence =>
    cases h
    exact ⟨lease, rfl, rfl, rfl, rfl, rfl, hsequence, rfl, le_rfl⟩
  | renew => cases h
  | overflow => cases h
  | authorize => cases h

/-! ## The discipline of one lease -/

/-- No operation of `events` was given a time at or past the expiry that `lease` had
then. -/
def NotLapsed (lease : Lease) (events : List LeaseEvent) : Prop :=
  ∀ past x rest t, events = past ++ x :: rest → x.input.time = some t →
    t < (latestLease lease past).expiresAtMs

/-- What the next operation `e` can do after `lease` was granted and `events`
happened, none of which granted another lease. -/
structure LeaseDiscipline (lease : Lease) (events : List LeaseEvent) (e : LeaseEvent) :
    Prop where
  /-- A second lease is only granted after this one has ended. -/
  single : ∀ next, e.output.granted = some next → ∃ x ∈ events, x.output.ends = true
  /-- The lease that is active, if any, is this one, and it has not ended. -/
  active : ∀ cur, e.before.active = some cur →
    Tracks lease events cur ∧ e.before.hostGeneration = some lease.generation ∧
      ∀ x ∈ events, x.output.ends = false
  /-- A command carries the lease's reference and the next sequence number. -/
  command : e.output.authorizes = true → ∃ now cur,
    e.input = .authorizeCommand lease.id lease.generation (commandCount events + 1) now ∧
      now < (latestLease lease events).expiresAtMs ∧ NotLapsed lease events ∧
      e.before.active = some cur
  /-- A renewal comes before the expiry and a full interval after the last one. -/
  renewal : ∀ renewed, e.output.renewal = some renewed → ∃ now cur,
    e.input = .renew lease.id lease.generation now ∧
      now < (latestLease lease events).expiresAtMs ∧ NotLapsed lease events ∧
      (latestLease lease events).lastRenewedAtMs + renewIntervalMs ≤ now ∧
      e.before.active = some cur ∧ renewed.lastRenewedAtMs = now ∧
      renewed.expiresAtMs = now + leaseDurationMs ∧ renewed.id = lease.id

/-- A step that authorises does so under the active lease. -/
theorem LeaseManager.Effect.of_authorizes
    (heffect : Effect m op reply m') (h : reply.authorizes = true) :
    ∃ now cur, m.active = some cur ∧ now < cur.expiresAtMs ∧
      op = .authorizeCommand cur.id cur.generation (cur.lastCommandSequence + 1) now := by
  cases heffect with
  | idle hreply => rw [hreply.2.2.1] at h; cases h
  | connect => cases h
  | finish _ _ _ hauthorizes => rw [hauthorizes] at h; cases h
  | grant => cases h
  | renew => cases h
  | overflow => cases h
  | authorize hactive hbefore => exact ⟨_, _, hactive, hbefore, rfl⟩

/-- A step that renews does so under the active lease. -/
theorem LeaseManager.Effect.of_renewal {renewed : Lease} (heffect : Effect m op reply m')
    (h : reply.renewal = some renewed) :
    ∃ now cur, m.active = some cur ∧ now < cur.expiresAtMs ∧
      cur.lastRenewedAtMs + renewIntervalMs ≤ now ∧
      op = .renew cur.id cur.generation now ∧ renewed.lastRenewedAtMs = now ∧
      renewed.expiresAtMs = now + leaseDurationMs ∧ renewed.id = cur.id := by
  cases heffect with
  | idle hreply => rw [hreply.2.1] at h; cases h
  | connect => cases h
  | finish _ _ hrenewal => rw [hrenewal] at h; cases h
  | grant => cases h
  | renew hactive hbefore hcadence =>
    cases h
    exact ⟨_, _, hactive, hbefore, hcadence, rfl, rfl, rfl, rfl⟩
  | overflow => cases h
  | authorize => cases h

/-- A step that grants does so on a free manager, with the data of the request. -/
theorem LeaseManager.Effect.of_granted {lease : Lease} (heffect : Effect m op reply m')
    (h : reply.granted = some lease) :
    m.active = none ∧ m.hostGeneration = some lease.generation ∧ ∃ request now ids,
      op = .acquire request now ids ∧ lease.sessionId = request.sessionId ∧
      lease.generation = request.generation ∧
      lease.mayControlInput = request.mayControlInput ∧
      lease.lastRenewedAtMs = now ∧ lease.expiresAtMs = now + leaseDurationMs := by
  cases heffect with
  | idle hreply => rw [hreply.1] at h; cases h
  | connect => cases h
  | finish _ hgranted => rw [hgranted] at h; cases h
  | grant hfree hhost hrequest _ hrenewed _ hexpires =>
    cases h
    exact ⟨hfree, hhost, _, _, _, rfl, hrequest.1, hrequest.2.1, hrequest.2.2, hrenewed, hexpires⟩
  | renew => cases h
  | overflow => cases h
  | authorize => cases h

/-- An active lease is the in-force one. -/
theorem InForce.of_active {lease cur : Lease} {events : List LeaseEvent} {m : LeaseManager}
    (h : InForce lease events m) (hcur : m.active = some cur) :
    Tracks lease events cur ∧ m.hostGeneration = some lease.generation ∧
      ∀ x ∈ events, x.output.ends = false := by
  have hlive : ∀ x ∈ events, x.output.ends = false := by
    intro x hx
    by_contra hends
    have hnone := h.ended ⟨x, hx, by simpa using hends⟩
    rw [hnone] at hcur
    cases hcur
  obtain ⟨cur', hcur', htracks⟩ := h.held hlive
  obtain rfl : cur' = cur := Option.some.inj (hcur'.symm.trans hcur)
  exact ⟨htracks, by rw [h.wellFormed _ hcur, htracks.generation], hlive⟩

/-- Along every run without a further grant the granted lease stays tracked. -/
theorem InForce.of_trace {m : LeaseManager} (h : InForce lease [] m) (ops : List LeaseOp)
    (hgrants : ∀ x ∈ LeaseManager.machine.trace m ops, x.output.granted = none) :
    InForce lease (LeaseManager.machine.trace m ops) (LeaseManager.machine.run m ops) := by
  have hhistory := history_invariant (M := LeaseManager.machine) (G := fun _ _ => True)
    (fun past s => (∀ x ∈ past, x.output.granted = none) → InForce lease past s)
    (fun past s op ih _ hpast =>
      (ih fun x hx => hpast x (List.mem_append_left _ hx)).snoc op
        (hpast (LeaseManager.machine.occurrence s op) (by simp)))
    [] (fun _ => h) (guarded_true m ops)
  exact hhistory hgrants

/-- Once a time at or past the expiry has been seen, the lease is not renewed any
more. -/
theorem latestLease_of_lapsed {past rest : List LeaseEvent} {t : Nat}
    (hlapsed : (latestLease lease past).expiresAtMs ≤ t)
    (htimes : ∀ y ∈ rest, ∀ t', y.input.time = some t' → t ≤ t')
    (hrenewals : ∀ p y r, rest = p ++ y :: r → y.output.renewal ≠ none →
      ∃ t', y.input.time = some t' ∧ t' < (latestLease lease (past ++ p)).expiresAtMs) :
    latestLease lease (past ++ rest) = latestLease lease past := by
  induction rest using List.reverseRecOn with
  | nil => simp
  | append_singleton rest y ih =>
    have hpast : latestLease lease (past ++ rest) = latestLease lease past := by
      refine ih (fun z hz => htimes z (List.mem_append_left _ hz)) fun p z r hr => ?_
      exact hrenewals p z (r ++ [y]) (by simp [hr])
    rw [← List.append_assoc, latestLease_snoc]
    cases hy : y.output.renewal with
    | none => simpa using hpast
    | some renewed =>
      obtain ⟨t', ht', hlt⟩ := hrenewals rest y [] (by simp) (by simp [hy])
      have hle := htimes y (by simp) t' ht'
      rw [hpast] at hlt
      omega

/-- A lease that can still be used at the last time of a run was never seen lapsed
before. -/
theorem notLapsed_of_lt {now : Nat} (hlt : now < (latestLease lease events).expiresAtMs)
    (hmono : (events.filterMap (·.input.time)).Pairwise (· ≤ ·))
    (hlast : ∀ y ∈ events, ∀ t, y.input.time = some t → t ≤ now)
    (hrenewals : ∀ p y r, events = p ++ y :: r → y.output.renewal ≠ none →
      ∃ t, y.input.time = some t ∧ t < (latestLease lease p).expiresAtMs) :
    NotLapsed lease events := by
  intro past x rest t hsplit ht
  by_contra hge
  have hx : x.input.time = some t := ht
  have hstuck : latestLease lease (past ++ x :: rest) = latestLease lease past := by
    refine latestLease_of_lapsed (t := t) (by omega) ?_ ?_
    · intro y hy t' ht'
      rw [hsplit, List.filterMap_append, List.pairwise_append] at hmono
      have hcons := hmono.2.1
      rw [List.filterMap_cons, hx, List.pairwise_cons] at hcons
      rcases List.mem_cons.mp hy with rfl | hy
      · rw [hx] at ht'; cases ht'; exact le_rfl
      · exact hcons.1 t' (List.mem_filterMap.mpr ⟨y, hy, ht'⟩)
    · intro p y r hr hy
      exact hrenewals (past ++ p) y r (by rw [hsplit, hr, List.append_assoc]) hy
  have hbound := hlast x (by rw [hsplit]; simp) t hx
  rw [hsplit, hstuck] at hlt
  omega

/-- The operation after a grant and a run without further grants obeys the
discipline. -/
theorem InForce.discipline {m : LeaseManager} (h : InForce lease [] m)
    {ops : List LeaseOp} {op : LeaseOp}
    (hgrants : ∀ x ∈ LeaseManager.machine.trace m ops, x.output.granted = none)
    (hmono : ((ops ++ [op]).filterMap LeaseOp.time).Pairwise (· ≤ ·)) :
    LeaseDiscipline lease (LeaseManager.machine.trace m ops)
      (LeaseManager.machine.occurrence (LeaseManager.machine.run m ops) op) := by
  set events := LeaseManager.machine.trace m ops with hevents
  have hforce := h.of_trace ops hgrants
  have heffect := LeaseManager.step_effect (LeaseManager.machine.run m ops) op
  have htimes : events.filterMap (·.input.time) = ops.filterMap LeaseOp.time := by
    rw [← trace_map_input (M := LeaseManager.machine) m ops, List.filterMap_map]
    rfl
  rw [List.filterMap_append, List.pairwise_append, ← htimes] at hmono
  have hlapse : ∀ now, op.time = some now →
      now < (latestLease lease events).expiresAtMs → NotLapsed lease events := by
    intro now hnow hlt
    refine notLapsed_of_lt hlt hmono.1 ?_ ?_
    · intro y hy t ht
      exact hmono.2.2 t (List.mem_filterMap.mpr ⟨y, hy, ht⟩) now (by simp [hnow])
    · intro p y r hsplit hy
      obtain ⟨ops₁, op₁, ops₂, rfl, rfl, rfl, -⟩ := trace_split hsplit
      obtain ⟨renewed, hrenewed⟩ := Option.ne_none_iff_exists'.mp hy
      have hbefore := h.of_trace ops₁ fun x hx => hgrants x (by
        rw [hsplit]; exact List.mem_append_left _ hx)
      obtain ⟨t, cur, hcur, hlt, -, hop, -⟩ :=
        (LeaseManager.step_effect _ op₁).of_renewal hrenewed
      refine ⟨t, by simp [hop, LeaseOp.time], ?_⟩
      rw [← (hbefore.of_active hcur).1.expires]
      exact hlt
  refine ⟨?_, fun cur hcur => hforce.of_active hcur, ?_, ?_⟩
  · intro next hnext
    have hfree := (heffect.of_granted hnext).1
    by_contra hnone
    push Not at hnone
    obtain ⟨cur, hcur, -⟩ := hforce.held fun x hx => by simpa using hnone x hx
    rw [hfree] at hcur
    cases hcur
  · intro hauth
    obtain ⟨now, cur, hcur, hlt, hop⟩ := heffect.of_authorizes hauth
    have htracks := (hforce.of_active hcur).1
    rw [htracks.id, htracks.generation, htracks.sequence] at hop
    rw [htracks.expires] at hlt
    exact ⟨now, cur, hop, hlt, hlapse now (by rw [hop]; rfl) hlt, hcur⟩
  · intro renewed hrenewed
    obtain ⟨now, cur, hcur, hlt, hcadence, hop, hat, hexp, hid⟩ :=
      heffect.of_renewal hrenewed
    have htracks := (hforce.of_active hcur).1
    rw [htracks.id, htracks.generation] at hop
    rw [htracks.expires] at hlt
    exact ⟨now, cur, hop, hlt, hlapse now (by rw [hop]; rfl) hlt,
      le_trans (Nat.add_le_add_right htracks.renewed _) hcadence, hcur, hat, hexp,
      hid.trans htracks.id⟩

variable (ops : List LeaseOp)

/-- Whatever lease is active was granted before, and no other since. -/
theorem active_of_granted {cur : Lease}
    (hcur : (LeaseManager.machine.run (.new brokerInstanceId) ops).active = some cur) :
    ∃ before a events lease,
      LeaseManager.machine.trace (.new brokerInstanceId) ops = before ++ a :: events ∧
      a.output.granted = some lease ∧ ∀ x ∈ events, x.output.granted = none := by
  have hhistory := history_invariant (M := LeaseManager.machine) (G := fun _ _ => True)
    (fun past s => s.active ≠ none → ∃ before a events lease, past = before ++ a :: events ∧
      a.output.granted = some lease ∧ ∀ x ∈ events, x.output.granted = none)
    ?_ [] (s := .new brokerInstanceId) (by simp [LeaseManager.new])
    (guarded_true _ ops)
  · exact hhistory (by simp [hcur])
  · intro past s op ih _ hactive
    cases hgranted : (LeaseManager.machine.step s op).2.granted with
    | some lease => exact ⟨past, _, [], lease, rfl, hgranted, by simp⟩
    | none =>
      have hbefore : s.active ≠ none := fun hfree =>
        hactive ((LeaseManager.step_effect s op).active_eq_none hgranted hfree)
      obtain ⟨before, a, events, lease, rfl, ha, hevents⟩ := ih hbefore
      refine ⟨before, a, events ++ [LeaseManager.machine.occurrence s op], lease, by simp, ha, ?_⟩
      intro x hx
      rcases List.mem_append.mp hx with hx | hx
      · exact hevents x hx
      · rw [List.mem_singleton.mp hx]; exact hgranted

/-- Over every run with nondecreasing times, every authorised command and every
renewal belongs to one granted lease, and each operation under a granted lease obeys
its discipline. -/
theorem lease_discipline (hmono : (ops.filterMap LeaseOp.time).Pairwise (· ≤ ·)) :
    (∀ before e after,
      LeaseManager.machine.trace (.new brokerInstanceId) ops = before ++ e :: after →
      (e.output.authorizes = true ∨ e.output.renewal ≠ none) →
      ∃ earlier a events lease, before = earlier ++ a :: events ∧
        a.output.granted = some lease ∧ ∀ x ∈ events, x.output.granted = none) ∧
    (∀ before a events e after lease,
      LeaseManager.machine.trace (.new brokerInstanceId) ops =
        before ++ a :: (events ++ e :: after) →
      a.output.granted = some lease → (∀ x ∈ events, x.output.granted = none) →
      (∃ request now ids, a.input = .acquire request now ids ∧
        lease.sessionId = request.sessionId ∧ lease.generation = request.generation ∧
        lease.mayControlInput = request.mayControlInput ∧
        lease.lastRenewedAtMs = now ∧ lease.expiresAtMs = now + leaseDurationMs) ∧
      LeaseDiscipline lease events e) := by
  constructor
  · intro before e after hsplit huse
    obtain ⟨ops₁, op, ops₂, rfl, rfl, rfl, -⟩ := trace_split hsplit
    have heffect := LeaseManager.step_effect
      (LeaseManager.machine.run (.new brokerInstanceId) ops₁) op
    have hactive : ∃ cur,
        (LeaseManager.machine.run (.new brokerInstanceId) ops₁).active = some cur := by
      rcases huse with hauth | hrenew
      · obtain ⟨now, cur, hcur, -⟩ := heffect.of_authorizes hauth
        exact ⟨cur, hcur⟩
      · obtain ⟨renewed, hrenewed⟩ := Option.ne_none_iff_exists'.mp hrenew
        obtain ⟨now, cur, hcur, -⟩ := heffect.of_renewal hrenewed
        exact ⟨cur, hcur⟩
    obtain ⟨cur, hcur⟩ := hactive
    exact active_of_granted brokerInstanceId ops₁ hcur
  · intro before a events e after lease hsplit ha hgrants
    obtain ⟨ops₁, op, rest, rfl, rfl, rfl, hrest⟩ := trace_split hsplit
    obtain ⟨ops₂, op', ops₃, rfl, rfl, rfl, -⟩ := trace_split hrest.symm
    have hwf := LeaseManager.run_wellFormed brokerInstanceId ops₁
    refine ⟨((LeaseManager.step_effect _ op).of_granted ha).2.2, ?_⟩
    refine (inForce_of_granted hwf ha).discipline hgrants ?_
    refine hmono.sublist (List.Sublist.filterMap _ ?_)
    simp

/-- A Host connects, acquires a lease, sends two commands and renews in between. -/
def sampleLeaseOps : List LeaseOp :=
  let id : Bytes16 := Vector.replicate 16 7
  let request : AcquireLease :=
    { sessionId := Vector.replicate 16 9, generation := 3
      controllerDisplayName := "phone", mayControlInput := true }
  [.connectHost 3, .acquire request 1000 (.ok id), .authorizeCommand id 3 1 1500,
    .renew id 3 6000, .authorizeCommand id 3 2 20999]

theorem lease_discipline_sample :
    (sampleLeaseOps.filterMap LeaseOp.time).Pairwise (· ≤ ·) ∧
    ∃ before a events e after lease,
      LeaseManager.machine.trace (.new zeroBytes16) sampleLeaseOps =
        before ++ a :: (events ++ e :: after) ∧
      a.output.granted = some lease ∧ (∀ x ∈ events, x.output.granted = none) ∧
      e.output.authorizes = true ∧ commandCount events = 1 ∧
      (latestLease lease events).expiresAtMs = 21000 ∧ LeaseDiscipline lease events e := by
  have hmono : (sampleLeaseOps.filterMap LeaseOp.time).Pairwise (· ≤ ·) := by decide
  have hgrants : ∀ x ∈ ((LeaseManager.machine.trace (.new zeroBytes16)
      sampleLeaseOps).drop 2).take 2, x.output.granted = none := by
    intro x hx
    rcases List.mem_pair.mp hx with rfl | rfl <;> rfl
  refine ⟨hmono, [_], _, [_, _], _, [], _, rfl, rfl, hgrants, rfl, rfl, rfl, ?_⟩
  exact ((lease_discipline zeroBytes16 sampleLeaseOps hmono).2 [_] _ [_, _] _ [] _ rfl rfl
    hgrants).2

end Bridge

end Roammand
