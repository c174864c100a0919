import Roammand.Host.PairingEffects

/-!
# The published snapshot of pairing

The user decides on what the coordinator publishes, so the snapshot has to be the view
of the attempt under way: its state is that of the phase, a controller is shown only
while the user is asked about it, and the time shown is that of the invitation.  Each
operation moves the attempt, the snapshot and the revision separately, and some of them
do so on the way to an error.

The source reads the attempt again after it has checked it and would panic if it were
gone.  `Checked` follows these reads, so that a panic is an outcome of the model.

Main results:

- Definition `HostPairingCoordinator.Consistent`: the snapshot is the view of the
  attempt.
- Theorem `PairingHost.step_publishes`: every action keeps it, and the revision counts
  every change of the snapshot.
- Theorem `PairingHost.checkedStep_eq`: in a consistent state no action panics.
- Theorem `PairingHost.pairing_snapshot_invariant`: the snapshot over whole runs.
-/

namespace Roammand

namespace Host

open Library Protocol Fallible SampleExchange

/-! ## The view of an attempt -/

/-- The published state of a phase. -/
def ActivePhase.published : ActivePhase → HostPairingState
  | .creating => .creating
  | .inviting => .inviting
  | .waitingHello | .waitingReady => .verifyingController
  | .waitingDecision => .waitingLocalDecision

/-- The published states of an attempt under way. -/
def HostPairingState.attempting : List HostPairingState :=
  [.creating, .inviting, .verifyingController, .waitingLocalDecision]

/-- The phases in which the controller has been verified. -/
def ActivePhase.Verified (phase : ActivePhase) : Prop :=
  phase = .waitingReady ∨ phase = .waitingDecision

instance (phase : ActivePhase) : Decidable phase.Verified :=
  inferInstanceAs (Decidable (_ ∨ _))

/-- The view of an attempt. -/
def ActivePairing.snapshot (crypto : Crypto) (active : ActivePairing) (revision : UInt64) :
    HostPairingStatusSnapshot where
  state := active.phase.published
  revision := revision
  invitation := some active.invitation
  pendingController := if active.phase = .waitingDecision then active.controller else none
  pendingControllerFingerprintSha256 :=
    if active.phase = .waitingDecision then (active.controller.map fun controller =>
      (crypto.sha256 controller.publicKey).toList).getD []
    else []
  sasWords := if active.phase = .waitingDecision then active.sasWords else []
  expiresAtUnixMs := active.invitation.expiresAtUnixMs
  error := none

/-- The view when there is no attempt. -/
def endedSnapshot (state : HostPairingState) (error : Option UnifiedError)
    (revision : UInt64) : HostPairingStatusSnapshot :=
  { idleSnapshot revision with state, error }

/-- What is always true of an attempt of this Host. -/
structure ActivePairing.WellFormed (host : DeviceIdentity) (active : ActivePairing) : Prop where
  hostIdentity : active.invitation.hostIdentity = some host
  controller : active.controller.isSome ↔ active.phase.Verified
  keys : active.keys.isSome ↔ active.phase.Verified
  lifetime : active.invitation.expiresAtUnixMs.toNat ≤
    active.invitation.issuedAtUnixMs.toNat + pairingRendezvousLifetimeMs
  serverExpiry : active.phase ≠ .creating →
    active.invitation.expiresAtUnixMs ≤ active.serverExpiresAtUnixMs

namespace HostPairingCoordinator

variable {crypto : Crypto} {c c' : HostPairingCoordinator}

/-- The snapshot is the view of the attempt. -/
structure Consistent (crypto : Crypto) (c : HostPairingCoordinator) : Prop where
  ended : c.active = none → ∃ state error, state ∉ HostPairingState.attempting ∧
    c.status = endedSnapshot state error c.revision
  attempt : ∀ active, c.active = some active →
    active.WellFormed c.hostIdentity ∧ c.status = active.snapshot crypto c.revision

/-- The revision never decreases, and it counts every change of the snapshot until it is
exhausted. -/
structure Advances (c c' : HostPairingCoordinator) : Prop where
  revision_le : c.revision ≤ c'.revision
  revision_lt : c.revision.toNat < u64Max → c.status ≠ c'.status → c.revision < c'.revision

/-- A revision fits its type. -/
theorem revision_le_max (c : HostPairingCoordinator) : c.revision.toNat ≤ u64Max :=
  Nat.le_of_lt_succ c.revision.toNat_lt

instance : IsPreorder HostPairingCoordinator Advances where
  refl c := ⟨UInt64.le_refl _, fun _ h => absurd rfl h⟩
  trans c₁ c₂ c₃ h h' := by
    refine ⟨UInt64.le_trans h.revision_le h'.revision_le, fun hmax hne => ?_⟩
    by_cases hsame : c₁.status = c₂.status
    · by_cases hfull : c₂.revision.toNat < u64Max
      · exact UInt64.lt_of_le_of_lt h.revision_le (h'.revision_lt hfull (hsame ▸ hne))
      · have hle := UInt64.le_iff_toNat_le.mp h'.revision_le
        rw [UInt64.lt_iff_toNat_lt]
        omega
    · exact UInt64.lt_of_lt_of_le (h.revision_lt hmax hsame) h'.revision_le

/-- The next revision is one more, unless it is the largest. -/
theorem nextRevision_toNat (c : HostPairingCoordinator) :
    c.nextRevision.toNat = min (c.revision.toNat + 1) u64Max := by
  unfold nextRevision saturatingAdd
  rw [UInt64.toNat_ofNat']
  refine Nat.mod_eq_of_lt (Nat.lt_of_le_of_lt (Nat.min_le_right _ _) ?_)
  unfold u64Max
  omega

/-- A new revision counts any change of the snapshot. -/
theorem Advances.of_nextRevision (h : c'.revision = c.nextRevision) : Advances c c' := by
  have hmax := c.revision_le_max
  have hnext := c.nextRevision_toNat
  refine ⟨?_, fun hlt _ => ?_⟩
  · rw [h, UInt64.le_iff_toNat_le]
    omega
  · rw [h, UInt64.lt_iff_toNat_lt]
    omega

/-- Between two points of an operation the snapshot stays the view of the attempt and the
revision counts its changes. -/
structure Publishes (crypto : Crypto) (c c' : HostPairingCoordinator) : Prop where
  hostIdentity : c'.hostIdentity = c.hostIdentity
  consistent : Consistent crypto c → Consistent crypto c'
  advances : Advances c c'

instance : IsPreorder HostPairingCoordinator (Publishes crypto) where
  refl _ := ⟨rfl, id, Std.Refl.refl _⟩
  trans _ _ _ h h' := ⟨h'.hostIdentity.trans h.hostIdentity, h'.consistent ∘ h.consistent,
    IsTrans.trans _ _ _ h.advances h'.advances⟩

/-- A change elsewhere is not seen. -/
theorem Publishes.of_unseen (hhost : c'.hostIdentity = c.hostIdentity)
    (hactive : c'.active = c.active) (hstatus : c'.status = c.status)
    (hrevision : c'.revision = c.revision) : Publishes crypto c c' := by
  refine ⟨hhost, fun h => ⟨?_, ?_⟩, ?_⟩
  · rw [hactive, hstatus, hrevision]
    exact h.ended
  · rw [hactive, hhost, hstatus, hrevision]
    exact h.attempt
  · refine ⟨?_, fun _ hne => absurd hstatus.symm hne⟩
    rw [hrevision]
    exact UInt64.le_refl _

/-- An outbound item is not seen in the snapshot. -/
theorem push_publishes (item : PairingOutbound) (c : HostPairingCoordinator) :
    Publishes crypto c (push item c) :=
  .of_unseen rfl rfl rfl rfl

/-- Nor is the use of a key. -/
theorem record_publishes (use : CipherUse) (c : HostPairingCoordinator) :
    Publishes crypto c (record use c) :=
  .of_unseen rfl rfl rfl rfl

/-- Nor is the message that abandons an attempt. -/
theorem abandon_publishes (active : ActivePairing) (c : HostPairingCoordinator) :
    Publishes crypto c (abandon active c) := by
  unfold abandon
  split
  · exact .of_unseen rfl rfl rfl rfl
  · exact push_publishes _ _

/-- An attempt that ends is not shown any more. -/
theorem finish_publishes {state : HostPairingState} (hstate : state ∉ HostPairingState.attempting)
    (error : Option UnifiedError) (c : HostPairingCoordinator) :
    Publishes crypto c (finish state error c) := by
  refine ⟨rfl, fun _ => ⟨fun _ => ⟨state, error, hstate, rfl⟩, ?_⟩, .of_nextRevision rfl⟩
  intro active hactive
  cases hactive

/-- Publishing the phase of an attempt raises the revision. -/
theorem publishActive_eq {active : ActivePairing} (hactive : c.active = some active) :
    publishActive crypto active.phase.published c =
      { c with
        revision := c.nextRevision
        status := active.snapshot crypto c.nextRevision } := by
  unfold publishActive ActivePairing.snapshot
  rw [hactive]
  cases active.phase <;> rfl

/-- An attempt that has moved is shown in its new phase. -/
theorem publishActive_publishes {active : ActivePairing} {state : HostPairingState}
    (hstate : state = active.phase.published) (hactive : c'.active = some active)
    (hhost : c'.hostIdentity = c.hostIdentity) (hrevision : c'.revision = c.revision)
    (hwf : Consistent crypto c → active.WellFormed c.hostIdentity) :
    Publishes crypto c (publishActive crypto state c') := by
  rw [hstate, publishActive_eq hactive]
  refine ⟨hhost, fun h => ⟨fun hnone => ?_, fun active' hactive' => ?_⟩, .of_nextRevision ?_⟩
  · rw [hactive] at hnone
    cases hnone
  · rw [hactive, Option.some.injEq] at hactive'
    subst hactive'
    exact ⟨hhost ▸ hwf h, rfl⟩
  · change c'.nextRevision = c.nextRevision
    unfold nextRevision
    rw [hrevision]

/-! ## The operations -/

theorem tick_publishes (nowUnixMs : UInt64) (c : HostPairingCoordinator) :
    Publishes crypto c (tick nowUnixMs c) := by
  unfold tick
  cases c.active with
  | none => exact Std.Refl.refl c
  | some active =>
    dsimp only
    split
    · exact Std.Refl.refl c
    · exact IsTrans.trans _ _ _ (abandon_publishes active c) (finish_publishes (by decide) none _)

/-- After a failure the snapshot shows the failure. -/
theorem failActive_publishes (c : HostPairingCoordinator) :
    Publishes crypto c (failActive c) := by
  unfold failActive
  refine IsTrans.trans _ _ _ ?_ (finish_publishes (by decide) _ _)
  cases c.active with
  | none => exact Std.Refl.refl c
  | some active =>
    dsimp only
    split
    · exact Std.Refl.refl c
    · exact push_publishes _ _

/-- An attempt that loses its connection has failed. -/
theorem signalingLost_publishes (c : HostPairingCoordinator) :
    Publishes crypto c (signalingLost c) := by
  unfold signalingLost
  have hlost : Publishes crypto c
      { c with signalingConnected := false, pendingCancelledCreate := none } :=
    .of_unseen rfl rfl rfl rfl
  dsimp only
  split
  · exact IsTrans.trans _ _ _ hlost (finish_publishes (by decide) _ _)
  · exact hlost

/-- So has one that is shut down. -/
theorem shutdown_publishes (c : HostPairingCoordinator) :
    Publishes crypto c (shutdown c) := by
  unfold shutdown
  have hstopped : Publishes crypto c
      { c with signalingConnected := false, pendingCancelledCreate := none, outbound := [] } :=
    .of_unseen rfl rfl rfl rfl
  dsimp only
  split
  · exact IsTrans.trans _ _ _ hstopped (finish_publishes (by decide) _ _)
  · exact hstopped

/-- An idle coordinator has no attempt to show. -/
theorem returnToIdle_publishes : Keeps (Publishes crypto) returnToIdle := by
  intro c
  simp only [returnToIdle, wp_bind, wp_get, andThen_ok, andThen_error, wp_require, wp_modify]
  refine ⟨fun hidle => ?_, fun _ => Std.Refl.refl c⟩
  rw [not_or, Bool.not_eq_true, Option.isSome_eq_false_iff, Option.isNone_iff_eq_none] at hidle
  refine ⟨rfl, fun _ => ⟨fun _ => ⟨.idle, none, by decide, rfl⟩, fun active hactive => ?_⟩,
    .of_nextRevision rfl⟩
  cases hidle.1.symm.trans hactive

/-- How a start ends: with an error after the earlier snapshot may have been cleared, or
with the publication of a new attempt. -/
def StartOutcome (crypto : Crypto) (c : HostPairingCoordinator) :
    Except PairingCoordinatorError HostPairingStatusSnapshot → HostPairingCoordinator → Prop
  | .error _, c' => Publishes crypto c c'
  | .ok _, c' => Publishes crypto c c' ∧ ∃ active, c'.active = some active

/-- A start that fails has at most gone back to idle. -/
theorem start_outcome (crypto : PairingCrypto) (validEndpoint : String → Bool)
    (kind : PairingInvitationKind) (signalingEndpoint : String) (nowUnixMs : UInt64)
    (draws : PairingDraws) (c : HostPairingCoordinator) :
    wp (start crypto validEndpoint kind signalingEndpoint nowUnixMs draws)
      (StartOutcome crypto.toCrypto c) c := by
  rw [start, wp_get_bind, wp_bind, wp_require]
  refine ⟨fun _ => ?_, fun _ => Std.Refl.refl c⟩
  rw [andThen_ok, wp_bind]
  have hidle : Keeps (Publishes crypto.toCrypto)
      (onlyIf (c.status.state ≠ .idle) returnToIdle) := .onlyIf returnToIdle_publishes
  refine wp_mono (hidle c) ?_
  intro r c₁ hc₁
  rcases r with e | ⟨⟩
  · exact hc₁
  rw [andThen_ok, wp_bind, wp_require]
  refine ⟨fun _ => ?_, fun _ => hc₁⟩
  rw [andThen_ok, wp_bind, wp_orThrow]
  refine ⟨fun expires hexpires => ?_, fun _ => hc₁⟩
  rw [andThen_ok, wp_bind, wp_orThrow]
  refine ⟨fun rendezvousId _ => ?_, fun _ => hc₁⟩
  rw [andThen_ok, wp_bind, wp_orThrow]
  refine ⟨fun privateKey _ => ?_, fun _ => hc₁⟩
  rw [andThen_ok, wp_bind, wp_ofResult, x25519PublicKey_toList, Except.mapError, andThen_ok,
    wp_bind]
  refine wp_mono (drawDesktopCode_ok (c := c₁)) ?_
  rintro r _ ⟨rfl, -⟩
  rcases r with e | code
  · exact hc₁
  simp only [andThen_ok, wp_bind, wp_modify, wp_get, wp_pure]
  obtain ⟨hmax, rfl⟩ := checkedAdd_eq_some.mp hexpires
  have hlifetime : (UInt64.ofNat (nowUnixMs.toNat + pairingRendezvousLifetimeMs)).toNat =
      nowUnixMs.toNat + pairingRendezvousLifetimeMs := by
    rw [UInt64.toNat_ofNat']
    refine Nat.mod_eq_of_lt (Nat.lt_of_le_of_lt hmax ?_)
    unfold u64Max
    omega
  refine ⟨IsTrans.trans _ _ _ hc₁ (publishActive_publishes rfl rfl rfl rfl fun _ => ?_), _, rfl⟩
  exact ⟨congrArg some hc₁.hostIdentity.symm,
    ⟨fun h => (by cases h), fun h => (by rcases h with h | h <;> cases h)⟩,
    ⟨fun h => (by cases h), fun h => (by rcases h with h | h <;> cases h)⟩, hlifetime.le,
    fun hphase => absurd rfl hphase⟩

/-- A start keeps the snapshot the view of the attempt. -/
theorem start_publishes (crypto : PairingCrypto) (validEndpoint : String → Bool)
    (kind : PairingInvitationKind) (signalingEndpoint : String) (nowUnixMs : UInt64)
    (draws : PairingDraws) :
    Keeps (Publishes crypto.toCrypto)
      (start crypto validEndpoint kind signalingEndpoint nowUnixMs draws) := by
  intro c
  refine wp_mono (start_outcome crypto validEndpoint kind signalingEndpoint nowUnixMs draws c) ?_
  rintro (e | snapshot) c' h
  · exact h
  · exact h.1

/-- A cancelled attempt is not shown any more. -/
theorem cancel_publishes (rendezvousId : Bytes) :
    Keeps (Publishes crypto) (cancel rendezvousId) := by
  refine .bind .get fun c => .bind .orThrow fun active => .bind .require fun _ =>
    .bind (.modify (abandon_publishes active)) fun _ => .modify ?_
  exact finish_publishes (by decide) none

/-- Checking that a decision is awaited may expire the attempt. -/
theorem ensureWaitingDecision_publishes (rendezvousId controllerDeviceId : Bytes)
    (nowUnixMs : UInt64) :
    Keeps (Publishes crypto) (ensureWaitingDecision rendezvousId controllerDeviceId nowUnixMs) :=
  .bind (.modify (tick_publishes nowUnixMs)) fun _ => .bind .get fun _ =>
    .bind .orThrow fun _ => .bind .require fun _ => .pure _

variable (crypto' : PairingCrypto)

/-- Sealing is not seen in the snapshot. -/
theorem sealForController_publishes (active : ActivePairing) (key : Bytes)
    (sequence : UInt64) (controllerDeviceId hostDeviceId : Bytes)
    (plaintext : PairingPlaintext) :
    Keeps (Publishes crypto)
      (sealForController crypto' active key sequence controllerDeviceId hostDeviceId plaintext) :=
  .bind (.modify (record_publishes _)) fun _ => .ofResult

/-- Nor is encrypting the decision. -/
theorem encryptFinalDecision_publishes (status : PairingDecisionStatus)
    (grant : Option ControllerGrant) :
    Keeps (Publishes crypto) (encryptFinalDecision crypto' status grant) :=
  .bind .get fun _ => .bind .orThrow fun _ => .bind .orThrow fun _ => .bind .orThrow fun _ =>
    sealForController_publishes _ _ _ _ _ _ _

/-- A rejected attempt is not shown any more. -/
theorem reject_publishes (rendezvousId controllerDeviceId : Bytes) (nowUnixMs : UInt64) :
    Keeps (Publishes crypto) (reject crypto' rendezvousId controllerDeviceId nowUnixMs) := by
  refine .bind (ensureWaitingDecision_publishes _ _ _) fun _ =>
    .bind (encryptFinalDecision_publishes _ _ _) fun _ =>
    .bind (.modify (push_publishes _)) fun _ => .bind (.modify (push_publishes _)) fun _ =>
    .modify ?_
  exact finish_publishes (by decide) none

/-! ## Events of the service -/

theorem handleCreated_publishes (crypto : PairingCrypto) (rendezvousId : Bytes)
    (kind : PairingRendezvousKind) (serverExpiresAtUnixMs nowUnixMs : UInt64) :
    Keeps (Publishes crypto.toCrypto)
      (handleCreated crypto rendezvousId kind serverExpiresAtUnixMs nowUnixMs) := by
  intro c
  simp only [handleCreated, wp_bind, wp_get, andThen_ok, andThen_error, wp_ite, wp_orThrow,
    wp_require, wp_modify]
  refine ⟨fun _ => .of_unseen rfl rfl rfl rfl, fun _ => ⟨fun active hactive =>
    ⟨fun hcheck => ?_, fun _ => Std.Refl.refl c⟩, fun _ => Std.Refl.refl c⟩⟩
  simp only [not_or, not_not] at hcheck
  refine publishActive_publishes rfl rfl rfl rfl fun h => ?_
  have hwf := (h.attempt active hactive).1
  have hunverified : active.phase.Verified ↔ ActivePhase.Verified .inviting := by
    rw [hcheck.1]
    decide
  refine ⟨hwf.hostIdentity, hwf.controller.trans hunverified, hwf.keys.trans hunverified, ?_,
    fun _ => Std.min_le_right⟩
  exact (UInt64.le_iff_toNat_le.mp Std.min_le_left).trans hwf.lifetime

/-- A controller that joins is seen in the snapshot. -/
theorem handleJoined_publishes (crypto : PairingCrypto) (rendezvousId peerDeviceId : Bytes)
    (expiresAtUnixMs nowUnixMs : UInt64) :
    Keeps (Publishes crypto.toCrypto)
      (handleJoined crypto rendezvousId peerDeviceId expiresAtUnixMs nowUnixMs) := by
  intro c
  simp only [handleJoined, wp_bind, wp_get, andThen_ok, andThen_error, wp_orThrow, wp_require,
    wp_modify, wp_onlyIf]
  refine ⟨fun active hactive => ⟨fun hcheck => ?_, fun _ => Std.Refl.refl c⟩,
    fun _ => Std.Refl.refl c⟩
  simp only [not_or, not_not] at hcheck
  have hjoined : Consistent crypto.toCrypto c → ActivePairing.WellFormed c.hostIdentity
      { active with peerDeviceId := some peerDeviceId, phase := .waitingHello } := by
    intro h
    have hwf := (h.attempt active hactive).1
    have hunverified : active.phase.Verified ↔ ActivePhase.Verified .waitingHello := by
      rw [hcheck.1]
      decide
    refine ⟨hwf.hostIdentity, hwf.controller.trans hunverified, hwf.keys.trans hunverified,
      hwf.lifetime, fun _ => hwf.serverExpiry ?_⟩
    rw [hcheck.1]
    decide
  exact ⟨fun _ => publishActive_publishes rfl rfl rfl rfl hjoined,
    fun _ => publishActive_publishes rfl rfl rfl rfl hjoined⟩

/-- The answered hello is not published: the snapshot shows the verification as before. -/
theorem handleControllerHello_publishes (crypto : PairingCrypto) (signingIdentity : HostIdentity)
    {active : ActivePairing} (hello : ControllerPairingHello) (senderDeviceId : Bytes)
    (hactive : c.active = some active) (hphase : active.phase = .waitingHello) :
    wp (handleControllerHello crypto signingIdentity active hello senderDeviceId)
      (fun _ c' => Publishes crypto.toCrypto c c') c := by
  simp only [handleControllerHello, wp_bind, wp_get, andThen_ok, wp_ofResult]
  cases verifyControllerHello crypto hello senderDeviceId active.invitation.rendezvousId
      c.hostIdentity active.hostEphemeralPrivateKey.toList
      active.invitation.hostEphemeralPublicKey with
  | error e => exact Std.Refl.refl c
  | ok verified =>
  simp only [Except.mapError, andThen_ok, wp_bind, wp_modify, wp_ofResult]
  cases signingIdentity.signPairingTranscript crypto verified.transcript .host with
  | error e => exact record_publishes _ c
  | ok signature =>
  simp only [andThen_ok, wp_bind, sealForController, wp_modify, wp_ofResult]
  have hrecorded : ∀ use use', Publishes crypto.toCrypto c (record use' (record use c)) :=
    fun use use' => IsTrans.trans _ _ _ (record_publishes use c) (record_publishes use' _)
  cases sealHostPlaintext crypto verified.keys.hostToController.toList 1
      active.invitation.rendezvousId verified.controller.deviceId c.hostIdentity.deviceId
      (.hostProof
        { confirmation := some (confirmationData verified active
            (active.invitation.hostIdentity.getD c.hostIdentity))
          hostSignature := signature
          expiresAtUnixMs := active.invitation.expiresAtUnixMs }) with
  | error e => exact hrecorded _ _
  | ok encrypted =>
  simp only [Except.mapError, andThen_ok, wp_bind, wp_ofResult]
  cases sasWordsFor crypto active.invitation.kind verified.transcriptSha256.toList with
  | error e => exact hrecorded _ _
  | ok words =>
  simp only [andThen_ok, wp_bind, wp_modify]
  refine ⟨rfl, fun h => ⟨by intros; contradiction, fun active' hactive' => ?_⟩,
    ⟨UInt64.le_refl _, fun _ hne => absurd rfl hne⟩⟩
  obtain ⟨hwf, hstatus⟩ := h.attempt active hactive
  obtain rfl := Option.some.inj hactive'
  refine ⟨⟨hwf.hostIdentity, iff_of_true rfl (.inl rfl), iff_of_true rfl (.inl rfl), hwf.lifetime,
    fun _ => hwf.serverExpiry ?_⟩, hstatus.trans ?_⟩
  · rw [hphase]
    decide
  · simp [ActivePairing.snapshot, ActivePhase.published, hphase, record, push, setActive]

/-- A controller that is ready awaits the decision. -/
theorem handleControllerReady_publishes (crypto : PairingCrypto) {active : ActivePairing}
    (opaqueEnvelope : Bytes) (hactive : c.active = some active)
    (hphase : active.phase = .waitingReady) :
    wp (handleControllerReady crypto active opaqueEnvelope)
      (fun _ c' => Publishes crypto.toCrypto c c') c := by
  simp only [handleControllerReady, wp_bind, wp_get, andThen_ok, andThen_error, wp_orThrow]
  refine ⟨fun controller _ => ⟨fun keys _ => ?_, fun _ => Std.Refl.refl c⟩,
    fun _ => Std.Refl.refl c⟩
  simp only [openFromController, wp_bind, wp_ofResult]
  cases openControllerPlaintext crypto keys.controllerToHost.toList 1
      active.invitation.rendezvousId controller.deviceId c.hostIdentity.deviceId
      opaqueEnvelope with
  | error e => exact Std.Refl.refl c
  | ok plaintext =>
  simp only [Except.mapError, andThen_ok, andThen_error, wp_bind, wp_modify, wp_pure, wp_orThrow,
    wp_require]
  refine ⟨fun ready _ => ⟨fun _ => ?_, fun _ => record_publishes _ c⟩,
    fun _ => record_publishes _ c⟩
  refine publishActive_publishes rfl rfl rfl rfl fun h => ?_
  have hwf := (h.attempt active hactive).1
  have hverified : active.phase.Verified ↔ ActivePhase.Verified .waitingDecision := by
    rw [hphase]
    decide
  refine ⟨hwf.hostIdentity, hwf.controller.trans hverified, hwf.keys.trans hverified,
    hwf.lifetime, fun _ => hwf.serverExpiry ?_⟩
  rw [hphase]
  decide

/-- An envelope of the controller keeps the snapshot the view of the attempt. -/
theorem handleRoutedInner_publishes (crypto : PairingCrypto) (signingIdentity : HostIdentity)
    (rendezvousId senderDeviceId opaqueEnvelope : Bytes) :
    Keeps (Publishes crypto.toCrypto) (handleRoutedInner crypto signingIdentity rendezvousId
      senderDeviceId opaqueEnvelope) := by
  intro c
  simp only [handleRoutedInner, wp_bind, wp_get, andThen_ok, andThen_error, wp_orThrow, wp_require]
  refine ⟨fun active hactive => ⟨fun _ => ?_, fun _ => Std.Refl.refl c⟩, fun _ => Std.Refl.refl c⟩
  cases hphase : active.phase with
  | waitingHello =>
    simp only [wp_bind, wp_ofResult]
    cases decodePairingMessage crypto opaqueEnvelope with
    | error e => exact Std.Refl.refl c
    | ok message =>
    simp only [Except.mapError, andThen_ok, andThen_error, wp_bind, wp_orThrow]
    exact ⟨fun hello _ => handleControllerHello_publishes _ _ _ _ hactive hphase,
      fun _ => Std.Refl.refl c⟩
  | waitingReady => exact handleControllerReady_publishes _ _ hactive hphase
  | creating => exact Std.Refl.refl c
  | inviting => exact Std.Refl.refl c
  | waitingDecision => exact Std.Refl.refl c

/-- So does one that fails the attempt. -/
theorem handleRouted_publishes (crypto : PairingCrypto) (signingIdentity : HostIdentity)
    (rendezvousId senderDeviceId opaqueEnvelope : Bytes) :
    Keeps (Publishes crypto.toCrypto) (handleRouted crypto signingIdentity rendezvousId
      senderDeviceId opaqueEnvelope) := by
  refine .bind (handleRoutedInner_publishes _ _ _ _ _).outcome fun result => ?_
  cases result with
  | ok _ => exact .pure _
  | error e =>
    exact .bind .get fun c => .bind (.onlyIf (.modify failActive_publishes)) fun _ => .throw _

/-- No completion is shown as an attempt. -/
theorem closedState_not_attempting (completion : PairingRendezvousCompletion) :
    closedState completion ∉ HostPairingState.attempting := by
  cases completion <;> decide

/-- A closed rendezvous is shown by its completion. -/
theorem handleClosed_publishes (rendezvousId : Bytes) (completion : PairingRendezvousCompletion) :
    Keeps (Publishes crypto) (handleClosed rendezvousId completion) := by
  refine .bind .get fun c => .ite (.pure _) ?_
  exact .bind .orThrow fun active => .bind .require fun _ =>
    .modify (finish_publishes (closedState_not_attempting completion) _)

/-- Every event keeps the snapshot the view of the attempt. -/
theorem handleSignalingEvent_publishes (crypto : PairingCrypto) (signingIdentity : HostIdentity)
    (event : SignalingEvent) (nowUnixMs : UInt64) :
    Keeps (Publishes crypto.toCrypto)
      (handleSignalingEvent crypto signingIdentity event nowUnixMs) := by
  refine .bind (.modify (tick_publishes nowUnixMs)) fun _ => ?_
  cases event with
  | pairingCreated rendezvousId kind expiresAtUnixMs => exact handleCreated_publishes _ _ _ _ _
  | pairingJoined rendezvousId peerDeviceId expiresAtUnixMs =>
    exact handleJoined_publishes _ _ _ _ _
  | routedPairing rendezvousId senderDeviceId opaqueEnvelope =>
    exact handleRouted_publishes _ _ _ _ _
  | pairingClosed rendezvousId completion => exact handleClosed_publishes _ _
  | remoteError code requestId =>
    exact .bind .get fun c => .ite (.modify failActive_publishes) (.throw _)
  | registered _ => exact .throw _
  | heartbeatAcknowledged _ _ => exact .throw _
  | routedSession _ _ => exact .throw _

end HostPairingCoordinator

namespace PairingHost

open HostPairingCoordinator

/-- The coordinator's part of a relation between two points of an operation. -/
def PublishesPairing (crypto : Crypto) (s s' : PairingHost) : Prop :=
  Publishes crypto s.pairing s'.pairing

instance (crypto : Crypto) : IsPreorder PairingHost (PublishesPairing crypto) where
  refl _ := Std.Refl.refl (r := Publishes crypto) _
  trans _ _ _ h h' := IsTrans.trans (r := Publishes crypto) _ _ _ h h'

/-- What keeps the snapshot of the coordinator keeps that of the Host. -/
theorem onPairing_publishes {crypto : Crypto} {α : Type} {m : HostPairingCoordinator.Operation α}
    (h : Keeps (Publishes crypto) m) : Keeps (PublishesPairing crypto) (onPairing m) :=
  fun s => h s.pairing

/-- An acceptance saves the grant and keeps the snapshot. -/
theorem accept_publishes (crypto : PairingCrypto) (rendezvousId controllerDeviceId : Bytes)
    (nowUnixMs : UInt64) (faults : FileFaults) (random : Nat → Option (Vector UInt8 16)) :
    Keeps (PublishesPairing crypto.toCrypto)
      (accept crypto rendezvousId controllerDeviceId nowUnixMs faults random) := by
  refine .bind (onPairing_publishes (ensureWaitingDecision_publishes _ _ _)) fun active =>
    .bind .orThrow fun controller => .bind ?_ fun result => .bind ?_ fun grant =>
    .bind (onPairing_publishes (encryptFinalDecision_publishes _ _ _)) fun encrypted =>
    .bind (onPairing_publishes (.modify (push_publishes _))) fun _ =>
    .bind (onPairing_publishes (.modify (push_publishes _))) fun _ =>
    onPairing_publishes (.modify ?_)
  · exact fun s => Std.Refl.refl (r := Publishes crypto.toCrypto) s.pairing
  · cases result with
    | ok view => exact .orThrow
    | error e =>
      exact .bind (onPairing_publishes (.modify failActive_publishes)) fun _ => .throw _
  · exact finish_publishes (by decide) none

/-- Every action keeps the snapshot the view of the attempt and counts its changes. -/
theorem step_publishes (setting : Setting) (s : PairingHost) (a : PairingAction) :
    Publishes setting.crypto.toCrypto s.pairing (step setting s a).1.pairing := by
  have hperform : ∀ {α : Type} {m : Operation α},
      Keeps (PublishesPairing setting.crypto.toCrypto) m →
      Publishes setting.crypto.toCrypto s.pairing (perform m s).1.pairing := fun h => h s
  cases a with
  | signalingConnected =>
    exact hperform (onPairing_publishes (.modify fun _ => .of_unseen rfl rfl rfl rfl))
  | signalingLost => exact hperform (onPairing_publishes (.modify signalingLost_publishes))
  | shutdown => exact hperform (onPairing_publishes (.modify shutdown_publishes))
  | takeOutbound => exact .of_unseen rfl rfl rfl rfl
  | tick nowUnixMs => exact hperform (onPairing_publishes (.modify (tick_publishes nowUnixMs)))
  | returnToIdle => exact hperform (onPairing_publishes returnToIdle_publishes)
  | start kind signalingEndpoint nowUnixMs draws =>
    exact hperform (onPairing_publishes (start_publishes _ _ _ _ _ _))
  | event event nowUnixMs =>
    exact hperform (onPairing_publishes (handleSignalingEvent_publishes _ _ _ _))
  | accept rendezvousId controllerDeviceId nowUnixMs faults random =>
    exact hperform (accept_publishes _ _ _ _ _ _)
  | reject rendezvousId controllerDeviceId nowUnixMs =>
    exact hperform (onPairing_publishes (reject_publishes _ _ _ _))
  | cancel rendezvousId => exact hperform (onPairing_publishes (cancel_publishes _))

end PairingHost

/-! ## Reads that would panic

The operations again, with every read of the attempt that the source takes for granted:
such a read panics when the attempt, or the identity in its invitation, is missing. -/

/-- How an operation ends early. -/
inductive PairingFault where
  | panicked
  | error (error : PairingCoordinatorError)

namespace HostPairingCoordinator.Checked

/-- An operation that may panic. -/
abbrev Operation := Fallible HostPairingCoordinator PairingFault

/-- An operation without such reads. -/
def lifted {α : Type} (m : HostPairingCoordinator.Operation α) : Operation α := mapError .error m

/-- A read that is taken for granted. -/
def expect {α : Type} (value : Option α) : Operation α := orThrow value .panicked

/-- Publish the attempt under way. -/
def publishActive (crypto : Crypto) (state : HostPairingState) : Operation Unit := do
  let c ← get
  let _ ← expect c.active
  modify (HostPairingCoordinator.publishActive crypto state)

/-- Start an attempt. -/
def start (crypto : PairingCrypto) (validEndpoint : String → Bool)
    (kind : PairingInvitationKind) (signalingEndpoint : String) (nowUnixMs : UInt64)
    (draws : PairingDraws) : Operation HostPairingStatusSnapshot := do
  let snapshot ← lifted (HostPairingCoordinator.start crypto validEndpoint kind signalingEndpoint
    nowUnixMs draws)
  let c ← get
  let _ ← expect c.active
  return snapshot

/-- The rendezvous has been created. -/
def handleCreated (crypto : PairingCrypto) (rendezvousId : Bytes)
    (kind : PairingRendezvousKind) (serverExpiresAtUnixMs nowUnixMs : UInt64) :
    Operation Unit := do
  let c ← get
  if c.active = none ∧ c.pendingCancelledCreate = some rendezvousId then do
    modify fun c => { c with pendingCancelledCreate := none }
    modify (push (.complete rendezvousId .rejected))
  else do
    let active ← orThrow c.active (.error .invalidState)
    require (¬ (active.phase ≠ .creating ∨ active.invitation.rendezvousId ≠ rendezvousId ∨
      signalingKind active.invitation.kind ≠ kind ∨ serverExpiresAtUnixMs ≤ nowUnixMs))
      (.error .invalidState)
    modify (setActive { active with
      serverExpiresAtUnixMs
      invitation := { active.invitation with
        expiresAtUnixMs := min active.invitation.expiresAtUnixMs serverExpiresAtUnixMs }
      phase := .inviting })
    publishActive crypto.toCrypto .inviting

/-- A peer has joined the rendezvous. -/
def handleJoined (crypto : PairingCrypto) (rendezvousId peerDeviceId : Bytes)
    (expiresAtUnixMs nowUnixMs : UInt64) : Operation Unit := do
  let c ← get
  let active ← orThrow c.active (.error .invalidState)
  require (¬ (active.phase ≠ .inviting ∨ active.invitation.rendezvousId ≠ rendezvousId ∨
    active.serverExpiresAtUnixMs ≠ expiresAtUnixMs ∨
    active.invitation.expiresAtUnixMs ≤ nowUnixMs ∨
    peerDeviceId = c.hostIdentity.deviceId)) (.error .invalidState)
  modify (setActive { active with peerDeviceId := some peerDeviceId, phase := .waitingHello })
  onlyIf (active.invitation.kind = .desktopCode)
    (modify (push (.relay rendezvousId (PairingMessage.encode
      (.hostInvitation active.invitation)))))
  publishActive crypto.toCrypto .verifyingController

/-- Verify a hello and answer with the sealed proof. -/
def handleControllerHello (crypto : PairingCrypto) (signingIdentity : HostIdentity)
    (hello : ControllerPairingHello) (senderDeviceId : Bytes) : Operation Unit := do
  let c ← get
  let active ← expect c.active
  let verified ← lifted (ofResult ((verifyControllerHello crypto hello senderDeviceId
    active.invitation.rendezvousId c.hostIdentity active.hostEphemeralPrivateKey.toList
    active.invitation.hostEphemeralPublicKey).mapError fun _ => .authentication))
  modify (record (.derived active.invitation.hostEphemeralPublicKey verified.transcript
    verified.keys))
  let signature ← lifted (ofResult ((signingIdentity.signPairingTranscript crypto
    verified.transcript .host).mapError fun _ => .authentication))
  let host ← expect active.invitation.hostIdentity
  let encrypted ← lifted (sealForController crypto active verified.keys.hostToController.toList 1
    verified.controller.deviceId c.hostIdentity.deviceId
    (.hostProof
      { confirmation := some (confirmationData verified active host)
        hostSignature := signature
        expiresAtUnixMs := active.invitation.expiresAtUnixMs }))
  let sasWords ← lifted (ofResult ((sasWordsFor crypto active.invitation.kind
    verified.transcriptSha256.toList).mapError fun _ => .authentication))
  let c ← get
  let active ← expect c.active
  modify (setActive { active with
    controller := some verified.controller
    controllerEphemeralPublicKey := verified.controllerEphemeralPublicKey
    transcriptSha256 := verified.transcriptSha256.toList
    keys := some verified.keys
    sasWords
    phase := .waitingReady })
  modify (push (.relay active.invitation.rendezvousId encrypted))

/-- Open the controller's confirmation. -/
def handleControllerReady (crypto : PairingCrypto) (opaqueEnvelope : Bytes) :
    Operation Unit := do
  let c ← get
  let active ← expect c.active
  let controller ← orThrow active.controller (.error .authentication)
  let keys ← orThrow active.keys (.error .authentication)
  let plaintext ← lifted (openFromController crypto active keys.controllerToHost.toList 1
    controller.deviceId c.hostIdentity.deviceId opaqueEnvelope)
  let ready ← orThrow (PairingPlaintext.ready? plaintext) (.error .authentication)
  require (ready.transcriptSha256 = active.transcriptSha256) (.error .authentication)
  let c ← get
  let active ← expect c.active
  modify (setActive { active with phase := .waitingDecision })
  publishActive crypto.toCrypto .waitingLocalDecision

/-- Bytes of the peer, by the phase of the attempt. -/
def handleRoutedInner (crypto : PairingCrypto) (signingIdentity : HostIdentity)
    (rendezvousId senderDeviceId opaqueEnvelope : Bytes) : Operation Unit := do
  let c ← get
  let checked ← orThrow c.active (.error .invalidState)
  let active ← expect c.active
  require (active.invitation.rendezvousId = rendezvousId ∧
    active.peerDeviceId = some senderDeviceId) (.error .authentication)
  match checked.phase with
  | .waitingHello => do
    let message ← lifted (ofResult ((decodePairingMessage crypto opaqueEnvelope).mapError
      fun _ => .authentication))
    let hello ← orThrow (PairingMessage.hello? message) (.error .authentication)
    handleControllerHello crypto signingIdentity hello senderDeviceId
  | .waitingReady => handleControllerReady crypto opaqueEnvelope
  | .creating | .inviting | .waitingDecision => throw (.error .authentication)

/-- Bytes of the peer; an error ends the attempt. -/
def handleRouted (crypto : PairingCrypto) (signingIdentity : HostIdentity)
    (rendezvousId senderDeviceId opaqueEnvelope : Bytes) : Operation Unit := do
  let result ← outcome (handleRoutedInner crypto signingIdentity rendezvousId senderDeviceId
    opaqueEnvelope)
  match result with
  | .ok () => return ()
  | .error .panicked => throw .panicked
  | .error (.error error) => do
    let c ← get
    onlyIf c.active.isSome (modify failActive)
    throw (.error error)

/-- Handle an event of the service. -/
def handleSignalingEvent (crypto : PairingCrypto) (signingIdentity : HostIdentity)
    (event : SignalingEvent) (nowUnixMs : UInt64) : Operation Unit := do
  modify (tick nowUnixMs)
  match event with
  | .pairingCreated rendezvousId kind expiresAtUnixMs =>
    handleCreated crypto rendezvousId kind expiresAtUnixMs nowUnixMs
  | .pairingJoined rendezvousId peerDeviceId expiresAtUnixMs =>
    handleJoined crypto rendezvousId peerDeviceId expiresAtUnixMs nowUnixMs
  | .routedPairing rendezvousId senderDeviceId opaqueEnvelope =>
    handleRouted crypto signingIdentity rendezvousId senderDeviceId opaqueEnvelope
  | .pairingClosed rendezvousId completion => lifted (handleClosed rendezvousId completion)
  | .remoteError _ _ => do
    let c ← get
    if c.active.isSome then modify failActive else throw (.error .invalidState)
  | .registered _ | .heartbeatAcknowledged _ _ | .routedSession _ _ =>
    throw (.error .invalidState)

/-! ### No read panics -/

variable {c : HostPairingCoordinator} {active : ActivePairing}

/-- A publication with an attempt does not panic. -/
theorem publishActive_eq (crypto : Crypto) (state : HostPairingState)
    (hactive : c.active = some active) :
    publishActive crypto state c =
      lifted (modify (HostPairingCoordinator.publishActive crypto state)) c := by
  unfold publishActive expect
  rw [get_bind, orThrow_bind hactive]
  rfl

theorem start_eq (crypto : PairingCrypto) (validEndpoint : String → Bool)
    (kind : PairingInvitationKind) (signalingEndpoint : String) (nowUnixMs : UInt64)
    (draws : PairingDraws) :
    start crypto validEndpoint kind signalingEndpoint nowUnixMs draws c =
      lifted (HostPairingCoordinator.start crypto validEndpoint kind signalingEndpoint nowUnixMs
        draws) c := by
  have houtcome := start_outcome crypto validEndpoint kind signalingEndpoint nowUnixMs draws c
  unfold start expect lifted
  simp only [wp, mapError, bind] at houtcome ⊢
  rcases hstart : HostPairingCoordinator.start crypto validEndpoint kind signalingEndpoint
    nowUnixMs draws c with ⟨_ | snapshot, c'⟩
  · rfl
  · rw [hstart] at houtcome
    obtain ⟨-, active, hactive⟩ := houtcome
    change c'.active = some active at hactive
    simp only [Except.mapError, get, getThe, MonadStateOf.get, orThrow, hactive]
    rfl

theorem handleCreated_eq (crypto : PairingCrypto) (rendezvousId : Bytes)
    (kind : PairingRendezvousKind) (serverExpiresAtUnixMs nowUnixMs : UInt64) :
    handleCreated crypto rendezvousId kind serverExpiresAtUnixMs nowUnixMs c =
      lifted (HostPairingCoordinator.handleCreated crypto rendezvousId kind
        serverExpiresAtUnixMs nowUnixMs) c := by
  unfold handleCreated HostPairingCoordinator.handleCreated
  refine bind_eq_mapError rfl fun c₀ c₁ h => ?_
  cases h
  split
  · rfl
  · refine bind_eq_mapError (by rw [mapError_orThrow]) fun active c₁ _ =>
      bind_eq_mapError (by rw [mapError_require]) fun _ c₂ _ =>
      bind_eq_mapError rfl fun _ c₃ h => ?_
    cases h
    exact publishActive_eq _ _ rfl

theorem handleJoined_eq (crypto : PairingCrypto) (rendezvousId peerDeviceId : Bytes)
    (expiresAtUnixMs nowUnixMs : UInt64) :
    handleJoined crypto rendezvousId peerDeviceId expiresAtUnixMs nowUnixMs c =
      lifted (HostPairingCoordinator.handleJoined crypto rendezvousId peerDeviceId
        expiresAtUnixMs nowUnixMs) c := by
  unfold handleJoined HostPairingCoordinator.handleJoined
  refine bind_eq_mapError rfl fun c₀ c₁ h => ?_
  cases h
  refine bind_eq_mapError (by rw [mapError_orThrow]) fun active c₁ _ =>
    bind_eq_mapError (by rw [mapError_require]) fun _ c₂ _ =>
    bind_eq_mapError rfl fun _ c₃ h => ?_
  cases h
  by_cases hkind : active.invitation.kind = .desktopCode
  · rw [onlyIf, onlyIf, if_pos hkind, if_pos hkind]
    refine bind_eq_mapError rfl fun _ c₄ h => ?_
    cases h
    exact publishActive_eq _ _ rfl
  · rw [onlyIf, onlyIf, if_neg hkind, if_neg hkind]
    exact publishActive_eq _ _ rfl

/-- A sealing leaves the attempt as it is. -/
theorem sealForController_active {crypto : PairingCrypto} {key : Bytes} {sequence : UInt64}
    {controllerDeviceId hostDeviceId : Bytes} {plaintext : PairingPlaintext}
    {c' : HostPairingCoordinator} {encrypted : Bytes}
    (h : sealForController crypto active key sequence controllerDeviceId hostDeviceId plaintext c =
      (.ok encrypted, c')) : c'.active = c.active :=
  (congrArg (fun r => r.2.active) h).symm

/-- Opening an envelope leaves the attempt as it is. -/
theorem openFromController_active {crypto : PairingCrypto} {key : Bytes} {sequence : UInt64}
    {controllerDeviceId hostDeviceId opaqueEnvelope : Bytes} {plaintext : PairingPlaintext}
    {c' : HostPairingCoordinator}
    (h : openFromController crypto active key sequence controllerDeviceId hostDeviceId
      opaqueEnvelope c = (.ok plaintext, c')) : c'.active = c.active := by
  have hactive : wp (openFromController crypto active key sequence controllerDeviceId hostDeviceId
      opaqueEnvelope) (fun _ c' => c'.active = c.active) c := by
    simp only [openFromController, wp_bind, wp_ofResult]
    cases (openControllerPlaintext crypto key sequence active.invitation.rendezvousId
      controllerDeviceId hostDeviceId opaqueEnvelope).mapError
      fun _ => PairingCoordinatorError.authentication with
    | error e => rfl
    | ok plaintext => rfl
  rw [wp, h] at hactive
  exact hactive

theorem handleControllerHello_eq (crypto : PairingCrypto) (signingIdentity : HostIdentity)
    {host : DeviceIdentity} (hello : ControllerPairingHello) (senderDeviceId : Bytes)
    (hactive : c.active = some active) (hhost : active.invitation.hostIdentity = some host) :
    handleControllerHello crypto signingIdentity hello senderDeviceId c =
      lifted (HostPairingCoordinator.handleControllerHello crypto signingIdentity active hello
        senderDeviceId) c := by
  unfold handleControllerHello HostPairingCoordinator.handleControllerHello expect
  refine bind_eq_mapError rfl fun c₀ c₁ h => ?_
  cases h
  rw [orThrow_bind hactive]
  refine bind_eq_mapError rfl fun verified c₁ h => ?_
  obtain rfl := (Prod.mk.inj h).2
  refine bind_eq_mapError rfl fun _ c₂ h => ?_
  obtain rfl := (Prod.mk.inj h).2
  refine bind_eq_mapError rfl fun signature c₃ h => ?_
  obtain rfl := (Prod.mk.inj h).2
  rw [orThrow_bind hhost, hhost]
  refine bind_eq_mapError rfl fun encrypted c₄ h => ?_
  have hkept := (sealForController_active h).trans hactive
  refine bind_eq_mapError rfl fun sasWords c₅ h => ?_
  obtain rfl := (Prod.mk.inj h).2
  rw [get_bind, orThrow_bind hkept]
  rfl

theorem handleControllerReady_eq (crypto : PairingCrypto) (opaqueEnvelope : Bytes)
    (hactive : c.active = some active) :
    handleControllerReady crypto opaqueEnvelope c =
      lifted (HostPairingCoordinator.handleControllerReady crypto active opaqueEnvelope) c := by
  unfold handleControllerReady HostPairingCoordinator.handleControllerReady expect
  refine bind_eq_mapError rfl fun c₀ c₁ h => ?_
  cases h
  rw [orThrow_bind hactive]
  refine bind_eq_mapError (by rw [mapError_orThrow]) fun controller c₁ h => ?_
  obtain rfl := (Prod.mk.inj h).2
  refine bind_eq_mapError (by rw [mapError_orThrow]) fun keys c₂ h => ?_
  obtain rfl := (Prod.mk.inj h).2
  refine bind_eq_mapError rfl fun plaintext c₃ h => ?_
  have hkept := (openFromController_active h).trans hactive
  refine bind_eq_mapError (by rw [mapError_orThrow]) fun ready c₄ h => ?_
  obtain rfl := (Prod.mk.inj h).2
  refine bind_eq_mapError (by rw [mapError_require]) fun _ c₅ h => ?_
  obtain rfl := (Prod.mk.inj h).2
  rw [get_bind, orThrow_bind hkept]
  refine bind_eq_mapError rfl fun _ c₆ h => ?_
  cases h
  exact publishActive_eq _ _ rfl

theorem handleRoutedInner_eq (crypto : PairingCrypto) (signingIdentity : HostIdentity)
    (rendezvousId senderDeviceId opaqueEnvelope : Bytes) (h : Consistent crypto.toCrypto c) :
    handleRoutedInner crypto signingIdentity rendezvousId senderDeviceId opaqueEnvelope c =
      lifted (HostPairingCoordinator.handleRoutedInner crypto signingIdentity rendezvousId
        senderDeviceId opaqueEnvelope) c := by
  unfold handleRoutedInner HostPairingCoordinator.handleRoutedInner expect
  refine bind_eq_mapError rfl fun c₀ c₁ h => ?_
  cases h
  cases hactive : c.active with
  | none => rfl
  | some active =>
  rw [orThrow_bind rfl, orThrow_bind rfl, orThrow_bind rfl]
  refine bind_eq_mapError (by rw [mapError_require]) fun _ c₁ h => ?_
  obtain rfl := (Prod.mk.inj h).2
  have hwf := (Consistent.attempt ‹_› active hactive).1
  cases active.phase with
  | waitingHello =>
    refine bind_eq_mapError rfl fun message c₂ h => ?_
    obtain rfl := (Prod.mk.inj h).2
    refine bind_eq_mapError (by rw [mapError_orThrow]) fun hello c₃ h => ?_
    obtain rfl := (Prod.mk.inj h).2
    exact handleControllerHello_eq _ _ _ _ hactive hwf.hostIdentity
  | waitingReady => exact handleControllerReady_eq _ _ hactive
  | creating => rfl
  | inviting => rfl
  | waitingDecision => rfl

theorem handleRouted_eq (crypto : PairingCrypto) (signingIdentity : HostIdentity)
    (rendezvousId senderDeviceId opaqueEnvelope : Bytes) (h : Consistent crypto.toCrypto c) :
    handleRouted crypto signingIdentity rendezvousId senderDeviceId opaqueEnvelope c =
      lifted (HostPairingCoordinator.handleRouted crypto signingIdentity rendezvousId
        senderDeviceId opaqueEnvelope) c := by
  have hinner := handleRoutedInner_eq crypto signingIdentity rendezvousId senderDeviceId
    opaqueEnvelope h
  unfold handleRouted HostPairingCoordinator.handleRouted
  simp only [lifted, mapError, outcome, bind] at hinner ⊢
  rw [hinner]
  rcases HostPairingCoordinator.handleRoutedInner crypto signingIdentity rendezvousId
    senderDeviceId opaqueEnvelope c with ⟨_ | _, c'⟩
  · simp only [Except.mapError, onlyIf]
    by_cases hactive : c'.active.isSome
    · simp only [get, getThe, MonadStateOf.get, if_pos hactive]
      rfl
    · simp only [get, getThe, MonadStateOf.get, if_neg hactive]
      rfl
  · rfl

theorem handleSignalingEvent_eq (crypto : PairingCrypto) (signingIdentity : HostIdentity)
    (event : SignalingEvent) (nowUnixMs : UInt64) (h : Consistent crypto.toCrypto c) :
    handleSignalingEvent crypto signingIdentity event nowUnixMs c =
      lifted (HostPairingCoordinator.handleSignalingEvent crypto signingIdentity event
        nowUnixMs) c := by
  refine bind_eq_mapError rfl fun _ c₁ hc₁ => ?_
  cases hc₁
  have hticked := (tick_publishes nowUnixMs c).consistent h
  cases event with
  | pairingCreated rendezvousId kind expiresAtUnixMs => exact handleCreated_eq _ _ _ _ _
  | pairingJoined rendezvousId peerDeviceId expiresAtUnixMs => exact handleJoined_eq _ _ _ _ _
  | routedPairing rendezvousId senderDeviceId opaqueEnvelope =>
    exact handleRouted_eq _ _ _ _ _ hticked
  | pairingClosed rendezvousId completion => rfl
  | remoteError code requestId =>
    refine bind_eq_mapError rfl fun c₀ c₁ h => ?_
    cases h
    split
    · rfl
    · rfl
  | registered _ => rfl
  | heartbeatAcknowledged _ _ => rfl
  | routedSession _ _ => rfl

end HostPairingCoordinator.Checked

namespace PairingHost

open HostPairingCoordinator

/-- The state and the output of an operation that may panic; there is no output then. -/
def checkedPerform {α : Type} (m : Checked.Operation α) (s : PairingHost) :
    PairingHost × Option PairingOutput :=
  ({ s with pairing := (m s.pairing).2 },
    match (m s.pairing).1 with
    | .ok _ => some (.done (.ok ()))
    | .error .panicked => none
    | .error (.error error) => some (.done (.error error)))

variable (setting : Setting)

/-- One action, with the reads that would panic. -/
def checkedStep (s : PairingHost) :
    PairingAction → PairingHost × Option PairingOutput
  | .start kind signalingEndpoint nowUnixMs draws =>
    checkedPerform (Checked.start setting.crypto setting.validEndpoint kind signalingEndpoint
      nowUnixMs draws) s
  | .event event nowUnixMs =>
    checkedPerform (Checked.handleSignalingEvent setting.crypto setting.signingIdentity event
      nowUnixMs) s
  | a => ((step setting s a).1, some (step setting s a).2)

/-- The coordinator that may panic, as a machine. -/
def checkedMachine :
    Machine PairingHost PairingAction (Option PairingOutput) :=
  ⟨checkedStep setting⟩

theorem checkedPerform_lifted {α : Type} {m' : Checked.Operation α}
    {m : HostPairingCoordinator.Operation α} {s : PairingHost}
    (h : m' s.pairing = Checked.lifted m s.pairing) :
    checkedPerform m' s = ((perform (onPairing m) s).1, some (perform (onPairing m) s).2) := by
  unfold checkedPerform perform onPairing zoom
  rw [h]
  unfold Checked.lifted mapError
  rcases m s.pairing with ⟨_ | _, _⟩
  · rfl
  · rfl

variable {s : PairingHost}

/-- In a consistent state no action panics. -/
theorem checkedStep_eq (h : Consistent setting.crypto.toCrypto s.pairing) (a : PairingAction) :
    checkedStep setting s a = ((step setting s a).1, some (step setting s a).2) := by
  cases a with
  | start kind signalingEndpoint nowUnixMs draws =>
    exact checkedPerform_lifted (Checked.start_eq _ _ _ _ _ _)
  | event event nowUnixMs =>
    exact checkedPerform_lifted (Checked.handleSignalingEvent_eq _ _ _ _ h)
  | signalingConnected => rfl
  | signalingLost => rfl
  | shutdown => rfl
  | takeOutbound => rfl
  | tick _ => rfl
  | returnToIdle => rfl
  | accept _ _ _ _ _ => rfl
  | reject _ _ _ => rfl
  | cancel _ => rfl

/-- Every step keeps the snapshot the view of the attempt. -/
theorem checkedStep_publishes
    (h : Consistent setting.crypto.toCrypto s.pairing) (a : PairingAction) :
    Publishes setting.crypto.toCrypto s.pairing (checkedStep setting s a).1.pairing := by
  rw [checkedStep_eq setting h a]
  exact step_publishes setting s a

/-- A run keeps the snapshot the view of the attempt and counts its changes. -/
theorem checkedRun_publishes
    (h : Consistent setting.crypto.toCrypto s.pairing) (actions : List PairingAction) :
    Publishes setting.crypto.toCrypto s.pairing
      ((checkedMachine setting).run s actions).pairing := by
  induction actions generalizing s with
  | nil => exact Std.Refl.refl s.pairing
  | cons a actions ih =>
    have hstep := checkedStep_publishes setting h a
    rw [Machine.run_cons]
    exact IsTrans.trans _ _ _ hstep (ih (hstep.consistent h))

end PairingHost

/-! ## The snapshot over runs -/

namespace HostPairingCoordinator

/-- What the coordinator keeps between its attempt and its snapshot. -/
structure SnapshotContract (crypto : Crypto) (c : HostPairingCoordinator) : Prop where
  active_iff : c.active.isSome ↔ c.status.state ∈ ([.creating, .inviting, .verifyingController,
    .waitingLocalDecision] : List HostPairingState)
  phase : ∀ active, c.active = some active → c.status.state = active.phase.published
  controller : ∀ active, c.active = some active →
    (active.controller.isSome ↔ active.phase = .waitingReady ∨ active.phase = .waitingDecision)
  keys : ∀ active, c.active = some active →
    (active.keys.isSome ↔ active.phase = .waitingReady ∨ active.phase = .waitingDecision)
  pending : c.status.state ≠ .waitingLocalDecision → c.status.pendingController = none ∧
    c.status.pendingControllerFingerprintSha256 = [] ∧ c.status.sasWords = []
  decision : c.status.state = .waitingLocalDecision → ∃ active controller,
    c.active = some active ∧ active.controller = some controller ∧
    c.status.pendingController = some controller ∧
    c.status.pendingControllerFingerprintSha256 = (crypto.sha256 controller.publicKey).toList ∧
    c.status.sasWords = active.sasWords
  expiry : ∀ active, c.active = some active →
    c.status.expiresAtUnixMs.toNat ≤
      active.invitation.issuedAtUnixMs.toNat + pairingRendezvousLifetimeMs ∧
    (active.phase ≠ .creating → c.status.expiresAtUnixMs ≤ active.serverExpiresAtUnixMs)
  noExpiry : c.active = none → c.status.expiresAtUnixMs = 0

/-- Every phase is shown as an attempt. -/
theorem published_attempting (phase : ActivePhase) :
    phase.published ∈ HostPairingState.attempting := by
  cases phase <;> decide

/-- Only the phase that awaits the decision is shown so. -/
theorem published_eq_waitingLocalDecision {phase : ActivePhase} :
    phase.published = .waitingLocalDecision ↔ phase = .waitingDecision := by
  cases phase <;> decide

/-- A consistent coordinator keeps the contract of its snapshot. -/
theorem Consistent.contract {crypto : Crypto} {c : HostPairingCoordinator}
    (h : Consistent crypto c) : SnapshotContract crypto c := by
  cases hactive : c.active with
  | none =>
    obtain ⟨state, error, hstate, hstatus⟩ := h.ended hactive
    have hshown : c.status.state = state := congrArg (·.state) hstatus
    refine ⟨?_, ?_, ?_, ?_, fun _ => ?_, fun hwaiting => ?_, ?_, fun _ => ?_⟩
    · rw [hactive, hshown]
      exact iff_of_false (by decide) hstate
    · exact fun _ h => nomatch hactive.symm.trans h
    · exact fun _ h => nomatch hactive.symm.trans h
    · exact fun _ h => nomatch hactive.symm.trans h
    · rw [hstatus]
      exact ⟨rfl, rfl, rfl⟩
    · rw [hshown] at hwaiting
      exact absurd (hwaiting ▸ by decide) hstate
    · exact fun _ h => nomatch hactive.symm.trans h
    · rw [hstatus]
      rfl
  | some active =>
    obtain ⟨hwf, hstatus⟩ := h.attempt active hactive
    have hshown : c.status.state = active.phase.published := congrArg (·.state) hstatus
    have hsame : ∀ active', c.active = some active' → active = active' :=
      fun _ h => Option.some.inj (hactive.symm.trans h)
    refine ⟨?_, ?_, ?_, ?_, fun hwaiting => ?_, fun hwaiting => ?_, ?_, fun hnone => ?_⟩
    · rw [hactive, hshown]
      exact iff_of_true rfl (published_attempting _)
    · intro active' h
      rw [← hsame _ h, hshown]
    · exact fun active' h => hsame _ h ▸ hwf.controller
    · exact fun active' h => hsame _ h ▸ hwf.keys
    · rw [hshown, Ne, published_eq_waitingLocalDecision] at hwaiting
      rw [hstatus]
      simp only [ActivePairing.snapshot, if_neg hwaiting, and_self]
    · rw [hshown, published_eq_waitingLocalDecision] at hwaiting
      obtain ⟨controller, hcontroller⟩ :=
        Option.isSome_iff_exists.mp (hwf.controller.mpr (.inr hwaiting))
      refine ⟨active, controller, hactive, hcontroller, ?_⟩
      rw [hstatus]
      simp only [ActivePairing.snapshot, if_pos hwaiting, hcontroller, Option.map_some,
        Option.getD_some, and_self]
    · intro active' h
      rw [← hsame _ h, hstatus]
      exact ⟨hwf.lifetime, hwf.serverExpiry⟩
    · exact nomatch hactive.symm.trans hnone

end HostPairingCoordinator

namespace PairingHost

open HostPairingCoordinator

/-- A new coordinator is consistent. -/
theorem consistent_withRandom {crypto crypto' : Crypto} {hostIdentity : DeviceIdentity}
    {pairing : HostPairingCoordinator}
    (hnew : HostPairingCoordinator.withRandom crypto hostIdentity = .ok pairing) :
    Consistent crypto' pairing := by
  simp only [HostPairingCoordinator.withRandom, bind_eq_ok, ensure_eq_ok, pure, Except.pure,
    Except.ok.injEq] at hnew
  obtain ⟨_, -, _, -, _, -, _, -, _, -, _, -, rfl⟩ := hnew
  exact ⟨fun _ => ⟨.idle, none, by decide, rfl⟩, by intros; contradiction⟩

/-- Over every run of a coordinator with any commands, events and times: the snapshot is
the view of the attempt, the revision never decreases and counts every change of the
snapshot below its maximum, and no action panics. -/
theorem pairing_snapshot_invariant (setting : Setting) {hostIdentity : DeviceIdentity}
    {pairing : HostPairingCoordinator}
    (hnew : HostPairingCoordinator.withRandom setting.crypto.toCrypto hostIdentity = .ok pairing)
    (authorization : AuthorizationState) (actions later : List PairingAction)
    (a : PairingAction) :
    SnapshotContract setting.crypto.toCrypto
        ((checkedMachine setting).run ⟨pairing, authorization⟩ actions).pairing ∧
      Advances ((checkedMachine setting).run ⟨pairing, authorization⟩ actions).pairing
        ((checkedMachine setting).run ⟨pairing, authorization⟩ (actions ++ later)).pairing ∧
      ∃ output, checkedStep setting
          ((checkedMachine setting).run ⟨pairing, authorization⟩ actions) a =
        ((step setting ((checkedMachine setting).run ⟨pairing, authorization⟩ actions) a).1,
          some output) := by
  have hconsistent := (checkedRun_publishes setting (s := ⟨pairing, authorization⟩)
    (consistent_withRandom hnew) actions).consistent (consistent_withRandom hnew)
  refine ⟨hconsistent.contract, ?_, _, checkedStep_eq setting hconsistent a⟩
  rw [Machine.run_append]
  exact (checkedRun_publishes setting hconsistent later).advances

/-- The sample Host at the end of the sample exchange. -/
def sampleAsking : PairingHost :=
  (checkedMachine setting).run ⟨coordinator, host.authorization⟩ actions

/-- The sample Host asks about the controller of its attempt. -/
theorem pairing_snapshot_invariant_sample :
    sampleAsking.pairing.status.state = .waitingLocalDecision ∧
    ∃ active controller, sampleAsking.pairing.active = some active ∧
      active.controller = some controller ∧
      sampleAsking.pairing.status.pendingController = some controller := by
  have hnew : HostPairingCoordinator.withRandom setting.crypto.toCrypto
      sampleHostIdentity = .ok coordinator := by decide +kernel
  have hstate : sampleAsking.pairing.status.state = .waitingLocalDecision := by decide +kernel
  obtain ⟨hcontract, -⟩ := pairing_snapshot_invariant setting hnew
    host.authorization actions [] .shutdown
  rw [← sampleAsking] at hcontract
  obtain ⟨active, controller, hactive, hcontroller, hpending, -⟩ := hcontract.decision hstate
  exact ⟨hstate, active, controller, hactive, hcontroller, hpending⟩

end PairingHost

end Host

end Roammand
