import Roammand.Host.Pairing

/-!
# What an action does to the pairing state

Every action of the coordinator is inverted once: for the part of the state that
decides about the attempt, the queue and the journal, `Effect` lists all that an action
can do, with the checks it has passed.  An action that carries a time first lets the
attempt run out.  Acceptance also writes a grant and has its own list, `AcceptEffect`.

Main results:

- Definitions `Effect` and `AcceptEffect`.
- Theorem `step_effect`: an action other than acceptance has one of these effects and
  writes no grant.
- Theorem `accept_effect`: acceptance has one of its effects.
-/

namespace Roammand

namespace Host

open Library Protocol Fallible PairingCore Option

/-! ## Changes of the pairing state -/

namespace PairingCore

/-- No attempt any more; its rendezvous is remembered. -/
def ended (c : PairingCore) : PairingCore :=
  { c with
    active := none
    terminalRendezvousId :=
      (c.active.map fun active => active.invitation.rendezvousId).or c.terminalRendezvousId }

/-- More in the queue. -/
def queue (items : List PairingOutbound) (c : PairingCore) : PairingCore :=
  { c with outbound := c.outbound ++ items }

/-- More in the journal. -/
def logged (uses : List CipherUse) (c : PairingCore) : PairingCore :=
  { c with journal := c.journal ++ uses }

/-- A rendezvous that is being created is remembered, an open one is completed. -/
def abandon (active : ActivePairing) (c : PairingCore) : PairingCore :=
  if active.phase = .creating then
    { c with pendingCancelledCreate := some active.invitation.rendezvousId }
  else c.queue [.complete active.invitation.rendezvousId .rejected]

/-- The attempt ends when its time is over. -/
def tick (nowUnixMs : UInt64) (c : PairingCore) : PairingCore :=
  match c.active with
  | none => c
  | some active =>
    if nowUnixMs < active.invitation.expiresAtUnixMs then c else (c.abandon active).ended

/-- The attempt ends after an error. -/
def failActive (c : PairingCore) : PairingCore :=
  (match c.active with
  | none => c
  | some active =>
    if active.phase = ActivePhase.creating then c
    else c.queue [.complete active.invitation.rendezvousId .rejected]).ended

/-- Queueing nothing changes nothing. -/
@[simp]
theorem queue_nil (c : PairingCore) : c.queue [] = c := by simp [queue]

/-- Recording nothing changes nothing. -/
@[simp]
theorem logged_nil (c : PairingCore) : c.logged [] = c := by simp [logged]

/-- What is recorded in two parts is recorded in order. -/
theorem logged_logged (c : PairingCore) (uses uses' : List CipherUse) :
    (c.logged uses).logged uses' = c.logged (uses ++ uses') := by simp [logged]

/-- What is queued in two parts is queued in order. -/
theorem queue_queue (c : PairingCore) (items items' : List PairingOutbound) :
    (c.queue items).queue items' = c.queue (items ++ items') := by simp [queue]

end PairingCore

namespace HostPairingCoordinator

/-- Finishing an attempt ends it; the state and the error are only shown. -/
@[simp]
theorem finish_core (state : HostPairingState) (error : Option UnifiedError)
    (c : HostPairingCoordinator) :
    (finish state error c).toPairingCore = c.toPairingCore.ended := rfl

/-- A pushed item comes last in the queue. -/
@[simp]
theorem push_core (item : PairingOutbound) (c : HostPairingCoordinator) :
    (push item c).toPairingCore = c.toPairingCore.queue [item] := rfl

/-- A recorded use comes last in the journal. -/
@[simp]
theorem record_core (use : CipherUse) (c : HostPairingCoordinator) :
    (record use c).toPairingCore = c.toPairingCore.logged [use] := rfl

/-- Only the attempt is replaced. -/
@[simp]
theorem setActive_core (active : ActivePairing) (c : HostPairingCoordinator) :
    (setActive active c).toPairingCore = { c.toPairingCore with active := some active } := rfl

/-- A publication is only shown. -/
@[simp]
theorem publishActive_core (crypto : Crypto) (state : HostPairingState)
    (c : HostPairingCoordinator) :
    (publishActive crypto state c).toPairingCore = c.toPairingCore := by
  unfold publishActive
  split
  · rfl
  · rfl

/-- Abandoning an attempt, on the core. -/
@[simp]
theorem abandon_core (active : ActivePairing) (c : HostPairingCoordinator) :
    (abandon active c).toPairingCore = c.toPairingCore.abandon active := by
  unfold abandon PairingCore.abandon
  split
  · rfl
  · rfl

/-- The passing of time, on the core. -/
@[simp]
theorem tick_core (nowUnixMs : UInt64) (c : HostPairingCoordinator) :
    (tick nowUnixMs c).toPairingCore = c.toPairingCore.tick nowUnixMs := by
  unfold tick PairingCore.tick
  cases c.active with
  | none => rfl
  | some active =>
    dsimp only
    split
    · rfl
    · rw [finish_core, abandon_core]

/-- The failure of the attempt, on the core. -/
@[simp]
theorem failActive_core (c : HostPairingCoordinator) :
    (failActive c).toPairingCore = c.toPairingCore.failActive := by
  unfold failActive PairingCore.failActive
  rw [finish_core]
  congr 1
  cases c.active with
  | none => rfl
  | some active =>
    dsimp only
    split
    · rfl
    · rfl

end HostPairingCoordinator

/-! ## What an action has checked -/

/-- A new attempt. -/
structure Fresh (crypto : PairingCrypto) (host : DeviceIdentity) (kind : PairingInvitationKind)
    (draws : PairingDraws) (active : ActivePairing) : Prop where
  phase : active.phase = .creating
  invitationKind : active.invitation.kind = kind
  known : kind = .qr ∨ kind = .desktopCode
  rendezvousId : ∃ id, draws.rendezvousId = some id ∧ active.invitation.rendezvousId = id.toList
  hostIdentity : active.invitation.hostIdentity = some host
  publicKey : active.invitation.hostEphemeralPublicKey =
    (crypto.x25519PublicKey active.hostEphemeralPrivateKey).toList
  pairingCode : (kind ≠ .desktopCode ∧ active.invitation.pairingCode = "") ∨
    ∃ random, kind = .desktopCode ∧ active.invitation.pairingCode = desktopCode random
  peerDeviceId : active.peerDeviceId = none
  controller : active.controller = none
  keys : active.keys = none

/-- The hello in an envelope has been verified. -/
structure Greets (crypto : PairingCrypto) (host : DeviceIdentity) (active : ActivePairing)
    (senderDeviceId opaqueEnvelope : Bytes) (verified : VerifiedControllerHello) : Prop where
  phase : active.phase = .waitingHello
  peerDeviceId : active.peerDeviceId = some senderDeviceId
  hello : ∃ hello,
    decodePairingMessage crypto opaqueEnvelope = .ok (.controllerHello hello) ∧
    verifyControllerHello crypto hello senderDeviceId active.invitation.rendezvousId
      host active.hostEphemeralPrivateKey.toList active.invitation.hostEphemeralPublicKey =
        .ok verified

/-- The proof that answers a verified hello. -/
def Answers (setting : PairingHost.Setting) (host : DeviceIdentity) (active : ActivePairing)
    (verified : VerifiedControllerHello) (proof : HostPairingProof) : Prop :=
  ∃ signature,
    setting.signingIdentity.signPairingTranscript setting.crypto verified.transcript .host =
      .ok signature ∧
    proof =
      { confirmation := some (HostPairingCoordinator.confirmationData verified active
          (active.invitation.hostIdentity.getD host))
        hostSignature := signature
        expiresAtUnixMs := active.invitation.expiresAtUnixMs }

/-- An envelope of the controller has been opened. -/
structure Opens (crypto : PairingCrypto) (host : DeviceIdentity) (active : ActivePairing)
    (senderDeviceId opaqueEnvelope : Bytes) (keys : PairingKeySchedule)
    (plaintext : PairingPlaintext) : Prop where
  phase : active.phase = .waitingReady
  peerDeviceId : active.peerDeviceId = some senderDeviceId
  opened : ∃ controller, active.controller = some controller ∧
    openControllerPlaintext crypto keys.controllerToHost.toList 1 active.invitation.rendezvousId
      controller.deviceId host.deviceId opaqueEnvelope = .ok plaintext
  keys : active.keys = some keys

/-- The attempt waits for a decision about this controller. -/
structure Decides (active : ActivePairing) (rendezvousId : Bytes) (controller : DeviceIdentity)
    (keys : PairingKeySchedule) : Prop where
  phase : active.phase = .waitingDecision
  rendezvousId : active.invitation.rendezvousId = rendezvousId
  controller : active.controller = some controller
  keys : active.keys = some keys

variable (active : ActivePairing)

/-- The final decision of an attempt. -/
def finalDecision (status : PairingDecisionStatus)
    (grant : Option ControllerGrant) : PairingPlaintext :=
  .finalDecision { status := status.toInt32, transcriptSha256 := active.transcriptSha256, grant }

variable (verified : VerifiedControllerHello)

/-- The record that the keys of an attempt have been derived. -/
def derivedUse : CipherUse :=
  .derived active.invitation.hostEphemeralPublicKey verified.transcript verified.keys

/-- The record that a plaintext of an attempt has been sealed. -/
def sealedUse (keys : PairingKeySchedule) (sequence : UInt64)
    (plaintext : PairingPlaintext) : CipherUse :=
  .sealed active.invitation.hostEphemeralPublicKey keys.hostToController.toList sequence plaintext

/-- The record that the confirmation of an attempt has been opened. -/
def openedUse (keys : PairingKeySchedule) (opaqueEnvelope : Bytes) :
    CipherUse :=
  .opened active.invitation.hostEphemeralPublicKey keys.controllerToHost.toList 1 .waitingReady
    opaqueEnvelope

/-- The keys that were used before an attempt failed. -/
inductive FailedUses (setting : PairingHost.Setting) (host : DeviceIdentity)
    (active : ActivePairing) : List CipherUse → Prop where
  | none : FailedUses setting host active []
  | derived {senderDeviceId opaqueEnvelope : Bytes} {verified : VerifiedControllerHello}
      (h : Greets setting.crypto host active senderDeviceId opaqueEnvelope verified) :
      FailedUses setting host active [derivedUse active verified]
  | sealed {senderDeviceId opaqueEnvelope : Bytes} {verified : VerifiedControllerHello}
      {proof : HostPairingProof}
      (h : Greets setting.crypto host active senderDeviceId opaqueEnvelope verified)
      (hproof : Answers setting host active verified proof) :
      FailedUses setting host active
        [derivedUse active verified, sealedUse active verified.keys 1 (.hostProof proof)]
  | opened {senderDeviceId opaqueEnvelope : Bytes} {keys : PairingKeySchedule}
      {plaintext : PairingPlaintext}
      (h : Opens setting.crypto host active senderDeviceId opaqueEnvelope keys plaintext) :
      FailedUses setting host active [openedUse active keys opaqueEnvelope]

/-- The attempt after its rendezvous has been created. -/
def ActivePairing.invite (serverExpiresAtUnixMs : UInt64) :
    ActivePairing :=
  { active with
    serverExpiresAtUnixMs
    invitation := { active.invitation with
      expiresAtUnixMs := min active.invitation.expiresAtUnixMs serverExpiresAtUnixMs }
    phase := .inviting }

/-- The attempt after a peer has joined. -/
def ActivePairing.join (peerDeviceId : Bytes) : ActivePairing :=
  { active with peerDeviceId := some peerDeviceId, phase := .waitingHello }

/-- The invitation that a desktop pairing relays to its peer. -/
def ActivePairing.invitationItems : List PairingOutbound :=
  if active.invitation.kind = .desktopCode then
    [.relay active.invitation.rendezvousId (PairingMessage.encode
      (.hostInvitation active.invitation))]
  else []

/-- The attempt after a verified hello. -/
def ActivePairing.greet (sasWords : List String) : ActivePairing :=
  { active with
    controller := some verified.controller
    controllerEphemeralPublicKey := verified.controllerEphemeralPublicKey
    transcriptSha256 := verified.transcriptSha256.toList
    keys := some verified.keys
    sasWords
    phase := .waitingReady }

/-- An event that fails the attempt. -/
def SignalingEvent.failsPairing : SignalingEvent → Bool
  | .routedPairing _ _ _ | .remoteError _ _ => true
  | _ => false

/-! ## Effects -/

/-- All that an action other than acceptance can do, from the state in which its time
has been looked at. -/
inductive Effect (setting : PairingHost.Setting) (c : PairingCore) :
    PairingAction → PairingCore → Prop where
  | refused (a : PairingAction) : Effect setting c a c
  | connected : Effect setting c .signalingConnected { c with signalingConnected := true }
  | lost : Effect setting c .signalingLost
      { c.ended with signalingConnected := false, pendingCancelledCreate := none }
  | stopped : Effect setting c .shutdown
      { c.ended with signalingConnected := false, pendingCancelledCreate := none, outbound := [] }
  | flushed : Effect setting c .takeOutbound { c with outbound := [] }
  | forgot (hnone : c.active = none) :
      Effect setting c .returnToIdle { c with terminalRendezvousId := none }
  | startFailed {kind : PairingInvitationKind} {signalingEndpoint : String}
      {nowUnixMs : UInt64} {draws : PairingDraws} (hnone : c.active = none) :
      Effect setting c (.start kind signalingEndpoint nowUnixMs draws)
        { c with terminalRendezvousId := none }
  | started {kind : PairingInvitationKind} {signalingEndpoint : String} {nowUnixMs : UInt64}
      {draws : PairingDraws} {active : ActivePairing}
      (hconnected : c.signalingConnected = true) (hnone : c.active = none)
      (hfresh : Fresh setting.crypto c.hostIdentity kind draws active) :
      Effect setting c (.start kind signalingEndpoint nowUnixMs draws)
        (({ c with active := some active, terminalRendezvousId := none }.logged
          [.drew active.invitation.hostEphemeralPublicKey]).queue
          [.create active.invitation.rendezvousId (signalingKind kind)
            active.invitation.pairingCode])
  | cancelled {active : ActivePairing} (hactive : c.active = some active) :
      Effect setting c (.cancel active.invitation.rendezvousId) (c.abandon active).ended
  | createdLate {rendezvousId : Bytes} {kind : PairingRendezvousKind}
      {expiresAtUnixMs nowUnixMs : UInt64} (hnone : c.active = none)
      (hpending : c.pendingCancelledCreate = some rendezvousId) :
      Effect setting c (.event (.pairingCreated rendezvousId kind expiresAtUnixMs) nowUnixMs)
        ({ c with pendingCancelledCreate := none }.queue [.complete rendezvousId .rejected])
  | created {active : ActivePairing} {expiresAtUnixMs nowUnixMs : UInt64}
      (hactive : c.active = some active) (hphase : active.phase = .creating)
      (hexpires : nowUnixMs < expiresAtUnixMs) :
      Effect setting c
        (.event (.pairingCreated active.invitation.rendezvousId
          (signalingKind active.invitation.kind) expiresAtUnixMs) nowUnixMs)
        { c with active := some (active.invite expiresAtUnixMs) }
  | joined {active : ActivePairing} {peerDeviceId : Bytes} {nowUnixMs : UInt64}
      (hactive : c.active = some active) (hphase : active.phase = .inviting)
      (hpeer : peerDeviceId ≠ c.hostIdentity.deviceId) :
      Effect setting c
        (.event (.pairingJoined active.invitation.rendezvousId peerDeviceId
          active.serverExpiresAtUnixMs) nowUnixMs)
        ({ c with active := some (active.join peerDeviceId) }.queue active.invitationItems)
  | greeted {active : ActivePairing} {senderDeviceId opaqueEnvelope encrypted : Bytes}
      {verified : VerifiedControllerHello} {proof : HostPairingProof} {sasWords : List String}
      {nowUnixMs : UInt64} (hactive : c.active = some active)
      (hgreets : Greets setting.crypto c.hostIdentity active senderDeviceId opaqueEnvelope
        verified)
      (hproof : Answers setting c.hostIdentity active verified proof)
      (hsealed : sealHostPlaintext setting.crypto verified.keys.hostToController.toList 1
        active.invitation.rendezvousId verified.controller.deviceId c.hostIdentity.deviceId
        (.hostProof proof) = .ok encrypted)
      (hwords : HostPairingCoordinator.sasWordsFor setting.crypto active.invitation.kind
        verified.transcriptSha256.toList = .ok sasWords) :
      Effect setting c
        (.event (.routedPairing active.invitation.rendezvousId senderDeviceId opaqueEnvelope)
          nowUnixMs)
        (({ c with active := some (active.greet verified sasWords) }.logged
          [derivedUse active verified, sealedUse active verified.keys 1 (.hostProof proof)]).queue
          [.relay active.invitation.rendezvousId encrypted])
  | confirmed {active : ActivePairing} {senderDeviceId opaqueEnvelope : Bytes}
      {keys : PairingKeySchedule} {nowUnixMs : UInt64} (hactive : c.active = some active)
      (hopens : Opens setting.crypto c.hostIdentity active senderDeviceId opaqueEnvelope keys
        (.controllerReady { transcriptSha256 := active.transcriptSha256 })) :
      Effect setting c
        (.event (.routedPairing active.invitation.rendezvousId senderDeviceId opaqueEnvelope)
          nowUnixMs)
        ({ c with active := some { active with phase := .waitingDecision } }.logged
          [openedUse active keys opaqueEnvelope])
  | failed {active : ActivePairing} {event : SignalingEvent} {nowUnixMs : UInt64}
      {uses : List CipherUse} (hactive : c.active = some active)
      (hevent : event.failsPairing = true)
      (huses : FailedUses setting c.hostIdentity active uses) :
      Effect setting c (.event event nowUnixMs) (c.logged uses).failActive
  | closed {active : ActivePairing} {completion : PairingRendezvousCompletion}
      {nowUnixMs : UInt64} (hactive : c.active = some active) :
      Effect setting c
        (.event (.pairingClosed active.invitation.rendezvousId completion) nowUnixMs) c.ended
  | rejected {active : ActivePairing} {rendezvousId encrypted : Bytes}
      {controller : DeviceIdentity} {keys : PairingKeySchedule} {nowUnixMs : UInt64}
      (hactive : c.active = some active)
      (hdecides : Decides active rendezvousId controller keys)
      (hsealed : sealHostPlaintext setting.crypto keys.hostToController.toList 2 rendezvousId
        controller.deviceId c.hostIdentity.deviceId (finalDecision active .rejected none) =
          .ok encrypted) :
      Effect setting c (.reject rendezvousId controller.deviceId nowUnixMs)
        ((c.logged [sealedUse active keys 2 (finalDecision active .rejected none)]).queue
          [.relay rendezvousId encrypted, .complete rendezvousId .rejected]).ended
  | rejectFailed {active : ActivePairing} {rendezvousId : Bytes}
      {controller : DeviceIdentity} {keys : PairingKeySchedule} {nowUnixMs : UInt64}
      {error : HostPairingCryptoError} (hactive : c.active = some active)
      (hdecides : Decides active rendezvousId controller keys)
      (hsealed : sealHostPlaintext setting.crypto keys.hostToController.toList 2 rendezvousId
        controller.deviceId c.hostIdentity.deviceId (finalDecision active .rejected none) =
          .error error) :
      Effect setting c (.reject rendezvousId controller.deviceId nowUnixMs)
        (c.logged [sealedUse active keys 2 (finalDecision active .rejected none)])

/-- The time an action carries, at which the attempt may run out. -/
def PairingAction.time? : PairingAction → Option UInt64
  | .tick nowUnixMs | .event _ nowUnixMs | .accept _ _ nowUnixMs _ _ | .reject _ _ nowUnixMs =>
    some nowUnixMs
  | _ => none

/-- The state in which an action acts. -/
def PairingCore.atTime (a : PairingAction) (c : PairingCore) : PairingCore :=
  match a.time? with
  | some nowUnixMs => c.tick nowUnixMs
  | none => c

/-! ## The operations have these effects -/

namespace HostPairingCoordinator

variable {setting : PairingHost.Setting} {c : HostPairingCoordinator}

/-- Without an attempt, the ended rendezvous is forgotten; with one, nothing changes. -/
theorem returnToIdle_effect :
    wp returnToIdle (fun r c' =>
      (r = .ok () ∧ c.active = none ∧
        c'.toPairingCore = { c.toPairingCore with terminalRendezvousId := none }) ∨
      ((∃ e, r = .error e) ∧ c' = c)) c := by
  simp only [returnToIdle, wp_bind, wp_get, andThen_ok, wp_require, wp_modify]
  refine ⟨fun hidle => .inl ⟨trivial, ?_, trivial⟩, fun _ => .inr ⟨⟨_, rfl⟩, rfl⟩⟩
  rw [not_or, Bool.not_eq_true, isSome_eq_false_iff, isNone_iff_eq_none] at hidle
  exact hidle.1

/-- A private key of the right length has a public key. -/
theorem x25519PublicKey_toList (crypto : PairingCrypto) (privateKey : Vector UInt8 32) :
    x25519PublicKey crypto privateKey.toList = .ok (crypto.x25519PublicKey privateKey) := by
  unfold x25519PublicKey
  rw [toArray?_eq_some.mpr rfl]
  rfl

/-- A code is drawn for a desktop pairing only. -/
theorem drawDesktopCode_ok {kind : PairingInvitationKind} {draws : PairingDraws} :
    wp (drawDesktopCode kind draws) (fun r c' => c' = c ∧ ∀ code, r = .ok code →
      (kind ≠ .desktopCode ∧ code = "") ∨
        ∃ random, kind = .desktopCode ∧ code = desktopCode random) c := by
  unfold drawDesktopCode
  by_cases hkind : kind = .desktopCode
  · simp only [if_pos hkind, wp_bind, wp_orThrow, andThen_ok, andThen_error, wp_pure]
    refine ⟨fun random _ => ⟨trivial, fun code hcode => ?_⟩,
      fun _ => ⟨trivial, fun code hcode => ?_⟩⟩
    · cases hcode
      exact .inr ⟨random, hkind, rfl⟩
    · cases hcode
  · simp only [if_neg hkind, wp_pure]
    refine ⟨trivial, fun code hcode => ?_⟩
    cases hcode
    exact .inl ⟨hkind, rfl⟩

/-- What is known of the state while a new attempt is prepared. -/
def Preparing (c c' : HostPairingCoordinator) : Prop :=
  c'.toPairingCore = c.toPairingCore ∨
    c'.toPairingCore = { c.toPairingCore with terminalRendezvousId := none }

/-- A step before the attempt is made may only tell that time has passed. -/
theorem Preparing.effect {c' : HostPairingCoordinator} {kind : PairingInvitationKind}
    {signalingEndpoint : String} {nowUnixMs : UInt64} {draws : PairingDraws} {succeeds : Prop}
    (h : Preparing c c') (hnone : c.active = none) :
    Effect setting c.toPairingCore (.start kind signalingEndpoint nowUnixMs draws)
      c'.toPairingCore ∧ (succeeds ∨ c'.toPairingCore.active = c.active) := by
  rcases h with h | h
  · rw [h]
    exact ⟨.refused _, .inr rfl⟩
  · rw [h]
    exact ⟨.startFailed hnone, .inr rfl⟩

/-- A new attempt replaces all that the preparation has changed. -/
theorem Preparing.withActive {c' : HostPairingCoordinator} (h : Preparing c c')
    (active : ActivePairing) :
    { c'.toPairingCore with active := some active, terminalRendezvousId := none } =
      { c.toPairingCore with active := some active, terminalRendezvousId := none } := by
  rcases h with h | h
  · rw [h]
  · rw [h]

/-- A start that fails starts no attempt. -/
theorem start_effect (kind : PairingInvitationKind) (signalingEndpoint : String)
    (nowUnixMs : UInt64) (draws : PairingDraws) :
    wp (start setting.crypto setting.validEndpoint kind signalingEndpoint nowUnixMs draws)
      (fun r c' => Effect setting c.toPairingCore
        (.start kind signalingEndpoint nowUnixMs draws) c'.toPairingCore ∧
          ((∃ status, r = .ok status) ∨ c'.toPairingCore.active = c.active)) c := by
  rw [start, wp_get_bind, wp_bind, wp_require]
  refine ⟨fun hready => ?_, fun _ => ⟨.refused _, .inr rfl⟩⟩
  obtain ⟨hconnected, hnone⟩ := hready
  rw [andThen_ok, wp_bind]
  have hprepared : wp (onlyIf (c.status.state ≠ .idle) returnToIdle)
      (fun r c' => Preparing c c') c := by
    rw [wp_onlyIf]
    refine ⟨fun _ => wp_mono returnToIdle_effect ?_, fun _ => .inl rfl⟩
    rintro r c' (⟨-, -, h⟩ | ⟨-, rfl⟩)
    · exact .inr h
    · exact .inl rfl
  refine wp_mono hprepared ?_
  intro r c₁ hc₁
  rcases r with e | ⟨⟩
  · exact hc₁.effect hnone
  rw [andThen_ok, wp_bind, wp_require]
  refine ⟨fun hvalid => ?_, fun _ => hc₁.effect hnone⟩
  rw [andThen_ok, wp_bind, wp_orThrow]
  refine ⟨fun expires _ => ?_, fun _ => hc₁.effect hnone⟩
  rw [andThen_ok, wp_bind, wp_orThrow]
  refine ⟨fun id hid => ?_, fun _ => hc₁.effect hnone⟩
  rw [andThen_ok, wp_bind, wp_orThrow]
  refine ⟨fun privateKey _ => ?_, fun _ => hc₁.effect hnone⟩
  rw [andThen_ok, wp_bind, wp_ofResult, x25519PublicKey_toList, Except.mapError, andThen_ok,
    wp_bind]
  refine wp_mono drawDesktopCode_ok ?_
  rintro r c₂ ⟨rfl, hcode⟩
  rcases r with e | code
  · exact hc₁.effect hnone
  simp only [andThen_ok, wp_bind, wp_modify, wp_get, wp_pure, publishActive_core, push_core,
    record_core]
  rw [hc₁.withActive]
  exact ⟨.started hconnected hnone
    ⟨rfl, rfl, hvalid.1, ⟨id, hid, rfl⟩, rfl, rfl, hcode code rfl, rfl, rfl, rfl⟩, .inl ⟨_, rfl⟩⟩

variable {active : ActivePairing} (rendezvousId : Bytes)

/-- Cancelling has the effect of its action. -/
theorem cancel_effect :
    wp (cancel rendezvousId) (fun _ c' => Effect setting c.toPairingCore
      (.cancel rendezvousId) c'.toPairingCore) c := by
  simp only [cancel, wp_bind, wp_get, andThen_ok, andThen_error, wp_orThrow, wp_require,
    wp_modify, finish_core, abandon_core]
  refine ⟨fun active hactive => ⟨fun hid => ?_, fun _ => .refused _⟩, fun _ => .refused _⟩
  subst hid
  exact .cancelled hactive

/-- A created rendezvous has the effect of its event. -/
theorem handleCreated_effect (kind : PairingRendezvousKind) (expiresAtUnixMs nowUnixMs : UInt64) :
    wp (handleCreated setting.crypto rendezvousId kind expiresAtUnixMs nowUnixMs)
      (fun _ c' => Effect setting c.toPairingCore
        (.event (.pairingCreated rendezvousId kind expiresAtUnixMs) nowUnixMs)
        c'.toPairingCore) c := by
  simp only [handleCreated, wp_bind, wp_get, andThen_ok, andThen_error, wp_ite, wp_orThrow,
    wp_require, wp_modify, publishActive_core, setActive_core, push_core]
  refine ⟨fun hlate => .createdLate hlate.1 hlate.2, fun _ => ⟨fun active hactive =>
    ⟨fun hcheck => ?_, fun _ => .refused _⟩, fun _ => .refused _⟩⟩
  simp only [not_or, not_not] at hcheck
  obtain ⟨hphase, rfl, rfl, hexpires⟩ := hcheck
  exact .created hactive hphase (UInt64.not_le.mp hexpires)

/-- A joined peer has the effect of its event. -/
theorem handleJoined_effect (rendezvousId peerDeviceId : Bytes)
    (expiresAtUnixMs nowUnixMs : UInt64) :
    wp (handleJoined setting.crypto rendezvousId peerDeviceId expiresAtUnixMs nowUnixMs)
      (fun _ c' => Effect setting c.toPairingCore
        (.event (.pairingJoined rendezvousId peerDeviceId expiresAtUnixMs) nowUnixMs)
        c'.toPairingCore) c := by
  simp only [handleJoined, wp_bind, wp_get, andThen_ok, andThen_error, wp_orThrow, wp_require,
    wp_modify, wp_onlyIf, publishActive_core, setActive_core, push_core]
  refine ⟨fun active hactive => ⟨fun hcheck => ?_, fun _ => .refused _⟩, fun _ => .refused _⟩
  simp only [not_or, not_not] at hcheck
  obtain ⟨hphase, rfl, rfl, -, hpeer⟩ := hcheck
  have hjoined : Effect setting c.toPairingCore (.event (.pairingJoined _ peerDeviceId _)
      nowUnixMs) _ := .joined hactive hphase hpeer
  refine ⟨fun hkind => ?_, fun hkind => ?_⟩
  · rwa [ActivePairing.invitationItems, if_pos hkind] at hjoined
  · rwa [ActivePairing.invitationItems, if_neg hkind, queue_nil] at hjoined

/-- The loss of the connection ends the attempt. -/
theorem signalingLost_core :
    (signalingLost c).toPairingCore = { c.toPairingCore.ended with
      signalingConnected := false, pendingCancelledCreate := none } := by
  unfold signalingLost
  cases hactive : c.active with
  | none => simp [ended, hactive]
  | some active => simp [ended, finish, hactive]

/-- So does a shutdown. -/
theorem shutdown_core :
    (shutdown c).toPairingCore = { c.toPairingCore.ended with
      signalingConnected := false, pendingCancelledCreate := none, outbound := [] } := by
  unfold shutdown
  cases hactive : c.active with
  | none => simp [ended, hactive]
  | some active => simp [ended, finish, hactive]

/-- A closed rendezvous has the effect of its event. -/
theorem handleClosed_effect (completion : PairingRendezvousCompletion) (nowUnixMs : UInt64) :
    wp (handleClosed rendezvousId completion)
      (fun _ c' => Effect setting c.toPairingCore
        (.event (.pairingClosed rendezvousId completion) nowUnixMs) c'.toPairingCore) c := by
  simp only [handleClosed, wp_bind, wp_get, andThen_ok, andThen_error, wp_ite, wp_pure,
    wp_orThrow, wp_require, wp_modify, finish_core]
  refine ⟨fun _ => .refused _, fun _ => ⟨fun active hactive => ⟨fun hid => ?_,
    fun _ => .refused _⟩, fun _ => .refused _⟩⟩
  subst hid
  exact .closed hactive

/-- How handling bytes of the peer ends: with an effect, or with an error after some keys
may have been used. -/
def RoutedOutcome (setting : PairingHost.Setting) (c : HostPairingCoordinator)
    (active : ActivePairing) (a : PairingAction) :
    Except PairingCoordinatorError Unit → HostPairingCoordinator → Prop
  | .ok (), c' => Effect setting c.toPairingCore a c'.toPairingCore
  | .error _, c' => ∃ uses, FailedUses setting c.hostIdentity active uses ∧
      c'.toPairingCore = c.toPairingCore.logged uses

/-- An error before anything was used leaves the core as it was. -/
theorem RoutedOutcome.unused {a : PairingAction}
    {e : PairingCoordinatorError} : RoutedOutcome setting c active a (.error e) c :=
  ⟨[], .none, (logged_nil _).symm⟩

/-- A hello is refused, or answered with the sealed proof. -/
theorem handleControllerHello_outcome {hello : ControllerPairingHello}
    {senderDeviceId opaqueEnvelope : Bytes} (nowUnixMs : UInt64)
    (hactive : c.active = some active) (hphase : active.phase = .waitingHello)
    (hpeer : active.peerDeviceId = some senderDeviceId)
    (hmessage : decodePairingMessage setting.crypto opaqueEnvelope =
      .ok (.controllerHello hello)) :
    wp (handleControllerHello setting.crypto setting.signingIdentity active hello senderDeviceId)
      (RoutedOutcome setting c active (.event (.routedPairing active.invitation.rendezvousId
        senderDeviceId opaqueEnvelope) nowUnixMs)) c := by
  simp only [handleControllerHello, wp_bind, wp_get, andThen_ok, wp_ofResult]
  cases hverified : verifyControllerHello setting.crypto hello senderDeviceId
      active.invitation.rendezvousId c.hostIdentity active.hostEphemeralPrivateKey.toList
      active.invitation.hostEphemeralPublicKey with
  | error e =>
    simp only [Except.mapError, andThen_error]
    exact .unused
  | ok verified =>
  have hgreets : Greets setting.crypto c.hostIdentity active senderDeviceId opaqueEnvelope
      verified := ⟨hphase, hpeer, hello, hmessage, hverified⟩
  simp only [Except.mapError, andThen_ok, wp_bind, wp_modify, wp_ofResult]
  cases hsignature : setting.signingIdentity.signPairingTranscript setting.crypto
      verified.transcript .host with
  | error e => exact ⟨_, .derived hgreets, rfl⟩
  | ok signature =>
  have hproof : Answers setting c.hostIdentity active verified _ := ⟨signature, hsignature, rfl⟩
  simp only [andThen_ok, wp_bind, sealForController, wp_modify, wp_ofResult]
  cases hsealed : sealHostPlaintext setting.crypto verified.keys.hostToController.toList 1
      active.invitation.rendezvousId verified.controller.deviceId c.hostIdentity.deviceId
      (.hostProof
        { confirmation := some (confirmationData verified active
            (active.invitation.hostIdentity.getD c.hostIdentity))
          hostSignature := signature
          expiresAtUnixMs := active.invitation.expiresAtUnixMs }) with
  | error e => exact ⟨_, .sealed hgreets hproof, (logged_logged _ _ _)⟩
  | ok encrypted =>
  simp only [Except.mapError, andThen_ok, wp_bind, wp_ofResult]
  cases hwords : sasWordsFor setting.crypto active.invitation.kind
      verified.transcriptSha256.toList with
  | error e => exact ⟨_, .sealed hgreets hproof, (logged_logged _ _ _)⟩
  | ok words =>
  simp only [andThen_ok, wp_bind, wp_modify, RoutedOutcome, push_core, setActive_core,
    record_core, logged_logged]
  exact .greeted hactive hgreets hproof hsealed hwords

/-- A plaintext that is a confirmation. -/
theorem ready?_eq_some {plaintext : PairingPlaintext} {ready : ControllerPairingReady} :
    PairingPlaintext.ready? plaintext = some ready ↔ plaintext = .controllerReady ready := by
  cases plaintext with
  | controllerReady r => simp [PairingPlaintext.ready?]
  | hostProof p => simp [PairingPlaintext.ready?]
  | finalDecision d => simp [PairingPlaintext.ready?]
  | empty => simp [PairingPlaintext.ready?]

/-- A message that is a hello. -/
theorem hello?_eq_some {message : PairingMessage} {hello : ControllerPairingHello} :
    PairingMessage.hello? message = some hello ↔ message = .controllerHello hello := by
  cases message with
  | controllerHello h => simp [PairingMessage.hello?]
  | hostInvitation i => simp [PairingMessage.hello?]
  | encryptedEnvelope e => simp [PairingMessage.hello?]
  | other b => simp [PairingMessage.hello?]

/-- A confirmation is refused, or opened with the number that its phase expects. -/
theorem handleControllerReady_outcome {senderDeviceId opaqueEnvelope : Bytes} (nowUnixMs : UInt64)
    (hactive : c.active = some active) (hphase : active.phase = .waitingReady)
    (hpeer : active.peerDeviceId = some senderDeviceId) :
    wp (handleControllerReady setting.crypto active opaqueEnvelope)
      (RoutedOutcome setting c active (.event (.routedPairing active.invitation.rendezvousId
        senderDeviceId opaqueEnvelope) nowUnixMs)) c := by
  simp only [handleControllerReady, wp_bind, wp_get, andThen_ok, andThen_error, wp_orThrow]
  refine ⟨fun controller hcontroller => ⟨fun keys hkeys => ?_, fun _ => .unused⟩, fun _ => .unused⟩
  simp only [openFromController, wp_bind, wp_ofResult]
  cases hopened : openControllerPlaintext setting.crypto keys.controllerToHost.toList 1
      active.invitation.rendezvousId controller.deviceId c.hostIdentity.deviceId
      opaqueEnvelope with
  | error e =>
    simp only [Except.mapError, andThen_error]
    exact .unused
  | ok plaintext =>
  have hopens : Opens setting.crypto c.hostIdentity active senderDeviceId opaqueEnvelope keys
      plaintext := ⟨hphase, hpeer, ⟨controller, hcontroller, hopened⟩, hkeys⟩
  simp only [Except.mapError, andThen_ok, andThen_error, wp_bind, wp_modify, wp_pure, wp_orThrow,
    wp_require, hphase]
  refine ⟨fun ready hready => ⟨fun htranscript => ?_, fun _ => ⟨_, .opened hopens, rfl⟩⟩,
    fun _ => ⟨_, .opened hopens, rfl⟩⟩
  cases ready with
  | mk transcript =>
  cases htranscript
  rw [ready?_eq_some.mp hready] at hopens
  simp only [RoutedOutcome, publishActive_core, setActive_core, record_core]
  exact .confirmed hactive hopens

/-- Bytes of the peer are taken by the phase of the attempt. -/
theorem handleRoutedInner_outcome (hactive : c.active = some active)
    (rendezvousId senderDeviceId opaqueEnvelope : Bytes) (nowUnixMs : UInt64) :
    wp (handleRoutedInner setting.crypto setting.signingIdentity rendezvousId senderDeviceId
        opaqueEnvelope)
      (RoutedOutcome setting c active
        (.event (.routedPairing rendezvousId senderDeviceId opaqueEnvelope) nowUnixMs)) c := by
  simp only [handleRoutedInner, wp_bind, wp_get, andThen_ok, andThen_error, wp_orThrow,
    wp_require, hactive, some.injEq, forall_eq', reduceCtorEq, false_implies, and_true]
  refine ⟨fun hcheck => ?_, fun _ => .unused⟩
  obtain ⟨rfl, hpeer⟩ := hcheck
  cases hphase : active.phase with
  | waitingHello =>
    simp only [wp_bind, wp_ofResult]
    cases hmessage : decodePairingMessage setting.crypto opaqueEnvelope with
    | error e =>
      simp only [Except.mapError, andThen_error]
      exact .unused
    | ok message =>
    simp only [Except.mapError, andThen_ok, andThen_error, wp_bind, wp_orThrow]
    refine ⟨fun hello hhello => ?_, fun _ => .unused⟩
    rw [hello?_eq_some.mp hhello] at hmessage
    exact handleControllerHello_outcome nowUnixMs hactive hphase hpeer hmessage
  | waitingReady => exact handleControllerReady_outcome nowUnixMs hactive hphase hpeer
  | creating => exact .unused
  | inviting => exact .unused
  | waitingDecision => exact .unused

/-- Bytes of the peer have the effect of their event; an error fails the attempt. -/
theorem handleRouted_effect (rendezvousId senderDeviceId opaqueEnvelope : Bytes)
    (nowUnixMs : UInt64) :
    wp (handleRouted setting.crypto setting.signingIdentity rendezvousId senderDeviceId
        opaqueEnvelope)
      (fun _ c' => Effect setting c.toPairingCore
        (.event (.routedPairing rendezvousId senderDeviceId opaqueEnvelope) nowUnixMs)
        c'.toPairingCore) c := by
  simp only [handleRouted, wp_bind, wp_outcome]
  cases hactive : c.active with
  | none =>
    have hnone : wp (handleRoutedInner setting.crypto setting.signingIdentity rendezvousId
        senderDeviceId opaqueEnvelope) (fun r c' => (∃ e, r = .error e) ∧ c' = c) c := by
      simp [handleRoutedInner, hactive]
    refine wp_mono hnone ?_
    rintro r c' ⟨⟨e, rfl⟩, rfl⟩
    simp only [wp_bind, wp_get, andThen_ok, wp_onlyIf, hactive, isSome_none,
      Bool.false_eq_true, false_implies, wp_throw, true_and, not_false_eq_true, forall_const]
    exact .refused _
  | some active =>
    refine wp_mono (handleRoutedInner_outcome hactive rendezvousId senderDeviceId
      opaqueEnvelope nowUnixMs) ?_
    intro r c' h
    cases r with
    | ok u => exact h
    | error e =>
      obtain ⟨uses, huses, hcore⟩ := h
      have hsome : c'.active = some active := by
        rw [hcore]
        exact hactive
      simp only [wp_bind, wp_get, andThen_ok, wp_onlyIf, wp_modify, wp_throw, failActive_core]
      refine ⟨fun _ => ?_, fun hnone => absurd (by rw [hsome]; rfl) hnone⟩
      rw [hcore]
      exact .failed hactive rfl huses

/-- The attempt that waits for a decision, after its time has been looked at. -/
theorem ensureWaitingDecision_ok (rendezvousId controllerDeviceId : Bytes) (nowUnixMs : UInt64) :
    wp (ensureWaitingDecision rendezvousId controllerDeviceId nowUnixMs) (fun r c' =>
      c'.toPairingCore = c.toPairingCore.tick nowUnixMs ∧ ∀ active, r = .ok active →
        c'.active = some active ∧ active.phase = .waitingDecision ∧
        active.invitation.rendezvousId = rendezvousId ∧
        active.controller.map (·.deviceId) = some controllerDeviceId) c := by
  simp only [ensureWaitingDecision, wp_bind, wp_modify, wp_get, andThen_ok, andThen_error,
    wp_orThrow, wp_require, wp_pure, tick_core]
  refine ⟨fun active hactive => ⟨fun hwaiting => ⟨trivial, fun a ha => ?_⟩,
    fun _ => ⟨trivial, fun a ha => ?_⟩⟩, fun _ => ⟨trivial, fun a ha => ?_⟩⟩
  · obtain rfl : active = a := Except.ok.inj ha
    exact ⟨hactive, hwaiting⟩
  · cases ha
  · cases ha

/-- Sealing a decision of the attempt under way. -/
theorem encryptFinalDecision_ok (hactive : c.active = some active)
    (status : PairingDecisionStatus) (grant : Option ControllerGrant) :
    wp (encryptFinalDecision setting.crypto status grant) (fun r c' =>
      (active.controller = none ∨ active.keys = none) ∧ c' = c ∧ r = .error .invalidState ∨
      ∃ controller keys, active.controller = some controller ∧ active.keys = some keys ∧
        c' = record (sealedUse active keys 2 (finalDecision active status grant)) c ∧
        r = (sealHostPlaintext setting.crypto keys.hostToController.toList 2
          active.invitation.rendezvousId controller.deviceId c.hostIdentity.deviceId
          (finalDecision active status grant)).mapError fun _ => .authentication) c := by
  simp only [encryptFinalDecision, wp_bind, wp_get, andThen_ok, andThen_error, wp_orThrow, hactive,
    some.injEq, forall_eq', reduceCtorEq, false_implies, and_true, sealForController,
    wp_modify, wp_ofResult]
  refine ⟨fun controller hcontroller => ⟨fun keys hkeys => .inr ?_, fun hkeys => .inl ?_⟩,
    fun hcontroller => .inl ?_⟩
  · exact ⟨controller, keys, hcontroller, hkeys, rfl, rfl⟩
  · exact .inr hkeys
  · exact .inl hcontroller

/-- A rejection has the effect of its action, after the time has passed. -/
theorem reject_effect (rendezvousId controllerDeviceId : Bytes) (nowUnixMs : UInt64) :
    wp (reject setting.crypto rendezvousId controllerDeviceId nowUnixMs)
      (fun _ c' => Effect setting (c.toPairingCore.tick nowUnixMs)
        (.reject rendezvousId controllerDeviceId nowUnixMs) c'.toPairingCore) c := by
  simp only [reject, wp_bind]
  refine wp_mono (ensureWaitingDecision_ok rendezvousId controllerDeviceId nowUnixMs) ?_
  rintro (e | active) c₁ ⟨hcore, hwaiting⟩
  · rw [andThen_error, hcore]
    exact .refused _
  obtain ⟨hactive, hphase, rfl, hcontroller⟩ := hwaiting active rfl
  rw [← hcore, andThen_ok, wp_bind]
  refine wp_mono (encryptFinalDecision_ok hactive .rejected none) ?_
  rintro r c₂ (⟨-, rfl, rfl⟩ | ⟨controller, keys, hsome, hkeys, rfl, rfl⟩)
  · exact .refused _
  rw [hsome, map_some, some.injEq] at hcontroller
  subst hcontroller
  have hdecides : Decides active active.invitation.rendezvousId controller keys :=
    ⟨hphase, rfl, hsome, hkeys⟩
  cases hsealed : sealHostPlaintext setting.crypto keys.hostToController.toList 2
      active.invitation.rendezvousId controller.deviceId c₁.hostIdentity.deviceId
      (finalDecision active .rejected none) with
  | error e => exact .rejectFailed hactive hdecides hsealed
  | ok encrypted =>
    simp only [Except.mapError, andThen_ok, wp_bind, wp_modify, finish_core, push_core,
      record_core, queue_queue]
    exact .rejected hactive hdecides hsealed

/-- So has every event of the service. -/
theorem handleSignalingEvent_effect (event : SignalingEvent) (nowUnixMs : UInt64) :
    wp (handleSignalingEvent setting.crypto setting.signingIdentity event nowUnixMs)
      (fun _ c' => Effect setting (c.toPairingCore.tick nowUnixMs) (.event event nowUnixMs)
        c'.toPairingCore) c := by
  simp only [handleSignalingEvent, wp_bind, wp_modify, andThen_ok]
  rw [← tick_core]
  cases event with
  | pairingCreated rendezvousId kind expires => exact handleCreated_effect _ _ _ _
  | pairingJoined rendezvousId peer expires => exact handleJoined_effect _ _ _ _
  | routedPairing rendezvousId sender envelope => exact handleRouted_effect _ _ _ _
  | pairingClosed rendezvousId completion => exact handleClosed_effect _ _ _
  | remoteError code retryable =>
    simp only [wp_bind, wp_get, andThen_ok, wp_ite, wp_modify, wp_throw, failActive_core]
    refine ⟨fun hsome => ?_, fun _ => .refused _⟩
    obtain ⟨active, hactive⟩ := isSome_iff_exists.mp hsome
    have hfailed : Effect setting (tick nowUnixMs c).toPairingCore
        (.event (.remoteError code retryable) nowUnixMs) _ := .failed hactive rfl .none
    rwa [logged_nil] at hfailed
  | registered expires => exact .refused _
  | heartbeatAcknowledged time expires => exact .refused _
  | routedSession sender envelope => exact .refused _

end HostPairingCoordinator

/-! ## Acceptance -/

/-- All that acceptance can do, from the state in which its time has been looked at. -/
inductive AcceptEffect (setting : PairingHost.Setting) (c : PairingCore)
    (authorization : AuthorizationState) (rendezvousId controllerDeviceId : Bytes)
    (nowUnixMs : UInt64) (faults : FileFaults) (random : Nat → Option (Vector UInt8 16)) :
    Except PairingCoordinatorError Unit → PairingCore → AuthorizationState → Prop where
  | refused (error : PairingCoordinatorError) :
      AcceptEffect setting c authorization rendezvousId controllerDeviceId nowUnixMs faults
        random (.error error) c authorization
  | grantFailed {active : ActivePairing} {controller : DeviceIdentity}
      {error : AuthorizationError} {registry : AuthorizationRegistry} {file : Option Bytes}
      (hactive : c.active = some active) (hphase : active.phase = .waitingDecision)
      (hgrant : authorization.registry.createControllerGrant setting.crypto.toCrypto faults
        authorization.file controller viewAndControlPermissions nowUnixMs random =
          ((registry, file), .error error)) :
      AcceptEffect setting c authorization rendezvousId controllerDeviceId nowUnixMs faults
        random (.error (.authorization error)) c.failActive { registry, file }
  | unanswered {active : ActivePairing} {controller : DeviceIdentity}
      {view : ControllerGrantView} {registry : AuthorizationRegistry} {file : Option Bytes}
      {c' : PairingCore} {error : PairingCoordinatorError}
      (hactive : c.active = some active) (hphase : active.phase = .waitingDecision)
      (hcontroller : active.controller = some controller)
      (hgrant : authorization.registry.createControllerGrant setting.crypto.toCrypto faults
        authorization.file controller viewAndControlPermissions nowUnixMs random =
          ((registry, file), .ok view))
      (hcause : (view.grant = none ∧ c' = c) ∨ (active.keys = none ∧ c' = c) ∨
        ∃ keys grant error, Decides active active.invitation.rendezvousId controller keys ∧
          view.grant = some grant ∧
          sealHostPlaintext setting.crypto keys.hostToController.toList 2
            active.invitation.rendezvousId controller.deviceId c.hostIdentity.deviceId
            (finalDecision active .accepted (some grant)) = .error error ∧
          c' = c.logged [sealedUse active keys 2 (finalDecision active .accepted (some grant))]) :
      AcceptEffect setting c authorization rendezvousId controllerDeviceId nowUnixMs faults
        random (.error error) c' { registry, file }
  | accepted {active : ActivePairing} {controller : DeviceIdentity} {keys : PairingKeySchedule}
      {view : ControllerGrantView} {grant : ControllerGrant} {encrypted : Bytes}
      {registry : AuthorizationRegistry} {file : Option Bytes}
      (hactive : c.active = some active)
      (hdecides : Decides active rendezvousId controller keys)
      (hid : controller.deviceId = controllerDeviceId)
      (hgrant : authorization.registry.createControllerGrant setting.crypto.toCrypto faults
        authorization.file controller viewAndControlPermissions nowUnixMs random =
          ((registry, file), .ok view))
      (hview : view.grant = some grant)
      (hsealed : sealHostPlaintext setting.crypto keys.hostToController.toList 2 rendezvousId
        controller.deviceId c.hostIdentity.deviceId
        (finalDecision active .accepted (some grant)) = .ok encrypted) :
      AcceptEffect setting c authorization rendezvousId controllerDeviceId nowUnixMs faults
        random (.ok ())
        ((c.logged [sealedUse active keys 2 (finalDecision active .accepted (some grant))]).queue
          [.relay rendezvousId encrypted, .complete rendezvousId .succeeded]).ended
        { registry, file }

namespace PairingHost

open HostPairingCoordinator

variable {setting : Setting}

/-- An operation of the coordinator leaves the grants as they are. -/
@[simp]
theorem wp_onPairing {α : Type} {m : HostPairingCoordinator.Operation α}
    {Q : Except PairingCoordinatorError α → PairingHost → Prop} {s : PairingHost} :
    wp (onPairing m) Q s ↔ wp m (fun r pairing => Q r { s with pairing }) s.pairing := Iff.rfl

variable (s : PairingHost)

/-- An acceptance seals its answer only after the grant has been stored. -/
theorem accept_effect (rendezvousId controllerDeviceId : Bytes)
    (nowUnixMs : UInt64) (faults : FileFaults) (random : Nat → Option (Vector UInt8 16)) :
    wp (accept setting.crypto rendezvousId controllerDeviceId nowUnixMs faults random)
      (fun r s' => AcceptEffect setting (s.pairing.toPairingCore.tick nowUnixMs)
        s.authorization rendezvousId controllerDeviceId nowUnixMs faults random r
        s'.pairing.toPairingCore s'.authorization) s := by
  simp only [accept, wp_bind, wp_onPairing]
  refine wp_mono (ensureWaitingDecision_ok rendezvousId controllerDeviceId nowUnixMs) ?_
  rintro (e | active) c₁ ⟨hcore, hwaiting⟩
  · rw [andThen_error, hcore]
    exact .refused e
  obtain ⟨hactive, hphase, rfl, hid⟩ := hwaiting active rfl
  rw [← hcore]
  simp only [andThen_ok, andThen_error, wp_bind, wp_orThrow]
  refine ⟨fun controller hcontroller => ?_, fun _ => .refused _⟩
  rw [hcontroller, map_some, some.injEq] at hid
  unfold createGrant wp
  obtain ⟨⟨⟨registry, file⟩, result⟩, hgrant⟩ : ∃ x, s.authorization.registry.createControllerGrant
    setting.crypto.toCrypto faults s.authorization.file controller viewAndControlPermissions
    nowUnixMs random = x := ⟨_, rfl⟩
  simp only [hgrant, andThen_ok, wp_bind]
  cases result with
  | error e =>
    simp only [grantOrFail, wp_bind, wp_onPairing, wp_modify, andThen_ok, andThen_error,
      wp_throw, failActive_core]
    exact .grantFailed hactive hphase hgrant
  | ok view =>
  simp only [grantOrFail, wp_orThrow, andThen_ok, andThen_error, wp_bind, wp_onPairing]
  refine ⟨fun grant hview => ?_, fun hview => ?_⟩
  · refine wp_mono (encryptFinalDecision_ok hactive .accepted (some grant)) ?_
    rintro r c₂ (⟨hmissing, rfl, rfl⟩ | ⟨controller', keys, hcontroller', hkeys, rfl, rfl⟩)
    · rcases hmissing with hnone | hkeys
      · rw [hcontroller] at hnone
        cases hnone
      · exact .unanswered hactive hphase hcontroller hgrant (.inr (.inl ⟨hkeys, rfl⟩))
    obtain rfl : controller = controller' := some.inj (hcontroller.symm.trans hcontroller')
    have hdecides : Decides active active.invitation.rendezvousId controller keys :=
      ⟨hphase, rfl, hcontroller, hkeys⟩
    cases hsealed : sealHostPlaintext setting.crypto keys.hostToController.toList 2
        active.invitation.rendezvousId controller.deviceId c₁.hostIdentity.deviceId
        (finalDecision active .accepted (some grant)) with
    | error e =>
      exact .unanswered hactive hphase hcontroller hgrant
        (.inr (.inr ⟨keys, grant, e, hdecides, hview, hsealed, rfl⟩))
    | ok encrypted =>
      simp only [Except.mapError, andThen_ok, wp_bind, wp_onPairing, wp_modify, finish_core,
        push_core, record_core, queue_queue]
      exact .accepted hactive hdecides hid hgrant hview hsealed
  · exact .unanswered hactive hphase hcontroller hgrant (.inl ⟨hview, rfl⟩)

/-- An action other than acceptance has one of the listed effects and writes no grant. -/
theorem step_effect {a : PairingAction}
    (ha : ∀ rendezvousId controllerDeviceId nowUnixMs faults random,
      a ≠ .accept rendezvousId controllerDeviceId nowUnixMs faults random) :
    Effect setting (s.pairing.toPairingCore.atTime a) a (step setting s a).1.pairing.toPairingCore ∧
      (step setting s a).1.authorization = s.authorization := by
  cases a with
  | signalingConnected => exact ⟨.connected, rfl⟩
  | signalingLost =>
    have h : Effect setting s.pairing.toPairingCore .signalingLost _ := .lost
    rw [← signalingLost_core] at h
    exact ⟨h, rfl⟩
  | shutdown =>
    have h : Effect setting s.pairing.toPairingCore .shutdown _ := .stopped
    rw [← shutdown_core] at h
    exact ⟨h, rfl⟩
  | takeOutbound => exact ⟨.flushed, rfl⟩
  | tick nowUnixMs =>
    have h : Effect setting (s.pairing.toPairingCore.tick nowUnixMs) (.tick nowUnixMs) _ :=
      .refused _
    nth_rewrite 2 [← tick_core] at h
    exact ⟨h, rfl⟩
  | returnToIdle =>
    have h : wp HostPairingCoordinator.returnToIdle (fun _ c' =>
        Effect setting s.pairing.toPairingCore .returnToIdle c'.toPairingCore) s.pairing := by
      refine wp_mono returnToIdle_effect ?_
      rintro r c' (⟨-, hnone, hcore⟩ | ⟨-, rfl⟩)
      · rw [hcore]
        exact .forgot hnone
      · exact .refused _
    exact ⟨h, rfl⟩
  | start kind signalingEndpoint nowUnixMs draws => exact ⟨(start_effect _ _ _ _).1, rfl⟩
  | event event nowUnixMs => exact ⟨handleSignalingEvent_effect _ _, rfl⟩
  | accept rendezvousId controllerDeviceId nowUnixMs faults random =>
    exact absurd rfl (ha _ _ _ _ _)
  | reject rendezvousId controllerDeviceId nowUnixMs => exact ⟨reject_effect _ _ _, rfl⟩
  | cancel rendezvousId => exact ⟨cancel_effect _, rfl⟩

/-- A start after which there is an attempt has succeeded. -/
theorem start_succeeds {s : PairingHost} {kind : PairingInvitationKind} {endpoint : String}
    {nowUnixMs : UInt64} {draws : PairingDraws} (hnone : s.pairing.active = none)
    (h : (step setting s (.start kind endpoint nowUnixMs draws)).1.pairing.active ≠ none) :
    (step setting s (.start kind endpoint nowUnixMs draws)).2 = .done (.ok ()) := by
  rcases (@start_effect setting s.pairing kind endpoint nowUnixMs draws).2 with
    ⟨status, hok⟩ | hsame
  · exact congrArg (fun r => PairingOutput.done (r.map fun _ => ())) hok
  · exact absurd (hsame.trans hnone) h

/-- Acceptance as an action. -/
theorem step_accept (rendezvousId controllerDeviceId : Bytes)
    (nowUnixMs : UInt64) (faults : FileFaults) (random : Nat → Option (Vector UInt8 16)) :
    ∃ r c' authorization', AcceptEffect setting (s.pairing.toPairingCore.tick nowUnixMs)
        s.authorization rendezvousId controllerDeviceId nowUnixMs faults random r c'
        authorization' ∧
      (step setting s (.accept rendezvousId controllerDeviceId nowUnixMs faults random)).2 =
        .done r ∧
      (step setting s (.accept rendezvousId controllerDeviceId nowUnixMs faults
        random)).1.pairing.toPairingCore = c' ∧
      (step setting s (.accept rendezvousId controllerDeviceId nowUnixMs faults
        random)).1.authorization = authorization' := by
  refine ⟨_, _, _, accept_effect s rendezvousId controllerDeviceId nowUnixMs faults random, ?_,
    rfl, rfl⟩
  change PairingOutput.done (Except.map (fun _ => ()) _) = _
  cases (accept setting.crypto rendezvousId controllerDeviceId nowUnixMs faults random s).1 with
  | ok u => rfl
  | error e => rfl

/-- Whether an action is acceptance. -/
theorem accept_or_not (a : PairingAction) :
    (∃ rendezvousId controllerDeviceId nowUnixMs faults random,
      a = .accept rendezvousId controllerDeviceId nowUnixMs faults random) ∨
    ∀ rendezvousId controllerDeviceId nowUnixMs faults random,
      a ≠ .accept rendezvousId controllerDeviceId nowUnixMs faults random := by
  by_cases h : ∃ rendezvousId controllerDeviceId nowUnixMs faults random,
      a = .accept rendezvousId controllerDeviceId nowUnixMs faults random
  · exact .inl h
  · push Not at h
    exact .inr h

end PairingHost

end Host

end Roammand
