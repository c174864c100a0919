import Roammand.Host.PairingCrypto
import Roammand.Host.Signaling
import Roammand.Host.StoreAgreement
import Roammand.Library.UInt
import Roammand.Library.Run

/-!
# The Host's pairing coordinator

One pairing attempt at a time: the Host opens a rendezvous, waits for a controller to
join, verifies its hello, answers with a sealed proof, waits for the sealed confirmation
and asks the user.  An attempt may end at any point by the user, by its deadline, by an
error or by the service; what has to be sent is queued and flushed by the connection.

Every use of a pairing key is recorded in a journal that the coordinator itself never
reads.

Main results:

- Definition `HostPairingCoordinator` with its operations.
- Definition `PairingHost.machine`: the coordinator with the grants it writes to, one
  input for each operation.
-/

namespace Roammand

namespace Host

open Library Protocol Fallible AuthorizationRegistry

/-- The permissions of a paired controller. -/
def viewAndControlPermissions : List SessionPermission := [.viewScreen, .controlInput]

/-- The letters of a desktop code. -/
def base32Alphabet : List Char := "ABCDEFGHIJKLMNOPQRSTUVWXYZ234567".toList

/-- Errors of the coordinator. -/
inductive PairingCoordinatorError where
  | invalidState
  | invalidInput
  | expired
  | authentication
  | authorization (error : AuthorizationError)
  | random
  deriving DecidableEq

/-- What the connection has to send. -/
inductive PairingOutbound where
  | create (rendezvousId : Bytes) (kind : PairingRendezvousKind) (pairingCode : String)
  | relay (rendezvousId opaqueEnvelope : Bytes)
  | complete (rendezvousId : Bytes) (completion : PairingRendezvousCompletion)
  deriving DecidableEq

/-- How far an attempt has come. -/
inductive ActivePhase where
  | creating
  | inviting
  | waitingHello
  | waitingReady
  | waitingDecision
  deriving DecidableEq

/-- The published state of pairing. -/
inductive HostPairingState where
  | unspecified
  | idle
  | creating
  | inviting
  | verifyingController
  | waitingLocalDecision
  | accepted
  | rejected
  | expired
  | cancelled
  | failed
  deriving DecidableEq

/-- The attempt under way. -/
structure ActivePairing where
  phase : ActivePhase
  invitation : HostPairingInvitation
  serverExpiresAtUnixMs : UInt64
  hostEphemeralPrivateKey : Vector UInt8 32
  peerDeviceId : Option Bytes
  controller : Option DeviceIdentity
  controllerEphemeralPublicKey : Bytes
  transcriptSha256 : Bytes
  keys : Option PairingKeySchedule
  sasWords : List String
  deriving DecidableEq

/-- The published snapshot. -/
structure HostPairingStatusSnapshot where
  state : HostPairingState
  revision : UInt64
  invitation : Option HostPairingInvitation
  pendingController : Option DeviceIdentity
  pendingControllerFingerprintSha256 : Bytes
  sasWords : List String
  expiresAtUnixMs : UInt64
  error : Option UnifiedError
  deriving DecidableEq

/-- A use of a pairing key.  An attempt is named by its ephemeral public key. -/
inductive CipherUse where
  /-- an attempt has drawn its ephemeral key -/
  | drew (attempt : Bytes)
  /-- its keys have been derived from this transcript -/
  | derived (attempt transcript : Bytes) (keys : PairingKeySchedule)
  /-- a plaintext has been sealed, or it was tried -/
  | sealed (attempt key : Bytes) (sequence : UInt64) (plaintext : PairingPlaintext)
  /-- an envelope has been opened in this phase, expecting this sequence number -/
  | opened (attempt key : Bytes) (sequence : UInt64) (phase : ActivePhase)
      (opaqueEnvelope : Bytes)
  deriving DecidableEq

/-- What the coordinator keeps about the attempt and the connection, and the journal. -/
structure PairingCore where
  hostIdentity : DeviceIdentity
  signalingConnected : Bool
  active : Option ActivePairing
  terminalRendezvousId : Option Bytes
  pendingCancelledCreate : Option Bytes
  outbound : List PairingOutbound
  journal : List CipherUse
  deriving DecidableEq

/-- The coordinator. -/
structure HostPairingCoordinator extends PairingCore where
  revision : UInt64
  status : HostPairingStatusSnapshot
  deriving DecidableEq

/-- The random bytes of one attempt; a draw may fail. -/
structure PairingDraws where
  rendezvousId : Option (Vector UInt8 16)
  privateKey : Option (Vector UInt8 32)
  desktopCode : Option (Vector UInt8 5)

/-- The snapshot without an attempt. -/
def idleSnapshot (revision : UInt64) : HostPairingStatusSnapshot where
  state := .idle
  revision := revision
  invitation := none
  pendingController := none
  pendingControllerFingerprintSha256 := []
  sasWords := []
  expiresAtUnixMs := 0
  error := none

/-- The error of a failed attempt. -/
def pairingFailedError : UnifiedError where
  code := .authInvalid
  messageKey := "pairing.failed"
  retryable := false
  requestId := ""

/-- The rendezvous kind of an invitation. -/
def signalingKind : PairingInvitationKind → PairingRendezvousKind
  | .qr => .qr
  | .desktopCode => .desktopCode
  | .unspecified => .unspecified

/-- The eight letters of five random bytes. -/
def desktopCode (random : Vector UInt8 5) : String :=
  let bits := ofBigEndian random.toList
  String.ofList ((List.range 8).map fun index =>
    base32Alphabet.getD (bits / 2 ^ ((7 - index) * 5) % 32) 'A')

namespace HostPairingCoordinator

/-- An operation of the coordinator. -/
abbrev Operation := Fallible HostPairingCoordinator PairingCoordinatorError

/-- The values of macOS and Windows among the platforms. -/
def isDesktopPlatform (platform : Int32) : Bool := platform = 3 ∨ platform = 4

/-- A coordinator for a valid desktop identity. -/
def withRandom (crypto : Crypto) (hostIdentity : DeviceIdentity) :
    Except PairingCoordinatorError HostPairingCoordinator := do
  (validateDeviceIdentity hostIdentity).mapError fun _ => .invalidInput
  let publicKey ← okOr (toArray? 32 hostIdentity.publicKey) .invalidInput
  ensure (hostIdentity.displayName ≠ "") .invalidInput
  let derived ← (deriveDeviceIdV1 crypto publicKey.toList).mapError fun _ => .invalidInput
  ensure (derived.toList = hostIdentity.deviceId) .invalidInput
  ensure (isDesktopPlatform hostIdentity.platform) .invalidInput
  return { hostIdentity, signalingConnected := false, revision := 0, status := idleSnapshot 0
           active := none, terminalRendezvousId := none, pendingCancelledCreate := none
           outbound := [], journal := [] }

/-- A coordinator for an identity that has been checked before. -/
def fromValidatedHost (hostIdentity : DeviceIdentity) :
    HostPairingCoordinator where
  hostIdentity := hostIdentity
  signalingConnected := false
  revision := 0
  status := idleSnapshot 0
  active := none
  terminalRendezvousId := none
  pendingCancelledCreate := none
  outbound := []
  journal := []

/-! ## Ending an attempt -/

/-- The revision after this one. -/
def nextRevision (c : HostPairingCoordinator) : UInt64 :=
  UInt64.ofNat (saturatingAdd c.revision.toNat 1)

/-- Queue something to send. -/
def push (item : PairingOutbound) (c : HostPairingCoordinator) : HostPairingCoordinator :=
  { c with outbound := c.outbound ++ [item] }

/-- Record a use of a key. -/
def record (use : CipherUse) (c : HostPairingCoordinator) : HostPairingCoordinator :=
  { c with journal := c.journal ++ [use] }

/-- End the attempt and publish how it ended. -/
def finish (state : HostPairingState) (error : Option UnifiedError)
    (c : HostPairingCoordinator) : HostPairingCoordinator :=
  { c with
    active := none
    terminalRendezvousId :=
      (c.active.map fun active => active.invitation.rendezvousId).or c.terminalRendezvousId
    revision := c.nextRevision
    status :=
      { state
        revision := c.nextRevision
        invitation := none
        pendingController := none
        pendingControllerFingerprintSha256 := []
        sasWords := []
        expiresAtUnixMs := 0
        error } }

/-- Publish the attempt under way. -/
def publishActive (crypto : Crypto) (state : HostPairingState) (c : HostPairingCoordinator) :
    HostPairingCoordinator :=
  match c.active with
  | none => c
  | some active =>
    let waiting : Bool := state = .waitingLocalDecision
    { c with
      revision := c.nextRevision
      status :=
        { state
          revision := c.nextRevision
          invitation := some active.invitation
          pendingController := if waiting then active.controller else none
          pendingControllerFingerprintSha256 :=
            if waiting then (active.controller.map fun controller =>
              (crypto.sha256 controller.publicKey).toList).getD []
            else []
          sasWords := if waiting then active.sasWords else []
          expiresAtUnixMs := active.invitation.expiresAtUnixMs
          error := none } }

/-- Give up a rendezvous: one that is being created is remembered, an open one is
completed with a rejection. -/
def abandon (active : ActivePairing) (c : HostPairingCoordinator) : HostPairingCoordinator :=
  if active.phase = .creating then
    { c with pendingCancelledCreate := some active.invitation.rendezvousId }
  else push (.complete active.invitation.rendezvousId .rejected) c

/-- End an attempt whose time is over. -/
def tick (nowUnixMs : UInt64) (c : HostPairingCoordinator) : HostPairingCoordinator :=
  match c.active with
  | none => c
  | some active =>
    if nowUnixMs < active.invitation.expiresAtUnixMs then c
    else finish .expired none (abandon active c)

/-- End an attempt after an error. -/
def failActive (c : HostPairingCoordinator) : HostPairingCoordinator :=
  finish .failed (some pairingFailedError)
    (match c.active with
    | none => c
    | some active =>
      if active.phase = .creating then c
      else push (.complete active.invitation.rendezvousId .rejected) c)

/-- The connection is ready. -/
def markSignalingConnected (c : HostPairingCoordinator) : HostPairingCoordinator :=
  { c with signalingConnected := true }

/-- The connection is gone. -/
def signalingLost (c : HostPairingCoordinator) : HostPairingCoordinator :=
  let c := { c with signalingConnected := false, pendingCancelledCreate := none }
  if c.active.isSome then finish .failed (some pairingFailedError) c else c

/-- The Host is stopping. -/
def shutdown (c : HostPairingCoordinator) : HostPairingCoordinator :=
  let c := { c with signalingConnected := false, pendingCancelledCreate := none, outbound := [] }
  if c.active.isSome then finish .cancelled none c else c

/-- Hand the queue to the connection. -/
def takeOutbound (c : HostPairingCoordinator) :
    List PairingOutbound × HostPairingCoordinator :=
  (c.outbound, { c with outbound := [] })

/-! ## Commands -/

/-- Clear the snapshot of an attempt that has ended. -/
def returnToIdle : Operation Unit := do
  let c ← get
  require (¬ (c.active.isSome ∨ c.status.state ∈ ([.idle, .creating, .inviting,
    .verifyingController, .waitingLocalDecision, .unspecified] : List HostPairingState)))
    .invalidState
  modify fun c => { c with
    terminalRendezvousId := none
    revision := c.nextRevision
    status := idleSnapshot c.nextRevision }

/-- The desktop code of an attempt, which a QR invitation does not have. -/
def drawDesktopCode (kind : PairingInvitationKind) (draws : PairingDraws) : Operation String :=
  if kind = .desktopCode then do
    let random ← orThrow draws.desktopCode .random
    return desktopCode random
  else return ""

/-- Start an attempt. -/
def start (crypto : PairingCrypto) (validEndpoint : String → Bool)
    (kind : PairingInvitationKind) (signalingEndpoint : String) (nowUnixMs : UInt64)
    (draws : PairingDraws) : Operation HostPairingStatusSnapshot := do
  let c ← get
  require (c.signalingConnected ∧ c.active = none) .invalidState
  onlyIf (c.status.state ≠ .idle) returnToIdle
  require ((kind = .qr ∨ kind = .desktopCode) ∧ validEndpoint signalingEndpoint) .invalidInput
  let expiresAtUnixMs ← orThrow
    (checkedAdd nowUnixMs.toNat pairingRendezvousLifetimeMs) .invalidInput
  let rendezvousId ← orThrow draws.rendezvousId .random
  let privateKey ← orThrow draws.privateKey .random
  let ephemeralPublicKey ←
    ofResult ((x25519PublicKey crypto privateKey.toList).mapError fun _ => .authentication)
  let pairingCode ← drawDesktopCode kind draws
  let invitation : HostPairingInvitation :=
    { protocolVersion := some { major := protocolMajorVersion, minor := 0 }
      kind
      rendezvousId := rendezvousId.toList
      hostIdentity := some c.hostIdentity
      hostPublicKeyFingerprintSha256 :=
        (publicKeyFingerprint crypto c.hostIdentity.publicKey).toList
      hostEphemeralPublicKey := ephemeralPublicKey.toList
      signalingEndpoint
      pairingCode
      issuedAtUnixMs := nowUnixMs
      expiresAtUnixMs := UInt64.ofNat expiresAtUnixMs }
  modify fun c => { c with
    active := some
      { phase := .creating, invitation, serverExpiresAtUnixMs := 0
        hostEphemeralPrivateKey := privateKey, peerDeviceId := none, controller := none
        controllerEphemeralPublicKey := [], transcriptSha256 := [], keys := none
        sasWords := [] }
    terminalRendezvousId := none }
  modify (record (.drew ephemeralPublicKey.toList))
  modify (push (.create rendezvousId.toList (signalingKind kind) pairingCode))
  modify (publishActive crypto.toCrypto .creating)
  let c ← get
  return c.status

/-- The attempt waits for exactly this decision. -/
def ensureWaitingDecision (rendezvousId controllerDeviceId : Bytes) (nowUnixMs : UInt64) :
    Operation ActivePairing := do
  modify (tick nowUnixMs)
  let c ← get
  let active ← orThrow c.active (if c.status.state = .expired then .expired else .invalidState)
  require (active.phase = .waitingDecision ∧ active.invitation.rendezvousId = rendezvousId ∧
    active.controller.map (·.deviceId) = some controllerDeviceId) .invalidState
  return active

/-- Seal a plaintext for the controller. -/
def sealForController (crypto : PairingCrypto) (active : ActivePairing) (key : Bytes)
    (sequence : UInt64) (controllerDeviceId hostDeviceId : Bytes)
    (plaintext : PairingPlaintext) : Operation Bytes := do
  modify (record (.sealed active.invitation.hostEphemeralPublicKey key sequence plaintext))
  ofResult ((sealHostPlaintext crypto key sequence active.invitation.rendezvousId
    controllerDeviceId hostDeviceId plaintext).mapError fun _ => .authentication)

/-- Open an envelope of the controller. -/
def openFromController (crypto : PairingCrypto) (active : ActivePairing) (key : Bytes)
    (sequence : UInt64) (controllerDeviceId hostDeviceId opaqueEnvelope : Bytes) :
    Operation PairingPlaintext := do
  let plaintext ← ofResult ((openControllerPlaintext crypto key sequence
    active.invitation.rendezvousId controllerDeviceId hostDeviceId opaqueEnvelope).mapError
    fun _ => .authentication)
  modify (record (.opened active.invitation.hostEphemeralPublicKey key sequence active.phase
    opaqueEnvelope))
  return plaintext

/-- The sealed final decision. -/
def encryptFinalDecision (crypto : PairingCrypto) (status : PairingDecisionStatus)
    (grant : Option ControllerGrant) : Operation Bytes := do
  let c ← get
  let active ← orThrow c.active .invalidState
  let controller ← orThrow active.controller .invalidState
  let keys ← orThrow active.keys .invalidState
  sealForController crypto active keys.hostToController.toList 2 controller.deviceId
    c.hostIdentity.deviceId
    (.finalDecision
      { status := status.toInt32, transcriptSha256 := active.transcriptSha256, grant })

/-- Reject the verified controller. -/
def reject (crypto : PairingCrypto) (rendezvousId controllerDeviceId : Bytes)
    (nowUnixMs : UInt64) : Operation Unit := do
  let _ ← ensureWaitingDecision rendezvousId controllerDeviceId nowUnixMs
  let encrypted ← encryptFinalDecision crypto .rejected none
  modify (push (.relay rendezvousId encrypted))
  modify (push (.complete rendezvousId .rejected))
  modify (finish .rejected none)

/-- Cancel the attempt. -/
def cancel (rendezvousId : Bytes) : Operation Unit := do
  let c ← get
  let active ← orThrow c.active .invalidState
  require (active.invitation.rendezvousId = rendezvousId) .invalidState
  modify (abandon active)
  modify (finish .cancelled none)

/-! ## Events of the service -/

/-- The attempt under way in the given form. -/
def setActive (active : ActivePairing) (c : HostPairingCoordinator) : HostPairingCoordinator :=
  { c with active := some active }

/-- The rendezvous has been created. -/
def handleCreated (crypto : PairingCrypto) (rendezvousId : Bytes)
    (kind : PairingRendezvousKind) (serverExpiresAtUnixMs nowUnixMs : UInt64) :
    Operation Unit := do
  let c ← get
  if c.active = none ∧ c.pendingCancelledCreate = some rendezvousId then do
    modify fun c => { c with pendingCancelledCreate := none }
    modify (push (.complete rendezvousId .rejected))
  else do
    let active ← orThrow c.active .invalidState
    require (¬ (active.phase ≠ .creating ∨ active.invitation.rendezvousId ≠ rendezvousId ∨
      signalingKind active.invitation.kind ≠ kind ∨ serverExpiresAtUnixMs ≤ nowUnixMs))
      .invalidState
    modify (setActive { active with
      serverExpiresAtUnixMs
      invitation := { active.invitation with
        expiresAtUnixMs := min active.invitation.expiresAtUnixMs serverExpiresAtUnixMs }
      phase := .inviting })
    modify (publishActive crypto.toCrypto .inviting)

/-- A peer has joined the rendezvous. -/
def handleJoined (crypto : PairingCrypto) (rendezvousId peerDeviceId : Bytes)
    (expiresAtUnixMs nowUnixMs : UInt64) : Operation Unit := do
  let c ← get
  let active ← orThrow c.active .invalidState
  require (¬ (active.phase ≠ .inviting ∨ active.invitation.rendezvousId ≠ rendezvousId ∨
    active.serverExpiresAtUnixMs ≠ expiresAtUnixMs ∨
    active.invitation.expiresAtUnixMs ≤ nowUnixMs ∨
    peerDeviceId = c.hostIdentity.deviceId)) .invalidState
  modify (setActive { active with peerDeviceId := some peerDeviceId, phase := .waitingHello })
  onlyIf (active.invitation.kind = .desktopCode)
    (modify (push (.relay rendezvousId (PairingMessage.encode
      (.hostInvitation active.invitation)))))
  modify (publishActive crypto.toCrypto .verifyingController)

/-- What both sides confirm after a verified hello. -/
def confirmationData (verified : VerifiedControllerHello) (active : ActivePairing)
    (host : DeviceIdentity) : PairingConfirmationData where
  controllerDeviceId := verified.controller.deviceId
  hostDeviceId := host.deviceId
  rendezvousId := active.invitation.rendezvousId
  controllerIdentityPublicKey := verified.controller.publicKey
  hostIdentityPublicKey := host.publicKey
  controllerEphemeralPublicKey := verified.controllerEphemeralPublicKey
  hostEphemeralPublicKey := active.invitation.hostEphemeralPublicKey
  transcriptSha256 := verified.transcriptSha256.toList

/-- The words of a desktop pairing; a QR pairing has none. -/
def sasWordsFor (crypto : PairingCrypto) (kind : PairingInvitationKind)
    (transcriptSha256 : Bytes) : Except HostPairingCryptoError (List String) :=
  if kind = .desktopCode then pairingSasWords crypto transcriptSha256 else .ok []

/-- Verify a hello and answer with the sealed proof. -/
def handleControllerHello (crypto : PairingCrypto) (signingIdentity : HostIdentity)
    (active : ActivePairing) (hello : ControllerPairingHello) (senderDeviceId : Bytes) :
    Operation Unit := do
  let c ← get
  let verified ← ofResult ((verifyControllerHello crypto hello senderDeviceId
    active.invitation.rendezvousId c.hostIdentity active.hostEphemeralPrivateKey.toList
    active.invitation.hostEphemeralPublicKey).mapError fun _ => .authentication)
  modify (record (.derived active.invitation.hostEphemeralPublicKey verified.transcript
    verified.keys))
  let signature ← ofResult ((signingIdentity.signPairingTranscript crypto verified.transcript
    .host).mapError fun _ => .authentication)
  let host := active.invitation.hostIdentity.getD c.hostIdentity
  let encrypted ← sealForController crypto active verified.keys.hostToController.toList 1
    verified.controller.deviceId c.hostIdentity.deviceId
    (.hostProof
      { confirmation := some (confirmationData verified active host)
        hostSignature := signature
        expiresAtUnixMs := active.invitation.expiresAtUnixMs })
  let sasWords ← ofResult ((sasWordsFor crypto active.invitation.kind
    verified.transcriptSha256.toList).mapError fun _ => .authentication)
  modify (setActive { active with
    controller := some verified.controller
    controllerEphemeralPublicKey := verified.controllerEphemeralPublicKey
    transcriptSha256 := verified.transcriptSha256.toList
    keys := some verified.keys
    sasWords
    phase := .waitingReady })
  modify (push (.relay active.invitation.rendezvousId encrypted))

/-- The confirmation in a plaintext, if it is one. -/
def PairingPlaintext.ready? : PairingPlaintext → Option ControllerPairingReady
  | .controllerReady ready => some ready
  | _ => none

/-- The hello in a message, if it is one. -/
def PairingMessage.hello? : PairingMessage → Option ControllerPairingHello
  | .controllerHello hello => some hello
  | _ => none

/-- Open the controller's confirmation. -/
def handleControllerReady (crypto : PairingCrypto) (active : ActivePairing)
    (opaqueEnvelope : Bytes) : Operation Unit := do
  let c ← get
  let controller ← orThrow active.controller .authentication
  let keys ← orThrow active.keys .authentication
  let plaintext ← openFromController crypto active keys.controllerToHost.toList 1
    controller.deviceId c.hostIdentity.deviceId opaqueEnvelope
  let ready ← orThrow (PairingPlaintext.ready? plaintext) .authentication
  require (ready.transcriptSha256 = active.transcriptSha256) .authentication
  modify (setActive { active with phase := .waitingDecision })
  modify (publishActive crypto.toCrypto .waitingLocalDecision)

/-- Bytes of the peer, by the phase of the attempt. -/
def handleRoutedInner (crypto : PairingCrypto) (signingIdentity : HostIdentity)
    (rendezvousId senderDeviceId opaqueEnvelope : Bytes) : Operation Unit := do
  let c ← get
  let active ← orThrow c.active .invalidState
  require (active.invitation.rendezvousId = rendezvousId ∧
    active.peerDeviceId = some senderDeviceId) .authentication
  match active.phase with
  | .waitingHello => do
    let message ← ofResult ((decodePairingMessage crypto opaqueEnvelope).mapError
      fun _ => .authentication)
    let hello ← orThrow (PairingMessage.hello? message) .authentication
    handleControllerHello crypto signingIdentity active hello senderDeviceId
  | .waitingReady => handleControllerReady crypto active opaqueEnvelope
  | .creating | .inviting | .waitingDecision => throw .authentication

/-- Bytes of the peer; an error ends the attempt. -/
def handleRouted (crypto : PairingCrypto) (signingIdentity : HostIdentity)
    (rendezvousId senderDeviceId opaqueEnvelope : Bytes) : Operation Unit := do
  let result ← outcome (handleRoutedInner crypto signingIdentity rendezvousId senderDeviceId
    opaqueEnvelope)
  match result with
  | .ok () => return ()
  | .error error => do
    let c ← get
    onlyIf c.active.isSome (modify failActive)
    throw error

/-- The published state after the service has closed the rendezvous. -/
def closedState : PairingRendezvousCompletion → HostPairingState
  | .rejected => .rejected
  | .expired => .expired
  | .disconnected => .failed
  | .succeeded | .unspecified => .failed

/-- The service has closed the rendezvous. -/
def handleClosed (rendezvousId : Bytes) (completion : PairingRendezvousCompletion) :
    Operation Unit := do
  let c ← get
  if c.terminalRendezvousId = some rendezvousId then return ()
  else do
    let active ← orThrow c.active .invalidState
    require (active.invitation.rendezvousId = rendezvousId) .invalidState
    modify (finish (closedState completion)
      (if closedState completion = .failed then some pairingFailedError else none))

/-- Handle an event of the service. -/
def handleSignalingEvent (crypto : PairingCrypto) (signingIdentity : HostIdentity)
    (event : SignalingEvent) (nowUnixMs : UInt64) : Operation Unit := do
  modify (tick nowUnixMs)
  match event with
  | .pairingCreated rendezvousId kind expiresAtUnixMs =>
    handleCreated crypto rendezvousId kind expiresAtUnixMs nowUnixMs
  | .pairingJoined rendezvousId peerDeviceId expiresAtUnixMs =>
    handleJoined crypto rendezvousId peerDeviceId expiresAtUnixMs nowUnixMs
  | .routedPairing rendezvousId senderDeviceId opaqueEnvelope =>
    handleRouted crypto signingIdentity rendezvousId senderDeviceId opaqueEnvelope
  | .pairingClosed rendezvousId completion => handleClosed rendezvousId completion
  | .remoteError _ _ => do
    let c ← get
    if c.active.isSome then modify failActive else throw .invalidState
  | .registered _ | .heartbeatAcknowledged _ _ | .routedSession _ _ => throw .invalidState

end HostPairingCoordinator

/-! ## The coordinator with the grants -/

/-- The coordinator and the grants it writes to. -/
structure PairingHost where
  pairing : HostPairingCoordinator
  authorization : AuthorizationState

namespace PairingHost

open HostPairingCoordinator

/-- An operation on both. -/
abbrev Operation := Fallible PairingHost PairingCoordinatorError

/-- An operation of the coordinator alone. -/
def onPairing {α : Type} (m : HostPairingCoordinator.Operation α) : Operation α :=
  zoom PairingHost.pairing (fun s pairing => { s with pairing }) m

/-- Grant the controller access. -/
def createGrant (crypto : PairingCrypto) (controller : DeviceIdentity) (nowUnixMs : UInt64)
    (faults : FileFaults) (random : Nat → Option (Vector UInt8 16)) :
    Operation (Except AuthorizationError ControllerGrantView) := fun s =>
  let result := s.authorization.registry.createControllerGrant crypto.toCrypto faults
    s.authorization.file controller viewAndControlPermissions nowUnixMs random
  (.ok result.2, { s with authorization := { registry := result.1.1, file := result.1.2 } })

/-- The grant of an answer; an error ends the attempt. -/
def grantOrFail : Except AuthorizationError ControllerGrantView → Operation ControllerGrant
  | .ok view => orThrow view.grant .invalidState
  | .error error => do
    onPairing (modify failActive)
    throw (.authorization error)

/-- Accept the verified controller: persist its grant, then report success. -/
def accept (crypto : PairingCrypto) (rendezvousId controllerDeviceId : Bytes)
    (nowUnixMs : UInt64) (faults : FileFaults) (random : Nat → Option (Vector UInt8 16)) :
    Operation Unit := do
  let active ← onPairing (ensureWaitingDecision rendezvousId controllerDeviceId nowUnixMs)
  let controller ← orThrow active.controller .invalidState
  let result ← createGrant crypto controller nowUnixMs faults random
  let grant ← grantOrFail result
  let encrypted ← onPairing (encryptFinalDecision crypto .accepted (some grant))
  onPairing (modify (push (.relay rendezvousId encrypted)))
  onPairing (modify (push (.complete rendezvousId .succeeded)))
  onPairing (modify (finish .accepted none))

end PairingHost

/-! ## Runs -/

/-- What can happen to the coordinator. -/
inductive PairingAction where
  | signalingConnected
  | signalingLost
  | shutdown
  | takeOutbound
  | tick (nowUnixMs : UInt64)
  | returnToIdle
  | start (kind : PairingInvitationKind) (signalingEndpoint : String) (nowUnixMs : UInt64)
      (draws : PairingDraws)
  | event (event : SignalingEvent) (nowUnixMs : UInt64)
  | accept (rendezvousId controllerDeviceId : Bytes) (nowUnixMs : UInt64) (faults : FileFaults)
      (random : Nat → Option (Vector UInt8 16))
  | reject (rendezvousId controllerDeviceId : Bytes) (nowUnixMs : UInt64)
  | cancel (rendezvousId : Bytes)

/-- What an action returns. -/
inductive PairingOutput where
  | done (result : Except PairingCoordinatorError Unit)
  | flushed (items : List PairingOutbound)
  deriving DecidableEq

namespace PairingHost

open HostPairingCoordinator

/-- The state and the output of an operation. -/
def perform {α : Type} (m : Operation α) (s : PairingHost) : PairingHost × PairingOutput :=
  ((m s).2, .done ((m s).1.map fun _ => ()))

/-- The surroundings of the coordinator: the primitives, the signing identity and the
check of an endpoint. -/
structure Setting where
  crypto : PairingCrypto
  signingIdentity : HostIdentity
  validEndpoint : String → Bool

/-- One action. -/
def step (setting : Setting) (s : PairingHost) : PairingAction → PairingHost × PairingOutput
  | .signalingConnected => perform (onPairing (modify markSignalingConnected)) s
  | .signalingLost => perform (onPairing (modify HostPairingCoordinator.signalingLost)) s
  | .shutdown => perform (onPairing (modify HostPairingCoordinator.shutdown)) s
  | .takeOutbound =>
    ({ s with pairing := s.pairing.takeOutbound.2 }, .flushed s.pairing.takeOutbound.1)
  | .tick nowUnixMs => perform (onPairing (modify (HostPairingCoordinator.tick nowUnixMs))) s
  | .returnToIdle => perform (onPairing HostPairingCoordinator.returnToIdle) s
  | .start kind signalingEndpoint nowUnixMs draws =>
    perform (onPairing (HostPairingCoordinator.start setting.crypto setting.validEndpoint kind
      signalingEndpoint nowUnixMs draws)) s
  | .event event nowUnixMs =>
    perform (onPairing (handleSignalingEvent setting.crypto setting.signingIdentity event
      nowUnixMs)) s
  | .accept rendezvousId controllerDeviceId nowUnixMs faults random =>
    perform (accept setting.crypto rendezvousId controllerDeviceId nowUnixMs faults random) s
  | .reject rendezvousId controllerDeviceId nowUnixMs =>
    perform (onPairing (HostPairingCoordinator.reject setting.crypto rendezvousId
      controllerDeviceId nowUnixMs)) s
  | .cancel rendezvousId => perform (onPairing (HostPairingCoordinator.cancel rendezvousId)) s

/-- The coordinator as a machine. -/
def machine (setting : Setting) : Machine PairingHost PairingAction PairingOutput :=
  ⟨step setting⟩

end PairingHost

/-! ## A sample exchange

The values that the primitives take when one controller is paired over a QR invitation,
from fixed identity and ephemeral keys. -/

/-- The identity of the sample Host. -/
def sampleHostIdentity : DeviceIdentity where
  deviceId := sampleHostId
  publicKeyAlgorithm := 1
  publicKey :=
    [138, 136, 227, 221, 116, 9, 241, 149, 253, 82, 219, 45, 60, 186, 93, 114, 202, 103, 9, 191,
     29, 148, 18, 27, 243, 116, 136, 1, 180, 15, 111, 92]
  displayName := "desk"
  platform := 4

namespace SampleExchange

/-- The identity of the sample controller. -/
abbrev controller : DeviceIdentity := sampleController

/-- The rendezvous of the exchange. -/
def rendezvousId : Vector UInt8 16 := Vector.replicate 16 7

/-- The Host's ephemeral private key. -/
def hostPrivateKey : Vector UInt8 32 := Vector.replicate 32 3

/-- The controller's ephemeral private key. -/
def controllerPrivateKey : Vector UInt8 32 := Vector.replicate 32 4

/-- The Host's ephemeral public key. -/
def hostEphemeral : Vector UInt8 32 :=
  #v[93, 254, 221, 59, 107, 212, 127, 111, 162, 142, 225, 93, 150, 157, 91, 176, 234, 83, 119,
     77, 72, 139, 218, 249, 223, 28, 110, 1, 36, 179, 239, 34]

/-- The controller's ephemeral public key. -/
def controllerEphemeral : Vector UInt8 32 :=
  #v[172, 1, 178, 32, 158, 134, 53, 79, 184, 83, 35, 123, 93, 224, 244, 250, 177, 60, 127, 203,
     244, 51, 166, 28, 1, 147, 105, 97, 127, 236, 241, 11]

/-- The shared secret of the two ephemeral keys. -/
def sharedSecret : Vector UInt8 32 :=
  #v[64, 228, 122, 63, 82, 91, 220, 172, 73, 29, 65, 137, 120, 215, 219, 90, 246, 35, 172, 122,
     254, 118, 35, 198, 215, 138, 93, 79, 206, 157, 15, 99]

/-- The transcript both identities sign. -/
def transcript : Bytes :=
  match encodePairingTranscript controller sampleHostIdentity rendezvousId.toList
    controllerEphemeral.toList hostEphemeral.toList with
  | .ok bytes => bytes
  | .error _ => []

/-- The hash of the transcript. -/
def transcriptSha256 : Vector UInt8 32 :=
  #v[151, 204, 122, 92, 184, 157, 82, 212, 51, 72, 231, 162, 101, 252, 50, 248, 164, 234, 216,
     25, 195, 199, 203, 142, 3, 70, 146, 74, 123, 10, 226, 8]

/-- The keys derived from the secret and the hash. -/
def keys : PairingKeySchedule where
  controllerToHost :=
    #v[82, 206, 30, 176, 13, 190, 128, 191, 63, 73, 119, 252, 175, 229, 232, 66, 222, 237, 185,
       24, 103, 104, 172, 28, 136, 152, 47, 32, 186, 64, 191, 26]
  hostToController :=
    #v[44, 109, 180, 242, 255, 48, 151, 65, 44, 251, 83, 224, 167, 99, 254, 178, 115, 89, 209,
       161, 185, 15, 184, 118, 112, 62, 155, 215, 136, 116, 216, 191]

/-- The controller's signature of the transcript. -/
def controllerSignature : Vector UInt8 64 :=
  #v[97, 50, 138, 104, 23, 192, 117, 5, 79, 9, 6, 46, 174, 80, 190, 196, 125, 17, 248, 237, 242,
     36, 238, 28, 36, 39, 79, 108, 26, 33, 142, 92, 252, 159, 92, 29, 148, 238, 38, 180, 26, 126,
     63, 247, 59, 101, 69, 191, 134, 101, 128, 234, 72, 230, 253, 233, 220, 13, 248, 216, 140,
     123, 220, 14]

/-- The Host's signature of the transcript. -/
def hostSignature : Vector UInt8 64 :=
  #v[238, 192, 175, 101, 30, 52, 199, 220, 227, 247, 10, 165, 100, 124, 249, 110, 164, 127, 250,
     160, 107, 138, 204, 134, 63, 112, 12, 36, 184, 102, 148, 123, 32, 241, 17, 245, 180, 8, 39,
     141, 208, 141, 63, 30, 111, 31, 249, 6, 236, 114, 144, 237, 30, 126, 78, 36, 4, 246, 9, 205,
     200, 178, 235, 14]

/-- The time of the exchange. -/
def now : UInt64 := 1700000000000

/-- The hello of the controller. -/
def hello : ControllerPairingHello where
  rendezvousId := rendezvousId.toList
  identity := some controller
  ephemeralPublicKey := controllerEphemeral.toList
  transcriptSha256 := transcriptSha256.toList
  signature := controllerSignature.toList

/-- The proof of the Host. -/
def proof : PairingPlaintext := .hostProof
  { confirmation := some
      { controllerDeviceId := controller.deviceId
        hostDeviceId := sampleHostIdentity.deviceId
        rendezvousId := rendezvousId.toList
        controllerIdentityPublicKey := controller.publicKey
        hostIdentityPublicKey := sampleHostIdentity.publicKey
        controllerEphemeralPublicKey := controllerEphemeral.toList
        hostEphemeralPublicKey := hostEphemeral.toList
        transcriptSha256 := transcriptSha256.toList }
    hostSignature := hostSignature.toList
    expiresAtUnixMs := 1700000120000 }

/-- The confirmation of the controller. -/
def ready : PairingPlaintext := .controllerReady { transcriptSha256 := transcriptSha256.toList }

/-- The acceptance with the sample grant. -/
def accepted : PairingPlaintext := .finalDecision
  { status := PairingDecisionStatus.accepted.toInt32
    transcriptSha256 := transcriptSha256.toList
    grant := sampleGrantView.grant }

/-- The sealed proof. -/
def proofCiphertext : Bytes :=
  bigEndian 40 0xb5a7a2a1fe287ede03509b9a75d3c03086e4e89399adfa1b4046133a32d72c924e2aeeb16b0283bb ++
  bigEndian 40 0x7038de4f2907970c3d2aebc289ffdb05c0e7b3f3f860fd09a1e6f99cff7e22808916e04ac627171e ++
  bigEndian 40 0x97664a487c956c24bf5bd3e8056cd0063d7eb2e70499955d8ceeb95df2f194b58325929cb3f4ad10 ++
  bigEndian 40 0x500ec3ab8811dc0199e01727758b9dbe7ec949d6d8f8683d89546f26c3c3a81af778c329f17ed3da ++
  bigEndian 40 0xd28f674ab0efa36fcb4a9418c7a68897aed4e13781cde2e8a101e7ae759161d1612223d2955a0c20 ++
  bigEndian 40 0x8da333aa5da88d5cd27a0ac280d44c86e9f332bcb4f9917593db84884e80116830843586b306438f ++
  bigEndian 40 0x874ab2e56e4ac8e6b06df714360852ad75117562aaee648a47fdc0c685fc8899c784a75974bcf347 ++
  bigEndian 40 0xfc13f23970f00ee071a4ab038108f2df105358aac5b584bbb1921f5f9c11517033d8c7c79cb26088 ++
  bigEndian 31 0xb702155c580acc2f05abb1e2bc2b357a89b99cbbbe3cf78572e618e2b8166c

/-- The sealed confirmation. -/
def readyCiphertext : Bytes :=
  bigEndian 40 0x18eb6a496632f5ddea680bb4936256d7e9885034c6af5f009c3d15081b7b8e34ed80e22410b89aa4 ++
  bigEndian 12 0x9816d15b2a51f00ab3c206bc

/-- The sealed acceptance. -/
def acceptedCiphertext : Bytes :=
  bigEndian 40 0xd340ee092c869a007d94b2647071012e8f2a595eeae2b98cebb2808d825c82d659fd6b4eeca1861f ++
  bigEndian 40 0x4c74738f9c6101b3bbdf88ba7701ea4233c712a8c62af606bee8f7cb3cb40ac41f24e5b80b33a594 ++
  bigEndian 40 0xd61194f4948ba463d16532af1faf0015c400ffab5e96da3532f3e4a2ac71b9b6a598787c7224b484 ++
  bigEndian 40 0x7e701d8b10f71328ba2ba487fd6ea1c09cf278a7e62ffd7e4b5a94554703e1a9c2f68d59d4b74946 ++
  bigEndian 40 0xb4e69d1bfb00ae6222084676ada087a82a76e18fe452e2089b03b8b4884061c76a6c3d5f18878d12 ++
  bigEndian 2 0x0715

/-- An envelope of the exchange. -/
def envelope (direction : Int32) (sequence : UInt64) (ciphertext : Bytes) : PairingMessage :=
  .encryptedEnvelope
    { protocolVersion := some { major := protocolMajorVersion, minor := 0 }
      rendezvousId := rendezvousId.toList
      direction
      sequence
      ciphertext }

/-- The messages of the exchange. -/
def messages : List PairingMessage :=
  [.controllerHello hello, envelope 2 1 proofCiphertext, envelope 1 1 readyCiphertext,
    envelope 2 2 acceptedCiphertext]

/-- What was sealed in the exchange: the key, the first and the last byte of the nonce, the
plaintext and the ciphertext. -/
def seals : List (Vector UInt8 32 × UInt8 × UInt8 × PairingPlaintext × Bytes) :=
  [(keys.hostToController, 0x48, 1, proof, proofCiphertext),
    (keys.controllerToHost, 0x43, 1, ready, readyCiphertext),
    (keys.hostToController, 0x48, 2, accepted, acceptedCiphertext)]

/-- The digest of the inputs of the exchange. -/
def sha256 (input : Bytes) : Vector UInt8 32 :=
  if input = transcript then transcriptSha256
  else if input = identityDerivationDomain ++ [0] ++ bigEndian 2 1 ++ sampleHostIdentity.publicKey
  then #v[120, 146, 128, 80, 176, 254, 95, 28, 155, 168, 157, 141, 38, 102, 122, 102, 226, 162,
          44, 45, 71, 208, 88, 130, 152, 30, 187, 5, 135, 73, 30, 56]
  else if input = sampleHostIdentity.publicKey
  then #v[52, 117, 15, 152, 189, 89, 252, 252, 148, 109, 164, 90, 170, 190, 147, 59, 225, 84,
          164, 181, 9, 78, 28, 74, 191, 66, 134, 101, 5, 243, 201, 126]
  else if input = controller.publicKey
  then #v[106, 56, 3, 213, 240, 89, 144, 42, 28, 109, 175, 188, 155, 164, 114, 146, 18, 247, 202,
          172, 8, 99, 76, 195, 174, 118, 178, 117, 41, 240, 56, 39]
  else sampleCrypto.sha256 input

/-- The primitives on the inputs of the exchange. -/
def crypto : PairingCrypto where
  sha256 := sha256
  validKey key := key.toList = controller.publicKey ∨ key.toList = sampleHostIdentity.publicKey
  verifies key message signature := message = transcript ∧
    ((key.toList = controller.publicKey ∧ signature = controllerSignature) ∨
      (key.toList = sampleHostIdentity.publicKey ∧ signature = hostSignature))
  x25519PublicKey key :=
    if key = hostPrivateKey then hostEphemeral
    else if key = controllerPrivateKey then controllerEphemeral
    else key
  x25519SharedSecret privateKey publicKey :=
    if (privateKey = hostPrivateKey ∧ publicKey = controllerEphemeral) ∨
        (privateKey = controllerPrivateKey ∧ publicKey = hostEphemeral) then sharedSecret
    else privateKey
  hkdfExpand salt secret info :=
    if salt = transcriptSha256.toList ∧ secret = sharedSecret.toList then
      if info = controllerToHostInfo then some keys.controllerToHost
      else if info = hostToControllerInfo then some keys.hostToController
      else none
    else none
  aesGcmEncrypt key nonce _ plaintext :=
    match seals.find? fun entry => entry.1 = key ∧ entry.2.1 = nonce[0] ∧
      entry.2.2.1 = nonce[11] ∧ entry.2.2.2.1.encode = plaintext with
    | some entry => some entry.2.2.2.2
    | none => some (plaintext ++ List.replicate aesGcmTagBytes 0)
  aesGcmDecrypt key nonce _ ciphertext :=
    (seals.find? fun entry => entry.1 = key ∧ entry.2.1 = nonce[0] ∧ entry.2.2.1 = nonce[11] ∧
      entry.2.2.2.2 = ciphertext).map fun entry => entry.2.2.2.1.encode
  sign _ _ := hostSignature
  decodeMessage encoded := messages.find? fun message => message.encode = encoded
  decodePlaintext encoded := [proof, ready, accepted].find? fun plaintext =>
    plaintext.encode = encoded
  wordList := []

/-- The surroundings of the exchange. -/
def setting : PairingHost.Setting where
  crypto := crypto
  signingIdentity := { deviceIdentity := sampleHostIdentity, signingKey := Vector.replicate 32 1 }
  validEndpoint endpoint := endpoint = "wss://signal.example/v1"

/-- The coordinator before the exchange. -/
def coordinator : HostPairingCoordinator where
  hostIdentity := sampleHostIdentity
  signalingConnected := false
  active := none
  terminalRendezvousId := none
  pendingCancelledCreate := none
  outbound := []
  journal := []
  revision := 0
  status := idleSnapshot 0

/-- The Host before the exchange. -/
def host : PairingHost where
  pairing := coordinator
  authorization := { registry := sampleRegistry, file := none }

/-- The random bytes of the attempt. -/
def draws : PairingDraws where
  rendezvousId := some rendezvousId
  privateKey := some hostPrivateKey
  desktopCode := none

/-- The start of the attempt. -/
def start : PairingAction := .start .qr "wss://signal.example/v1" now draws

/-- The exchange up to the confirmation. -/
def actions : List PairingAction :=
  [.signalingConnected, start, .takeOutbound,
    .event (.pairingCreated rendezvousId.toList .qr 1700000120000) now,
    .event (.pairingJoined rendezvousId.toList controller.deviceId 1700000120000) now,
    .event (.routedPairing rendezvousId.toList controller.deviceId
      (PairingMessage.encode (.controllerHello hello))) now,
    .event (.routedPairing rendezvousId.toList controller.deviceId
      (PairingMessage.encode (envelope 1 1 readyCiphertext))) now]

/-- The acceptance. -/
def accept (faults : FileFaults) : PairingAction :=
  .accept rendezvousId.toList controller.deviceId now faults fun _ => some (Vector.replicate 16 5)

end SampleExchange

end Host

end Roammand
