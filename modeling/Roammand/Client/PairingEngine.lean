import Roammand.Host.PairingCrypto
import Roammand.Protocol.Signaling
import Roammand.Protocol.TranscriptPorts
import Roammand.Library.Fallible
import Roammand.Library.Run

/-!
# The pairing engine of a controller

A controller pairs with a Host in one run of an engine: it connects to the signaling service,
joins the rendezvous, sends its signed hello, checks the Host's proof, confirms, and waits for
the decision of the Host's user.  A decision that accepts it makes the engine save the Host
among the trusted ones.

The run suspends wherever the source awaits something.  `Point` names these places with what
the suspended run still holds; one input resumes it with what the awaited call has returned,
and a call of `cancel` or `close` may come between any two of them.

Main results:

- Definition `TrustedHostRepository` with `savePairing`.
- Definition `ControllerPairingEngine` with the sections of its run.
- Definition `ControllerPairingEngine.machine`: the engine under any interleaving.
-/

namespace Roammand

namespace Client

open Library Protocol Fallible Host

/-! ## Trusted hosts -/

/-- A Host that the controller trusts. -/
structure TrustedHostBinding where
  hostIdentity : Option DeviceIdentity
  signalingEndpoint : String
  pairedAtUnixMs : UInt64
  lastSuccessfulConnectionAtUnixMs : UInt64
  displayOrder : UInt32
  localAlias : String
  deriving DecidableEq

/-- The most Hosts that are kept. -/
def maxTrustedHostBindings : Nat := 256

/-- What the engine and the repository are given. -/
structure PairingSetting where
  crypto : PairingCrypto
  publicIdentity : DeviceIdentity
  validEndpoint : String → Bool
  toUpperCase : String → String
  normalizeDisplayName : String → Option String

/-- The identity in a message, or the empty one. -/
def identityOf (identity : Option DeviceIdentity) : DeviceIdentity :=
  identity.getD { deviceId := [], publicKeyAlgorithm := 0, publicKey := [], displayName := ""
                  platform := 0 }

/-- A wire value as the signed number that the controller reads. -/
def signed (value : UInt64) : Int := value.toInt64.toInt

/-- The values of macOS and Windows among the platforms. -/
def isDesktop (platform : Int32) : Bool := platform = 3 ∨ platform = 4

/-- The identifier of an identity is the one of its public key. -/
def derivedDeviceId (crypto : Crypto) (identity : DeviceIdentity) : Bool :=
  match deriveDeviceIdV1 crypto identity.publicKey with
  | .ok derived => derived.toList = identity.deviceId
  | .error _ => false

/-- The checks on one binding. -/
def validTrustedHostBinding (setting : PairingSetting) (binding : TrustedHostBinding) : Bool :=
  match binding.hostIdentity with
  | none => false
  | some identity =>
    decide (validateDeviceIdentity identity = .ok ()) &&
      derivedDeviceId setting.crypto.toCrypto identity && isDesktop identity.platform &&
      decide (0 < signed binding.pairedAtUnixMs) &&
      decide (0 ≤ signed binding.lastSuccessfulConnectionAtUnixMs) &&
      decide (signed binding.lastSuccessfulConnectionAtUnixMs = 0 ∨
        signed binding.pairedAtUnixMs ≤ signed binding.lastSuccessfulConnectionAtUnixMs) &&
      setting.validEndpoint binding.signalingEndpoint &&
      decide (binding.localAlias = "" ∨
        setting.normalizeDisplayName binding.localAlias = some binding.localAlias)

/-- The identifier of the Host of a binding. -/
def TrustedHostBinding.deviceId (binding : TrustedHostBinding) : Bytes :=
  (identityOf binding.hostIdentity).deviceId

/-- `validateTrustedHostBindings`. -/
def validateTrustedHostBindings (setting : PairingSetting)
    (bindings : List TrustedHostBinding) : Bool :=
  decide (bindings.length ≤ maxTrustedHostBindings) &&
    bindings.all (validTrustedHostBinding setting) &&
    decide (bindings.map TrustedHostBinding.deviceId).Nodup

/-- The repository: the Hosts in memory and in the file. -/
structure TrustedHostRepository where
  hosts : List TrustedHostBinding
  stored : List TrustedHostBinding
  initialized : Bool
  closed : Bool
  deriving DecidableEq

namespace TrustedHostRepository

/-- The part of `savePairing` before the file is replaced: the Hosts that are to be stored.  A
Host that is known already keeps its place and its alias. -/
def savePairing (setting : PairingSetting) (repository : TrustedHostRepository)
    (binding : TrustedHostBinding) : Option (List TrustedHostBinding) :=
  if repository.closed ∨ repository.initialized = false then none
  else if validateTrustedHostBindings setting [{ binding with displayOrder := 0 }] = false then
    none
  else
    let next :=
      match repository.hosts.findIdx? fun host => host.deviceId = binding.deviceId with
      | none =>
        repository.hosts ++ [{ binding with displayOrder := .ofNat repository.hosts.length }]
      | some index =>
        repository.hosts.modify index fun host =>
          { binding with
            displayOrder := host.displayOrder
            lastSuccessfulConnectionAtUnixMs := 0
            localAlias := host.localAlias }
    if validateTrustedHostBindings setting next then some next else none

/-- The file has been replaced. -/
def commit (repository : TrustedHostRepository) (next : List TrustedHostBinding) :
    TrustedHostRepository :=
  { repository with hosts := next, stored := next }

end TrustedHostRepository

/-! ## Snapshots and failures -/

/-- The state of a pairing. -/
inductive ControllerPairingState where
  | idle
  | connecting
  | waitingHostInvitation
  | verifyingHost
  | waitingHostDecision
  | accepted
  | rejected
  | expired
  | cancelled
  | failed
  deriving DecidableEq

/-- Why a pairing has failed. -/
inductive ControllerPairingError where
  | invalidInvitation
  | signaling
  | authentication
  | persistence
  | expired
  | cancelled
  | internal

/-- What the user is shown. -/
structure ControllerPairingSnapshot where
  state : ControllerPairingState
  hostIdentity : Option DeviceIdentity
  hostFingerprintSha256 : Bytes
  sasWords : List String
  expiresAtUnixMs : Int
  error : Option ControllerPairingError

/-- A state that a pairing ends in. -/
def ControllerPairingSnapshot.isTerminal (snapshot : ControllerPairingSnapshot) : Bool :=
  match snapshot.state with
  | .accepted | .rejected | .expired | .cancelled | .failed => true
  | _ => false

/-- What the run throws. -/
structure PairingFailure where
  state : ControllerPairingState
  error : Option ControllerPairingError

/-- The failure of a check. -/
def authenticationFailure : PairingFailure := ⟨.failed, some .authentication⟩

/-- The failure of the signaling service. -/
def signalingFailure : PairingFailure := ⟨.failed, some .signaling⟩

/-- The end of the rendezvous. -/
def expiredFailure : PairingFailure := ⟨.expired, some .expired⟩

/-- Any other exception. -/
def internalFailure : PairingFailure := ⟨.failed, some .internal⟩

/-! ## Signaling -/

/-- The rendezvous that has been joined. -/
structure PairingSignalingJoin where
  rendezvousId : Bytes
  hostDeviceId : Bytes
  expiresAtUnixMs : Int
  deriving DecidableEq

/-- An event of the signaling service. -/
inductive PairingSignalingEvent where
  | routed (rendezvousId senderDeviceId opaqueEnvelope : Bytes)
  | closed (completion : PairingRendezvousCompletion)
  | remoteError (code : ErrorCode)

/-- How waiting for an event has ended. -/
inductive EventOutcome where
  | timeout
  | error
  | none
  | event (event : PairingSignalingEvent)

/-! ## The engine -/

/-- What the user asks for. -/
inductive PairingRequest where
  | qr
  | desktopCode (code endpoint : String)
  deriving DecidableEq

/-- Where the run is suspended. -/
inductive Point where
  | idle
  | connecting (request : PairingRequest)
  | joining (request : PairingRequest)
  | awaitingInvitation (code endpoint : String) (joined : PairingSignalingJoin)
  | derivingPublicKey
  | derivingSecret (publicKey : Bytes)
  | derivingKeys (publicKey secret : Bytes)
  | signing (publicKey : Bytes)
  | relayingHello
  | awaitingProof
  | openingProof (ciphertext : Bytes)
  | verifyingProof (proof : HostPairingProof)
  | sealingReady
  | relayingReady
  | awaitingDecision
  | openingDecision (ciphertext : Bytes)
  | saving (binding : TrustedHostBinding)
  | persisting (binding : TrustedHostBinding) (next : List TrustedHostBinding)
  | saveReturned (ok : Bool)
  | finishing
  | closingSignaling
  | done
  deriving DecidableEq

/-- How far `close` has come. -/
inductive ClosePhase where
  | open
  | awaitingRun
  | closingSignaling
  | closed
  deriving DecidableEq

/-- The engine with the repository it saves to.  `saves` lists what it has saved and exists for
the proofs only. -/
structure ControllerPairingEngine where
  snapshot : ControllerPairingSnapshot
  subscribed : Bool
  ephemeralPrivateKey : Option (Vector UInt8 32)
  keys : Option PairingKeySchedule
  transcript : Option Bytes
  transcriptSha256 : Option Bytes
  invitation : Option HostPairingInvitation
  started : Bool
  cancelled : Bool
  signalingClosed : Bool
  closing : ClosePhase
  cancels : Nat
  point : Point
  relayed : List Bytes
  repository : TrustedHostRepository
  saves : List TrustedHostBinding

/-- What the surroundings return when the run is resumed: the clock, whether the awaited call
has succeeded, and what it has returned. -/
structure Resumption where
  now : Int
  ok : Bool
  join : Option PairingSignalingJoin
  event : EventOutcome
  random : Option (Vector UInt8 32)
  signature : Option Bytes

namespace ControllerPairingEngine

/-- A section of the run. -/
abbrev Operation := Fallible ControllerPairingEngine PairingFailure

variable (state : ControllerPairingState)

/-- `_publish`. -/
def publish (sasWords : List String) (expiresAtUnixMs : Int)
    (e : ControllerPairingEngine) : ControllerPairingEngine :=
  { e with
    snapshot :=
      { state
        hostIdentity := e.invitation.map fun invitation => identityOf invitation.hostIdentity
        hostFingerprintSha256 := (e.invitation.map fun invitation =>
          invitation.hostPublicKeyFingerprintSha256).getD []
        sasWords
        expiresAtUnixMs
        error := none } }

/-- `_publishTerminal`. -/
def publishTerminal (error : Option ControllerPairingError)
    (e : ControllerPairingEngine) : ControllerPairingEngine :=
  if e.snapshot.isTerminal then e
  else
    { e with
      snapshot :=
        { state
          hostIdentity := e.invitation.map fun invitation => identityOf invitation.hostIdentity
          hostFingerprintSha256 := (e.invitation.map fun invitation =>
            invitation.hostPublicKeyFingerprintSha256).getD []
          sasWords := []
          expiresAtUnixMs := 0
          error } }

/-- `_clearSecrets`. -/
def clearSecrets (e : ControllerPairingEngine) : ControllerPairingEngine :=
  { e with ephemeralPrivateKey := none, keys := none, transcript := none
           transcriptSha256 := none }

/-- `_ensureNotExpired`. -/
def ensureNotExpired (expiresAtUnixMs now : Int) : Operation Unit :=
  require (¬ (expiresAtUnixMs ≤ 0 ∨ expiresAtUnixMs < now)) expiredFailure

/-- The start of `_nextEvent`: the events are gone after a cancellation. -/
def startNextEvent (expiresAtUnixMs now : Int) : Operation Unit := do
  ensureNotExpired expiresAtUnixMs now
  let e ← get
  require (e.subscribed = true) signalingFailure

/-- The end of `_nextEvent`. -/
def endNextEvent (expiresAtUnixMs : Int) (resumption : Resumption) :
    Operation PairingSignalingEvent :=
  match resumption.event with
  | .timeout => throw expiredFailure
  | .error => throw signalingFailure
  | .none => do
    let e ← get
    require (e.cancelled = false) ⟨.cancelled, some .cancelled⟩
    ensureNotExpired expiresAtUnixMs resumption.now
    throw signalingFailure
  | .event event => do
    let e ← get
    require (e.cancelled = false) ⟨.cancelled, some .cancelled⟩
    ensureNotExpired expiresAtUnixMs resumption.now
    return event

/-- What the end of a rendezvous means. -/
def closedFailure : PairingRendezvousCompletion → PairingFailure
  | .rejected => ⟨.rejected, none⟩
  | .expired => expiredFailure
  | .disconnected | .succeeded | .unspecified => signalingFailure

/-- The end of `_nextRouted`. -/
def endNextRouted (expiresAtUnixMs : Int) (resumption : Resumption) :
    Operation (Bytes × Bytes × Bytes) := do
  let event ← endNextEvent expiresAtUnixMs resumption
  match event with
  | .routed rendezvousId senderDeviceId opaqueEnvelope =>
    return (rendezvousId, senderDeviceId, opaqueEnvelope)
  | .closed completion => throw (closedFailure completion)
  | .remoteError code =>
    throw (if code = .pairingCodeExpired then expiredFailure else signalingFailure)

/-- The invitation of the run. -/
def currentInvitation : Operation HostPairingInvitation := do
  let e ← get
  orThrow e.invitation internalFailure

/-- `_decodePairingMessage`. -/
def decodeMessage (crypto : PairingCrypto) (encoded : Bytes) : Operation PairingMessage := do
  require (encoded ≠ [] ∧ encoded.length ≤ maxOpaqueSignalingEnvelopeBytes) authenticationFailure
  ofResult ((decodePairingMessage crypto encoded).mapError fun _ => authenticationFailure)

/-! ### Invitations -/

/-- `validateDesktopHostIdentity` and `validateHostFingerprint`. -/
def validHost (crypto : Crypto) (identity : DeviceIdentity) (fingerprint : Bytes) : Bool :=
  decide (validateDeviceIdentity identity = .ok ()) && decide (identity.displayName ≠ "") &&
    derivedDeviceId crypto identity && isDesktop identity.platform &&
    decide ((crypto.sha256 identity.publicKey).toList = fingerprint)

/-- The longest payload of a code. -/
def maxQrPairingPayloadBytes : Nat := 4096

variable (setting : PairingSetting)

/-- `parseQrPairingUri` of the encoded invitation. -/
def validQr (invitation : HostPairingInvitation) (now : Int) : Bool :=
  decide (invitation.protocolVersion.map ProtocolVersion.major = some protocolMajorVersion) &&
    decide (invitation.kind = .qr ∧ invitation.rendezvousId.length = rendezvousIdBytes ∧
      invitation.hostIdentity.isSome ∧
      invitation.hostEphemeralPublicKey.length = publicKeyBytes ∧ invitation.pairingCode = "" ∧
      invitation.signalingEndpoint ≠ "") &&
    validHost setting.crypto.toCrypto (identityOf invitation.hostIdentity)
      invitation.hostPublicKeyFingerprintSha256 &&
    setting.validEndpoint invitation.signalingEndpoint &&
    decide (0 < signed invitation.issuedAtUnixMs ∧
      signed invitation.issuedAtUnixMs ≤ signed invitation.expiresAtUnixMs ∧
      signed invitation.expiresAtUnixMs - signed invitation.issuedAtUnixMs ≤
        pairingRendezvousLifetimeMs ∧
      now ≤ signed invitation.expiresAtUnixMs) &&
    decide ((Protobuf.encodeFields invitation.fields).length ≤ maxQrPairingPayloadBytes)

/-- `normalizeDesktopPairingCode`. -/
def normalizeDesktopPairingCode (value : String) : Option String :=
  let characters := value.toList
  let raw :=
    if characters.length = 8 then some value
    else if characters.length = 9 ∧ characters[4]? = some '-' then
      some (String.ofList (characters.take 4 ++ characters.drop 5))
    else none
  match raw with
  | none => none
  | some raw =>
    let normalized := setting.toUpperCase raw
    if normalized.toList.length = 8 ∧ normalized.toList.all (fun character =>
        ('A' ≤ character ∧ character ≤ 'Z') ∨ ('2' ≤ character ∧ character ≤ '7')) then
      some normalized
    else none

/-- `_validateDesktopInvitation`. -/
def validDesktopInvitation (invitation : HostPairingInvitation)
    (pairingCode endpoint : String) (joined : PairingSignalingJoin) : Bool :=
  decide (invitation.protocolVersion.map ProtocolVersion.major = some protocolMajorVersion) &&
    decide (invitation.kind = .desktopCode ∧ invitation.pairingCode = pairingCode ∧
      invitation.signalingEndpoint = endpoint ∧
      invitation.rendezvousId.length = rendezvousIdBytes ∧ invitation.hostIdentity.isSome ∧
      invitation.hostEphemeralPublicKey.length = publicKeyBytes ∧
      invitation.rendezvousId = joined.rendezvousId ∧
      (identityOf invitation.hostIdentity).deviceId = joined.hostDeviceId) &&
    decide (0 < signed invitation.issuedAtUnixMs ∧
      signed invitation.issuedAtUnixMs ≤ signed invitation.expiresAtUnixMs ∧
      signed invitation.expiresAtUnixMs ≤ joined.expiresAtUnixMs ∧
      signed invitation.expiresAtUnixMs - signed invitation.issuedAtUnixMs ≤
        pairingRendezvousLifetimeMs) &&
    validHost setting.crypto.toCrypto (identityOf invitation.hostIdentity)
      invitation.hostPublicKeyFingerprintSha256

/-! ### Sections of the run -/

variable (resumption : Resumption)

/-- The first section of `_beginAuthenticatedPairing`. -/
def beginAuthenticatedPairing : Operation Point := do
  let invitation ← currentInvitation
  ensureNotExpired (signed invitation.expiresAtUnixMs) resumption.now
  let random ← orThrow resumption.random internalFailure
  modify fun e => { e with ephemeralPrivateKey := some random }
  return .derivingPublicKey

/-- The first section of `_pairQr`. -/
def pairQr (invitation : HostPairingInvitation) (now : Int) :
    Operation Point := do
  require (validQr setting invitation now = true) ⟨.failed, some .invalidInvitation⟩
  modify fun e => { e with invitation := some invitation }
  modify (publish .connecting [] (signed invitation.expiresAtUnixMs))
  modify fun e => { e with subscribed := true }
  return .connecting .qr

/-- The first section of `_pairDesktopCode`. -/
def pairDesktopCode (rawCode endpoint : String) :
    Operation Point := do
  let code ← orThrow (normalizeDesktopPairingCode setting rawCode)
    ⟨.failed, some .invalidInvitation⟩
  require (setting.validEndpoint endpoint = true) ⟨.failed, some .invalidInvitation⟩
  modify (publish .connecting [] 0)
  modify fun e => { e with subscribed := true }
  return .connecting (.desktopCode code endpoint)

/-- The rendezvous of a code has been joined. -/
def joinedQr : Operation Point := do
  let joined ← orThrow resumption.join signalingFailure
  let invitation ← currentInvitation
  require (joined.rendezvousId = invitation.rendezvousId ∧
    joined.hostDeviceId = (identityOf invitation.hostIdentity).deviceId) authenticationFailure
  let expiresAtUnixMs := min (signed invitation.expiresAtUnixMs) joined.expiresAtUnixMs
  modify fun e => { e with
    invitation := some { invitation with expiresAtUnixMs := .ofInt expiresAtUnixMs } }
  ensureNotExpired expiresAtUnixMs resumption.now
  beginAuthenticatedPairing resumption

variable (code endpoint : String)

/-- The rendezvous of a desktop code has been joined. -/
def joinedDesktopCode (resumption : Resumption) : Operation Point := do
  let joined ← orThrow resumption.join signalingFailure
  ensureNotExpired joined.expiresAtUnixMs resumption.now
  modify (publish .waitingHostInvitation [] joined.expiresAtUnixMs)
  startNextEvent joined.expiresAtUnixMs resumption.now
  return .awaitingInvitation code endpoint joined

/-- The invitation in a message, if it is one. -/
def hostInvitation? : PairingMessage → Option HostPairingInvitation
  | .hostInvitation invitation => some invitation
  | _ => none

/-- The invitation of a desktop code has come. -/
def receivedInvitation
    (joined : PairingSignalingJoin) (resumption : Resumption) : Operation Point := do
  let routed ← endNextRouted joined.expiresAtUnixMs resumption
  let message ← decodeMessage setting.crypto routed.2.2
  let invitation ← orThrow (hostInvitation? message) authenticationFailure
  require (validDesktopInvitation setting invitation code endpoint joined = true)
    ⟨.failed, some .invalidInvitation⟩
  ensureNotExpired (signed invitation.expiresAtUnixMs) resumption.now
  modify fun e => { e with invitation := some invitation }
  beginAuthenticatedPairing resumption

/-- The transcript that the controller signs. -/
def encodePairingTranscript (controller host : DeviceIdentity)
    (rendezvousId controllerEphemeralPublicKey hostEphemeralPublicKey : Bytes) :
    Except Dart.TranscriptErrorCode Bytes :=
  Dart.encode
    { purpose := .pairingSas
      fields :=
        [⟨1, controller.deviceId⟩, ⟨2, host.deviceId⟩, ⟨3, rendezvousId⟩,
          ⟨4, controller.publicKey⟩, ⟨5, host.publicKey⟩, ⟨6, controllerEphemeralPublicKey⟩,
          ⟨7, hostEphemeralPublicKey⟩] }

/-- The ephemeral public key has been derived. -/
def derivedPublicKey : Operation Point := do
  let e ← get
  let invitation ← currentInvitation
  let privateKey ← orThrow e.ephemeralPrivateKey authenticationFailure
  let publicKey ← ofResult ((x25519PublicKey setting.crypto privateKey.toList).mapError
    fun _ => authenticationFailure)
  let transcript ← ofResult ((encodePairingTranscript setting.publicIdentity
    (identityOf invitation.hostIdentity) invitation.rendezvousId publicKey.toList
    invitation.hostEphemeralPublicKey).mapError fun _ => authenticationFailure)
  modify fun e => { e with
    transcript := some transcript
    transcriptSha256 := some (setting.crypto.sha256 transcript).toList }
  return .derivingSecret publicKey.toList

variable (publicKey : Bytes)

/-- The shared secret has been computed. -/
def derivedSecret : Operation Point := do
  let e ← get
  let invitation ← currentInvitation
  let privateKey ← orThrow e.ephemeralPrivateKey authenticationFailure
  let secret ← ofResult ((x25519SharedSecret setting.crypto privateKey.toList
    invitation.hostEphemeralPublicKey).mapError fun _ => authenticationFailure)
  return .derivingKeys publicKey secret.toList

/-- The keys have been derived. -/
def derivedKeys (publicKey secret : Bytes) : Operation Point := do
  let e ← get
  let transcriptSha256 ← orThrow e.transcriptSha256 authenticationFailure
  let keys ← ofResult ((derivePairingKeys setting.crypto secret transcriptSha256).mapError
    fun _ => authenticationFailure)
  modify fun e => { e with keys := some keys }
  return .signing publicKey

/-- Give an envelope to the signaling service. -/
def relay (encoded : Bytes) (e : ControllerPairingEngine) : ControllerPairingEngine :=
  { e with relayed := e.relayed ++ [encoded] }

/-- The transcript has been signed. -/
def signedTranscript (resumption : Resumption) :
    Operation Point := do
  let e ← get
  let invitation ← currentInvitation
  let transcriptSha256 ← orThrow e.transcriptSha256 authenticationFailure
  let signature ← orThrow resumption.signature authenticationFailure
  modify (publish .verifyingHost [] (signed invitation.expiresAtUnixMs))
  modify (relay (PairingMessage.encode (.controllerHello
    { rendezvousId := invitation.rendezvousId
      identity := some setting.publicIdentity
      ephemeralPublicKey := publicKey
      transcriptSha256
      signature })))
  return .relayingHello

/-- The hello has been relayed. -/
def relayedHello : Operation Point := do
  require (resumption.ok = true) signalingFailure
  let invitation ← currentInvitation
  startNextEvent (signed invitation.expiresAtUnixMs) resumption.now
  return .awaitingProof

/-- The checks of `_openHostPlaintext` before the envelope is decrypted. -/
def checkHostEnvelope (sequence : UInt64) (routed : Bytes × Bytes × Bytes) : Operation Bytes := do
  let e ← get
  let invitation ← currentInvitation
  let hostDeviceId := (identityOf invitation.hostIdentity).deviceId
  require (routed.1 = invitation.rendezvousId ∧ routed.2.1 = hostDeviceId) authenticationFailure
  let message ← decodeMessage setting.crypto routed.2.2
  let envelope ← orThrow (PairingMessage.envelope? message) authenticationFailure
  require (envelope.protocolVersion.map ProtocolVersion.major = some protocolMajorVersion ∧
    envelope.rendezvousId = invitation.rendezvousId ∧
    envelope.direction = pairingDirectionHostToController ∧
    envelope.sequence = sequence) authenticationFailure
  require (e.keys.isSome = true) authenticationFailure
  return envelope.ciphertext

/-- The plaintext of an envelope of the Host, and that it is canonical. -/
def openHostPlaintext (sequence : UInt64) (ciphertext : Bytes)
    (e : ControllerPairingEngine) : Except PairingFailure PairingPlaintext := do
  let invitation ← okOr e.invitation internalFailure
  let keys ← okOr e.keys authenticationFailure
  let aad ← (pairingAad .hostToController sequence invitation.rendezvousId
    setting.publicIdentity.deviceId (identityOf invitation.hostIdentity).deviceId).mapError
    fun _ => authenticationFailure
  let plaintext ← (openPairingPayload setting.crypto keys.hostToController.toList
    .hostToController sequence aad ciphertext).mapError fun _ => authenticationFailure
  (strictDecode setting.crypto.decodePlaintext PairingPlaintext.encode plaintext).mapError
    fun _ => authenticationFailure

/-- An envelope has come that should hold the Host's proof. -/
def receivedProof : Operation Point := do
  let invitation ← currentInvitation
  let routed ← endNextRouted (signed invitation.expiresAtUnixMs) resumption
  let ciphertext ← checkHostEnvelope setting 1 routed
  return .openingProof ciphertext

/-- The controller's ephemeral key in the transcript. -/
def controllerEphemeralPublicKey (transcript : Bytes) : Option Bytes :=
  match Dart.decode transcript with
  | .ok decoded => (decoded.fields.find? fun field => field.tag = 6).map fun field => field.value
  | .error _ => none

/-- `_confirmationMatches`. -/
def confirmationMatches (confirmation : PairingConfirmationData)
    (invitation : HostPairingInvitation) (ephemeralPublicKey transcriptSha256 : Bytes) : Bool :=
  decide (confirmation =
    { controllerDeviceId := setting.publicIdentity.deviceId
      hostDeviceId := (identityOf invitation.hostIdentity).deviceId
      rendezvousId := invitation.rendezvousId
      controllerIdentityPublicKey := setting.publicIdentity.publicKey
      hostIdentityPublicKey := (identityOf invitation.hostIdentity).publicKey
      controllerEphemeralPublicKey := ephemeralPublicKey
      hostEphemeralPublicKey := invitation.hostEphemeralPublicKey
      transcriptSha256 })

/-- The proof in a plaintext, if it is one. -/
def hostProof? : PairingPlaintext → Option HostPairingProof
  | .hostProof proof => some proof
  | _ => none

variable (ciphertext : Bytes)

/-- The Host's proof has been opened: the checks of `_verifyHostProof` before the signature. -/
def openedProof (resumption : Resumption) :
    Operation Point := do
  let e ← get
  let plaintext ← ofResult (openHostPlaintext setting 1 ciphertext e)
  let proof ← orThrow (hostProof? plaintext) authenticationFailure
  let invitation ← currentInvitation
  ensureNotExpired (signed invitation.expiresAtUnixMs) resumption.now
  let confirmation ← orThrow proof.confirmation authenticationFailure
  require (proof.hostSignature.length = signatureBytes ∧
    proof.expiresAtUnixMs = invitation.expiresAtUnixMs) authenticationFailure
  let transcript ← orThrow e.transcript internalFailure
  let ephemeralPublicKey ← orThrow (controllerEphemeralPublicKey transcript) internalFailure
  let transcriptSha256 ← orThrow e.transcriptSha256 internalFailure
  require (confirmationMatches setting confirmation invitation ephemeralPublicKey
    transcriptSha256 = true) authenticationFailure
  return .verifyingProof proof

/-- The signature of the Host is valid. -/
def hostSignatureValid (crypto : Crypto) (host : DeviceIdentity) (transcript signature : Bytes) :
    Bool :=
  match toArray? 32 host.publicKey, toArray? 64 signature with
  | some publicKey, some signature =>
    crypto.validKey publicKey && crypto.verifies publicKey transcript signature
  | _, _ => false

/-- The signature of the proof has been checked. -/
def verifiedProof (proof : HostPairingProof) : Operation Point := do
  let e ← get
  let invitation ← currentInvitation
  let transcript ← orThrow e.transcript internalFailure
  require (hostSignatureValid setting.crypto.toCrypto (identityOf invitation.hostIdentity)
    transcript proof.hostSignature = true) authenticationFailure
  return .sealingReady

/-- `_sealControllerPlaintext` with the confirmation. -/
def sealReady (e : ControllerPairingEngine) :
    Except PairingFailure Bytes := do
  let invitation ← okOr e.invitation internalFailure
  let keys ← okOr e.keys internalFailure
  let transcriptSha256 ← okOr e.transcriptSha256 internalFailure
  let aad ← (pairingAad .controllerToHost 1 invitation.rendezvousId
    setting.publicIdentity.deviceId (identityOf invitation.hostIdentity).deviceId).mapError
    fun _ => internalFailure
  let ciphertext ← (sealPairingPayload setting.crypto keys.controllerToHost.toList
    .controllerToHost 1 aad (PairingPlaintext.encode (.controllerReady
      { transcriptSha256 }))).mapError fun _ => internalFailure
  return PairingMessage.encode (.encryptedEnvelope
    { protocolVersion := some { major := protocolMajorVersion, minor := 0 }
      rendezvousId := invitation.rendezvousId
      direction := pairingDirectionControllerToHost
      sequence := 1
      ciphertext })

/-- The confirmation has been sealed. -/
def sealedReady : Operation Point := do
  let e ← get
  let encoded ← ofResult (sealReady setting e)
  modify (relay encoded)
  return .relayingReady

/-- The words of a desktop pairing; a QR pairing has none. -/
def sasWordsFor (kind : PairingInvitationKind)
    (transcriptSha256 : Bytes) : Except PairingFailure (List String) :=
  if kind = .desktopCode then
    (sasWords transcriptSha256 setting.crypto.wordList).mapError fun _ => internalFailure
  else .ok []

/-- The confirmation has been relayed. -/
def relayedReady : Operation Point := do
  require (resumption.ok = true) signalingFailure
  let e ← get
  let invitation ← currentInvitation
  let transcriptSha256 ← orThrow e.transcriptSha256 internalFailure
  let words ← ofResult (sasWordsFor setting invitation.kind transcriptSha256)
  modify (publish .waitingHostDecision words (signed invitation.expiresAtUnixMs))
  startNextEvent (signed invitation.expiresAtUnixMs) resumption.now
  return .awaitingDecision

/-- An envelope has come that should hold the decision. -/
def receivedDecision : Operation Point := do
  let invitation ← currentInvitation
  let routed ← endNextRouted (signed invitation.expiresAtUnixMs) resumption
  let ciphertext ← checkHostEnvelope setting 2 routed
  return .openingDecision ciphertext

/-- `_validGrant`. -/
def validGrant (grant : ControllerGrant) (invitation : HostPairingInvitation) : Bool :=
  decide (validateDeviceIdentity (identityOf grant.controller) = .ok ()) &&
    decide (grant.grantId.length = 16 ∧
      grant.hostDeviceId = (identityOf invitation.hostIdentity).deviceId ∧
      identityOf grant.controller = setting.publicIdentity ∧ 0 < signed grant.createdAtUnixMs ∧
      grant.permissions.dedup.length = 2 ∧
      SessionPermission.viewScreen.toInt32 ∈ grant.permissions ∧
      SessionPermission.controlInput.toInt32 ∈ grant.permissions)

/-- The decision in a plaintext, if it is one. -/
def finalDecision? : PairingPlaintext → Option PairingFinalDecision
  | .finalDecision decision => some decision
  | _ => none

/-- What `_handleFinalDecision` makes of a decision: the binding to save, or a rejection. -/
def decide? (e : ControllerPairingEngine) :
    Except PairingFailure (Option TrustedHostBinding) := do
  let plaintext ← openHostPlaintext setting 2 ciphertext e
  let decision ← okOr (finalDecision? plaintext) authenticationFailure
  let transcriptSha256 ← okOr e.transcriptSha256 internalFailure
  let invitation ← okOr e.invitation internalFailure
  ensure (decision.transcriptSha256 = transcriptSha256) authenticationFailure
  if decision.status = PairingDecisionStatus.accepted.toInt32 then do
    let grant ← okOr decision.grant authenticationFailure
    ensure (validGrant setting grant invitation = true) authenticationFailure
    return some
      { hostIdentity := invitation.hostIdentity
        signalingEndpoint := invitation.signalingEndpoint
        pairedAtUnixMs := grant.createdAtUnixMs
        lastSuccessfulConnectionAtUnixMs := 0
        displayOrder := 0
        localAlias := "" }
  else if decision.status = PairingDecisionStatus.rejected.toInt32 then do
    ensure (decision.grant = none) authenticationFailure
    return none
  else if decision.status = PairingDecisionStatus.expired.toInt32 then do
    ensure (decision.grant = none) authenticationFailure
    .error expiredFailure
  else .error authenticationFailure

/-- The decision has been opened. -/
def openedDecision : Operation Point := do
  let e ← get
  let decision ← ofResult (decide? setting ciphertext e)
  match decision with
  | some binding => return .saving binding
  | none => do
    modify (publishTerminal .rejected none)
    return .finishing

variable (binding : TrustedHostBinding)

/-- The repository has its turn for this operation. -/
def startedSaving :
    Operation Point := do
  let e ← get
  match e.repository.savePairing setting binding with
  | none => return .saveReturned false
  | some next => return .persisting binding next

/-- The replacement of the file has ended. -/
def persisted (next : List TrustedHostBinding) (resumption : Resumption) : Operation Point :=
  if resumption.ok then do
    modify fun e => { e with
      repository := e.repository.commit next
      saves := e.saves ++ [binding] }
    return .saveReturned true
  else return .saveReturned false

/-- `savePairing` has returned. -/
def returnedFromSave (ok : Bool) : Operation Point := do
  require (ok = true) ⟨.failed, some .persistence⟩
  modify (publishTerminal .accepted none)
  return .finishing

/-- The section of the run that follows a point. -/
def continueAt : Point → Operation Point
  | .connecting request => do
    require (resumption.ok = true) signalingFailure
    return .joining request
  | .joining .qr => joinedQr resumption
  | .joining (.desktopCode code endpoint) => joinedDesktopCode code endpoint resumption
  | .awaitingInvitation code endpoint joined =>
    receivedInvitation setting code endpoint joined resumption
  | .derivingPublicKey => derivedPublicKey setting
  | .derivingSecret publicKey => derivedSecret setting publicKey
  | .derivingKeys publicKey secret => derivedKeys setting publicKey secret
  | .signing publicKey => signedTranscript setting publicKey resumption
  | .relayingHello => relayedHello resumption
  | .awaitingProof => receivedProof setting resumption
  | .openingProof ciphertext => openedProof setting ciphertext resumption
  | .verifyingProof proof => verifiedProof setting proof
  | .sealingReady => sealedReady setting
  | .relayingReady => relayedReady setting resumption
  | .awaitingDecision => receivedDecision setting resumption
  | .openingDecision ciphertext => openedDecision setting ciphertext
  | .saving binding => startedSaving setting binding
  | .persisting binding next => persisted binding next resumption
  | .saveReturned ok => returnedFromSave ok
  | .idle => return .idle
  | .finishing => return .finishing
  | .closingSignaling => return .closingSignaling
  | .done => return .done

/-! ### Steps -/

/-- The `finally` of `_run` up to its first await. -/
def startFinish (e : ControllerPairingEngine) : ControllerPairingEngine :=
  { e.clearSecrets with subscribed := false, point := .finishing }

/-- What `_run` does with the end of a section. -/
def settle : Except PairingFailure Point × ControllerPairingEngine → ControllerPairingEngine
  | (.ok .finishing, e) => e.startFinish
  | (.ok point, e) => { e with point }
  | (.error failure, e) =>
    (if e.cancelled then e else e.publishTerminal failure.state failure.error).startFinish

/-- The run is resumed. -/
def resume (e : ControllerPairingEngine) (resumption : Resumption) :
    ControllerPairingEngine :=
  match e.point with
  | .idle => e
  | .finishing =>
    if e.signalingClosed then { e with point := .done }
    else { e with signalingClosed := true, point := .closingSignaling }
  | .closingSignaling => { e with point := .done }
  | .done => e
  | point => settle (continueAt setting resumption point e)

/-- `_start`: an engine is used once. -/
def start (e : ControllerPairingEngine) (operation : Operation Point) :
    ControllerPairingEngine :=
  if e.started ∨ e.closing = .closed then e
  else settle (operation { e with started := true })

/-- `cancel` up to its first await. -/
def cancel (e : ControllerPairingEngine) : ControllerPairingEngine :=
  if e.closing = .closed ∨ e.snapshot.isTerminal then e
  else
    { { e with cancelled := true }.publishTerminal .cancelled (some .cancelled) with
      subscribed := false
      cancels := e.cancels + 1 }

/-- The rest of a call of `cancel`, which has then returned. -/
def cancelReturn (e : ControllerPairingEngine) : ControllerPairingEngine :=
  if e.cancels = 0 then e else { e with cancels := e.cancels - 1, signalingClosed := true }

/-- `close` up to its first await. -/
def close (e : ControllerPairingEngine) : ControllerPairingEngine :=
  if e.closing ≠ .open then e
  else if e.started ∧ e.snapshot.isTerminal = false then { e.cancel with closing := .awaitingRun }
  else { e with signalingClosed := true, closing := .closingSignaling }

/-- The rest of `close`, which waits for the run if it has cancelled it. -/
def closeReturn (e : ControllerPairingEngine) : ControllerPairingEngine :=
  if (e.closing = .awaitingRun ∧ e.point = .done) ∨ e.closing = .closingSignaling then
    { e.clearSecrets with closing := .closed }
  else e

/-- The repository waits for the replacement of its file. -/
def Persisting : Point → Prop
  | .persisting _ _ => True
  | _ => False

instance : DecidablePred Persisting
  | .persisting _ _ => isTrue trivial
  | .idle | .connecting _ | .joining _ | .awaitingInvitation .. | .derivingPublicKey
  | .derivingSecret _ | .derivingKeys .. | .signing _ | .relayingHello | .awaitingProof
  | .openingProof _ | .verifyingProof _ | .sealingReady | .relayingReady | .awaitingDecision
  | .openingDecision _ | .saving _ | .saveReturned _ | .finishing | .closingSignaling
  | .done => isFalse not_false

/-- What happens next.  Others may use the repository whenever this engine does not have its
turn there. -/
inductive Input where
  | pairQr (invitation : HostPairingInvitation) (now : Int)
  | pairDesktopCode (code endpoint : String)
  | resume (resumption : Resumption)
  | cancel
  | cancelReturn
  | close
  | closeReturn
  | repository (repository : TrustedHostRepository)

/-- One step. -/
def step (e : ControllerPairingEngine) : Input → ControllerPairingEngine
  | .pairQr invitation now => e.start (pairQr setting invitation now)
  | .pairDesktopCode code endpoint => e.start (pairDesktopCode setting code endpoint)
  | .resume resumption => e.resume setting resumption
  | .cancel => e.cancel
  | .cancelReturn => e.cancelReturn
  | .close => e.close
  | .closeReturn => e.closeReturn
  | .repository repository => if Persisting e.point then e else { e with repository }

/-- The engine under any interleaving. -/
def machine : Machine ControllerPairingEngine Input Unit where
  step e input := (step setting e input, ())

/-- A new engine. -/
def new (repository : TrustedHostRepository) : ControllerPairingEngine where
  snapshot :=
    { state := .idle, hostIdentity := none, hostFingerprintSha256 := [], sasWords := []
      expiresAtUnixMs := 0, error := none }
  subscribed := false
  ephemeralPrivateKey := none
  keys := none
  transcript := none
  transcriptSha256 := none
  invitation := none
  started := false
  cancelled := false
  signalingClosed := false
  closing := .open
  cancels := 0
  point := .idle
  relayed := []
  repository := repository
  saves := []

end ControllerPairingEngine

end Client

end Roammand
