import Roammand.Library.Fallible
import Roammand.Protocol.SignalingService

/-!
# The Host's side of the signaling connection

The protocol state of one connection to the signaling service: registration, the
heartbeat in flight and the one pairing rendezvous of the Host.  Requests are built
only in the states that allow them, and every frame of the service is checked against
the state before it becomes an event.

Main results:

- Definition `SignalingProtocol` with its operations.
- Definition `SignalingProtocol.handleFrame`: what a frame of the service does.
-/

namespace Roammand

namespace Host

open Library Protocol

/-- Errors of the signaling client. -/
inductive SignalingClientError where
  | invalidDeviceId
  | invalidRequestId
  | invalidRendezvousId
  | invalidPairingKind
  | invalidPairingCode
  | invalidPairingCompletion
  | unexpectedPairingPeer
  | invalidState
  | correlationMismatch
  | frameTooLarge
  | opaqueEnvelopeTooLarge
  | invalidFrame
  | protocolUnsupported
  | unexpectedPayload
  | invalidErrorCode
  deriving DecidableEq

/-- What a checked frame of the service means. -/
inductive SignalingEvent where
  | registered (presenceExpiresAtUnixMs : UInt64)
  | heartbeatAcknowledged (serverTimeUnixMs presenceExpiresAtUnixMs : UInt64)
  | routedSession (senderDeviceId opaqueEnvelope : Bytes)
  | pairingCreated (rendezvousId : Bytes) (kind : PairingRendezvousKind)
      (expiresAtUnixMs : UInt64)
  | pairingJoined (rendezvousId peerDeviceId : Bytes) (expiresAtUnixMs : UInt64)
  | routedPairing (rendezvousId senderDeviceId opaqueEnvelope : Bytes)
  | pairingClosed (rendezvousId : Bytes) (completion : PairingRendezvousCompletion)
  | remoteError (code : ErrorCode) (retryable : Bool)

/-- How far the connection has come. -/
inductive SignalingState where
  | disconnected
  | registering (requestId : String)
  | ready
  deriving DecidableEq

/-- How far the rendezvous has come. -/
inductive PairingPhase where
  | creating (requestId : String)
  | inviting
  | joined (peerDeviceId : Bytes)
  | completing (requestId : String) (completion : PairingRendezvousCompletion)
  deriving DecidableEq

/-- The rendezvous of the connection. -/
structure ProtocolPairing where
  rendezvousId : Bytes
  kind : PairingRendezvousKind
  expiresAtUnixMs : UInt64
  phase : PairingPhase
  deriving DecidableEq

/-- The protocol state of one connection. -/
structure SignalingProtocol where
  deviceId : Bytes
  state : SignalingState
  pairing : Option ProtocolPairing
  pendingHeartbeatRequestId : Option String
  deriving DecidableEq

/-- A frame of this device. -/
def clientFrame (requestId : String) (payload : SignalingClientPayload) :
    SignalingClientFrame where
  protocolVersion := some { major := protocolMajorVersion, minor := 0 }
  requestId := requestId
  payload := some payload

namespace SignalingProtocol

/-- An operation on the protocol state. -/
abbrev Operation := Fallible SignalingProtocol SignalingClientError

open Fallible

/-- The protocol state of a device without a connection. -/
def new (deviceId : Bytes) : Except SignalingClientError SignalingProtocol :=
  if deviceId.length ≠ deviceIdBytes then .error .invalidDeviceId
  else .ok { deviceId, state := .disconnected, pairing := none
             pendingHeartbeatRequestId := none }

variable (requestId : String)

/-- A request identifier is there and short. -/
def validateRequestId : Operation Unit :=
  require (requestId ≠ "" ∧ (utf8 requestId).length ≤ maxRequestIdUtf8Bytes) .invalidRequestId

variable (rendezvousId : Bytes)

/-- A rendezvous identifier has its length. -/
def validateRendezvousId : Operation Unit :=
  require (rendezvousId.length = rendezvousIdBytes) .invalidRendezvousId

/-- The letters of a pairing code. -/
def isPairingCodeByte (value : UInt8) : Bool :=
  (0x41 ≤ value ∧ value ≤ 0x5a) ∨ (0x32 ≤ value ∧ value ≤ 0x37)

variable (kind : PairingRendezvousKind) (pairingCode : String)

/-- The pairing code of a kind. -/
def validatePairingCode :
    Operation Unit :=
  match kind with
  | .qr => require (pairingCode = "") .invalidPairingCode
  | .desktopCode => require ((utf8 pairingCode).length = desktopPairingCodeBytes ∧
      (utf8 pairingCode).all isPairingCodeByte) .invalidPairingCode
  | .unspecified => throw .invalidPairingKind

/-- The first frame of a connection. -/
def registration : Operation SignalingClientFrame := do
  let p ← get
  require (p.state = .disconnected) .invalidState
  validateRequestId requestId
  modify fun p => { p with state := .registering requestId }
  return clientFrame requestId (.register p.deviceId)

/-- Relay bytes to a device. -/
def relaySession (recipientDeviceId opaqueEnvelope : Bytes) (requestId : String) :
    Operation SignalingClientFrame := do
  let p ← get
  require (opaqueEnvelope.length ≤ maxOpaqueSignalingEnvelopeBytes) .opaqueEnvelopeTooLarge
  require (p.state = .ready) .invalidState
  require (recipientDeviceId.length = deviceIdBytes) .invalidDeviceId
  validateRequestId requestId
  return clientFrame requestId (.relaySession recipientDeviceId opaqueEnvelope)

/-- Ask for a rendezvous; there is one at most. -/
def createPairing (requestId : String) : Operation SignalingClientFrame := do
  let p ← get
  require (p.state = .ready ∧ p.pairing = none) .invalidState
  validateRendezvousId rendezvousId
  validatePairingCode kind pairingCode
  validateRequestId requestId
  modify fun p => { p with
    pairing := some { rendezvousId, kind, expiresAtUnixMs := 0, phase := .creating requestId } }
  return clientFrame requestId (.createRendezvous rendezvousId kind.toInt32 pairingCode)

/-- Whether a peer has joined. -/
def PairingPhase.isJoined : PairingPhase → Bool
  | .joined _ => true
  | _ => false

/-- Whether the rendezvous can be completed. -/
def PairingPhase.isOpen : PairingPhase → Bool
  | .inviting | .joined _ => true
  | _ => false

/-- Relay bytes to the peer of the rendezvous. -/
def relayPairing (rendezvousId opaqueEnvelope : Bytes) (requestId : String) :
    Operation SignalingClientFrame := do
  require (opaqueEnvelope.length ≤ maxOpaqueSignalingEnvelopeBytes) .opaqueEnvelopeTooLarge
  validateRendezvousId rendezvousId
  validateRequestId requestId
  let p ← get
  let active ← orThrow p.pairing .invalidState
  require (p.state = .ready ∧ active.rendezvousId = rendezvousId ∧
    PairingPhase.isJoined active.phase) .invalidState
  return clientFrame requestId (.relayPairing rendezvousId opaqueEnvelope)

/-- Complete the rendezvous with success or rejection. -/
def completePairing (completion : PairingRendezvousCompletion)
    (requestId : String) : Operation SignalingClientFrame := do
  validateRendezvousId rendezvousId
  require (completion = .succeeded ∨ completion = .rejected) .invalidPairingCompletion
  validateRequestId requestId
  let p ← get
  let active ← orThrow p.pairing .invalidState
  require (p.state = .ready ∧ active.rendezvousId = rendezvousId ∧
    PairingPhase.isOpen active.phase) .invalidState
  modify fun p => { p with
    pairing := some { active with phase := .completing requestId completion } }
  return clientFrame requestId (.completeRendezvous rendezvousId completion.toInt32)

/-- The connection is gone. -/
def disconnected (p : SignalingProtocol) : SignalingProtocol :=
  { p with state := .disconnected, pairing := none, pendingHeartbeatRequestId := none }

/-- The one heartbeat in flight. -/
def heartbeat : Operation SignalingClientFrame := do
  let p ← get
  require (p.state = .ready ∧ p.pendingHeartbeatRequestId = none) .invalidState
  validateRequestId requestId
  modify fun p => { p with pendingHeartbeatRequestId := some requestId }
  return clientFrame requestId .heartbeat

/-! ## Frames of the service -/

/-- The registration has been accepted. -/
def handleRegistered (deviceId : Bytes)
    (presenceExpiresAtUnixMs : UInt64) : Operation SignalingEvent := do
  let p ← get
  match p.state with
  | .registering expected => do
    require (requestId = expected) .correlationMismatch
    require (deviceId = p.deviceId) .invalidDeviceId
    modify fun p => { p with state := .ready }
    return .registered presenceExpiresAtUnixMs
  | _ => throw .invalidState

/-- The heartbeat has been answered. -/
def handleHeartbeatAcknowledged
    (serverTimeUnixMs presenceExpiresAtUnixMs : UInt64) : Operation SignalingEvent := do
  let p ← get
  require (p.state = .ready) .invalidState
  let expected ← orThrow p.pendingHeartbeatRequestId .invalidState
  require (requestId = expected) .correlationMismatch
  require (¬ (serverTimeUnixMs = 0 ∨ presenceExpiresAtUnixMs ≤ serverTimeUnixMs)) .invalidFrame
  modify fun p => { p with pendingHeartbeatRequestId := none }
  return .heartbeatAcknowledged serverTimeUnixMs presenceExpiresAtUnixMs

/-- Bytes of a device for a session. -/
def handleRoutedSession (senderDeviceId opaqueEnvelope : Bytes) :
    Operation SignalingEvent := do
  let p ← get
  require (p.state = .ready) .invalidState
  require (requestId = "" ∧ senderDeviceId.length = deviceIdBytes) .invalidFrame
  require (opaqueEnvelope.length ≤ maxOpaqueSignalingEnvelopeBytes) .opaqueEnvelopeTooLarge
  return .routedSession senderDeviceId opaqueEnvelope

/-- The request of a rendezvous that is being created. -/
def PairingPhase.creatingRequest? : PairingPhase → Option String
  | .creating requestId => some requestId
  | _ => none

/-- The peer of a rendezvous that has been joined. -/
def PairingPhase.peer? : PairingPhase → Option Bytes
  | .joined peerDeviceId => some peerDeviceId
  | _ => none

/-- The rendezvous has been created. -/
def handlePairingCreated (kind : Int32) (expiresAtUnixMs : UInt64) : Operation SignalingEvent := do
  let kind ← orThrow (PairingRendezvousKind.ofInt32? kind) .invalidPairingKind
  require (¬ (kind = .unspecified ∨ expiresAtUnixMs = 0)) .invalidFrame
  let p ← get
  let active ← orThrow p.pairing .invalidState
  let expected ← orThrow (PairingPhase.creatingRequest? active.phase) .invalidState
  require (requestId = expected) .correlationMismatch
  require (rendezvousId = active.rendezvousId ∧ kind = active.kind) .correlationMismatch
  modify fun p => { p with pairing := some { active with expiresAtUnixMs, phase := .inviting } }
  return .pairingCreated rendezvousId kind expiresAtUnixMs

/-- A peer has joined the rendezvous. -/
def handlePairingJoined (rendezvousId peerDeviceId : Bytes)
    (expiresAtUnixMs : UInt64) : Operation SignalingEvent := do
  require (requestId = "") .correlationMismatch
  let p ← get
  let active ← orThrow p.pairing .invalidState
  require (active.phase = .inviting) .invalidState
  require (rendezvousId = active.rendezvousId ∧ expiresAtUnixMs = active.expiresAtUnixMs)
    .correlationMismatch
  require (peerDeviceId.length = deviceIdBytes ∧ peerDeviceId ≠ p.deviceId)
    .unexpectedPairingPeer
  modify fun p => { p with pairing := some { active with phase := .joined peerDeviceId } }
  return .pairingJoined rendezvousId peerDeviceId expiresAtUnixMs

/-- Bytes of the peer of the rendezvous. -/
def handleRoutedPairing (rendezvousId senderDeviceId opaqueEnvelope : Bytes) :
    Operation SignalingEvent := do
  require (requestId = "") .correlationMismatch
  require (opaqueEnvelope.length ≤ maxOpaqueSignalingEnvelopeBytes) .opaqueEnvelopeTooLarge
  let p ← get
  let active ← orThrow p.pairing .invalidState
  let peerDeviceId ← orThrow (PairingPhase.peer? active.phase) .invalidState
  require (rendezvousId = active.rendezvousId) .correlationMismatch
  require (senderDeviceId = peerDeviceId) .unexpectedPairingPeer
  return .routedPairing rendezvousId senderDeviceId opaqueEnvelope

/-- Whether a rendezvous in this phase may be closed, or the error if not. -/
def checkClosed (phase : PairingPhase) (requestId : String)
    (completion : PairingRendezvousCompletion) : Except SignalingClientError Unit :=
  match phase with
  | .completing expected expectedCompletion =>
    if requestId = expected ∧ completion = expectedCompletion then .ok ()
    else .error .correlationMismatch
  | .inviting | .joined _ =>
    if requestId = "" ∧ (completion = .expired ∨ completion = .disconnected) then .ok ()
    else .error .invalidState
  | .creating _ => .error .invalidState

/-- The rendezvous has been closed. -/
def handlePairingClosed (completion : Int32) :
    Operation SignalingEvent := do
  let completion ← orThrow (PairingRendezvousCompletion.ofInt32? completion)
    .invalidPairingCompletion
  require (completion ≠ .unspecified) .invalidPairingCompletion
  let p ← get
  let active ← orThrow p.pairing .invalidState
  require (rendezvousId = active.rendezvousId) .correlationMismatch
  ofResult (checkClosed active.phase requestId completion)
  modify fun p => { p with pairing := none }
  return .pairingClosed rendezvousId completion

/-- Whether an error answers the request of this phase. -/
def PairingPhase.answeredBy : PairingPhase → Bool
  | .creating expected | .completing expected _ => expected = requestId
  | _ => false

/-- A request has failed. -/
def handleError (code : Int32) (retryable : Bool)
    (errorRequestId : String) : Operation SignalingEvent := do
  require (¬ (requestId = "" ∨ errorRequestId ≠ requestId)) .correlationMismatch
  validateRequestId requestId
  let code ← orThrow (ErrorCode.ofInt32? code) .invalidErrorCode
  require (code ≠ .unspecified) .invalidErrorCode
  let p ← get
  onlyIf (p.pairing.any fun active => PairingPhase.answeredBy requestId active.phase)
    (modify fun p => { p with pairing := none })
  return .remoteError code retryable

/-- Check a frame of the service against the state. -/
def handlePayload : SignalingServerPayload → Operation SignalingEvent
  | .registered deviceId expires => handleRegistered requestId deviceId expires
  | .heartbeatAcknowledged time expires => handleHeartbeatAcknowledged requestId time expires
  | .routedSession sender envelope => handleRoutedSession requestId sender envelope
  | .rendezvousCreated rendezvousId kind expires =>
    handlePairingCreated requestId rendezvousId kind expires
  | .rendezvousJoined rendezvousId peer expires =>
    handlePairingJoined requestId rendezvousId peer expires
  | .routedPairing rendezvousId sender envelope =>
    handleRoutedPairing requestId rendezvousId sender envelope
  | .rendezvousClosed rendezvousId completion =>
    handlePairingClosed requestId rendezvousId completion
  | .error code retryable errorRequestId => handleError requestId code retryable errorRequestId
  | .presenceResult _ _ => throw .unexpectedPayload

/-- Handle a decoded frame. -/
def handleFrame (frame : SignalingServerFrame) : Operation SignalingEvent := do
  let version ← orThrow frame.protocolVersion .protocolUnsupported
  require (version.major = protocolMajorVersion) .protocolUnsupported
  let payload ← orThrow frame.payload .unexpectedPayload
  handlePayload frame.requestId payload

/-- Decode and handle a binary frame. -/
def handleBinary (decode : Bytes → Option SignalingServerFrame) (encoded : Bytes) :
    Operation SignalingEvent := do
  require (encoded.length ≤ maxSignalingServiceFrameBytes) .frameTooLarge
  let frame ← orThrow (decode encoded) .invalidFrame
  handleFrame frame

end SignalingProtocol

end Host

end Roammand
