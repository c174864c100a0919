import Roammand.Host.PeerSession
import Roammand.Host.SessionAuth
import Roammand.Host.Sessions
import Roammand.Protocol.Signaling

/-!
# The remote session coordinator

The coordinator runs the one remote session of a Host.  Envelopes of a controller
are collected in a pending session until they hold an authenticated offer with its
description; the offer is then verified and a peer session is started, which is
the active session from then on.  When the peer or the signaling connection is
lost, the active session is retained for a bounded time in which the controller
may send a new offer for it.

What the coordinator asks of the rest of the Host is an `Environment`, one for
each call: the grants, the platform's session parts, and the outcome of every
operation that may fail.

Main results:

- Definition `RemoteSessionCoordinator` with its operations.
- Definition `RemoteSessionCoordinator.machine`: the coordinator as a machine, one
  input for each operation.
- Theorem `pollPeerEvents_eq_run`: a poll is a tick followed by the handling of one
  peer event after the other.
-/

namespace Roammand

namespace Host

open Library Protocol HostPeerSession

/-- How many candidates are kept for a session that has not started. -/
def maxPendingIceCandidates : Nat := 64

/-- How many bytes of candidates are kept for a session that has not started. -/
def maxPendingIceBytes : Nat := 65536

/-- How long a pending session and a failed attempt are remembered. -/
def pendingSessionLifetimeMs : Nat := 30000

/-- How long a lost session is retained. -/
def activeReconnectLifetimeMs : Nat := 45000

/-- How many peer events one poll handles. -/
def maxEvents : Nat := 64

/-- The request identifier of a local termination. -/
def localTerminationRequestId : String := "host-termination"

/-- The events of the platform's peer.  Input is given by what the decoder makes of
the received bytes. -/
inductive RemotePeerEvent where
  | connected
  | disconnected
  | failed
  | localStop
  | localIceCandidate (candidate : PeerIceCandidate)
  | reliableInput (decoded : Option ReliableInputEnvelope)
  | fastPointer (decoded : Option PointerFastEnvelope)
  deriving DecidableEq

/-- An envelope for a controller. -/
structure RemoteSessionOutbound where
  recipientDeviceId : Bytes
  envelope : SignalingEnvelope
  deriving DecidableEq

/-- The errors of the coordinator. -/
inductive RemoteSessionError where
  | invalidEnvelope
  | deviceBusy
  | authentication
  | authorization
  | replay
  | pendingIceLimit
  | peer
  | input
  | inputPermission
  | service
  | closed
  deriving DecidableEq

/-- The errors of the Host service. -/
inductive RemoteServiceError where
  | authentication (error : SessionAuthenticationError)
  | authorization
  | identity
  | session
  | invalidStatus
  | unavailable
  deriving DecidableEq

/-- The error that is sent for an error of the coordinator. -/
def protocolErrorFor : RemoteSessionError → ErrorCode
  | .deviceBusy => .deviceBusy
  | .authentication => .authInvalid
  | .authorization => .authRevoked
  | .replay => .sessionReplayed
  | .pendingIceLimit | .invalidEnvelope => .invalidRequest
  | .input => .inputInjectionFailed
  | .inputPermission => .inputPermissionRequired
  | .peer => .captureFailed
  | .service | .closed => .serverUnavailable

/-- The error of the coordinator for an error of the service. -/
def mapServiceError : RemoteServiceError → RemoteSessionError
  | .authentication .replay => .replay
  | .authentication .controllerNotAuthorized | .authentication .permissionDenied =>
    .authorization
  | .authentication _ => .authentication
  | .authorization | .identity | .session | .invalidStatus | .unavailable => .service

/-- The error of the coordinator for an error of the peer session. -/
def mapPeerError : HostWebRtcError → RemoteSessionError
  | .inputPermissionDenied => .inputPermission
  | .inputFailure => .input
  | _ => .peer

/-- The text of an error code. -/
def messageKey : ErrorCode → String
  | .deviceBusy => "remote_session.device_busy"
  | .authInvalid => "remote_session.authentication_failed"
  | .authRevoked => "remote_session.authorization_revoked"
  | .sessionReplayed => "remote_session.replayed"
  | .iceFailed => "remote_session.ice_failed"
  | .inputInjectionFailed => "remote_session.input_failed"
  | .serverUnavailable => "remote_session.temporarily_unavailable"
  | _ => "remote_session.failed"

/-- Messages of a controller that have not started a session yet. -/
structure PendingSession where
  controllerDeviceId : Bytes
  sessionId : Bytes
  requestId : String
  createdAtUnixMs : UInt64
  authentication : Option SessionOfferAuthentication
  description : Option WebRtcSessionDescription
  candidates : List PeerIceCandidate
  candidateBytes : Nat
  deriving DecidableEq

namespace PendingSession

/-- A pending session without any message. -/
def new (controllerDeviceId sessionId : Bytes) (requestId : String) (createdAtUnixMs : UInt64) :
    PendingSession :=
  { controllerDeviceId, sessionId, requestId, createdAtUnixMs, authentication := none,
    description := none, candidates := [], candidateBytes := 0 }

/-- Keep a candidate, within the limits. -/
def pushCandidate (pending : PendingSession) (candidate : PeerIceCandidate) :
    Except RemoteSessionError PendingSession :=
  let candidateBytes := candidate.candidate.utf8ByteSize + candidate.sdpMid.utf8ByteSize +
    pending.candidateBytes
  if maxPendingIceCandidates ≤ pending.candidates.length ∨ maxPendingIceBytes < candidateBytes then
    .error .pendingIceLimit
  else
    .ok { pending with candidates := pending.candidates ++ [candidate], candidateBytes }

/-- Offer and description have both arrived. -/
def isReady (pending : PendingSession) : Bool :=
  pending.authentication.isSome && pending.description.isSome

end PendingSession

/-- A session that failed to start: what its controller still sends for it is
ignored for a while. -/
structure FailedSessionAttempt where
  controllerDeviceId : Bytes
  sessionId : Bytes
  failedAtUnixMs : UInt64

/-- The session that is running. -/
structure ActiveSession where
  controllerDeviceId : Bytes
  sessionId : Bytes
  session : HostPeerSession
  reconnect : Option PendingSession
  reconnectGeneration : UInt32
  reconnectDeadlineUnixMs : Option UInt64

/-- The peer and the sink of a new session, by how they will answer. -/
structure RemoteSessionParts where
  negotiate : List PeerCall → Except HostWebRtcError PeerAnswer
  acknowledge : List PeerCall → Except HostWebRtcError Unit
  respond : List SinkCall → Except HostWebRtcError Unit

/-- What the rest of the Host does during one call of the coordinator. -/
structure Environment where
  /-- The grants at the time of a verification. -/
  registry : AuthorizationRegistry
  /-- What the factory makes for a new session. -/
  parts : Except RemoteSessionError RemoteSessionParts
  /-- Whether the connection can be recorded with the grants. -/
  recorded : Bool
  /-- The Host's signature over a transcript, if its identity can make one. -/
  sign : Bytes → Option (Vector UInt8 64)
  /-- Whether a state of the session can be published. -/
  published : SessionState → Bool

/-- The coordinator, with the part of the Host service that it changes.  `retired`
holds the peer sessions that it has dropped. -/
structure RemoteSessionCoordinator where
  hostDeviceId : Bytes
  verifier : OfferVerifier
  sessions : SessionRegistry
  pending : Option PendingSession
  failedAttempt : Option FailedSessionAttempt
  active : Option ActiveSession
  closed : Bool
  retired : List HostPeerSession

/-- A method of the coordinator. -/
abbrev CoordinatorM := Fallible RemoteSessionCoordinator RemoteSessionError

/-- A method of the active session. -/
abbrev ActiveM := Fallible ActiveSession RemoteSessionError

/-- When a session that is lost now is given up. -/
def reconnectDeadline (nowUnixMs : UInt64) : UInt64 :=
  .ofNat (saturatingAdd nowUnixMs.toNat activeReconnectLifetimeMs)

/-- A peer session is closed when it is dropped. -/
def HostPeerSession.dropped (s : HostPeerSession) : HostPeerSession := (close s).2

/-- A candidate as the peer takes it. -/
def peerIceCandidate (candidate : IceCandidate) : PeerIceCandidate :=
  ⟨candidate.candidate, candidate.sdpMid, candidate.sdpMLineIndex⟩

namespace ActiveSession

open Fallible

/-- Run a method of the peer session. -/
def onSession {α : Type} (f : HostWebRtcError → RemoteSessionError) (m : SessionM α) : ActiveM α :=
  zoom session (fun active session => { active with session }) (mapError f m)

/-- The messages for a new negotiation, with the identifier of the last request. -/
def prepareReconnect (requestId : String) (nowUnixMs : UInt64) : ActiveM PendingSession := do
  let active ← get
  let pending := { active.reconnect.getD
    (.new active.controllerDeviceId active.sessionId requestId nowUnixMs) with requestId }
  modify fun active => { active with reconnect := some pending }
  return pending

/-- Put the messages for a new negotiation. -/
def setReconnect (pending : PendingSession) : ActiveM Unit :=
  modify fun active => { active with reconnect := some pending }

/-- Hand candidates to the peer. -/
def addCandidates : List PeerIceCandidate → ActiveM Unit
  | [] => pure ()
  | candidate :: candidates => do
    onSession (fun _ => .peer) (addRemoteIceCandidate candidate)
    addCandidates candidates

end ActiveSession

namespace RemoteSessionCoordinator

open Fallible ActiveSession

/-- A coordinator without a session. -/
def new (hostDeviceId : Bytes) (verifier : OfferVerifier) : RemoteSessionCoordinator :=
  { hostDeviceId, verifier, sessions := ∅, pending := none, failedAttempt := none,
    active := none, closed := false, retired := [] }

/-- The coordinator of a Host with a well-formed identity. -/
def withConfig (hostDeviceId : Bytes) : Except RemoteSessionError RemoteSessionCoordinator := do
  let verifier ← (OfferVerifier.new hostDeviceId).mapError fun _ => .authentication
  return new hostDeviceId verifier

/-- The end of the window in which the active session may be negotiated again. -/
def reconnectDeadlineUnixMs (c : RemoteSessionCoordinator) : Option UInt64 :=
  c.active.bind (·.reconnectDeadlineUnixMs)

/-- Run a method of the active session. -/
def onActive {α : Type} (e : RemoteSessionError) (m : ActiveM α) : CoordinatorM α := fun c =>
  match c.active with
  | none => (.error e, c)
  | some active => ((m active).1, { c with active := some (m active).2 })

section Operations

variable (crypto : Crypto) (env : Environment)

/-- Publish a state of the session. -/
def updateRemoteStatus (state : SessionState) : CoordinatorM Unit :=
  require (env.published state = true) .service

/-- Close the active session and forget it, whatever its cleanup yields. -/
def closeActive (finalError : Option ErrorCode) : CoordinatorM Unit := do
  let c ← get
  match c.active with
  | none => onlyIf (finalError = none) (updateRemoteStatus env .idle)
  | some active => do
    let (closeResult, session) := close active.session
    let (sessions, unregisterResult) := c.sessions.unregister active.sessionId
    modify fun c => { c with
      active := none
      sessions
      retired := c.retired ++ [session.dropped] }
    ofResult (closeResult.mapError mapPeerError)
    ofResult ((unregisterResult.map fun _ => ()).mapError fun _ => .service)
    updateRemoteStatus env (if finalError = none then .idle else .failed)

variable (recipientDeviceId : Bytes) (requestId : String)

/-- An envelope of the Host, if it is not too long. -/
def outbound (nowUnixMs : UInt64)
    (payload : SignalingPayload) : CoordinatorM RemoteSessionOutbound := do
  let c ← get
  let envelope : SignalingEnvelope :=
    { senderDeviceId := c.hostDeviceId
      recipientDeviceId
      requestId
      sentAtUnixMs := nowUnixMs
      payload := some payload }
  require (envelope.encode.length ≤ maxOpaqueSignalingEnvelopeBytes) .invalidEnvelope
  return { recipientDeviceId, envelope }

/-- An error for a controller. -/
def errorOutbound (code : ErrorCode) (nowUnixMs : UInt64) : CoordinatorM RemoteSessionOutbound :=
  outbound recipientDeviceId requestId nowUnixMs (.error
    { code
      messageKey := messageKey code
      retryable := code = .deviceBusy ∨ code = .serverUnavailable
      requestId })

/-- Verify an offer against the grants. -/
def verifyRemoteOffer (authentication : SessionOfferAuthentication)
    (description : WebRtcSessionDescription) (nowUnixMs : UInt64) :
    CoordinatorM VerifiedSessionOffer := do
  let c ← get
  let (verifier, result) := c.verifier.verify crypto authentication description.sdp
    description.dtlsFingerprintSha256 env.registry nowUnixMs
  modify fun c => { c with verifier }
  ofResult (result.mapError fun error => mapServiceError (.authentication error))

/-- The answer to an offer, signed by the Host. -/
def signRemoteAnswer (offer : SessionOfferAuthentication) (answerSdp : String)
    (hostFingerprint : Bytes) : Except RemoteServiceError SessionAnswerAuthentication := do
  let answer : SessionAnswerAuthentication :=
    { controllerDeviceId := offer.controllerDeviceId
      hostDeviceId := offer.hostDeviceId
      sessionId := offer.sessionId
      nonce := offer.nonce
      issuedAtUnixMs := offer.issuedAtUnixMs
      expiresAtUnixMs := offer.expiresAtUnixMs
      requestedPermissions := offer.requestedPermissions
      offerSha256 := offer.offerSha256
      controllerDtlsFingerprintSha256 := offer.controllerDtlsFingerprintSha256
      answerSha256 := (crypto.sha256 (utf8 answerSdp)).toList
      hostDtlsFingerprintSha256 := hostFingerprint
      signature := [] }
  let transcript ← (encodeSessionAnswerTranscript answer).mapError .authentication
  let signature ← okOr (env.sign transcript) .identity
  return { answer with signature := signature.toList }

/-- The answer to an offer for the active session, signed by the Host. -/
def signRemoteReconnect (offer : SessionOfferAuthentication) (answerSdp : String)
    (hostFingerprint : Bytes) (reconnectGeneration : UInt32) :
    Except RemoteServiceError SessionReconnectAuthentication := do
  let reconnect : SessionReconnectAuthentication :=
    { controllerDeviceId := offer.controllerDeviceId
      hostDeviceId := offer.hostDeviceId
      sessionId := offer.sessionId
      nonce := offer.nonce
      issuedAtUnixMs := offer.issuedAtUnixMs
      expiresAtUnixMs := offer.expiresAtUnixMs
      requestedPermissions := offer.requestedPermissions
      offerSha256 := offer.offerSha256
      controllerDtlsFingerprintSha256 := offer.controllerDtlsFingerprintSha256
      answerSha256 := (crypto.sha256 (utf8 answerSdp)).toList
      hostDtlsFingerprintSha256 := hostFingerprint
      reconnectGeneration
      signature := [] }
  let transcript ← (encodeSessionReconnectTranscript reconnect).mapError .authentication
  let signature ← okOr (env.sign transcript) .identity
  return { reconnect with signature := signature.toList }

/-! ### Reconnecting -/

variable (nowUnixMs : UInt64)

/-- Open the window for a new negotiation.  The window of the first loss stays. -/
def beginActiveReconnect : CoordinatorM Unit := do
  onActive .peer (onSession mapPeerError beginReconnect)
  onActive .peer (modify fun active => { active with
    reconnectDeadlineUnixMs :=
      some (active.reconnectDeadlineUnixMs.getD (reconnectDeadline nowUnixMs)) })
  updateRemoteStatus env .reconnecting

/-- Give up an active session whose window has passed. -/
def expireActiveReconnect : CoordinatorM Bool := do
  let c ← get
  let expired := c.reconnectDeadlineUnixMs.any fun deadline => deadline ≤ nowUnixMs
  onlyIf (expired = true) (closeActive env (some .iceFailed))
  return expired

/-- A negotiation message for the active session. -/
def handleActiveNegotiation (negotiation : WebRtcNegotiation) (requestId : String)
    (nowUnixMs : UInt64) : CoordinatorM Unit := do
  let c ← get
  let active ← orThrow c.active .peer
  require (negotiation.sessionId = active.sessionId) .invalidEnvelope
  let payload ← orThrow negotiation.payload .invalidEnvelope
  match payload with
  | .iceCandidate candidate =>
    if active.reconnect = none ∧
        (active.session.state = .negotiating ∨ active.session.state = .connected) then
      onActive .peer (onSession (fun _ => .peer)
        (addRemoteIceCandidate (peerIceCandidate candidate)))
    else do
      let pending ← onActive .peer (prepareReconnect requestId nowUnixMs)
      let pending ← ofResult (pending.pushCandidate (peerIceCandidate candidate))
      onActive .peer (setReconnect pending)
  | .description description => do
    require (description.type = sessionDescriptionTypeOffer) .invalidEnvelope
    beginActiveReconnect env nowUnixMs
    let pending ← onActive .peer (prepareReconnect requestId nowUnixMs)
    onActive .peer (setReconnect { pending with description := some description })
    require (pending.description = none) .invalidEnvelope
  | .endOfCandidates => pure ()

/-- What a successful renegotiation yields. -/
structure RestartedSession where
  controllerDeviceId : Bytes
  sessionId : Bytes
  answer : PeerAnswer
  authentication : SessionReconnectAuthentication

variable (pending : PendingSession)

/-- Negotiate the active session again. -/
def restartActive (nowUnixMs : UInt64) :
    CoordinatorM RestartedSession := do
  let authentication ← orThrow pending.authentication .invalidEnvelope
  let description ← orThrow pending.description .invalidEnvelope
  let verified ← verifyRemoteOffer crypto env authentication description nowUnixMs
  let c ← get
  let active ← orThrow c.active .peer
  require (verified.controller.deviceId = active.controllerDeviceId ∧
    verified.sessionId = active.sessionId) .authentication
  require (active.reconnectGeneration.toNat + 1 < 2 ^ 32) .service
  let answer ← onActive .peer (onSession (fun _ => .peer) (acceptReconnectOffer description.sdp))
  let authentication ← ofResult ((signRemoteReconnect crypto env authentication answer.sdp
    answer.dtlsFingerprintSha256 (active.reconnectGeneration + 1)).mapError mapServiceError)
  onActive .peer (addCandidates pending.candidates)
  onActive .peer (modify fun active =>
    { active with reconnectGeneration := active.reconnectGeneration + 1 })
  return {
    controllerDeviceId := active.controllerDeviceId
    sessionId := active.sessionId
    answer
    authentication }

/-- The answer to a renegotiation. -/
def reconnectOutbound (restarted : RestartedSession) (requestId : String) (nowUnixMs : UInt64) :
    CoordinatorM (List RemoteSessionOutbound) := do
  let authentication ← outbound restarted.controllerDeviceId requestId nowUnixMs
    (.sessionAuthentication (some (.reconnect restarted.authentication)))
  let description ← outbound restarted.controllerDeviceId requestId nowUnixMs
    (.webrtcNegotiation
      { sessionId := restarted.sessionId
        payload := some (.description
          { type := sessionDescriptionTypeAnswer
            sdp := restarted.answer.sdp
            dtlsFingerprintSha256 := restarted.answer.dtlsFingerprintSha256 }) })
  return [authentication, description]

/-- Negotiate again as soon as offer and description are there. -/
def tryRestartActive : CoordinatorM (List RemoteSessionOutbound) := do
  let c ← get
  match c.active.bind (·.reconnect) with
  | none => return []
  | some pending =>
    if pending.isReady then do
      onActive .service (modify fun active => { active with reconnect := none })
      let result ← outcome (restartActive crypto env pending nowUnixMs)
      match result with
      | .ok restarted => reconnectOutbound restarted pending.requestId nowUnixMs
      | .error error => do
        let code := if error = .peer then .iceFailed else protocolErrorFor error
        let error ← errorOutbound pending.controllerDeviceId pending.requestId code
          nowUnixMs
        return [error]
    else return []

variable (envelope : SignalingEnvelope)

/-- A message of the controller of the active session about a new negotiation. -/
def handleActiveReconnectEnvelope (nowUnixMs : UInt64) :
    CoordinatorM (List RemoteSessionOutbound) := do
  let payload ← orThrow envelope.payload .invalidEnvelope
  match payload with
  | .sessionAuthentication (some (.offer offer)) => do
    beginActiveReconnect env nowUnixMs
    let pending ← onActive .peer (prepareReconnect envelope.requestId nowUnixMs)
    require (offer.controllerDeviceId = pending.controllerDeviceId ∧
      offer.sessionId = pending.sessionId) .invalidEnvelope
    onActive .peer (setReconnect { pending with authentication := some offer })
    require (pending.authentication = none) .invalidEnvelope
    tryRestartActive crypto env nowUnixMs
  | .webrtcNegotiation negotiation => do
    handleActiveNegotiation env negotiation envelope.requestId nowUnixMs
    tryRestartActive crypto env nowUnixMs
  | _ => throw .invalidEnvelope

/-! ### Starting a session -/

/-- What a started session yields. -/
structure StartedSession where
  controllerDeviceId : Bytes
  sessionId : Bytes
  answer : PeerAnswer
  answerAuthentication : SessionAnswerAuthentication

/-- Give up a session that was being started. -/
def abandon {α : Type} (session : HostPeerSession) (error : RemoteSessionError) :
    CoordinatorM α := do
  modify fun c => { c with
    retired := c.retired ++ [((close session).2).dropped] }
  throw error

/-- Give up a session that was being started and is registered already. -/
def unregisterAndAbandon {α : Type} (sessionId : Bytes) (session : HostPeerSession)
    (error : RemoteSessionError) : CoordinatorM α := do
  modify fun c => { c with sessions := (c.sessions.unregister sessionId).1 }
  abandon session error

/-- Hand the collected candidates to a session that is being started. -/
def addPendingCandidates : List PeerIceCandidate → SessionM Unit
  | [] => pure ()
  | candidate :: candidates => do
    addRemoteIceCandidate candidate
    addPendingCandidates candidates

/-- Start the peer session of a verified offer and make it the active one. -/
def activateVerifiedSession (authentication : SessionOfferAuthentication)
    (description : WebRtcSessionDescription) (candidates : List PeerIceCandidate)
    (verified : VerifiedSessionOffer) : CoordinatorM StartedSession := do
  let parts ← ofResult env.parts
  let session ← ofResult ((HostPeerSession.new verified.sessionId verified.permissions
    { negotiate := parts.negotiate, acknowledge := parts.acknowledge, calls := [] }
    { respond := parts.respond, calls := [] }).mapError mapPeerError)
  match acceptOffer description.sdp session with
  | (.error error, session) => abandon session (mapPeerError error)
  | (.ok answer, session) =>
    match signRemoteAnswer crypto env authentication answer.sdp answer.dtlsFingerprintSha256 with
    | .error error => abandon session (mapServiceError error)
    | .ok answerAuthentication => do
      let c ← get
      match c.sessions.register ⟨verified.sessionId, verified.controller.deviceId⟩ with
      | .error _ => abandon session .service
      | .ok sessions => do
        modify fun c => { c with sessions }
        if env.recorded then
          match addPendingCandidates candidates session with
          | (.error _, session) => unregisterAndAbandon verified.sessionId session .peer
          | (.ok _, session) =>
            if env.published .connecting then do
              modify fun c => { c with
                active := some {
                  controllerDeviceId := verified.controller.deviceId
                  sessionId := verified.sessionId
                  session
                  reconnect := none
                  reconnectGeneration := 0
                  reconnectDeadlineUnixMs := none } }
              return {
                controllerDeviceId := verified.controller.deviceId
                sessionId := verified.sessionId
                answer
                answerAuthentication }
            else unregisterAndAbandon verified.sessionId session .service
        else unregisterAndAbandon verified.sessionId session (mapServiceError .authorization)

/-- Verify the offer of a pending session and start it. -/
def startPending (nowUnixMs : UInt64) :
    CoordinatorM (List RemoteSessionOutbound) := do
  let authentication ← orThrow pending.authentication .invalidEnvelope
  let description ← orThrow pending.description .invalidEnvelope
  updateRemoteStatus env .authenticating
  let verified ← verifyRemoteOffer crypto env authentication description nowUnixMs
  require (verified.controller.deviceId = pending.controllerDeviceId ∧
    verified.sessionId = pending.sessionId) .authentication
  let started ← activateVerifiedSession crypto env authentication description pending.candidates
    verified
  let authentication ← outbound started.controllerDeviceId pending.requestId nowUnixMs
    (.sessionAuthentication (some (.answer started.answerAuthentication)))
  let description ← outbound started.controllerDeviceId pending.requestId nowUnixMs
    (.webrtcNegotiation
      { sessionId := started.sessionId
        payload := some (.description
          { type := sessionDescriptionTypeAnswer
            sdp := started.answer.sdp
            dtlsFingerprintSha256 := started.answer.dtlsFingerprintSha256 }) })
  return [authentication, description]

/-- Start the pending session as soon as offer and description are there. -/
def tryStartPending : CoordinatorM (List RemoteSessionOutbound) := do
  let c ← get
  match c.pending with
  | none => return []
  | some pending =>
    if pending.isReady then do
      modify fun c => { c with pending := none }
      let result ← outcome (startPending crypto env pending nowUnixMs)
      match result with
      | .ok outbound => return outbound
      | .error error => do
        modify fun c => { c with
          failedAttempt :=
            some ⟨pending.controllerDeviceId, pending.sessionId, nowUnixMs⟩ }
        let error ← errorOutbound pending.controllerDeviceId pending.requestId
          (protocolErrorFor error) nowUnixMs
        return [error]
    else return []

/-- The session that a payload is about, for the payloads that start sessions. -/
def payloadSessionId : SignalingPayload → Option Bytes
  | .sessionAuthentication (some (.offer offer)) => some offer.sessionId
  | .webrtcNegotiation negotiation => some negotiation.sessionId
  | _ => none

/-- The pending session that a message belongs to, or none if there is another one. -/
def preparePending (controllerDeviceId sessionId : Bytes) (requestId : String)
    (nowUnixMs : UInt64) : CoordinatorM (Option PendingSession) := do
  let c ← get
  match c.pending with
  | none => do
    let pending := PendingSession.new controllerDeviceId sessionId requestId nowUnixMs
    modify fun c => { c with pending := some pending }
    return some pending
  | some pending =>
    if pending.controllerDeviceId = controllerDeviceId ∧ pending.sessionId = sessionId then do
      let pending := { pending with requestId }
      modify fun c => { c with pending := some pending }
      return some pending
    else return none

/-- Put the pending session. -/
def setPending : CoordinatorM Unit :=
  modify fun c => { c with pending := some pending }

/-- Keep a message for the pending session. -/
def collectPending : SignalingPayload → CoordinatorM Unit
  | .sessionAuthentication (some (.offer offer)) => do
    setPending { pending with authentication := some offer }
    require (pending.authentication = none) .invalidEnvelope
  | .webrtcNegotiation negotiation => do
    let payload ← orThrow negotiation.payload .invalidEnvelope
    match payload with
    | .description description => do
      require (description.type = sessionDescriptionTypeOffer) .invalidEnvelope
      setPending { pending with description := some description }
      require (pending.description = none) .invalidEnvelope
    | .iceCandidate candidate => do
      let pending ← ofResult (pending.pushCandidate (peerIceCandidate candidate))
      setPending pending
    | .endOfCandidates => pure ()
  | _ => throw .invalidEnvelope

/-- A message while no session is active. -/
def handlePendingEnvelope (nowUnixMs : UInt64) :
    CoordinatorM (List RemoteSessionOutbound) := do
  let payload ← orThrow envelope.payload .invalidEnvelope
  match payload with
  | .sessionStatus status => do
    require (status.state = sessionStateClosing) .invalidEnvelope
    modify fun c => { c with
      pending := c.pending.filter fun pending =>
        ¬ (pending.controllerDeviceId = envelope.senderDeviceId ∧
          pending.sessionId = status.sessionId) }
    return []
  | payload => do
    let sessionId ← orThrow (payloadSessionId payload) .invalidEnvelope
    let prepared ← preparePending envelope.senderDeviceId sessionId envelope.requestId nowUnixMs
    match prepared with
    | none => do
      let error ← errorOutbound envelope.senderDeviceId envelope.requestId .deviceBusy
        nowUnixMs
      return [error]
    | some pending => do
      collectPending pending payload
      tryStartPending crypto env nowUnixMs

/-- A message of the controller of the active session. -/
def handleActiveEnvelope (nowUnixMs : UInt64) :
    CoordinatorM (List RemoteSessionOutbound) := do
  match envelope.payload with
  | some (.sessionAuthentication _) | some (.webrtcNegotiation _) =>
    handleActiveReconnectEnvelope crypto env envelope nowUnixMs
  | some (.sessionStatus status) => do
    require (status.state = sessionStateClosing) .invalidEnvelope
    let c ← get
    let active ← orThrow c.active .peer
    require (status.sessionId = active.sessionId) .invalidEnvelope
    closeActive env none
    return []
  | _ => throw .invalidEnvelope

/-- Forget a pending session and a failed attempt that are too old. -/
def expirePending : CoordinatorM Unit :=
  modify fun c => { c with
    pending := c.pending.filter fun pending =>
      nowUnixMs.toNat - pending.createdAtUnixMs.toNat ≤ pendingSessionLifetimeMs
    failedAttempt := c.failedAttempt.filter fun attempt =>
      nowUnixMs.toNat - attempt.failedAtUnixMs.toNat ≤ pendingSessionLifetimeMs }

/-- The message is about a session that has failed to start. -/
def matchesFailedAttempt (c : RemoteSessionCoordinator) (envelope : SignalingEnvelope) : Bool :=
  (envelope.payload.bind payloadSessionId).any fun sessionId =>
    c.failedAttempt.any fun attempt =>
      attempt.controllerDeviceId = envelope.senderDeviceId ∧ attempt.sessionId = sessionId

/-! ### The entry points -/

/-- Handle an envelope that the signaling service has routed.  `decoded` is what the
decoder makes of the received bytes, with a valid payload. -/
def handleRouted (routedSenderDeviceId : Bytes) (decoded : Option SignalingEnvelope)
    (nowUnixMs : UInt64) : CoordinatorM (List RemoteSessionOutbound) := do
  let c ← get
  require (c.closed = false) .closed
  let envelope ← orThrow decoded .invalidEnvelope
  ofResult ((validateEnvelopeFields envelope).mapError fun _ => .invalidEnvelope)
  require (envelope.senderDeviceId = routedSenderDeviceId ∧
    envelope.recipientDeviceId = c.hostDeviceId) .invalidEnvelope
  expirePending nowUnixMs
  let _ ← expireActiveReconnect env nowUnixMs
  let c ← get
  if c.matchesFailedAttempt envelope then return []
  else
    match c.active with
    | none => handlePendingEnvelope crypto env envelope nowUnixMs
    | some active =>
      if active.controllerDeviceId = envelope.senderDeviceId then
        handleActiveEnvelope crypto env envelope nowUnixMs
      else do
        let error ← errorOutbound envelope.senderDeviceId envelope.requestId .deviceBusy
          nowUnixMs
        return [error]

/-- Close the active session and tell its controller. -/
def closeActiveWithRemoteNotification (finalError : Option ErrorCode) :
    CoordinatorM (List RemoteSessionOutbound) := do
  let c ← get
  match c.active with
  | none => return []
  | some active => do
    let status ← outbound active.controllerDeviceId localTerminationRequestId nowUnixMs
      (.sessionStatus { sessionId := active.sessionId, state := sessionStateClosing })
    closeActive env finalError
    return [status]

/-- Input for the active session.  It is ignored while the session is renegotiated,
and an error ends the session. -/
def handleInput {α : Type} (handle : SessionM α) (finish : CoordinatorM Unit) :
    CoordinatorM (List RemoteSessionOutbound) := do
  let c ← get
  if c.reconnectDeadlineUnixMs.isSome then return []
  else do
    let result ← onActive .input (outcome (onSession mapPeerError handle))
    match result with
    | .ok _ => do
      finish
      return []
    | .error _ => do
      closeActive env (some .inputInjectionFailed)
      throw .input

/-- Close the active session if the input that it has handled has ended it. -/
def closeEnded : CoordinatorM Unit := do
  let c ← get
  onlyIf (c.active.any fun active => active.session.state = .closed) (closeActive env none)

/-- Handle an event of the peer. -/
def handlePeerEvent (event : RemotePeerEvent) (nowUnixMs : UInt64) :
    CoordinatorM (List RemoteSessionOutbound) := do
  let c ← get
  require (c.closed = false) .closed
  let expired ← expireActiveReconnect env nowUnixMs
  if expired then return []
  else
    match event with
    | .connected => do
      onActive .peer (onSession (fun _ => .peer) markConnected)
      onActive .peer (modify fun active => { active with
        reconnect := none
        reconnectDeadlineUnixMs := none })
      updateRemoteStatus env .connected
      return []
    | .localIceCandidate candidate => do
      let c ← get
      let active ← orThrow c.active .peer
      let envelope ← outbound active.controllerDeviceId "host-ice" nowUnixMs
        (.webrtcNegotiation
          { sessionId := active.sessionId
            payload := some (.iceCandidate
              ⟨candidate.candidate, candidate.sdpMid, candidate.sdpMLineIndex⟩) })
      return [envelope]
    | .reliableInput decoded =>
      handleInput env (handleReliable decoded) (closeEnded env)
    | .fastPointer decoded =>
      handleInput env (handlePointerFast decoded) (pure ())
    | .disconnected | .failed => do
      beginActiveReconnect env nowUnixMs
      return []
    | .localStop => closeActiveWithRemoteNotification env nowUnixMs none

/-- What the source of peer events yields: nothing, an event or an error. -/
abbrev Received := Except RemoteSessionError (Option RemotePeerEvent)

/-- Handle what the source of peer events yields.  After an error of the source
events may have been lost, so that the session is closed. -/
def receivePeerEvent (received : Received) (nowUnixMs : UInt64) :
    CoordinatorM (List RemoteSessionOutbound) := do
  let c ← get
  match c.active, received with
  | none, _ => return []
  | some _, .ok none => return []
  | some _, .ok (some event) => handlePeerEvent env event nowUnixMs
  | some _, .error error => do
    closeActive env (some (protocolErrorFor error))
    throw error

/-- Poll for one peer event. -/
def pollPeerEvent (received : Received) (nowUnixMs : UInt64) :
    CoordinatorM (List RemoteSessionOutbound) := do
  let expired ← expireActiveReconnect env nowUnixMs
  if expired then return []
  else receivePeerEvent env received nowUnixMs

/-- The loop of a poll.  With each result of the source comes the environment in
which it is handled, and whether the time for the poll is over after it. -/
def pollLoop (nowUnixMs : UInt64) : List (Environment × Received × Bool) →
    CoordinatorM (List RemoteSessionOutbound)
  | [] => return []
  | (env, received, elapsed) :: batch => do
    let c ← get
    if c.active.isNone ∨ received = .ok none then return []
    else do
      let outbound ← receivePeerEvent env received nowUnixMs
      if outbound ≠ [] ∨ elapsed then return outbound else pollLoop nowUnixMs batch

/-- Poll for a bounded number of peer events. -/
def pollPeerEvents (batch : List (Environment × Received × Bool)) (nowUnixMs : UInt64) :
    CoordinatorM (List RemoteSessionOutbound) := do
  let expired ← expireActiveReconnect env nowUnixMs
  if expired then return []
  else pollLoop nowUnixMs (batch.take maxEvents)

/-- Close the active session after a local termination. -/
def handleTermination (event : SessionTerminatedEvent) (nowUnixMs : UInt64) :
    CoordinatorM (List RemoteSessionOutbound) := do
  let c ← get
  if c.active.any fun active => active.sessionId = event.session.sessionId ∧
      active.controllerDeviceId = event.session.controllerDeviceId then
    closeActiveWithRemoteNotification env nowUnixMs
      (match event.reason with
      | .localEmergencyStop => none
      | .authRevoked => some .authRevoked)
  else return []

/-- The signaling connection is lost.  A session that cannot wait for its peer is
closed. -/
def signalingLost : CoordinatorM Unit := do
  modify fun c => { c with pending := none }
  let c ← get
  match c.active with
  | none => pure ()
  | some _ => do
    let result ← outcome (beginActiveReconnect env nowUnixMs)
    match result with
    | .ok _ => pure ()
    | .error error => do
      closeActive env (some .iceFailed)
      throw error

/-- The Host's graphical session has changed. -/
def privilegedRouteChanged : CoordinatorM Unit := do
  let c ← get
  onlyIf (c.active.isSome = true) (beginActiveReconnect env nowUnixMs)

/-- Close everything for good. -/
def shutdown : CoordinatorM Unit := do
  modify fun c => { c with pending := none, failedAttempt := none }
  closeActive env none
  modify fun c => { c with closed := true }

end Operations

/-! ## The coordinator as a machine -/

/-- What is asked of the coordinator.  A poll is a `tick` and one `receive` for each
result of the source of peer events. -/
inductive Action where
  | routed (senderDeviceId : Bytes) (decoded : Option SignalingEnvelope) (nowUnixMs : UInt64)
  | peerEvent (event : RemotePeerEvent) (nowUnixMs : UInt64)
  | tick (nowUnixMs : UInt64)
  | receive (received : Received) (nowUnixMs : UInt64)
  | termination (event : SessionTerminatedEvent) (nowUnixMs : UInt64)
  | signalingLost (nowUnixMs : UInt64)
  | privilegedRouteChanged (nowUnixMs : UInt64)
  | shutdown

/-- An action with the environment in which it happens. -/
structure Input where
  env : Environment
  action : Action

/-- Do without a result. -/
def silently {α : Type} (m : CoordinatorM α) : CoordinatorM (List RemoteSessionOutbound) := do
  let _ ← m
  return []

/-- The operation behind an action. -/
def perform (crypto : Crypto) (input : Input) : CoordinatorM (List RemoteSessionOutbound) :=
  match input.action with
  | .routed senderDeviceId decoded nowUnixMs =>
    handleRouted crypto input.env senderDeviceId decoded nowUnixMs
  | .peerEvent event nowUnixMs => handlePeerEvent input.env event nowUnixMs
  | .tick nowUnixMs => silently (expireActiveReconnect input.env nowUnixMs)
  | .receive received nowUnixMs => receivePeerEvent input.env received nowUnixMs
  | .termination event nowUnixMs => handleTermination input.env event nowUnixMs
  | .signalingLost nowUnixMs => silently (signalingLost input.env nowUnixMs)
  | .privilegedRouteChanged nowUnixMs => silently (privilegedRouteChanged input.env nowUnixMs)
  | .shutdown => silently (shutdown input.env)

/-- The result of an operation. -/
abbrev Output := Except RemoteSessionError (List RemoteSessionOutbound)

/-- The coordinator as a machine. -/
def machine (crypto : Crypto) : Machine RemoteSessionCoordinator Input Output where
  step c input := ((perform crypto input c).2, (perform crypto input c).1)

/-- The inputs of a poll that stops after some of its events. -/
def received (nowUnixMs : UInt64) (batch : List (Environment × Received × Bool)) : List Input :=
  batch.map fun entry => ⟨entry.1, .receive entry.2.1 nowUnixMs⟩

theorem pollLoop_eq_run (crypto : Crypto) (nowUnixMs : UInt64)
    (batch : List (Environment × Received × Bool)) (c : RemoteSessionCoordinator) :
    wp (pollLoop nowUnixMs batch) (fun _ c' => ∃ n, c' =
      (machine crypto).run c (received nowUnixMs (batch.take n))) c := by
  induction batch generalizing c with
  | nil => exact ⟨0, rfl⟩
  | cons entry batch ih =>
    obtain ⟨env, next, elapsed⟩ := entry
    unfold pollLoop
    simp only [wp_bind, wp_get, andThen_ok, wp_ite, wp_pure]
    refine ⟨fun _ => ⟨0, rfl⟩, fun _ => ?_⟩
    have hstep : wp (receivePeerEvent env next nowUnixMs)
        (fun _ c' => c' = (machine crypto).run c [⟨env, .receive next nowUnixMs⟩]) c := rfl
    refine wp_mono hstep ?_
    rintro (error | outbound) c' hc'
    · exact ⟨1, hc'⟩
    · rw [andThen_ok, wp_ite]
      refine ⟨fun _ => ⟨1, hc'⟩, fun _ => wp_mono (ih c') ?_⟩
      rintro _ c'' ⟨n, hn⟩
      refine ⟨n + 1, ?_⟩
      rw [hn, hc']
      rfl

/-- A poll is a tick and the handling of some of the results of the source. -/
theorem pollPeerEvents_eq_run (crypto : Crypto) (env : Environment) (nowUnixMs : UInt64)
    (batch : List (Environment × Received × Bool)) (c : RemoteSessionCoordinator) :
    wp (pollPeerEvents env batch nowUnixMs) (fun _ c' => ∃ n, c' =
      (machine crypto).run c (⟨env, .tick nowUnixMs⟩ :: received nowUnixMs (batch.take n))) c := by
  unfold pollPeerEvents
  rw [wp_bind]
  have hstep : wp (silently (expireActiveReconnect env nowUnixMs))
      (fun _ c' => c' = (machine crypto).run c [⟨env, .tick nowUnixMs⟩]) c := rfl
  unfold silently at hstep
  rw [wp_bind] at hstep
  refine wp_mono hstep ?_
  rintro (error | expired) c' hc'
  · exact ⟨0, hc'⟩
  · rw [andThen_ok, wp_pure] at hc'
    rw [andThen_ok, wp_ite]
    refine ⟨fun _ => ⟨0, hc'⟩, fun _ => wp_mono (pollLoop_eq_run crypto nowUnixMs _ c') ?_⟩
    rintro _ c'' ⟨n, hn⟩
    refine ⟨min n maxEvents, ?_⟩
    rw [hn, hc', List.take_take]
    rfl

end RemoteSessionCoordinator

end Host

end Roammand
