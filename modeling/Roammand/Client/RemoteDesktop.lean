import Mathlib.Logic.Function.Basic
import Roammand.Library.Run
import Roammand.Client.ReconnectPolicy
import Roammand.Client.SessionVerifier

/-!
# The remote desktop controller

The controller opens a session with a Host, keeps it, and recovers it when the connection is lost.
What it does is cut at every place where it awaits something: an operation stands at a point and
is resumed with what has come back, and between two points nothing else happens.  A timer fires, an
envelope arrives or the peer tells of a change whenever it likes.

An operation that has been overtaken by the end of the session is told by its generation.

Main results:

- Definition `RemoteDesktopController.step`: what the owner calls, what the services return, what
  the peer and the Host send, and when the timer fires.
- Definition `RemoteDesktopController.machine`: the controller as a machine.
-/

namespace Roammand

namespace Client

open Library Protocol

/-! ## Messages -/

/-- An authentication message as the controller reads it. -/
inductive SessionAuthentication where
  | offer (offer : SessionOfferAuthentication)
  | answer (answer : SessionAnswerAuthentication)
  | reconnect (reconnect : SessionReconnectAuthentication)

/-- What an envelope carries. -/
inductive SignalingPayload where
  | sessionAuthentication (authentication : Option SessionAuthentication)
  | webrtcNegotiation (negotiation : WebRtcNegotiation)
  | sessionStatus (status : SessionStatus)
  | error (error : UnifiedError)
  | capabilityNegotiation
  | pairing

/-- An envelope as the controller reads and writes it. -/
structure SignalingEnvelope where
  senderDeviceId : Bytes
  recipientDeviceId : Bytes
  requestId : String
  sentAtUnixMs : Int64
  payload : Option SignalingPayload

/-- The value of a failed session on the wire. -/
def sessionStateFailed : Int32 := 7

/-- What the peer offers. -/
structure ControllerPeerOffer where
  sdp : String
  dtlsFingerprintSha256 : Bytes

/-- What the peer tells of. -/
inductive ControllerPeerEvent where
  | connected
  | disconnected
  | failed

/-! ## The controller -/

/-- The states that the controller shows. -/
inductive RemoteDesktopState where
  | idle
  | connecting
  | authenticating
  | negotiating
  | connected
  | reconnecting
  | closing
  | failed
  deriving DecidableEq

/-- The errors that the controller shows. -/
inductive RemoteDesktopErrorCode where
  | configuration
  | localIdentity
  | signaling
  | authentication
  | peer
  | remote
  deriving DecidableEq

/-- What a service throws. -/
inductive ServiceException where
  | controllerSessionIdentity
  | signalingClient
  | protocolValidation
  | peerSession
  | other
  deriving DecidableEq

/-- What is thrown in an operation: by the controller itself, or by a service. -/
inductive RemoteException where
  | operationCancelled
  | remoteDesktop (code : RemoteDesktopErrorCode)
  | sessionAnswerAuthentication (code : SessionAnswerAuthenticationErrorCode)
  | sessionReconnectAuthentication (code : SessionReconnectAuthenticationErrorCode)
  | service (exception : ServiceException)
  deriving DecidableEq

/-- The Host that a session is opened with. -/
structure RemoteDesktopTarget where
  hostIdentity : DeviceIdentity
  signalingEndpoint : String

/-- The progress of a reconnect. -/
structure RemoteReconnectProgress where
  attempt : Nat
  maximumAttempts : Nat
  elapsed : Nat
  recoveryWindow : Nat

/-- What the timer is set for: an attempt, or the end of the final grace. -/
inductive ReconnectTimer where
  | attempt (ticket : ReconnectAttemptTicket)
  | expiry (sequence : Nat) (ticket : ReconnectAttemptTicket)

/-- What stands outside of the controller and does not change: the cryptography, the reading and
the checking of envelopes and of addresses, and the reading of a certificate from a description. -/
structure RemoteSetting where
  crypto : Crypto
  validEndpoint : String → Bool
  decodeEnvelope : Bytes → Option SignalingEnvelope
  validEnvelope : SignalingEnvelope → Bool
  extractFingerprint : String → Option Bytes

/-- The steps of a teardown at which something is awaited. -/
inductive TeardownStep where
  | input (notifyRemote : Bool)
  | closingStatus
  | candidateStream
  | peerStream
  | signalingStream
  | peer
  | signaling
  | identity

/-- Where an operation awaits something. -/
inductive RemotePoint where
  | openIdentity
  | connectSignaling
  | startPeer
  | recoverSignaling
  | restartIce
  | signOffer (peerOffer : ControllerPeerOffer) (offer : SessionOfferAuthentication)
  | validateSignature (peerOffer : ControllerPeerOffer) (offer : SessionOfferAuthentication)
      (signature : Bytes) (valid : Bool)
  | relayOffer (peerOffer : ControllerPeerOffer) (offer : SessionOfferAuthentication)
      (refused : Option RemoteException)
  | relayDescription (refused : Option RemoteException)
  | relayCandidates (refused : Option RemoteException) (rest : List IceCandidate)
  | offerReturned (thrown : Option RemoteException)
  | verifyAnswer (offer : SessionOfferAuthentication) (sdp : String)
      (verified : Except RemoteException (Option Nat))
  | applyAnswer (offer : SessionOfferAuthentication)
  | answerReturned (thrown : Option RemoteException)
  | addCandidate
  | relayCandidate (refused : Option RemoteException)
  | suspend
  | failing
  | closing
  | teardown (step : TeardownStep)

/-- The operations of the controller that await something. -/
inductive RemoteOperation where
  | connect
  | routed
  | localCandidate
  | recoverableFailure
  | attempt (sequence : Nat) (ticket : ReconnectAttemptTicket)
  | fail
  | close
  | resourceClose

/-- An operation that has not ended. -/
structure RemoteProcess where
  operation : RemoteOperation
  operationGeneration : Nat
  point : RemotePoint

/-- A response of the Host that was verified. -/
inductive AcceptedResponse where
  | answer (offer : SessionOfferAuthentication)
  | reconnect (offer : SessionOfferAuthentication) (generation : Nat)

/-- The controller.  Sequences and operations are numbered.  The last fields are not in the
source: what was given to signaling, and the responses that were verified. -/
structure RemoteDesktopController where
  state : RemoteDesktopState
  errorCode : Option RemoteDesktopErrorCode
  reconnectProgress : Option RemoteReconnectProgress
  target : Option RemoteDesktopTarget
  controllerIdentity : Option DeviceIdentity
  sessionId : Option Bytes
  offer : Option SessionOfferAuthentication
  answer : Option SessionAnswerAuthentication
  reconnect : Option SessionReconnectAuthentication
  answerDescription : Option WebRtcSessionDescription
  inputSender : Option Bytes
  subscriptions : Option Nat
  closeFuture : Bool
  resourceCloseFuture : Option Bool
  reconnectSequence : Option Nat
  reconnectTimer : Option ReconnectTimer
  reconnectConnectionGracePending : Bool
  offerSent : Bool
  answerApplicationInFlight : Bool
  signalingRecoveryRequired : Bool
  resourcesClosed : Bool
  closeRequested : Bool
  disposed : Bool
  requestSequence : Nat
  operationGeneration : Nat
  reconnectGeneration : Nat
  reconnectFailureCode : RemoteDesktopErrorCode
  pendingLocalCandidates : List IceCandidate
  sequences : Nat → ReconnectAttemptSequence
  nextSequence : Nat
  processes : Nat → Option RemoteProcess
  nextProcess : Nat
  relayed : List SignalingEnvelope
  accepted : List AcceptedResponse

/-- What an awaited call has come back with. -/
inductive RemoteOutcome where
  | done
  | identity (identity : DeviceIdentity)
  | peerOffer (offer : ControllerPeerOffer)
  | signature (signature : Bytes)
  | thrown (exception : ServiceException)

/-- What resumes an operation, and what it reads until it awaits again: the clock, random bytes,
whether the peer is connected, and whether input refuses to go on. -/
structure RemoteResumption where
  outcome : RemoteOutcome
  nowUnixMs : Int64
  randomBytes : Nat → Bytes
  peerConnected : Bool
  resumeFails : Bool

/-- What happens to the controller. -/
inductive RemoteAction where
  | connect (target : RemoteDesktopTarget)
  | close
  | dispose
  | resume (process : Nat) (resumption : RemoteResumption)
  | routed (senderDeviceId opaqueEnvelope : Bytes) (nowUnixMs : Int64)
  | signalingFailed
  | peerEvent (event : ControllerPeerEvent) (resumeFails : Bool)
  | streamFailed
  | localCandidate (candidate : IceCandidate) (nowUnixMs : Int64)
  | timer
  | reliableFailure

namespace RemoteDesktopController

/-- A controller that was made. -/
def new : RemoteDesktopController where
  state := .idle
  errorCode := none
  reconnectProgress := none
  target := none
  controllerIdentity := none
  sessionId := none
  offer := none
  answer := none
  reconnect := none
  answerDescription := none
  inputSender := none
  subscriptions := none
  closeFuture := false
  resourceCloseFuture := none
  reconnectSequence := none
  reconnectTimer := none
  reconnectConnectionGracePending := false
  offerSent := false
  answerApplicationInFlight := false
  signalingRecoveryRequired := false
  resourcesClosed := false
  closeRequested := false
  disposed := false
  requestSequence := 0
  operationGeneration := 0
  reconnectGeneration := 0
  reconnectFailureCode := .peer
  pendingLocalCandidates := []
  sequences := ReconnectAttemptSequence.start
  nextSequence := 0
  processes _ := none
  nextProcess := 0
  relayed := []
  accepted := []

/-! ### Operations and their generations -/

/-- `_operationIsCurrent`. -/
def operationIsCurrent (generation : Nat) (s : RemoteDesktopController) : Bool :=
  !s.resourcesClosed && !s.disposed && decide (generation = s.operationGeneration)

/-- The session has ended, or is not there. -/
def isOver (s : RemoteDesktopController) : Bool :=
  decide (s.state = .failed ∨ s.state = .closing ∨ s.state = .idle)

variable (operation : RemoteOperation)

/-- An operation stands at its first point. -/
def spawn (generation : Nat) (point : RemotePoint)
    (s : RemoteDesktopController) : RemoteDesktopController :=
  { s with
    processes := Function.update s.processes s.nextProcess (some ⟨operation, generation, point⟩)
    nextProcess := s.nextProcess + 1 }

@[simp]
theorem spawn_processes (generation : Nat) (point : RemotePoint)
    (s : RemoteDesktopController) (i : Nat) :
    (s.spawn operation generation point).processes i =
      if i = s.nextProcess then some ⟨operation, generation, point⟩ else s.processes i :=
  Function.update_apply ..

/-- An operation that nobody awaits is called, and runs to its first point. -/
def call (generation : Nat)
    (called : RemoteDesktopController × Option RemotePoint) : RemoteDesktopController :=
  match called.2 with
  | none => called.1
  | some point => called.1.spawn operation generation point

/-- The sequence of a number is changed. -/
def setSequence (sequence : Nat) (q : ReconnectAttemptSequence) (s : RemoteDesktopController) :
    RemoteDesktopController :=
  { s with sequences := Function.update s.sequences sequence q }

/-- `_reconnectSequence?.recovered()` and `_reconnectSequence?.cancel()`. -/
def invalidated (ending : ReconnectEvent) (s : RemoteDesktopController) :
    Nat → ReconnectAttemptSequence :=
  match s.reconnectSequence with
  | none => s.sequences
  | some sequence =>
    Function.update s.sequences sequence ((s.sequences sequence).invalidate ending)

/-- The present sequence ends, and no other. -/
theorem invalidated_apply (s : RemoteDesktopController) (ending : ReconnectEvent) (q : Nat) :
    s.invalidated ending q =
      if s.reconnectSequence = some q then (s.sequences q).invalidate ending
      else s.sequences q := by
  unfold invalidated
  cases s.reconnectSequence with
  | none =>
    dsimp only
    rw [if_neg (Option.some_ne_none q).symm]
  | some sequence =>
    dsimp only
    by_cases hsame : q = sequence
    · rw [hsame, if_pos rfl, Function.update_self]
    · rw [if_neg fun heq => hsame (Option.some.inj heq).symm, Function.update_of_ne hsame]

/-! ### The end of a session -/

variable (code : RemoteDesktopErrorCode) (notifyRemote : Bool)

/-- `_performResourceClose`, up to where it awaits that input is closed. -/
def startResourceClose (s : RemoteDesktopController) :
    RemoteDesktopController :=
  spawn .resourceClose (s.operationGeneration + 1) (.teardown (.input notifyRemote))
    { s with
      operationGeneration := s.operationGeneration + 1
      resourcesClosed := true
      reconnectTimer := none
      sequences := s.invalidated .cancelled
      reconnectSequence := none
      reconnectProgress := none
      reconnectConnectionGracePending := false
      state := .closing
      inputSender := none
      resourceCloseFuture := some false }

/-- `_closeResources`, up to where it awaits the teardown. -/
def closeResources (s : RemoteDesktopController) :
    RemoteDesktopController :=
  if s.resourceCloseFuture.isSome then s else s.startResourceClose notifyRemote

/-- `_fail`, up to where it awaits the teardown. -/
def fail (s : RemoteDesktopController) :
    RemoteDesktopController × Option RemotePoint :=
  if s.isOver then (s, none)
  else ({ s with errorCode := some code }.closeResources true, some .failing)

/-- A call of `_fail` that nobody awaits. -/
def failUnawaited (s : RemoteDesktopController) :
    RemoteDesktopController :=
  call .fail s.operationGeneration (s.fail code)

/-- `close`. -/
def close (s : RemoteDesktopController) : RemoteDesktopController :=
  if s.closeFuture then { s with closeRequested := true }
  else
    spawn .close s.operationGeneration .closing
      ({ s with closeRequested := true, closeFuture := true }.closeResources true)

/-- `dispose`. -/
def dispose (s : RemoteDesktopController) : RemoteDesktopController :=
  if s.disposed then s else { s with disposed := true }.close

/-! ### Reconnecting -/

/-- The timer is set for the attempt of a ticket. -/
def attemptScheduled (sequence : Nat) (q : ReconnectAttemptSequence)
    (ticket : ReconnectAttemptTicket) (s : RemoteDesktopController) : RemoteDesktopController :=
  { s with
    sequences := Function.update s.sequences sequence q
    reconnectProgress :=
      some
        { attempt := ticket.attempt
          maximumAttempts := reconnectAttemptDelays.length
          elapsed := ticket.elapsed
          recoveryWindow := reconnectRecoveryWindow }
    reconnectTimer := some (.attempt ticket) }

/-- `_scheduleReconnect`. -/
def scheduleReconnect (s : RemoteDesktopController) : RemoteDesktopController :=
  match s.reconnectSequence with
  | none => s
  | some sequence =>
    if (s.sequences sequence).active = false ∨ s.reconnectTimer.isSome then s
    else
      match (s.sequences sequence).scheduleNext with
      | (_, none) =>
        if (s.sequences sequence).exhausted then s.failUnawaited s.reconnectFailureCode else s
      | (q, some ticket) => s.attemptScheduled sequence q ticket

/-- `_scheduleReconnectExpiry`. -/
def scheduleReconnectExpiry (sequence : Nat) (ticket : ReconnectAttemptTicket)
    (s : RemoteDesktopController) : RemoteDesktopController :=
  { s.setSequence sequence (s.sequences sequence).scheduleGrace with
    reconnectTimer := some (.expiry sequence ticket) }

/-- `_finishReconnectAttempt`. -/
def finishReconnectAttempt (sequence : Nat) (ticket : ReconnectAttemptTicket)
    (s : RemoteDesktopController) : RemoteDesktopController :=
  match (s.sequences sequence).complete ticket with
  | (_, false) => s
  | (q, true) =>
    let s := s.setSequence sequence q
    if q.allAttemptsCompleted then s.scheduleReconnectExpiry sequence ticket
    else s.scheduleReconnect

/-- `_handleRecoverableFailure`, up to where it awaits that input is suspended. -/
def handleRecoverableFailure (signaling : Bool) (s : RemoteDesktopController) :
    RemoteDesktopController × Option RemotePoint :=
  if s.isOver then (s, none)
  else if s.inputSender = none ∧ s.state ≠ .reconnecting then
    s.fail (if signaling then .signaling else .peer)
  else
    let s :=
      { s with
        signalingRecoveryRequired := s.signalingRecoveryRequired || signaling
        reconnectFailureCode := if signaling then .signaling else s.reconnectFailureCode }
    if s.reconnectSequence.isSome then ({ s with state := .reconnecting }, none)
    else
      ({ s with
          reconnectFailureCode := if signaling then .signaling else .peer
          sequences := Function.update s.sequences s.nextSequence
            (ReconnectAttemptSequence.start s.nextSequence)
          reconnectSequence := some s.nextSequence
          nextSequence := s.nextSequence + 1
          state := .reconnecting },
        some .suspend)

/-- `_completeReconnect`. -/
def completeReconnect (resumeFails : Bool) (s : RemoteDesktopController) :
    RemoteDesktopController :=
  let s :=
    { s with
      reconnectTimer := none
      sequences := s.invalidated .recovered
      reconnectSequence := none
      reconnectProgress := none
      reconnectConnectionGracePending := false
      signalingRecoveryRequired := false }
  if s.inputSender.isSome ∧ resumeFails then s.failUnawaited .peer
  else { s with state := .connected }

/-- `_waitForCurrentConnection`. -/
def waitForCurrentConnection (ticket : ReconnectAttemptTicket) (s : RemoteDesktopController) :
    RemoteDesktopController :=
  match s.reconnectSequence with
  | none => s
  | some sequence =>
    match (s.sequences sequence).begin ticket with
    | (_, false) => s
    | (q, true) => (s.setSequence sequence q).finishReconnectAttempt sequence ticket

/-- `_runReconnectAttempt`, where the old offer is given up and a new one asked for. -/
def startRestart (s : RemoteDesktopController) : RemoteDesktopController × Option RemotePoint :=
  ({ s with offerSent := false, pendingLocalCandidates := [] }, some .restartIce)

/-- `_runReconnectAttempt`, up to where it awaits signaling or a new offer. -/
def runReconnectAttempt (ticket : ReconnectAttemptTicket) (s : RemoteDesktopController) :
    RemoteDesktopController :=
  match s.reconnectSequence with
  | none => s
  | some sequence =>
    match (s.sequences sequence).begin ticket with
    | (_, false) => s
    | (q, true) =>
      let s := s.setSequence sequence q
      call (.attempt sequence ticket) s.operationGeneration
        (if s.signalingRecoveryRequired then (s, some .recoverSignaling) else s.startRestart)

/-- The timer fires. -/
def fireTimer (s : RemoteDesktopController) : RemoteDesktopController :=
  match s.reconnectTimer with
  | none => s
  | some (.attempt ticket) =>
    let s := { s with reconnectTimer := none }
    if s.state = .connecting ∧ s.reconnectConnectionGracePending then
      { s with reconnectConnectionGracePending := false }.waitForCurrentConnection ticket
    else s.runReconnectAttempt ticket
  | some (.expiry sequence _) =>
    let s := { s with reconnectTimer := none }
    if s.reconnectSequence ≠ some sequence then s
    else
      match (s.sequences sequence).expire with
      | (_, false) => s
      | (q, true) => (s.setSequence sequence q).failUnawaited s.reconnectFailureCode

/-! ### Sending -/

section Sending

variable (setting : RemoteSetting)

/-- `_relay`, up to where it awaits signaling, with what it throws before. -/
def relay (payload : SignalingPayload) (nowUnixMs : Int64) (s : RemoteDesktopController) :
    RemoteDesktopController × Option RemoteException :=
  match s.controllerIdentity, s.target with
  | some controller, some target =>
    let s := { s with requestSequence := s.requestSequence + 1 }
    let envelope : SignalingEnvelope :=
      { senderDeviceId := controller.deviceId
        recipientDeviceId := target.hostIdentity.deviceId
        requestId := "session-" ++ toString s.requestSequence
        sentAtUnixMs := nowUnixMs
        payload := some payload }
    if setting.validEnvelope envelope then ({ s with relayed := s.relayed ++ [envelope] }, none)
    else (s, some (.service .protocolValidation))
  | _, _ => (s, some (.service .other))

variable (candidate : IceCandidate)

variable (nowUnixMs : Int64)

/-- `_relayCandidate`. -/
def relayCandidate (s : RemoteDesktopController) :
    RemoteDesktopController × Option RemoteException :=
  s.relay setting
    (.webrtcNegotiation
      { sessionId := s.sessionId.getD [], payload := some (.iceCandidate candidate) })
    nowUnixMs

/-- `_checkedRandom`. -/
def checkedRandom (randomBytes : Nat → Bytes) (length : Nat) : Except RemoteException Bytes :=
  if (randomBytes length).length ≠ length then .error (.remoteDesktop .configuration)
  else .ok (randomBytes length)

/-- `_createOffer`. -/
def createOffer (controller : DeviceIdentity) (target : RemoteDesktopTarget)
    (peerOffer : ControllerPeerOffer) (nowUnixMs : Int64) (randomBytes : Nat → Bytes)
    (s : RemoteDesktopController) : Except RemoteException SessionOfferAuthentication := do
  let nonce ← checkedRandom randomBytes nonceOrHashBytes
  return {
    controllerDeviceId := controller.deviceId
    hostDeviceId := target.hostIdentity.deviceId
    sessionId := s.sessionId.getD []
    nonce
    issuedAtUnixMs := nowUnixMs
    expiresAtUnixMs := nowUnixMs + 30000
    requestedPermissions := [.viewScreen, .controlInput]
    offerSha256 := (setting.crypto.sha256 (utf8 peerOffer.sdp)).toList
    controllerDtlsFingerprintSha256 := peerOffer.dtlsFingerprintSha256
    signature := [] }

/-- `_sendAuthenticatedOffer`, up to where it awaits the signature. -/
def sendAuthenticatedOffer (peerOffer : ControllerPeerOffer) (nowUnixMs : Int64)
    (randomBytes : Nat → Bytes) (s : RemoteDesktopController) : RemotePoint :=
  match s.controllerIdentity, s.target with
  | some controller, some target =>
    match s.createOffer setting controller target peerOffer nowUnixMs randomBytes with
    | .error exception => .offerReturned (some exception)
    | .ok offer =>
      match encodeSessionOfferTranscript offer with
      | .error code => .offerReturned (some (.sessionAnswerAuthentication code))
      | .ok _ => .signOffer peerOffer offer
  | _, _ => .offerReturned (some (.service .other))

/-- `_validateLocalSignature`: whether the signature of an offer is that of the controller. -/
def validLocalSignature (offer : SessionOfferAuthentication) (signature : Bytes)
    (s : RemoteDesktopController) : Bool :=
  match s.controllerIdentity, encodeSessionOfferTranscript offer with
  | some controller, .ok transcript =>
    decide (signature.length = signatureBytes) &&
      verifies setting.crypto controller.publicKey transcript signature
  | _, _ => false

/-- The candidates that waited for the offer are sent one after the other. -/
def sendCandidates (candidates : List IceCandidate) (nowUnixMs : Int64)
    (s : RemoteDesktopController) : RemoteDesktopController × RemotePoint :=
  match candidates with
  | [] => ({ s with pendingLocalCandidates := [] }, .offerReturned none)
  | candidate :: rest =>
    let (s, refused) := s.relayCandidate setting candidate nowUnixMs
    (s, .relayCandidates refused rest)

/-- `_sendAuthenticatedOffer` from where the offer is signed. -/
def offerSigned (peerOffer : ControllerPeerOffer) (offer : SessionOfferAuthentication)
    (signature : Bytes) (nowUnixMs : Int64) (s : RemoteDesktopController) :
    RemoteDesktopController × RemotePoint :=
  let offer := { offer with signature := signature }
  let (s, refused) := relay setting (.sessionAuthentication (some (.offer offer))) nowUnixMs
    { s with
      offer := some offer
      answer := none
      reconnect := none
      answerDescription := none }
  (s, .relayOffer peerOffer offer refused)

/-- `_sendAuthenticatedOffer` from where the offer was sent. -/
def offerRelayed (peerOffer : ControllerPeerOffer) (offer : SessionOfferAuthentication)
    (nowUnixMs : Int64) (s : RemoteDesktopController) : RemoteDesktopController × RemotePoint :=
  let (s, refused) := relay setting
    (.webrtcNegotiation
      { sessionId := offer.sessionId
        payload :=
          some (.description
            { type := sessionDescriptionTypeOffer
              sdp := peerOffer.sdp
              dtlsFingerprintSha256 := peerOffer.dtlsFingerprintSha256 }) }) nowUnixMs s
  (s, .relayDescription refused)

/-- `_handleLocalCandidate`, up to where it awaits signaling. -/
def handleLocalCandidate
    (s : RemoteDesktopController) : RemoteDesktopController × Option RemotePoint :=
  if s.offerSent = false then
    if 64 ≤ s.pendingLocalCandidates.length then s.fail .peer
    else ({ s with pendingLocalCandidates := s.pendingLocalCandidates ++ [candidate] }, none)
  else
    let (s, refused) := s.relayCandidate setting candidate nowUnixMs
    (s, some (.relayCandidate refused))

end Sending

/-! ### What is thrown -/

/-- How `connect` shows what was thrown. -/
def connectCode : RemoteException → RemoteDesktopErrorCode
  | .remoteDesktop code => code
  | .service .controllerSessionIdentity => .localIdentity
  | .service .signalingClient => .signaling
  | .sessionAnswerAuthentication _ => .authentication
  | .operationCancelled | .sessionReconnectAuthentication _ | .service .protocolValidation
  | .service .peerSession | .service .other => .peer

/-- How `_handleRouted` shows what was thrown. -/
def routedCode : RemoteException → RemoteDesktopErrorCode
  | .remoteDesktop code => code
  | .sessionAnswerAuthentication _ | .sessionReconnectAuthentication _ => .authentication
  | .service .protocolValidation => .signaling
  | .operationCancelled | .service .controllerSessionIdentity | .service .signalingClient
  | .service .peerSession | .service .other => .peer

/-- `_runReconnectAttempt` catches what was thrown. -/
def attemptThrown (sequence : Nat) (ticket : ReconnectAttemptTicket) (exception : RemoteException)
    (s : RemoteDesktopController) : RemoteDesktopController × Option RemotePoint :=
  match exception with
  | .operationCancelled => (s, none)
  | .service .signalingClient =>
    (finishReconnectAttempt sequence ticket
      { s with signalingRecoveryRequired := true, reconnectFailureCode := .signaling }, none)
  | .service .peerSession => (s.finishReconnectAttempt sequence ticket, none)
  | .service .controllerSessionIdentity => s.fail .localIdentity
  | .remoteDesktop code => s.fail code
  | .service .protocolValidation => s.fail .signaling
  | .sessionAnswerAuthentication _ | .sessionReconnectAuthentication _ | .service .other =>
    s.fail .peer

/-- An operation catches what was thrown in it. -/
def thrown (operation : RemoteOperation) (exception : RemoteException)
    (s : RemoteDesktopController) : RemoteDesktopController × Option RemotePoint :=
  match operation with
  | .connect =>
    if exception = .operationCancelled then (s, none) else s.fail (connectCode exception)
  | .routed => s.fail (routedCode exception)
  | .localCandidate =>
    if s.reconnectSequence.isSome then s.handleRecoverableFailure true else s.fail .signaling
  | .attempt sequence ticket => s.attemptThrown sequence ticket exception
  | .recoverableFailure | .fail | .close | .resourceClose => (s, none)

/-! ### Responses of the Host -/

section Responses

variable (setting : RemoteSetting)

/-- The checks of a response, up to where the signature is awaited: what is thrown before, or the
outcome of the verification. -/
def verifyResponse (answer : Option SessionAnswerAuthentication)
    (reconnect : Option SessionReconnectAuthentication) (description : WebRtcSessionDescription)
    (offer : SessionOfferAuthentication) (target : RemoteDesktopTarget) (nowUnixMs : Int64)
    (s : RemoteDesktopController) :
    Except RemoteException (Except RemoteException (Option Nat)) :=
  match setting.extractFingerprint description.sdp with
  | none => .error (.service .peerSession)
  | some fingerprint =>
    if fingerprint ≠ description.dtlsFingerprintSha256 then
      .error (.remoteDesktop .authentication)
    else
      match reconnect, answer with
      | some reconnect, _ =>
        match SessionReconnectVerifier.new setting.crypto target.hostIdentity with
        | .error code => .error (.sessionReconnectAuthentication code)
        | .ok verifier =>
          .ok ((verifier.verify offer reconnect description.sdp fingerprint
            s.reconnectGeneration nowUnixMs).mapError .sessionReconnectAuthentication |>.map
              fun verified => some verified.generation)
      | none, some answer =>
        match SessionAnswerVerifier.new setting.crypto target.hostIdentity with
        | .error code => .error (.sessionAnswerAuthentication code)
        | .ok verifier =>
          .ok ((verifier.verify offer answer description.sdp fingerprint
            nowUnixMs).mapError .sessionAnswerAuthentication |>.map fun _ => none)
      | none, none => .error (.service .other)

/-- `_tryApplyAnswer`, up to where it awaits the verification. -/
def tryApplyAnswer (nowUnixMs : Int64) (s : RemoteDesktopController) :
    RemoteDesktopController × Option RemotePoint :=
  match s.answerDescription, s.offer, s.target with
  | some description, some offer, some target =>
    if s.answer.isNone ∧ s.reconnect.isNone ∨ s.answerApplicationInFlight then (s, none)
    else
      match s.verifyResponse setting s.answer s.reconnect description offer target nowUnixMs with
      | .error exception => (s, some (.answerReturned (some exception)))
      | .ok verified =>
        ({ s with answerApplicationInFlight := true },
          some (.verifyAnswer offer description.sdp verified))
  | _, _, _ => (s, none)

/-- `_tryApplyAnswer` from where the response is verified. -/
def responseVerified (offer : SessionOfferAuthentication) (generation : Option Nat)
    (s : RemoteDesktopController) : RemoteDesktopController :=
  match generation with
  | some generation =>
    { s with
      reconnectGeneration := generation
      accepted := s.accepted ++ [.reconnect offer generation] }
  | none =>
    { s with
      reconnectGeneration := if s.reconnectSequence.isSome then 0 else s.reconnectGeneration
      accepted := s.accepted ++ [.answer offer] }

/-- `_tryApplyAnswer` from where the peer has the answer. -/
def responseApplied (offer : SessionOfferAuthentication) (peerConnected resumeFails : Bool)
    (s : RemoteDesktopController) : RemoteDesktopController :=
  let s :=
    { s with
      inputSender := some (s.inputSender.getD offer.sessionId)
      answer := none
      reconnect := none
      answerDescription := none }
  let s :=
    if peerConnected then
      if s.reconnectSequence.isSome then s.completeReconnect resumeFails
      else { s with state := .connected }
    else
      { s with
        reconnectConnectionGracePending :=
          s.reconnectConnectionGracePending || s.reconnectSequence.isSome
        state := .connecting }
  { s with answerApplicationInFlight := false }

/-- What a routed envelope asks for. -/
def handleSessionAuthentication (sessionId : Bytes) (authentication : Option SessionAuthentication)
    (nowUnixMs : Int64) (s : RemoteDesktopController) :
    RemoteDesktopController × Option RemotePoint :=
  match authentication with
  | some (.answer answer) =>
    if answer.sessionId ≠ sessionId then s.thrown .routed (.remoteDesktop .authentication)
    else tryApplyAnswer setting nowUnixMs { s with answer := some answer }
  | some (.reconnect reconnect) =>
    if s.reconnectSequence = none ∨ reconnect.sessionId ≠ sessionId then
      s.thrown .routed (.remoteDesktop .authentication)
    else tryApplyAnswer setting nowUnixMs { s with reconnect := some reconnect }
  | some (.offer _) | none => s.thrown .routed (.remoteDesktop .authentication)

/-- A message of the negotiation. -/
def handleWebRtcNegotiation (sessionId : Bytes) (negotiation : WebRtcNegotiation)
    (nowUnixMs : Int64) (s : RemoteDesktopController) :
    RemoteDesktopController × Option RemotePoint :=
  if negotiation.sessionId ≠ sessionId then s.thrown .routed (.remoteDesktop .authentication)
  else
    match negotiation.payload with
    | some (.description description) =>
      if description.type ≠ sessionDescriptionTypeAnswer then
        s.thrown .routed (.remoteDesktop .authentication)
      else tryApplyAnswer setting nowUnixMs { s with answerDescription := some description }
    | some (.iceCandidate _) => (s, some .addCandidate)
    | some .endOfCandidates | none => (s, none)

/-- The published state of the session. -/
def handleSessionStatus (sessionId : Bytes) (status : SessionStatus)
    (s : RemoteDesktopController) : RemoteDesktopController × Option RemotePoint :=
  if status.sessionId ≠ sessionId then s.thrown .routed (.remoteDesktop .authentication)
  else if status.state = sessionStateClosing then (s.closeResources false, some .closing)
  else if status.state = sessionStateFailed then s.thrown .routed (.remoteDesktop .remote)
  else (s, none)

/-- `_handleRouted`, up to where it awaits something. -/
def handleRouted (senderDeviceId opaqueEnvelope : Bytes) (nowUnixMs : Int64)
    (s : RemoteDesktopController) : RemoteDesktopController × Option RemotePoint :=
  if s.isOver then (s, none)
  else
    match s.target, s.controllerIdentity, s.sessionId with
    | some target, some controller, some sessionId =>
      match setting.decodeEnvelope opaqueEnvelope with
      | none => s.thrown .routed (.service .protocolValidation)
      | some envelope =>
        if senderDeviceId ≠ target.hostIdentity.deviceId ∨
            envelope.senderDeviceId ≠ target.hostIdentity.deviceId ∨
            envelope.recipientDeviceId ≠ controller.deviceId then
          s.thrown .routed (.remoteDesktop .authentication)
        else
          match envelope.payload with
          | some (.sessionAuthentication authentication) =>
            s.handleSessionAuthentication setting sessionId authentication nowUnixMs
          | some (.webrtcNegotiation negotiation) =>
            s.handleWebRtcNegotiation setting sessionId negotiation nowUnixMs
          | some (.error error) =>
            if s.reconnectSequence.isSome ∧ error.retryable then
              s.handleRecoverableFailure true
            else s.thrown .routed (.remoteDesktop .remote)
          | some (.sessionStatus status) => s.handleSessionStatus sessionId status
          | some .capabilityNegotiation | some .pairing | none =>
            s.thrown .routed (.remoteDesktop .signaling)
    | _, _, _ => s.thrown .routed (.service .other)

end Responses

/-! ### Operations go on -/

section Resuming

variable (setting : RemoteSetting)

/-- The identity of the controller is open: the session gets its identifier, and what the services
send is listened to. -/
def identityOpened (generation : Nat) (identity : DeviceIdentity) (randomBytes : Nat → Bytes)
    (s : RemoteDesktopController) : RemoteDesktopController × Option RemotePoint :=
  match validateDeviceIdentity identity with
  | .error _ => s.thrown .connect (.service .protocolValidation)
  | .ok _ =>
    let s := { s with controllerIdentity := some identity }
    match checkedRandom randomBytes sessionIdBytes with
    | .error exception => s.thrown .connect exception
    | .ok sessionId =>
      ({ s with sessionId := some sessionId, subscriptions := some generation },
        some .connectSignaling)

/-- The caller of `_sendAuthenticatedOffer` goes on. -/
def offerReturned (operation : RemoteOperation) (generation : Nat)
    (exception : Option RemoteException) (s : RemoteDesktopController) :
    RemoteDesktopController × Option RemotePoint :=
  match exception with
  | some exception => s.thrown operation exception
  | none =>
    match operation with
    | .connect =>
      if s.operationIsCurrent generation then ({ s with state := .negotiating }, none)
      else s.thrown .connect .operationCancelled
    | .attempt sequence ticket => (s.finishReconnectAttempt sequence ticket, none)
    | .routed | .localCandidate | .recoverableFailure | .fail | .close | .resourceClose =>
      (s, none)

/-- The last step of `_performResourceClose`. -/
def resourcesReleased (s : RemoteDesktopController) : RemoteDesktopController :=
  { s with
    pendingLocalCandidates := []
    offerSent := false
    answerApplicationInFlight := false
    offer := none
    answer := none
    reconnect := none
    answerDescription := none
    sessionId := none
    reconnectGeneration := 0
    signalingRecoveryRequired := false
    resourceCloseFuture := some true }

/-- `_performResourceClose` goes on. -/
def tearDown (step : TeardownStep) (nowUnixMs : Int64) (s : RemoteDesktopController) :
    RemoteDesktopController × Option RemotePoint :=
  match step with
  | .input notifyRemote =>
    if s.offerSent ∧ notifyRemote then
      ((s.relay setting
          (.sessionStatus { sessionId := s.sessionId.getD [], state := sessionStateClosing })
          nowUnixMs).1,
        some (.teardown .closingStatus))
    else ({ s with subscriptions := none }, some (.teardown .candidateStream))
  | .closingStatus => ({ s with subscriptions := none }, some (.teardown .candidateStream))
  | .candidateStream => (s, some (.teardown .peerStream))
  | .peerStream => (s, some (.teardown .signalingStream))
  | .signalingStream => (s, some (.teardown .peer))
  | .peer => (s, some (.teardown .signaling))
  | .signaling => (s, some (.teardown .identity))
  | .identity => (s.resourcesReleased, none)

variable (process : RemoteProcess) (resumption : RemoteResumption)

/-- The calls of `connect`, and of an attempt before there is an offer. -/
def resumeOpening (s : RemoteDesktopController) : RemoteDesktopController × Option RemotePoint :=
  match resumption.outcome with
  | .thrown exception => s.thrown process.operation (.service exception)
  | outcome =>
    if s.operationIsCurrent process.operationGeneration = false then
      s.thrown process.operation .operationCancelled
    else
      match process.point, outcome with
      | .openIdentity, .identity identity =>
        s.identityOpened process.operationGeneration identity resumption.randomBytes
      | .connectSignaling, .done => (s, some .startPeer)
      | .startPeer, .peerOffer peerOffer =>
        let s := { s with state := .authenticating }
        (s, some (s.sendAuthenticatedOffer setting peerOffer resumption.nowUnixMs
          resumption.randomBytes))
      | .recoverSignaling, .done => { s with signalingRecoveryRequired := false }.startRestart
      | .restartIce, .peerOffer peerOffer =>
        (s, some (s.sendAuthenticatedOffer setting peerOffer resumption.nowUnixMs
          resumption.randomBytes))
      | point, _ => (s, some point)

/-- The calls of `_sendAuthenticatedOffer`. -/
def resumeSending (s : RemoteDesktopController) : RemoteDesktopController × RemotePoint :=
  match process.point, resumption.outcome with
  | .validateSignature _ _ _ false, _ => (s, .offerReturned (some (.remoteDesktop .authentication)))
  | .relayOffer _ _ (some exception), _ | .relayDescription (some exception), _
  | .relayCandidates (some exception) _, _ => (s, .offerReturned (some exception))
  | _, .thrown exception => (s, .offerReturned (some (.service exception)))
  | point, outcome =>
    if s.operationIsCurrent process.operationGeneration = false then
      (s, .offerReturned (some .operationCancelled))
    else
      match point, outcome with
      | .signOffer peerOffer offer, .signature signature =>
        (s, .validateSignature peerOffer offer signature
          (s.validLocalSignature setting offer signature))
      | .validateSignature peerOffer offer signature _, .done =>
        s.offerSigned setting peerOffer offer signature resumption.nowUnixMs
      | .relayOffer peerOffer offer _, .done =>
        s.offerRelayed setting peerOffer offer resumption.nowUnixMs
      | .relayDescription _, .done =>
        sendCandidates setting s.pendingLocalCandidates resumption.nowUnixMs
          { s with offerSent := true }
      | .relayCandidates _ rest, .done => s.sendCandidates setting rest resumption.nowUnixMs
      | point, _ => (s, point)

/-- The calls of `_tryApplyAnswer`. -/
def resumeAnswer (s : RemoteDesktopController) : RemoteDesktopController × Option RemotePoint :=
  let leave (exception : RemoteException) :=
    ({ s with answerApplicationInFlight := false }, some (.answerReturned (some exception)))
  match process.point, resumption.outcome with
  | .verifyAnswer _ _ (.error exception), _ => leave exception
  | .verifyAnswer offer _ (.ok generation), _ =>
    if s.operationIsCurrent process.operationGeneration = false then leave .operationCancelled
    else (s.responseVerified offer generation, some (.applyAnswer offer))
  | .applyAnswer _, .thrown exception => leave (.service exception)
  | .applyAnswer offer, .done =>
    if s.operationIsCurrent process.operationGeneration = false then leave .operationCancelled
    else (s.responseApplied offer resumption.peerConnected resumption.resumeFails, none)
  | point, _ => (s, some point)

/-- An operation goes on from its point. -/
def resumeAt (s : RemoteDesktopController) : RemoteDesktopController × Option RemotePoint :=
  match process.point with
  | .openIdentity | .connectSignaling | .startPeer | .recoverSignaling | .restartIce =>
    s.resumeOpening setting process resumption
  | .signOffer _ _ | .validateSignature _ _ _ _ | .relayOffer _ _ _ | .relayDescription _
  | .relayCandidates _ _ =>
    let (s, point) := s.resumeSending setting process resumption
    (s, some point)
  | .offerReturned exception =>
    s.offerReturned process.operation process.operationGeneration exception
  | .verifyAnswer _ _ _ | .applyAnswer _ => s.resumeAnswer process resumption
  | .answerReturned exception =>
    match exception with
    | some exception => s.thrown process.operation exception
    | none => (s, none)
  | .addCandidate =>
    match resumption.outcome with
    | .thrown exception => s.thrown process.operation (.service exception)
    | _ =>
      if s.operationIsCurrent process.operationGeneration then (s, none)
      else s.thrown process.operation .operationCancelled
  | .relayCandidate (some exception) => s.thrown process.operation exception
  | .relayCandidate none =>
    match resumption.outcome with
    | .thrown exception => s.thrown process.operation (.service exception)
    | _ => (s, none)
  | .suspend =>
    if s.operationIsCurrent process.operationGeneration then (s.scheduleReconnect, none)
    else (s, none)
  | .failing =>
    if s.resourceCloseFuture = some true then
      (if s.closeRequested then s else { s with state := .failed }, none)
    else (s, some .failing)
  | .closing =>
    if s.resourceCloseFuture = some true then
      ({ s with errorCode := none, state := .idle }, none)
    else (s, some .closing)
  | .teardown step => s.tearDown setting step resumption.nowUnixMs

/-- Resume an operation. -/
def resume (index : Nat) (resumption : RemoteResumption) (s : RemoteDesktopController) :
    RemoteDesktopController :=
  match s.processes index with
  | none => s
  | some process =>
    let (s, point) := s.resumeAt setting process resumption
    { s with
      processes := Function.update s.processes index
        (point.map fun point => { process with point := point }) }

/-! ### The machine -/

/-- `connect`. -/
def connect (target : RemoteDesktopTarget) (s : RemoteDesktopController) :
    RemoteDesktopController :=
  if s.state ≠ .idle ∨ s.closeFuture then s
  else if (validateDeviceIdentity target.hostIdentity).toBool = false ∨
      setting.validEndpoint target.signalingEndpoint = false then s
  else
    spawn .connect (s.operationGeneration + 1) .openIdentity
      { s with
        operationGeneration := s.operationGeneration + 1
        target := some target
        state := .connecting }

/-- `_handlePeerEvent`. -/
def handlePeerEvent (event : ControllerPeerEvent) (resumeFails : Bool)
    (s : RemoteDesktopController) : RemoteDesktopController :=
  match event with
  | .connected =>
    if s.state = .connecting then
      if s.reconnectSequence.isSome then s.completeReconnect resumeFails
      else { s with state := .connected }
    else if s.state = .reconnecting then s.completeReconnect resumeFails
    else s
  | .disconnected | .failed =>
    call .recoverableFailure s.operationGeneration (s.handleRecoverableFailure false)

/-- A stream that `connect` listens to brings something, unless the operation was overtaken. -/
def listened (handler : Nat → RemoteDesktopController → RemoteDesktopController)
    (s : RemoteDesktopController) : RemoteDesktopController :=
  match s.subscriptions with
  | none => s
  | some generation => if s.operationIsCurrent generation then handler generation s else s

/-- A step of the controller. -/
def step (s : RemoteDesktopController) : RemoteAction → RemoteDesktopController
  | .connect target => s.connect setting target
  | .close => s.close
  | .dispose => s.dispose
  | .resume process resumption => s.resume setting process resumption
  | .routed senderDeviceId opaqueEnvelope nowUnixMs =>
    s.listened fun generation s =>
      call .routed generation (s.handleRouted setting senderDeviceId opaqueEnvelope nowUnixMs)
  | .signalingFailed =>
    s.listened fun generation s =>
      call .recoverableFailure generation (s.handleRecoverableFailure true)
  | .peerEvent event resumeFails => s.listened fun _ s => s.handlePeerEvent event resumeFails
  | .streamFailed =>
    s.listened fun generation s =>
      call .recoverableFailure generation (s.handleRecoverableFailure false)
  | .localCandidate candidate nowUnixMs =>
    s.listened fun generation s =>
      call .localCandidate generation (s.handleLocalCandidate setting candidate nowUnixMs)
  | .timer => s.fireTimer
  | .reliableFailure => s.failUnawaited .peer

/-- The controller as a machine. -/
def machine : Machine RemoteDesktopController RemoteAction Unit where
  step s a := (s.step setting a, ())

end Resuming

end RemoteDesktopController

end Client

end Roammand
