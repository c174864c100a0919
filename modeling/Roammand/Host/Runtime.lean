import Roammand.Host.Pairing
import Roammand.Host.RemoteSession

/-!
# The signaling connection of the Host

One connection to the signaling service carries the remote session, the pairing and the
heartbeats of the Host.  Frames of the service are checked by the protocol and handed to
the session coordinator or to the pairing coordinator; what these have to send is turned
into frames by the same protocol.  Commands of the user reach the pairing coordinator at
any time.

A connection that has failed is reported to both coordinators before the next one is
opened.  The requests that were made for the pairing are remembered with the connection.

Main results:

- Definition `handleRemoteServerFrame`: what a frame of the service does.
- Definition `sendPairingOutbound`: how the queue of the pairing coordinator is sent.
- Definition `RemoteRuntime.machine`: the connection with both coordinators.
-/

namespace Roammand

namespace Host

open Library Protocol Fallible RemoteSessionCoordinator

/-- Why a connection ends. -/
inductive RuntimeError where
  | protocol (error : SignalingClientError)
  | session (error : RemoteSessionError)
  | transport
  | unexpectedFrame
  deriving DecidableEq

/-- A registered connection.  `pairingRequests` holds the identifiers of the requests that
were made for the pairing. -/
structure RemoteConnection where
  protocol : SignalingProtocol
  requestCounter : UInt64
  generation : UInt64
  pairingRequests : List String
  deriving DecidableEq

/-- The surroundings of a connection: those of the pairing, the decoders and the encoder of
an envelope. -/
structure RuntimeSetting where
  pairing : PairingHost.Setting
  decodeFrame : Bytes → Option SignalingServerFrame
  decodeEnvelope : Bytes → Option SignalingEnvelope
  encodeEnvelope : SignalingEnvelope → Bytes

namespace RemoteConnection

/-- An operation on a connection. -/
abbrev Operation := Fallible RemoteConnection RuntimeError

/-- An operation of the protocol. -/
def onProtocol {α : Type} (m : SignalingProtocol.Operation α) : Operation α :=
  zoom protocol (fun connection protocol => { connection with protocol })
    (mapError .protocol m)

/-- The identifier of the next request. -/
def nextRemoteRequestId : Operation String := do
  modify fun connection => { connection with
    requestCounter := .ofNat (saturatingAdd connection.requestCounter.toNat 1) }
  let connection ← get
  return s!"host-{connection.generation}-{connection.requestCounter}"

/-- The request for an item of the pairing queue. -/
def pairingRequest (requestId : String) :
    PairingOutbound → SignalingProtocol.Operation SignalingClientFrame
  | .create rendezvousId kind pairingCode =>
    SignalingProtocol.createPairing rendezvousId kind pairingCode requestId
  | .relay rendezvousId opaqueEnvelope =>
    SignalingProtocol.relayPairing rendezvousId opaqueEnvelope requestId
  | .complete rendezvousId completion =>
    SignalingProtocol.completePairing rendezvousId completion requestId

/-- Remember a request of the pairing. -/
def rememberRequest (requestId : String) : Operation Unit :=
  modify fun connection => { connection with
    pairingRequests := connection.pairingRequests ++ [requestId] }

/-- Send the items of the pairing queue, as far as the transport takes them. -/
def sendPairingOutbound (sends : SignalingClientFrame → Bool) :
    List PairingOutbound → Operation Unit
  | [] => pure ()
  | item :: items => do
    let requestId ← nextRemoteRequestId
    rememberRequest requestId
    let frame ← onProtocol (pairingRequest requestId item)
    require (sends frame = true) .transport
    sendPairingOutbound sends items

/-- Send the envelopes of the session coordinator. -/
def sendRemoteOutbound (encodeEnvelope : SignalingEnvelope → Bytes)
    (sends : SignalingClientFrame → Bool) : List RemoteSessionOutbound → Operation Unit
  | [] => pure ()
  | item :: items => do
    let requestId ← nextRemoteRequestId
    let frame ← onProtocol (SignalingProtocol.relaySession item.recipientDeviceId
      (encodeEnvelope item.envelope) requestId)
    require (sends frame = true) .transport
    sendRemoteOutbound encodeEnvelope sends items

/-- Send a heartbeat. -/
def sendHeartbeat (sends : SignalingClientFrame → Bool) : Operation Unit := do
  let requestId ← nextRemoteRequestId
  let frame ← onProtocol (SignalingProtocol.heartbeat requestId)
  require (sends frame = true) .transport

/-- Whether an event confirms the registration. -/
def isRegistered : SignalingEvent → Bool
  | .registered _ => true
  | _ => false

/-- Register a new connection; `registered` is the first frame of the service. -/
def register (setting : RuntimeSetting) (sends : SignalingClientFrame → Bool)
    (registered : Bytes) : Operation Unit := do
  let requestId ← nextRemoteRequestId
  let frame ← onProtocol (SignalingProtocol.registration requestId)
  require (sends frame = true) .transport
  let event ← onProtocol (SignalingProtocol.handleBinary setting.decodeFrame registered)
  require (isRegistered event = true) .unexpectedFrame

/-- Open a connection. -/
def connectRemote (setting : RuntimeSetting) (hostDeviceId : Bytes) (generation : UInt64)
    (sends : SignalingClientFrame → Bool) (registered : Bytes) :
    Except RuntimeError RemoteConnection := do
  let protocol ← (SignalingProtocol.new hostDeviceId).mapError .protocol
  let result := register setting sends registered
    { protocol, requestCounter := 0, generation, pairingRequests := [] }
  result.1.map fun _ => result.2

end RemoteConnection

/-! ## Frames of the service -/

/-- What a frame may change. -/
structure ServedState where
  protocol : SignalingProtocol
  sessions : RemoteSessionCoordinator
  pairing : PairingHost

/-- The errors of the session coordinator that leave the connection alone. -/
def RemoteSessionError.keepsConnection : RemoteSessionError → Bool
  | .invalidEnvelope | .authentication | .authorization | .replay | .pendingIceLimit
  | .deviceBusy => true
  | .peer | .input | .inputPermission | .service | .closed => false

/-- Handle an event about the pairing; its error stays with the pairing. -/
def handlePairingServerEvent (setting : RuntimeSetting) (event : SignalingEvent)
    (nowUnixMs : UInt64) : Fallible PairingHost RuntimeError Unit := do
  let _ ← outcome (PairingHost.onPairing (HostPairingCoordinator.handleSignalingEvent
    setting.pairing.crypto setting.pairing.signingIdentity event nowUnixMs))
  return ()

/-- Hand a routed envelope to the session coordinator. -/
def handleRoutedServerEvent (setting : RuntimeSetting) (env : Environment)
    (senderDeviceId opaqueEnvelope : Bytes) (nowUnixMs : UInt64) :
    Fallible RemoteSessionCoordinator RuntimeError (List RemoteSessionOutbound) := do
  let result ← outcome (handleRouted setting.pairing.crypto.toCrypto env
    senderDeviceId (setting.decodeEnvelope opaqueEnvelope) nowUnixMs)
  match result with
  | .ok outbound => return outbound
  | .error error =>
    if error.keepsConnection then return [] else throw (.session error)

/-- Handle a frame of the service. -/
def handleRemoteServerFrame (setting : RuntimeSetting) (env : Environment) (encoded : Bytes)
    (nowUnixMs : UInt64) :
    Fallible ServedState RuntimeError (List RemoteSessionOutbound) := do
  let event ← zoom ServedState.protocol (fun s protocol => { s with protocol })
    (mapError .protocol (SignalingProtocol.handleBinary setting.decodeFrame encoded))
  match event with
  | .routedSession senderDeviceId opaqueEnvelope =>
    zoom ServedState.sessions (fun s sessions => { s with sessions })
      (handleRoutedServerEvent setting env senderDeviceId opaqueEnvelope nowUnixMs)
  | .heartbeatAcknowledged _ _ => return []
  | .pairingCreated _ _ _ | .pairingJoined _ _ _ | .routedPairing _ _ _ | .pairingClosed _ _
  | .remoteError _ _ => do
    zoom ServedState.pairing (fun s pairing => { s with pairing })
      (handlePairingServerEvent setting event nowUnixMs)
    return []
  | .registered _ => throw .unexpectedFrame

/-! ## The connection with both coordinators -/

/-- The connection: there is none, it is registered, or it has failed and the failure is
not yet reported. -/
inductive Link where
  | offline
  | registered (connection : RemoteConnection)
  | broken (connection : RemoteConnection)
  deriving DecidableEq

/-- The connection of the Host with what it serves.  `relays` are the envelopes of the
session coordinator that are to be sent. -/
structure RemoteRuntime where
  generation : UInt64
  link : Link
  sessions : RemoteSessionCoordinator
  pairing : PairingHost
  relays : List RemoteSessionOutbound

/-- The actions of the pairing coordinator that a user or its clock causes. -/
def PairingAction.isCommand : PairingAction → Bool
  | .tick _ | .returnToIdle | .start _ _ _ _ | .accept _ _ _ _ _ | .reject _ _ _ | .cancel _ =>
    true
  | .signalingConnected | .signalingLost | .shutdown | .takeOutbound | .event _ _ => false

/-- A command for the pairing coordinator. -/
abbrev PairingCommand := { action : PairingAction // action.isCommand = true }

/-- The actions of the session coordinator that the signaling connection does not cause. -/
def RemoteSessionCoordinator.Action.isLocal : Action → Bool
  | .peerEvent _ _ | .tick _ | .receive _ _ | .termination _ _ | .privilegedRouteChanged _ => true
  | .routed _ _ _ | .signalingLost _ | .shutdown => false

/-- An input of the session coordinator that the signaling connection does not cause. -/
abbrev LocalInput := { input : Input // input.action.isLocal = true }

/-- What can happen to the connection and what it serves. -/
inductive RuntimeAction where
  | connect (sends : SignalingClientFrame → Bool) (registered : Bytes)
  | frame (env : Environment) (encoded : Bytes) (nowUnixMs : UInt64)
  | flushPairing (nowUnixMs : UInt64) (sends : SignalingClientFrame → Bool)
  | sendRemote (sends : SignalingClientFrame → Bool)
  | heartbeat (sends : SignalingClientFrame → Bool)
  | session (input : LocalInput)
  | command (command : PairingCommand)
  | lost (env : Environment) (nowUnixMs : UInt64)
  | shutdown (env : Environment)

/-- What an action yields. -/
abbrev RuntimeOutput := Except RuntimeError Unit

namespace RemoteRuntime

variable (setting : RuntimeSetting)

/-- The link after an operation on its connection. -/
def linkAfter {α : Type} (result : Except RuntimeError α) (connection : RemoteConnection) : Link :=
  match result with
  | .ok _ => .registered connection
  | .error _ => .broken connection

/-- Run an operation on the registered connection. -/
def onConnection (m : RemoteConnection.Operation Unit) (s : RemoteRuntime) :
    RemoteRuntime × RuntimeOutput :=
  match s.link with
  | .registered connection =>
    ({ s with link := linkAfter (m connection).1 (m connection).2 }, (m connection).1)
  | .offline | .broken _ => (s, .ok ())

/-- One action of the pairing coordinator. -/
def onPairing (a : PairingAction) (s : RemoteRuntime) : RemoteRuntime :=
  { s with pairing := (PairingHost.step setting.pairing s.pairing a).1 }

variable (sends : SignalingClientFrame → Bool)

/-- Open the next connection. -/
def connect (registered : Bytes) (s : RemoteRuntime) :
    RemoteRuntime × RuntimeOutput :=
  match s.link with
  | .offline =>
    let generation := UInt64.ofNat (saturatingAdd s.generation.toNat 1)
    match RemoteConnection.connectRemote setting s.sessions.hostDeviceId generation sends
      registered with
    | .ok connection =>
      (onPairing setting .signalingConnected
        { s with generation, link := .registered connection, relays := [] }, .ok ())
    | .error error => ({ s with generation }, .error error)
  | .registered _ | .broken _ => (s, .ok ())

variable (env : Environment)

/-- Handle a frame of the service. -/
def frame (encoded : Bytes) (nowUnixMs : UInt64) (s : RemoteRuntime) :
    RemoteRuntime × RuntimeOutput :=
  match s.link with
  | .registered connection =>
    let result := handleRemoteServerFrame setting env encoded nowUnixMs
      { protocol := connection.protocol, sessions := s.sessions, pairing := s.pairing }
    ({ s with
        link := linkAfter result.1 { connection with protocol := result.2.protocol }
        sessions := result.2.sessions
        pairing := result.2.pairing
        relays := s.relays ++ (result.1.toOption.getD []) }, result.1.map fun _ => ())
  | .offline | .broken _ => (s, .ok ())

variable (nowUnixMs : UInt64)

/-- Send what the pairing coordinator has queued, after its attempt may have run out. -/
def flushPairing (sends : SignalingClientFrame → Bool) (s : RemoteRuntime) :
    RemoteRuntime × RuntimeOutput :=
  match s.link with
  | .registered _ =>
    let s := onPairing setting (.tick nowUnixMs) s
    onConnection (RemoteConnection.sendPairingOutbound sends s.pairing.pairing.outbound)
      (onPairing setting .takeOutbound s)
  | .offline | .broken _ => (s, .ok ())

/-- Send the envelopes of the session coordinator. -/
def sendRemote (s : RemoteRuntime) :
    RemoteRuntime × RuntimeOutput :=
  onConnection (RemoteConnection.sendRemoteOutbound setting.encodeEnvelope sends s.relays)
    { s with relays := [] }

/-- The link after the session coordinator has failed. -/
def Link.breakIf (failed : Bool) : Link → Link
  | .registered connection => if failed then .broken connection else .registered connection
  | link => link

/-- The session coordinator acts on its own. -/
def session (input : LocalInput) (s : RemoteRuntime) : RemoteRuntime × RuntimeOutput :=
  let result := perform setting.pairing.crypto.toCrypto input.1 s.sessions
  ({ s with
      sessions := result.2
      link := Link.breakIf result.1.isOk.not s.link
      relays := s.relays ++ (result.1.toOption.getD []) },
    (result.1.map fun _ => ()).mapError .session)

/-- The loss of the connection is reported. -/
def lost (s : RemoteRuntime) :
    RemoteRuntime × RuntimeOutput :=
  (onPairing setting .signalingLost
    { s with
      link := .offline
      sessions := (signalingLost env nowUnixMs s.sessions).2
      relays := [] }, .ok ())

/-- The Host is stopping. -/
def shutdown (env : Environment) (s : RemoteRuntime) : RemoteRuntime × RuntimeOutput :=
  (onPairing setting .shutdown
    { s with
      link := .offline
      sessions := (RemoteSessionCoordinator.shutdown env s.sessions).2
      relays := [] }, .ok ())

/-- One action. -/
def step (s : RemoteRuntime) : RuntimeAction → RemoteRuntime × RuntimeOutput
  | .connect sends registered => connect setting sends registered s
  | .frame env encoded nowUnixMs => frame setting env encoded nowUnixMs s
  | .flushPairing nowUnixMs sends => flushPairing setting nowUnixMs sends s
  | .sendRemote sends => sendRemote setting sends s
  | .heartbeat sends => onConnection (RemoteConnection.sendHeartbeat sends) s
  | .session input => session setting input s
  | .command command => (onPairing setting command.1 s, .ok ())
  | .lost env nowUnixMs => lost setting env nowUnixMs s
  | .shutdown env => shutdown setting env s

/-- The connection as a machine. -/
def machine : Machine RemoteRuntime RuntimeAction RuntimeOutput := ⟨step setting⟩

/-- Before the first connection. -/
def initial (sessions : RemoteSessionCoordinator) (pairing : PairingHost) : RemoteRuntime where
  generation := 0
  link := .offline
  sessions := sessions
  pairing := pairing
  relays := []

end RemoteRuntime

/-! ## A sample connection

Frames of the service as they are on the wire, with what they decode to. -/

namespace SampleConnection

open SampleExchange

/-- A frame of the service. -/
def serverFrame (requestId : String) (payload : SignalingServerPayload) : SignalingServerFrame where
  protocolVersion := some { major := protocolMajorVersion, minor := 0 }
  requestId := requestId
  payload := some payload

/-- The registration is accepted. -/
def registered : Bytes :=
  [10, 2, 8, 1, 18, 8] ++ utf8 "host-1-1" ++ [82, 41, 10, 32] ++ sampleHostIdentity.deviceId ++
    [16, 224, 164, 153, 255, 188, 49]

/-- The rendezvous is created. -/
def created : Bytes :=
  [10, 2, 8, 1, 18, 8] ++ utf8 "host-1-2" ++ [106, 27, 10, 16] ++ rendezvousId.toList ++
    [16, 1, 24, 192, 249, 156, 255, 188, 49]

/-- The rendezvous has expired. -/
def expired : Bytes := [10, 2, 8, 1, 130, 1, 20, 10, 16] ++ rendezvousId.toList ++ [16, 3]

/-- The recipient of the third request is offline. -/
def recipientOffline : Bytes :=
  [10, 2, 8, 1, 18, 8] ++ utf8 "host-1-3" ++ [146, 1, 36, 8, 4, 18, 20] ++
    utf8 "error.device_offline" ++ [24, 1, 34, 8] ++ utf8 "host-1-3"

/-- A device that is not the controller. -/
def stranger : Bytes := List.replicate 32 9

/-- A candidate address. -/
def candidate : String := "candidate:1 1 udp 1 192.0.2.1 9 typ host"

variable (sender : Bytes)

/-- An envelope with a candidate. -/
def candidateEnvelope (requestId : String) (sessionId : Bytes) :
    SignalingEnvelope where
  senderDeviceId := sender
  recipientDeviceId := sampleHostIdentity.deviceId
  requestId := requestId
  sentAtUnixMs := now
  payload := some (.webrtcNegotiation
    { sessionId, payload := some (.iceCandidate ⟨candidate, "0", 0⟩) })

/-- The encoding of an envelope with a candidate. -/
def candidateBytes (requestId : String) (sessionId : Bytes) : Bytes :=
  [10, 2, 8, 1, 18, 32] ++ sender ++ [26, 32] ++ sampleHostIdentity.deviceId ++ [34, 3] ++
    utf8 requestId ++ [40, 128, 208, 149, 255, 188, 49, 106, 65, 10, 16] ++ sessionId ++
    [26, 45, 10, 40] ++ utf8 candidate ++ [18, 1, 48]

/-- The frame that routes it. -/
def routedCandidate (requestId : String) (sessionId : Bytes) : Bytes :=
  [10, 2, 8, 1, 138, 1, 188, 1, 10, 32] ++ sender ++ [18, 151, 1] ++
    candidateBytes sender requestId sessionId

/-- The sessions of the controller and of the other device. -/
def firstSession : Bytes := List.replicate 16 1

def secondSession : Bytes := List.replicate 16 2

/-- The answer to a device while another one is starting a session. -/
def busyEnvelope : SignalingEnvelope where
  senderDeviceId := sampleHostIdentity.deviceId
  recipientDeviceId := stranger
  requestId := "d-1"
  sentAtUnixMs := now
  payload := some (.error
    { code := .deviceBusy, messageKey := "remote_session.device_busy", retryable := true
      requestId := "d-1" })

/-- The encoding of that answer. -/
def busyBytes : Bytes :=
  [10, 2, 8, 1, 18, 32] ++ sampleHostIdentity.deviceId ++ [26, 32] ++ stranger ++ [34, 3] ++
    utf8 "d-1" ++ [40, 128, 208, 149, 255, 188, 49, 122, 37, 8, 5, 18, 26] ++
    utf8 "remote_session.device_busy" ++ [24, 1, 34, 3] ++ utf8 "d-1"

/-- The frames of the connection. -/
def frames : List (Bytes × SignalingServerFrame) :=
  [(registered, serverFrame "host-1-1" (.registered sampleHostIdentity.deviceId 1700000060000)),
    (created, serverFrame "host-1-2" (.rendezvousCreated rendezvousId.toList 1 1700000120000)),
    (expired, serverFrame "" (.rendezvousClosed rendezvousId.toList 3)),
    (recipientOffline, serverFrame "host-1-3" (.error 4 true "host-1-3")),
    (routedCandidate controller.deviceId "c-1" firstSession, serverFrame ""
      (.routedSession controller.deviceId (candidateBytes controller.deviceId "c-1"
        firstSession))),
    (routedCandidate stranger "d-1" secondSession, serverFrame ""
      (.routedSession stranger (candidateBytes stranger "d-1" secondSession)))]

/-- The envelopes of the connection. -/
def envelopes : List (Bytes × SignalingEnvelope) :=
  [(candidateBytes controller.deviceId "c-1" firstSession,
      candidateEnvelope controller.deviceId "c-1" firstSession),
    (candidateBytes stranger "d-1" secondSession,
      candidateEnvelope stranger "d-1" secondSession),
    (busyBytes, busyEnvelope)]

/-- The surroundings of the connection. -/
def setting : RuntimeSetting where
  pairing := SampleExchange.setting
  decodeFrame encoded := (frames.find? fun entry => entry.1 = encoded).map (·.2)
  decodeEnvelope encoded := (envelopes.find? fun entry => entry.1 = encoded).map (·.2)
  encodeEnvelope envelope :=
    ((envelopes.find? fun entry => entry.2 = envelope).map (·.1)).getD []

/-- A Host that starts no session. -/
def environment : Environment where
  registry := AuthorizationRegistry.sampleRegistry
  parts := .error .service
  recorded := false
  sign := fun _ => none
  published := fun _ => true

/-- The Host before the connection. -/
def runtime : RemoteRuntime :=
  .initial (.new sampleHostIdentity.deviceId
    { hostDeviceId := sampleHostIdentity.deviceId, usedNonces := ∅ }) SampleExchange.host

/-- The connection is opened. -/
def connect : RuntimeAction := .connect (fun _ => true) registered

/-- The sample attempt is started. -/
def start : RuntimeAction := .command ⟨SampleExchange.start, rfl⟩

/-- The pairing queue is sent. -/
def flush : RuntimeAction := .flushPairing now fun _ => true

/-- A frame arrives. -/
def receive (encoded : Bytes) : RuntimeAction := .frame environment encoded now

end SampleConnection

end Host

end Roammand
