import Roammand.Server.StoreInvariant

/-!
# The signaling service

The service as a machine whose steps are the sections between two lock operations.  A
connection is served by one goroutine: it reads a frame, handles it, and comes back to read the
next one, and when reading ends it cleans up.  What is left to do of a handler, or of the
sweeper, is a list of tasks; a step takes the next task of one of them, so that every
interleaving of the goroutines is a list of inputs.

Whether an outbound queue takes a frame is an input, and so are the clock readings, the
decisions of the rate limiter and the moment at which the reading of a connection ends.  Three
fields exist for the proofs only: under which connection a rendezvous was created and joined,
and which rendezvous have left the store with the devices that are then owed a notice.

Main results:

- Definitions `PresenceRegistry.register`, `touch`, `remove` and `expiredBefore`.
- Definition `Service.handleFrame` with the handlers of the frames.
- Definition `Service.machine`: the service under any interleaving.
-/

namespace Roammand

namespace Server

open Library Protocol

/-! ## Presence -/

/-- The way to a registered device. -/
structure Route where
  token : UInt64
  connection : Nat
  lastSeen : Time

/-- The registered devices. -/
abbrev PresenceRegistry := Table DeviceID Route

namespace PresenceRegistry

variable (registry : PresenceRegistry)

variable (id : DeviceID)

/-- `Register`: a device that is registered already is refused. -/
def register (route : Route) (now : Time) :
    Bool × PresenceRegistry :=
  if id ∈ registry then (false, registry)
  else (true, registry.insert id { route with lastSeen := now })

/-- `Touch`. -/
def touch (token : UInt64) (now : Time) :
    Bool × PresenceRegistry :=
  match registry.lookup id with
  | none => (false, registry)
  | some route =>
    if route.token ≠ token then (false, registry)
    else (true, registry.insert id { route with lastSeen := now })

/-- `Remove`. -/
def remove (token : UInt64) : PresenceRegistry :=
  match registry.lookup id with
  | none => registry
  | some route => if route.token ≠ token then registry else registry.erase id

/-- `ExpiredBefore`: the connections of the devices that were last seen before the cutoff. -/
def expiredBefore (cutoff : Time) (connection : Nat) : Bool :=
  registry.any fun _ route => decide (route.lastSeen < cutoff ∧ route.connection = connection)

end PresenceRegistry

/-! ## Frames -/

variable (encoded : Bytes)

/-- The device identifier in a request. -/
def deviceIDFromBytes : Option DeviceID :=
  if h : encoded.length = deviceIdBytes then some ⟨encoded, h⟩ else none

/-- The rendezvous identifier in a request. -/
def rendezvousIDFromBytes : Option RendezvousID :=
  if h : encoded.length = rendezvousIdBytes then some ⟨encoded, h⟩ else none

/-- A time in the milliseconds of the wire. -/
def unixMilliseconds (value : Time) : UInt64 := UInt64.ofInt (value / 1000000)

/-- A frame of the service. -/
def baseServerFrame (requestID : String) (payload : SignalingServerPayload) :
    SignalingServerFrame :=
  { protocolVersion := some ⟨1, 0⟩, requestId := requestID, payload := some payload }

/-- The codes that the service reports, with whether a retry may help. -/
def publicErrorSpec : ErrorCode → Option Bool
  | .pairingCodeExpired => some false
  | .pairingRateLimited => some true
  | .pairingRejected => some false
  | .deviceOffline => some true
  | .deviceBusy => some true
  | .invalidRequest => some false
  | .protocolUnsupported => some false
  | .messageTooLarge => some false
  | .serverUnavailable => some true
  | _ => none

/-- An error frame. -/
def publicError (code : ErrorCode) (requestID : String) : SignalingServerFrame :=
  let requestID := if maxRequestIdUtf8Bytes < requestID.utf8ByteSize then "" else requestID
  match publicErrorSpec code with
  | some retryable => baseServerFrame requestID (.error code.toInt32 retryable requestID)
  | none =>
    baseServerFrame requestID (.error ErrorCode.serverUnavailable.toInt32 true requestID)

/-- The code that reports an error of the store. -/
def pairingErrorCode : RendezvousError → ErrorCode
  | .rendezvousNotFound => .pairingCodeExpired
  | .rendezvousCapacity => .serverUnavailable
  | _ => .pairingRejected

/-- The announcement of a join. -/
def rendezvousJoinedFrame (requestID : String) (rendezvous : Rendezvous) (peer : DeviceID) :
    SignalingServerFrame :=
  baseServerFrame requestID (.rendezvousJoined rendezvous.id.1 peer.1
    (unixMilliseconds rendezvous.expiresAt))

/-- The announcement that a rendezvous is closed. -/
def rendezvousClosedFrame (requestID : String) (rendezvousID : RendezvousID)
    (completion : Int32) : SignalingServerFrame :=
  baseServerFrame requestID (.rendezvousClosed rendezvousID.1 completion)

/-- The kind of a rendezvous in a request. -/
def pairingKind (kind : Int32) : Option PairingKind :=
  if kind = PairingRendezvousKind.qr.toInt32 then some .qr
  else if kind = PairingRendezvousKind.desktopCode.toInt32 then some .desktopCode
  else none

/-- A code of eight characters of the pairing alphabet. -/
def validPairingCode (pairingCode : String) : Bool :=
  (utf8 pairingCode).length = desktopPairingCodeBytes ∧
    (utf8 pairingCode).all fun character =>
      (65 ≤ character ∧ character ≤ 90) ∨ (50 ≤ character ∧ character ≤ 55)

/-- A code that goes with the kind of a new rendezvous. -/
def validCreatePairingCode (text : CodeText) (kind : PairingKind) (pairingCode : String) : Bool :=
  if kind = .qr then pairingCode = ""
  else validPairingCode pairingCode && pairingCode = text.toUpper pairingCode

/-- A message of a connection. -/
inductive Received where
  | malformed (requestID : String)
  | decoded (frame : SignalingClientFrame)

/-- The checks of a frame before it is handled. -/
def decodeClientFrame : Received → Except (ErrorCode × String) (String × SignalingClientPayload)
  | .malformed requestID => .error (.invalidRequest, requestID)
  | .decoded frame =>
    match frame.protocolVersion with
    | none => .error (.protocolUnsupported, frame.requestId)
    | some version =>
      if version.major ≠ 1 then .error (.protocolUnsupported, frame.requestId)
      else if frame.requestId = "" ∨
          maxRequestIdUtf8Bytes < frame.requestId.utf8ByteSize then
        .error (.invalidRequest, frame.requestId)
      else
        match frame.payload with
        | none => .error (.invalidRequest, frame.requestId)
        | some payload => .ok (frame.requestId, payload)

/-! ## State -/

/-- What follows the attempt to reach a device. -/
inductive AfterSend where
  | ignore
  | offline (requestID : String)
  | hostJoined (requestID : String) (rendezvous : Rendezvous) (now : Time)

/-- Something a goroutine still has to do.  `notice` is the number of the removal, with the
device, that the frame announces. -/
inductive Task where
  | sendToDevice (deviceID : DeviceID) (frame : SignalingServerFrame) (after : AfterSend)
      (notice : Option (Nat × DeviceID))
  | send (connection : Nat) (deviceID : DeviceID) (frame : SignalingServerFrame)
      (after : AfterSend)
  | completeUnreached (requestID : String) (rendezvous : Rendezvous) (now : Time)
  | reply (frame : SignalingServerFrame) (notice : Option (Nat × DeviceID))
  | closeExpired (cutoff : Time)

/-- How far the goroutine of a connection has come: it serves frames, it has removed the
rendezvous of its device, it has released the device, it has ended. -/
inductive Phase where
  | serving
  | closing
  | leaving
  | ended
  deriving DecidableEq

/-- A connection. -/
structure ClientConnection where
  token : UInt64
  registered : Bool
  deviceID : DeviceID
  closed : Bool
  phase : Phase
  tasks : List Task

/-- A rendezvous that has left the store, with the devices that are then owed a notice. -/
structure Removal where
  rendezvous : Rendezvous
  owed : List DeviceID

/-- The settings of the service. -/
structure Options where
  presenceTimeout : Time
  rendezvousTTL : Time

/-- The service. -/
structure Service where
  presence : PresenceRegistry
  rendezvous : RendezvousStore
  nextToken : UInt64
  connections : List ClientConnection
  sweeper : List Task
  createdBy : RendezvousID → Nat
  joinedBy : RendezvousID → Nat
  removals : List Removal
  attempts : List (Nat × DeviceID)

/-- The devices of a rendezvous. -/
def Rendezvous.members (r : Rendezvous) : List DeviceID := r.host :: r.controller.toList

namespace Service

/-- Replace a connection. -/
def setConnection (s : Service) (n : Nat) (connection : ClientConnection) : Service :=
  { s with connections := s.connections.set n connection }

/-- Note that rendezvous have left the store.  The devices that are registered are owed a
notice, but for the one whose disconnect is the cause. -/
def recordRemovals (s : Service) (removed : List Rendezvous) (disconnected : Option DeviceID) :
    Service :=
  { s with
    removals := s.removals ++ removed.map fun r =>
      { rendezvous := r
        owed := r.members.filter fun d => d ∈ s.presence ∧ disconnected ≠ some d } }

/-- The notices of `notifyRendezvousClosed` for the removal with the given number. -/
def notifyRendezvousClosed (number : Nat) (rendezvous : Rendezvous)
    (completion : PairingRendezvousCompletion) (excluded : Option DeviceID) : List Task :=
  let frame := rendezvousClosedFrame "" rendezvous.id completion.toInt32
  let host :=
    if excluded ≠ some rendezvous.host then
      [Task.sendToDevice rendezvous.host frame .ignore (some (number, rendezvous.host))]
    else []
  let controller :=
    match rendezvous.controller with
    | none => []
    | some controller =>
      if excluded ≠ some controller then
        [Task.sendToDevice controller frame .ignore (some (number, controller))]
      else []
  host ++ controller

/-- The notices for the removals from the given number on. -/
def notifyAll (completion : PairingRendezvousCompletion) (excluded : Option DeviceID) :
    Nat → List Rendezvous → List Task
  | _, [] => []
  | number, r :: rs =>
    notifyRendezvousClosed number r completion excluded ++
      notifyAll completion excluded (number + 1) rs

/-- A reply that announces nothing. -/
def respond (frame : SignalingServerFrame) : List Task := [.reply frame none]

/-! ## Handlers -/

section handlers

variable (text : CodeText) (options : Options) (s : Service) (n : Nat)
  (connection : ClientConnection) (requestID : String)

variable (deviceId : Bytes) (now : Time)

/-- `handleRegistration`.  No other goroutine reads the fields of the connection, so that they
are set together with the registration. -/
def handleRegistration : Service × List Task :=
  match deviceIDFromBytes deviceId with
  | none => (s, respond (publicError .invalidRequest requestID))
  | some deviceID =>
    let r := s.presence.register deviceID
      { token := connection.token, connection := n, lastSeen := now } now
    if r.1 then
      ({ s with presence := r.2 }.setConnection n
          { connection with deviceID, registered := true },
        respond (baseServerFrame requestID (.registered deviceID.1
          (unixMilliseconds (now + options.presenceTimeout)))))
    else (s, respond (publicError .deviceBusy requestID))

/-- `handleHeartbeat`. -/
def handleHeartbeat : Service × List Task :=
  let r := s.presence.touch connection.deviceID connection.token now
  if r.1 then
    ({ s with presence := r.2 },
      respond (baseServerFrame requestID (.heartbeatAcknowledged (unixMilliseconds now)
        (unixMilliseconds (now + options.presenceTimeout)))))
  else (s.setConnection n { connection with closed := true }, [])

/-- `handlePresenceQuery`. -/
def handlePresenceQuery : Service × List Task :=
  match deviceIDFromBytes deviceId with
  | none => (s, respond (publicError .invalidRequest requestID))
  | some deviceID =>
    let online :=
      match s.presence.lookup deviceID with
      | none => false
      | some route => now - route.lastSeen ≤ options.presenceTimeout
    (s, respond (baseServerFrame requestID (.presenceResult deviceID.1 online)))

variable (rendezvousId : Bytes)

/-- `handleCreateRendezvous`. -/
def handleCreateRendezvous (kind : Int32) (pairingCode : String)
    (now : Time) (allowed : Bool) : Service × List Task :=
  match rendezvousIDFromBytes rendezvousId, pairingKind kind with
  | some id, some pairingKind =>
    if validCreatePairingCode text pairingKind pairingCode = false then
      (s, respond (publicError .invalidRequest requestID))
    else if allowed = false then (s, respond (publicError .pairingRateLimited requestID))
    else
      let rendezvous : Rendezvous :=
        { id, kind := pairingKind, host := connection.deviceID, controller := none
          codeHash := Rendezvous.zero.codeHash, expiresAt := now + options.rendezvousTTL }
      match RendezvousStore.create text s.rendezvous rendezvous pairingCode now with
      | none => (s, [])
      | some (reply, store) =>
        let notices := notifyAll .expired none s.removals.length reply.removed
        let s := { s.recordRemovals reply.removed none with rendezvous := store }
        match reply.err with
        | some err => (s, notices ++ respond (publicError (pairingErrorCode err) requestID))
        | none =>
          ({ s with createdBy := Function.update s.createdBy id n },
            notices ++ respond (baseServerFrame requestID (.rendezvousCreated id.1 kind
              (unixMilliseconds rendezvous.expiresAt))))
  | _, _ => (s, respond (publicError .invalidRequest requestID))

/-- The connections of the joins, with that of a first join. -/
def recordJoin (rendezvous : Rendezvous) : RendezvousID → Nat :=
  if (s.rendezvous.byID.lookup rendezvous.id).bind Rendezvous.controller = none then
    Function.update s.joinedBy rendezvous.id n
  else s.joinedBy

variable (now : Time)

/-- What `handleJoinRendezvous` does with the result of the store. -/
def finishJoin (result : Except RendezvousError Rendezvous × RendezvousStore) :
    Service × List Task :=
  match result.1 with
  | .error err => (s, respond (publicError (pairingErrorCode err) requestID))
  | .ok rendezvous =>
    ({ s with rendezvous := result.2, joinedBy := recordJoin s n rendezvous },
      [.sendToDevice rendezvous.host (rendezvousJoinedFrame "" rendezvous connection.deviceID)
        (.hostJoined requestID rendezvous now) none])

/-- `handleJoinRendezvous` with an identifier. -/
def handleJoinById (allowed : Bool) : Service × List Task :=
  match rendezvousIDFromBytes rendezvousId with
  | none => (s, respond (publicError .invalidRequest requestID))
  | some id =>
    if allowed = false then (s, respond (publicError .pairingRateLimited requestID))
    else finishJoin s n connection requestID now (s.rendezvous.joinByID id connection.deviceID now)

/-- `handleJoinRendezvous` with a code. -/
def handleJoinByCode (code : String) (now : Time) (allowed : Bool) : Service × List Task :=
  let pairingCode := text.toUpper (text.trimSpace code)
  if validPairingCode pairingCode = false then
    (s, respond (publicError .invalidRequest requestID))
  else if allowed = false then (s, respond (publicError .pairingRateLimited requestID))
  else finishJoin s n connection requestID now
    (RendezvousStore.joinByCode text s.rendezvous pairingCode connection.deviceID now)

/-- `handleRelayPairing`. -/
def handleRelayPairing (rendezvousId opaqueEnvelope : Bytes) (now : Time) :
    Service × List Task :=
  match rendezvousIDFromBytes rendezvousId with
  | none => (s, respond (publicError .invalidRequest requestID))
  | some id =>
    if opaqueEnvelope.length = 0 ∨ maxOpaqueSignalingEnvelopeBytes < opaqueEnvelope.length then
      (s, respond (publicError .invalidRequest requestID))
    else
      match s.rendezvous.peer id connection.deviceID now with
      | .error err => (s, respond (publicError (pairingErrorCode err) requestID))
      | .ok (peer, _) =>
        (s, [.sendToDevice peer
          (baseServerFrame "" (.routedPairing id.1 connection.deviceID.1 opaqueEnvelope))
          (.offline requestID) none])

/-- `handleCompleteRendezvous`. -/
def handleCompleteRendezvous (completion : Int32) (now : Time) :
    Service × List Task :=
  match rendezvousIDFromBytes rendezvousId with
  | none => (s, respond (publicError .invalidRequest requestID))
  | some id =>
    if completion ≠ PairingRendezvousCompletion.succeeded.toInt32 ∧
        completion ≠ PairingRendezvousCompletion.rejected.toInt32 then
      (s, respond (publicError .invalidRequest requestID))
    else
      match s.rendezvous.complete id connection.deviceID now with
      | none => (s, [])
      | some (.error err, _) => (s, respond (publicError (pairingErrorCode err) requestID))
      | some (.ok rendezvous, store) =>
        ({ s.recordRemovals [rendezvous] none with rendezvous := store },
          .reply (rendezvousClosedFrame requestID rendezvous.id completion)
              (some (s.removals.length, connection.deviceID)) ::
            rendezvous.controller.toList.map fun controller =>
              .sendToDevice controller (rendezvousClosedFrame "" rendezvous.id completion)
                .ignore (some (s.removals.length, controller)))

/-- `handleRelaySession`. -/
def handleRelaySession (recipientDeviceId opaqueEnvelope : Bytes) : Service × List Task :=
  match deviceIDFromBytes recipientDeviceId with
  | none => (s, respond (publicError .invalidRequest requestID))
  | some recipientID =>
    if opaqueEnvelope.length = 0 ∨ maxOpaqueSignalingEnvelopeBytes < opaqueEnvelope.length then
      (s, respond (publicError .invalidRequest requestID))
    else
      (s, [.sendToDevice recipientID
        (baseServerFrame "" (.routedSession connection.deviceID.1 opaqueEnvelope))
        (.offline requestID) none])

/-- `handleFrame`. -/
def handleFrame (payload : SignalingClientPayload) (now : Time) (allowed : Bool) :
    Service × List Task :=
  if connection.registered = false then
    match payload with
    | .register deviceId => handleRegistration options s n connection requestID deviceId now
    | _ => (s, respond (publicError .invalidRequest requestID))
  else
    match payload with
    | .register _ => (s, respond (publicError .invalidRequest requestID))
    | .heartbeat => handleHeartbeat options s n connection requestID now
    | .presenceQuery deviceId => handlePresenceQuery options s requestID deviceId now
    | .createRendezvous rendezvousId kind pairingCode =>
      handleCreateRendezvous text options s n connection requestID rendezvousId kind pairingCode
        now allowed
    | .joinRendezvousById rendezvousId =>
      handleJoinById s n connection requestID rendezvousId now allowed
    | .joinRendezvousByCode pairingCode =>
      handleJoinByCode text s n connection requestID pairingCode now allowed
    | .relayPairing rendezvousId opaqueEnvelope =>
      handleRelayPairing s connection requestID rendezvousId opaqueEnvelope now
    | .completeRendezvous rendezvousId completion =>
      handleCompleteRendezvous s connection requestID rendezvousId completion now
    | .relaySession recipientDeviceId opaqueEnvelope =>
      handleRelaySession s connection requestID recipientDeviceId opaqueEnvelope

end handlers

/-! ## Tasks -/

/-- A frame that is put, or fails to be put, into the outbound queue of a connection. -/
structure Delivery where
  connection : Nat
  deviceID : DeviceID
  frame : SignalingServerFrame
  accepted : Bool

/-- What is left to do after an attempt to reach a device. -/
def afterSend (reached : Bool) : AfterSend → List Task
  | .ignore => []
  | .offline requestID =>
    if reached then [] else respond (publicError .deviceOffline requestID)
  | .hostJoined requestID rendezvous now =>
    if reached then respond (rendezvousJoinedFrame requestID rendezvous rendezvous.host)
    else [.completeUnreached requestID rendezvous now]

/-- Note that a notice has been attempted. -/
def recordAttempt (s : Service) (notice : Option (Nat × DeviceID)) : Service :=
  { s with attempts := s.attempts ++ notice.toList }

/-- Mark the transports of expired devices as closed. -/
def closeExpired (s : Service) (cutoff : Time) : Service :=
  { s with
    connections := s.connections.mapIdx fun n connection =>
      { connection with closed := connection.closed || s.presence.expiredBefore cutoff n } }

/-- Mark the transport of a connection as closed. -/
def closeNow (s : Service) (n : Nat) : Service :=
  { s with connections := s.connections.modify n fun connection =>
      { connection with closed := true } }

/-- One task of a goroutine, which serves a connection or is the sweeper.  The result has the
tasks that take its place. -/
def runTask (s : Service) (self : Option (Nat × DeviceID)) (sent : Bool) :
    Task → Service × List Task × List Delivery
  | .sendToDevice deviceID frame after notice =>
    match s.presence.lookup deviceID with
    | none => (s.recordAttempt notice, afterSend false after, [])
    | some route => (s.recordAttempt notice, [.send route.connection deviceID frame after], [])
  | .send connection deviceID frame after =>
    (s, afterSend sent after, [⟨connection, deviceID, frame, sent⟩])
  | .completeUnreached requestID rendezvous now =>
    let offline := publicError .deviceOffline requestID
    match s.rendezvous.complete rendezvous.id rendezvous.host now with
    | some (.ok removed, store) =>
      ({ s.recordRemovals [removed] none with rendezvous := store },
        [.reply offline (self.map fun c => (s.removals.length, c.2))], [])
    | _ => (s, respond offline, [])
  | .reply frame notice =>
    match self with
    | none => (s, [], [])
    | some (n, deviceID) =>
      let s := s.recordAttempt notice
      (if sent then s else s.closeNow n, [], [⟨n, deviceID, frame, sent⟩])
  | .closeExpired cutoff => (s.closeExpired cutoff, [], [])

/-! ## Steps -/

/-- What happens next. -/
inductive Input where
  | connect
  | receive (n : Nat) (message : Received) (now : Time) (allowed : Bool)
  | proceed (n : Nat) (sent : Bool)
  | stop (n : Nat) (order : RangeOrder RendezvousID)
  | sweep (now : Time)
  | proceedSweeper (sent : Bool)

/-- Give a connection its tasks. -/
def setTasks (s : Service) (n : Nat) (tasks : List Task) : Service :=
  { s with connections := s.connections.modify n fun connection => { connection with tasks } }

/-- A connection handles a message. -/
def receive (text : CodeText) (options : Options) (s : Service) (n : Nat)
    (connection : ClientConnection) (message : Received) (now : Time) (allowed : Bool) :
    Service :=
  match decodeClientFrame message with
  | .error (code, requestID) => s.setTasks n (respond (publicError code requestID))
  | .ok (requestID, payload) =>
    let r := handleFrame text options s n connection requestID payload now allowed
    r.1.setTasks n r.2

/-- The first section of `cleanupConnection`. -/
def stop (s : Service) (n : Nat) (connection : ClientConnection)
    (order : RangeOrder RendezvousID) : Service :=
  if connection.registered then
    match s.rendezvous.removeForDevice connection.deviceID order with
    | none => s
    | some (removed, store) =>
      let tasks :=
        notifyAll .disconnected (some connection.deviceID) s.removals.length removed
      { s.recordRemovals removed (some connection.deviceID) with
        rendezvous := store }.setConnection n { connection with phase := .closing, tasks }
  else s.setConnection n { connection with phase := .leaving }

/-- The next section of the goroutine of a connection. -/
def proceed (s : Service) (n : Nat) (connection : ClientConnection) (sent : Bool) :
    Service × List Delivery :=
  match connection.phase with
  | .closing =>
    ({ s with presence := s.presence.remove connection.deviceID connection.token }.setConnection
      n { connection with phase := .leaving }, [])
  | .ended => (s, [])
  | .serving | .leaving =>
    match connection.tasks with
    | [] =>
      if connection.phase = .leaving then
        (s.setConnection n { connection with phase := .ended, closed := true }, [])
      else (s, [])
    | task :: rest =>
      let r := s.runTask (some (n, connection.deviceID)) sent task
      (r.1.setTasks n (r.2.1 ++ rest), r.2.2)

/-- The first section of `Sweep`. -/
def startSweep (options : Options) (s : Service) (now : Time) : Service :=
  match s.rendezvous.sweep now with
  | none => s
  | some (removed, store) =>
    { s.recordRemovals removed none with
      rendezvous := store
      sweeper := notifyAll .expired none s.removals.length removed ++
        [.closeExpired (now - options.presenceTimeout)] }

/-- The next section of the sweeper. -/
def proceedSweeper (s : Service) (sent : Bool) : Service × List Delivery :=
  match s.sweeper with
  | [] => (s, [])
  | task :: rest =>
    let r := s.runTask none sent task
    ({ r.1 with sweeper := r.2.1 ++ rest }, r.2.2)

/-- One step of the service.  A connection reads when it has nothing left to do. -/
def step (text : CodeText) (options : Options) (s : Service) : Input → Service × List Delivery
  | .connect =>
    ({ s with
        nextToken := s.nextToken + 1
        connections := s.connections ++
          [{ token := s.nextToken + 1, registered := false, deviceID := Rendezvous.zero.host
             closed := false, phase := .serving, tasks := [] }] }, [])
  | .receive n message now allowed =>
    match s.connections[n]? with
    | none => (s, [])
    | some connection =>
      if connection.phase = .serving ∧ connection.tasks.isEmpty then
        (s.receive text options n connection message now allowed, [])
      else (s, [])
  | .proceed n sent =>
    match s.connections[n]? with
    | none => (s, [])
    | some connection => s.proceed n connection sent
  | .stop n order =>
    match s.connections[n]? with
    | none => (s, [])
    | some connection =>
      if connection.phase = .serving ∧ connection.tasks.isEmpty then
        (s.stop n connection order, [])
      else (s, [])
  | .sweep now =>
    if s.sweeper.isEmpty then (s.startSweep options now, []) else (s, [])
  | .proceedSweeper sent => s.proceedSweeper sent

/-- The service under any interleaving. -/
def machine (text : CodeText) (options : Options) : Machine Service Input (List Delivery) where
  step := step text options

/-- A new service. -/
def new (maxRendezvousPerHost maxRendezvous : Int) : Option Service :=
  (newRendezvousStore maxRendezvousPerHost maxRendezvous).map fun rendezvous =>
    { presence := ∅
      rendezvous
      nextToken := 0
      connections := []
      sweeper := []
      createdBy := fun _ => 0
      joinedBy := fun _ => 0
      removals := []
      attempts := [] }

end Service

end Server

end Roammand
