import Roammand.Bridge.Broker
import Roammand.Host.PeerSession

/-!
# Privileged bridge: the proxies of the Host

With the bridge installed, the peer and the input sink of a Host session are proxies.
Each call of either becomes one request to the broker, under the lease that was
acquired for the session; the two share one sequence of requests, and the first call
that fails shuts both down.

The two ends of the connection are one state here: the proxies, the wire that turns
their calls into frames, and the broker's session at the other end.  Clocks, the
transport and the polls of either side are inputs.

Main results:

- Definition `PeerProxy` with `perform`, the calls of the peer and of the sink, and the
  renewal of the lease that precedes most of them.
- Definition `PeerProxy.machine`: the calls of a session, the polls and what the broker
  does meanwhile, in any order.
-/

namespace Roammand

namespace Bridge

open Library Protocol Fallible

/-- How long after the last renewal the Host renews. -/
def renewAttemptIntervalMs : Nat := renewIntervalMs + 250

/-- A call of the proxies before it is framed. -/
structure BridgeRequest where
  route : ProxyRoute
  sequence : Nat

/-- The answer to a call of the proxies. -/
structure BridgeResponse (α : Type) where
  route : ProxyRoute
  sequence : Nat
  value : α

/-- The wire of the Host: the configuration it sends with every offer, the route it is
bound to, and its counters. -/
structure ProtobufBridgeWire where
  configuration : PrivilegedPeerConfiguration
  parseDtlsSha256Fingerprint : String → Option Bytes
  controllerDisplayName : String
  route : Option ProxyRoute
  nextFrameSequence : Nat
  lastRenewedAtMs : Nat
  failed : Bool

/-- A request as the broker has met it: its session before and the time. -/
structure Handled where
  session : HostBrokerSession
  request : PrivilegedBridgeClientFrame
  nowMs : Nat

/-- The proxies with their wire and the broker at the other end.  `served` tells whether
the broker still serves the connection, and `handled` records what has reached it. -/
structure PeerProxy where
  route : ProxyRoute
  nextRequestSequence : Nat
  failed : Bool
  closed : Bool
  wire : ProtobufBridgeWire
  broker : HostBrokerSession
  served : Bool
  handled : List Handled

/-- A method of the proxies. -/
abbrev ProxyM := Fallible PeerProxy ProxyError

/-- What becomes of a request: it is lost, its answer is lost, or both arrive. -/
inductive Delivery where
  | lost
  | unanswered
  | answered
  deriving DecidableEq

/-- The clocks and the transport during one call: the Host's clock before the call and
after a renewal, and for the renewal and the request itself the time of the broker and
the delivery. -/
structure CallEnvironment where
  clockMs : Nat
  renewedClockMs : Nat
  renewedAtMs : Nat
  renewal : Delivery
  handledAtMs : Nat
  delivery : Delivery

/-- The input operation of a call of the sink. -/
def toInput : Host.SinkCall → PrivilegedInput
  | .keyboard action usbHidUsage modifierBits => .keyboard action.toInt32 usbHidUsage modifierBits
  | .pointerButton button action x y => .pointerButton button.toInt32 action.toInt32 x y
  | .pointerMove x y pressedButtonBits => .pointerMove x y pressedButtonBits
  | .pointerScroll deltaX deltaY => .pointerScroll deltaX deltaY
  | .text text => .text text
  | .releaseAll => .releaseAll

/-- The candidate as it is sent. -/
def toCandidate (candidate : Host.PeerIceCandidate) : IceCandidate :=
  { candidate := candidate.candidate
    sdpMid := candidate.sdpMid
    sdpMLineIndex := candidate.sdpMLineIndex }

/-- The answer of the broker to a request it rejects. -/
def errorFrame (request : PrivilegedBridgeClientFrame) : PrivilegedBridgeServerFrame :=
  HostBrokerSession.responseFrame request (.error
    { code := .invalidRequest
      messageKey := "privileged_bridge_rejected"
      retryable := false
      requestId := request.requestId })

/-- The version is one this side speaks. -/
def validVersion (version : Option ProtocolVersion) : Bool :=
  version.any fun version => version.major = 1

/-- The identifier of a request. -/
def requestId (route : ProxyRoute) (frameSequence : Nat) : String :=
  "session-" ++ toString route.generation ++ "-" ++ toString frameSequence

/-- The route of a lease reference, as the Host reads it. -/
def clientRoute (leaseId : Bytes) (generation : Nat) : Except ProxyError ProxyRoute :=
  match bytes16? leaseId with
  | none => .error .invalidMessage
  | some leaseId =>
    if generation = 0 then .error .invalidMessage else .ok { leaseId, generation }

namespace PeerProxy

/-! ## The broker at the other end -/

/-- The broker stops serving. -/
def hangUp : ProxyM Unit :=
  modify fun p => { p with broker := p.broker.failClosed, served := false }

/-- The broker meets a request: a frame that is not valid ends the connection, a request
that is rejected is answered with an error and ends it too. -/
def serve (request : PrivilegedBridgeClientFrame) (nowMs : Nat) :
    ProxyM PrivilegedBridgeServerFrame := do
  let p ← get
  match validatePrivilegedBridgeClientFrame request with
  | .error _ => do
    hangUp
    throw .transport
  | .ok () => do
    let r := HostBrokerSession.handle request nowMs (.error .randomUnavailable) p.broker
    modify fun p => { p with
      broker := r.2
      handled := p.handled ++ [{ session := p.broker, request, nowMs }] }
    match r.1 with
    | .ok response => return response
    | .error _ => do
      hangUp
      return errorFrame request

/-- Send a request and wait for the answer. -/
def rpcCall (request : PrivilegedBridgeClientFrame) (nowMs : Nat) (delivery : Delivery) :
    ProxyM PrivilegedBridgeServerFrame := do
  let p ← get
  require (p.served = true) .transport
  match delivery with
  | .lost => throw .transport
  | .unanswered => do
    let _ ← serve request nowMs
    throw .transport
  | .answered => serve request nowMs

/-! ## The wire -/

/-- Shut the wire down. -/
def reject {α : Type} (error : ProxyError) : ProxyM α := do
  modify fun p => { p with wire.failed := true }
  throw error

variable (env : CallEnvironment) (request : BridgeRequest)

/-- Frame a request, send it and check that the answer belongs to it. -/
def call (payload : PrivilegedClientPayload) (nowMs : Nat)
    (delivery : Delivery) : ProxyM PrivilegedBridgeServerFrame := do
  let p ← get
  require (p.wire.failed = false) .failedClosed
  if p.wire.route.any (· ≠ request.route) then reject .staleRoute
  else do
    modify fun p => { p with wire.route := some request.route }
    match checkedAdd p.wire.nextFrameSequence 1 with
    | none => reject .failedClosed
    | some next => do
      modify fun p => { p with wire.nextFrameSequence := next }
      let frame : PrivilegedBridgeClientFrame :=
        { protocolVersion := some { major := 1, minor := 0 }
          requestId := requestId request.route p.wire.nextFrameSequence
          sequence := p.wire.nextFrameSequence
          payload := some payload }
      let result ← outcome (rpcCall frame nowMs delivery)
      match result with
      | .error error => reject error
      | .ok response =>
        if validVersion response.protocolVersion ∧ response.requestId = frame.requestId ∧
            response.sequence = frame.sequence then return response
        else reject .staleResponse

/-- A request that is only acknowledged. -/
def accepted (payload : PrivilegedClientPayload) (nowMs : Nat)
    (delivery : Delivery) : ProxyM (BridgeResponse Unit) := do
  let response ← call request payload nowMs delivery
  match response.payload with
  | some (.commandAccepted leaseId generation) => do
    let route ← ofResult (clientRoute leaseId generation)
    return { route, sequence := request.sequence, value := () }
  | some (.error _) => reject .rejected
  | _ => reject .staleResponse

/-- The answer to an offer. -/
def peerAnswer (response : PrivilegedBridgeServerFrame) (proxySequence : Nat) :
    ProxyM (BridgeResponse Host.PeerAnswer) :=
  match response.payload with
  | some (.peerAnswer leaseId generation answer) => do
    let answer ← orThrow answer .invalidMessage
    if answer.type = sessionDescriptionTypeAnswer ∧ answer.sdp ≠ "" ∧
        answer.dtlsFingerprintSha256.length = nonceOrHashBytes then do
      let route ← ofResult (clientRoute leaseId generation)
      return {
        route
        sequence := proxySequence
        value := { sdp := answer.sdp, dtlsFingerprintSha256 := answer.dtlsFingerprintSha256 } }
    else reject .invalidMessage
  | some (.error _) => reject .rejected
  | _ => reject .staleResponse

/-- Renew the lease when its time has come. -/
def renewIfDue : ProxyM Unit := do
  let p ← get
  onlyIf (renewAttemptIntervalMs ≤ env.clockMs - p.wire.lastRenewedAtMs) do
    let route ← orThrow p.wire.route .invalidMessage
    let response ← call { route, sequence := 0 }
      (.renewLease route.leaseId.toList route.generation) env.renewedAtMs env.renewal
    match response.payload with
    | some (.lease lease) => do
      let renewed ← ofResult (clientRoute lease.leaseId lease.generation)
      if renewed ≠ route then reject .staleRoute
      else modify fun p => { p with wire.lastRenewedAtMs := env.renewedClockMs }
    | _ => reject .rejected

/-- The offer as it is sent. -/
def peerRequest (offerSdp : String) : ProxyM PrivilegedPeerRequest := do
  let p ← get
  let fingerprint ← orThrow (p.wire.parseDtlsSha256Fingerprint offerSdp) .invalidMessage
  return {
    leaseId := request.route.leaseId.toList
    generation := request.route.generation
    configuration := some p.wire.configuration
    offer := some { type := sessionDescriptionTypeOffer, sdp := offerSdp
                    dtlsFingerprintSha256 := fingerprint }
    controllerDisplayName := p.wire.controllerDisplayName }

/-- Send an offer that starts or restarts the peer. -/
def negotiate (payload : PrivilegedPeerRequest → PrivilegedClientPayload) (offerSdp : String)
    (env : CallEnvironment) (request : BridgeRequest) :
    ProxyM (BridgeResponse Host.PeerAnswer) := do
  renewIfDue env
  let value ← peerRequest request offerSdp
  let response ← call request (payload value) env.handledAtMs env.delivery
  peerAnswer response request.sequence

/-- Send a candidate of the controller. -/
def addCandidate (candidate : Host.PeerIceCandidate) (env : CallEnvironment)
    (request : BridgeRequest) : ProxyM (BridgeResponse Unit) := do
  renewIfDue env
  accepted request (.addIceCandidate request.route.leaseId.toList request.route.generation
    (some (toCandidate candidate))) env.handledAtMs env.delivery

/-- Send an input operation. -/
def input (call : Host.SinkCall) (env : CallEnvironment) (request : BridgeRequest) :
    ProxyM (BridgeResponse Unit) := do
  renewIfDue env
  accepted request (.inputCommand request.route.leaseId.toList request.route.generation
    (some (toInput call))) env.handledAtMs env.delivery

/-- Close the peer. -/
def closePeer : ProxyM (BridgeResponse Unit) :=
  accepted request (.closePeer request.route.leaseId.toList request.route.generation)
    env.handledAtMs env.delivery

/-- Release the lease. -/
def release : ProxyM (BridgeResponse Unit) :=
  accepted request (.releaseLease request.route.leaseId.toList request.route.generation)
    env.handledAtMs env.delivery

/-! ## The proxies -/

/-- Shut the proxies and their wire down. -/
def failClosed : ProxyM Unit :=
  modify fun p => { p with failed := true, wire.failed := true }

/-- Make a call with the next sequence number; any failure shuts the proxies down. -/
def perform {α : Type} (call : BridgeRequest → ProxyM (BridgeResponse α)) : ProxyM α := do
  let p ← get
  require (p.failed = false) .failedClosed
  let next ← orThrow (checkedAdd p.nextRequestSequence 1) .failedClosed
  modify fun p => { p with nextRequestSequence := next }
  let result ← outcome (call { route := p.route, sequence := p.nextRequestSequence })
  match result with
  | .error error => do
    failClosed
    throw error
  | .ok response =>
    if response.route ≠ p.route then do
      failClosed
      throw .staleRoute
    else if response.sequence ≠ p.nextRequestSequence then do
      failClosed
      throw .staleResponse
    else return response.value

/-- Close the peer and release the lease, once. -/
def close (env env' : CallEnvironment) : ProxyM Unit := do
  let p ← get
  if p.closed then return ()
  else do
    let closeResult ← outcome (perform (closePeer env))
    let releaseResult ← outcome (perform (release env'))
    modify fun p => { p with closed := true }
    ofResult closeResult
    ofResult releaseResult

/-- The Host polls the events of the bridge.  `healthy` tells whether an event that
arrives is one the proxies accept. -/
def poll (healthy : Bool) : ProxyM Unit := do
  let p ← get
  require (p.failed = false) .failedClosed
  let result ← outcome (do
    require (p.wire.failed = false) .failedClosed
    renewIfDue env
    require (healthy = true) .transport)
  match result with
  | .ok () => return ()
  | .error error => do
    failClosed
    throw error

end PeerProxy

/-! ## Connecting -/

/-- What the Host has verified about a session and passes to the broker. -/
structure ProxySessionContext where
  sessionId : Bytes
  permissions : List SessionPermission
  controllerDisplayName : String

/-- The context is checked before anything is sent. -/
def ProxySessionContext.new (sessionId : Bytes) (permissions : List SessionPermission)
    (controllerDisplayName : String) : Except ProxyError ProxySessionContext := do
  ensure (sessionId.length = sessionIdBytes ∧ permissions ≠ [] ∧ permissions.Nodup ∧
    .unspecified ∉ permissions ∧ controllerDisplayName ≠ "" ∧
    (utf8 controllerDisplayName).length ≤ maxDeviceNameUtf8Bytes) .invalidConfiguration
  return { sessionId, permissions, controllerDisplayName }

/-- The wire is bound to a controller whose name is nonempty, bounded and free of control
characters. -/
def validateControllerDisplayName (value : String) : Except ProxyError Unit :=
  ensure (value ≠ "" ∧ (utf8 value).length ≤ maxDeviceNameUtf8Bytes ∧
    ¬ value.toList.any isControlChar) .invalidConfiguration

variable (context : ProxySessionContext)

/-- The permissions of a context as they are sent. -/
def ProxySessionContext.wirePermissions : List Int32 :=
  context.permissions.map SessionPermission.toInt32

/-- The request for the lease of a session. -/
def acquireRequest (generation : Nat) :
    PrivilegedBridgeClientFrame :=
  { protocolVersion := some { major := 1, minor := 0 }
    requestId := "acquire-2"
    sequence := 2
    payload := some (.acquireLease
      { sessionId := context.sessionId
        generation
        permissions := context.wirePermissions
        controllerDisplayName := context.controllerDisplayName }) }

namespace PeerProxy

variable (configuration : PrivilegedPeerConfiguration)
  (parseDtlsSha256Fingerprint : String → Option Bytes) (context : ProxySessionContext)

/-- The proxies of a granted lease, whose wire checks the name once more. -/
def create (route : ProxyRoute) (clockMs : Nat) (broker : HostBrokerSession) :
    Except ProxyError PeerProxy := do
  ensure (route.generation ≠ 0) .invalidConfiguration
  validateControllerDisplayName context.controllerDisplayName
  return {
    route
    nextRequestSequence := 1
    failed := false
    closed := false
    wire :=
      { configuration
        parseDtlsSha256Fingerprint
        controllerDisplayName := context.controllerDisplayName
        route := some route
        nextFrameSequence := 3
        lastRenewedAtMs := clockMs
        failed := false }
    broker
    served := true
    handled := [] }

/-- Acquire a lease for a session and build its proxies.  The broker has told the Host the
generation of its desktop; `nextLeaseId` is the answer of the random identifier source. -/
def connect (generation nowMs clockMs : Nat) (nextLeaseId : Except LeaseError Bytes16)
    (session : HostBrokerSession) : Except ProxyError PeerProxy := do
  match validatePrivilegedBridgeClientFrame (acquireRequest context generation) with
  | .error _ => throw .transport
  | .ok () =>
    let r := HostBrokerSession.handle (acquireRequest context generation) nowMs nextLeaseId session
    match r.1 with
    | .error _ => throw .rejected
    | .ok response =>
      match response.payload with
      | some (.lease lease) => do
        let leaseId ← okOr (bytes16? lease.leaseId) .invalidMessage
        ensure (lease.generation = generation ∧ lease.sessionId = context.sessionId ∧
          lease.permissions = context.wirePermissions ∧
          lease.controllerDisplayName = context.controllerDisplayName) .rejected
        create configuration parseDtlsSha256Fingerprint context
          { leaseId, generation := lease.generation } clockMs r.2
      | _ => throw .rejected

end PeerProxy

/-! ## The bridge as a machine -/

/-- A call of the session to its peer or to its sink. -/
inductive ProxyCall where
  | peer (call : Host.PeerCall)
  | sink (call : Host.SinkCall)

/-- What happens on the bridge: a call of the session (a close takes two environments),
a poll of the Host, the broker's look at the clock and at the Helper, and the end of the
connection. -/
inductive ProxyOp where
  | call (call : ProxyCall) (env env' : CallEnvironment)
  | poll (env : CallEnvironment) (healthy : Bool)
  | expire (nowMs : Nat)
  | pollHelper
  | disconnect

/-- The call of the sink that an operation makes. -/
def ProxyOp.sinkCall? : ProxyOp → Option Host.SinkCall
  | .call (.sink made) _ _ => some made
  | _ => none

/-- The call of the peer that an operation makes. -/
def ProxyOp.peerCall? : ProxyOp → Option Host.PeerCall
  | .call (.peer made) _ _ => some made
  | _ => none

/-- What the session is answered. -/
inductive ProxyReply where
  | negotiated (result : Except Host.HostWebRtcError Host.PeerAnswer)
  | acknowledged (result : Except Host.HostWebRtcError Unit)
  | silent

namespace PeerProxy

/-- The answer to an offer, as the session is told. -/
def negotiated (m : ProxyM Host.PeerAnswer) (p : PeerProxy) : PeerProxy × ProxyReply :=
  ((m p).2, .negotiated ((m p).1.mapError fun _ => .peerFailure))

/-- The acknowledgement of a call, with the error that stands for any failure. -/
def acknowledged (error : Host.HostWebRtcError) (m : ProxyM Unit) (p : PeerProxy) :
    PeerProxy × ProxyReply :=
  ((m p).2, .acknowledged ((m p).1.mapError fun _ => error))

/-- Make a call of the session. -/
def makeCall (p : PeerProxy) (env env' : CallEnvironment) : ProxyCall → PeerProxy × ProxyReply
  | .peer (.start offerSdp) => negotiated (perform (negotiate .startPeer offerSdp env)) p
  | .peer (.restart offerSdp) => negotiated (perform (negotiate .restartPeer offerSdp env)) p
  | .peer (.addRemoteIceCandidate candidate) =>
    acknowledged .peerFailure (perform (addCandidate candidate env)) p
  | .peer .close => acknowledged .peerFailure (close env env') p
  | .sink call => acknowledged .inputFailure (perform (input call env)) p

/-- The bridge as a machine. -/
def machine : Machine PeerProxy ProxyOp ProxyReply where
  step p
    | .call call env env' => makeCall p env env' call
    | .poll env healthy => ((poll env healthy p).2, .silent)
    | .expire nowMs =>
      if (p.broker.expire nowMs).2 = true then
        ({ p with broker := (p.broker.expire nowMs).1.failClosed, served := false }, .silent)
      else ({ p with broker := (p.broker.expire nowMs).1 }, .silent)
    | .pollHelper =>
      match p.broker.tryEvent with
      | (.ok _, broker) => ({ p with broker }, .silent)
      | (.error _, broker) => ({ p with broker := broker.failClosed, served := false }, .silent)
    | .disconnect => ({ p with broker := p.broker.failClosed, served := false }, .silent)

end PeerProxy

end Bridge

end Roammand
