import Roammand.Library.Fallible
import Roammand.Protocol.PrivilegedBridge
import Roammand.Bridge.EventDelivery

/-!
# Privileged bridge: the broker

The broker stands between the Host and the session Helper.  It keeps the lease of
the Host and, apart from it, the graphical route that the operating system reports;
a Host session forwards requests to the Helper under that lease.

The Helper is another process.  It is embedded as a function from the calls made so
far to the answer to the last one, so that it may answer every call as it likes.

Main results:

- Definition `SessionStateMachine`: the observed route and whether it is controlled.
- Definition `BrokerCore`: the leases and the route, side by side.
- Definition `HostBrokerSession` with `handle`, `tryEvent`, `expire` and
  `failClosed`: every kind of request with all its error paths.
-/

namespace Roammand

namespace Bridge

open Library Protocol

/-! ## Graphical routes -/

/-- The platforms with a privileged bridge. -/
inductive Platform where
  | windows
  | macos
  deriving DecidableEq

/-- The desktops a session can show. -/
inductive DesktopKind where
  | normal
  | lockedLogin
  | secure
  deriving DecidableEq

/-- A graphical session that input can be routed to. -/
structure RouteSession where
  platform : Platform
  osSessionId : Nat
  desktop : DesktopKind
  generation : Nat
  deriving DecidableEq

/-- What the operating system reports. -/
inductive RouteEvent where
  | sessionAvailable (session : RouteSession)
  | routeLost (generation : Nat)
  | helperCrashed (generation : Nat)
  | brokerRestarted (generation : Nat)
  | hostDisconnected (generation : Nat)
  | loggedOut (generation : Nat)

/-- What a change of the route asks for. -/
inductive SessionAction where
  | freezeInput
  | releaseAllInput
  | peerDisconnected
  | clearRoute
  | publishRoute (session : RouteSession)

/-- The errors of the route. -/
inductive SessionError where
  | staleGeneration
  | generationGap
  | conflictingDuplicate
  | unexpectedOsSession
  | routeUnavailable

/-- The observed route. -/
structure SessionStateMachine where
  generation : Nat
  current : Option RouteSession
  controlledLease : Bool
  inputEnabled : Bool

namespace SessionStateMachine

/-- Nothing has been observed. -/
def new : SessionStateMachine :=
  { generation := 0, current := none, controlledLease := false, inputEnabled := false }

/-- Take control away; the actions undo what the controller has done. -/
def freezeActions (m : SessionStateMachine) (clearRoute : Bool) :
    SessionStateMachine × List SessionAction :=
  let undo : List SessionAction :=
    if m.controlledLease ∨ m.inputEnabled then
      [.freezeInput, .releaseAllInput, .peerDisconnected]
    else []
  let clear : List SessionAction :=
    if clearRoute ∧ m.current.isSome then [.clearRoute] else []
  ({ m with inputEnabled := false, controlledLease := false }, undo ++ clear)

/-- A session has become available. -/
def applyAvailable (m : SessionStateMachine) (next : RouteSession) :
    SessionStateMachine × Except SessionError (List SessionAction) :=
  if next.osSessionId = 0 then (m, .error .unexpectedOsSession)
  else if next.generation < m.generation then (m, .error .staleGeneration)
  else if next.generation = m.generation then
    if m.current = some next then (m, .ok []) else (m, .error .conflictingDuplicate)
  else if m.generation ≠ 0 ∧ next.generation ≠ m.generation + 1 then (m, .error .generationGap)
  else if m.current.any (fun current => next.osSessionId ≠ current.osSessionId) then
    (m, .error .unexpectedOsSession)
  else
    let r := m.freezeActions false
    ({ r.1 with generation := next.generation, current := some next },
      .ok (r.2 ++ [.publishRoute next]))

/-- There is no session any more. -/
def applyUnavailable (m : SessionStateMachine) (generation : Nat) :
    SessionStateMachine × Except SessionError (List SessionAction) :=
  if generation < m.generation then (m, .error .staleGeneration)
  else if generation = m.generation then
    if m.current.isNone then (m, .ok []) else (m, .error .conflictingDuplicate)
  else if m.generation ≠ 0 ∧ generation ≠ m.generation + 1 then (m, .error .generationGap)
  else
    let r := m.freezeActions true
    ({ r.1 with generation, current := none }, .ok r.2)

/-- Apply an observation. -/
def apply (m : SessionStateMachine) :
    RouteEvent → SessionStateMachine × Except SessionError (List SessionAction)
  | .sessionAvailable next => m.applyAvailable next
  | .routeLost generation | .helperCrashed generation | .brokerRestarted generation
  | .hostDisconnected generation | .loggedOut generation => m.applyUnavailable generation

/-- The route of generation `generation` is there. -/
def Serves (m : SessionStateMachine) (generation : Nat) : Prop :=
  m.generation = generation ∧ m.current.any (·.generation = generation)

instance (m : SessionStateMachine) (generation : Nat) : Decidable (m.Serves generation) :=
  inferInstanceAs (Decidable (_ ∧ _))

/-- Mark the route of a generation as controlled. -/
def beginControl (m : SessionStateMachine) (generation : Nat) :
    SessionStateMachine × Except SessionError Unit :=
  match m.current with
  | none => (m, .error .routeUnavailable)
  | some route =>
    if generation ≠ m.generation ∨ generation ≠ route.generation then
      (m, .error .routeUnavailable)
    else ({ m with controlledLease := true, inputEnabled := true }, .ok ())

/-- Control begins exactly on the route that is there. -/
theorem beginControl_eq (m : SessionStateMachine) (generation : Nat) :
    m.beginControl generation =
      if m.Serves generation then
        ({ m with controlledLease := true, inputEnabled := true }, .ok ())
      else (m, .error .routeUnavailable) := by
  obtain ⟨observed, current, controlled, enabled⟩ := m
  unfold beginControl Serves
  cases current with
  | none => simp
  | some route =>
    by_cases hserves : observed = generation ∧ route.generation = generation
    · obtain ⟨rfl, hroute⟩ := hserves
      simp [hroute]
    · have hrefused : generation ≠ observed ∨ generation ≠ route.generation := by
        by_cases hm : observed = generation
        · exact .inr fun h => hserves ⟨hm, h.symm⟩
        · exact .inl fun h => hm h.symm
      simp only [hrefused, if_true, Option.any_some, decide_eq_true_eq, hserves, if_false]

end SessionStateMachine

/-! ## The broker -/

/-- The leases of the broker and the route it has observed. -/
structure BrokerCore where
  leases : LeaseManager
  routes : SessionStateMachine

namespace BrokerCore

/-- A broker without a Host or a route. -/
def new (instanceId : Bytes16) : BrokerCore :=
  { leases := .new instanceId, routes := .new }

/-- An operation of the lease manager. -/
def onLeases {α : Type} (b : BrokerCore) (op : LeaseManager → LeaseManager × α) :
    BrokerCore × α :=
  ({ b with leases := (op b.leases).1 }, (op b.leases).2)

/-- An operation of the route. -/
def onRoutes {α : Type} (b : BrokerCore)
    (op : SessionStateMachine → SessionStateMachine × α) : BrokerCore × α :=
  ({ b with routes := (op b.routes).1 }, (op b.routes).2)

/-- Register the Host. -/
def connectHost (b : BrokerCore) (generation : Nat) : BrokerCore × Except LeaseError Unit :=
  b.onLeases (·.connectHost generation)

/-- Forget the Host. -/
def disconnectHost (b : BrokerCore) : BrokerCore × Bool :=
  b.onLeases (·.disconnectHost)

/-- Apply an observation of the operating system. -/
def observeRoute (b : BrokerCore) (event : RouteEvent) :
    BrokerCore × Except SessionError (List SessionAction) :=
  b.onRoutes (·.apply event)

/-- Acquire the only lease. -/
def acquire (b : BrokerCore) (request : AcquireLease) (nowMs : Nat)
    (nextLeaseId : Except LeaseError Bytes16) : BrokerCore × Except LeaseError Lease :=
  b.onLeases (·.acquire request nowMs nextLeaseId)

/-- Renew the active lease. -/
def renew (b : BrokerCore) (id : Bytes16) (generation nowMs : Nat) :
    BrokerCore × Except LeaseError Lease :=
  b.onLeases (·.renew id generation nowMs)

/-- Authorise the next operation. -/
def authorizeCommand (b : BrokerCore) (id : Bytes16) (generation sequence nowMs : Nat) :
    BrokerCore × Except LeaseError Unit :=
  b.onLeases (·.authorizeCommand id generation sequence nowMs)

/-- Release the active lease. -/
def release (b : BrokerCore) (id : Bytes16) (generation : Nat) :
    BrokerCore × Except LeaseError Bool :=
  b.onLeases (·.release id generation)

/-- Freeze the active lease when its time is over. -/
def expire (b : BrokerCore) (nowMs : Nat) : BrokerCore × Option Bytes16 :=
  b.onLeases (·.expire nowMs)

/-- Enable the route after a lease has been acquired. -/
def beginControl (b : BrokerCore) (generation : Nat) : BrokerCore × Except SessionError Unit :=
  b.onRoutes (·.beginControl generation)

end BrokerCore

/-! ## The Helper -/

/-- A call of the Helper. -/
inductive HelperCall where
  | exchange (request : PrivilegedBridgeClientFrame)
  | tryEvent
  | failClosed

/-- A Helper: its answer to the last of the calls made to it, for the requests it
answers and for the polls of its events. -/
structure BrokerHelper where
  exchange : List HelperCall → Except BrokerProtocolError PrivilegedBridgeServerFrame
  tryEvent : List HelperCall → Except BrokerProtocolError (Option PrivilegedBridgeServerFrame)
  calls : List HelperCall

/-! ## The session of the Host -/

/-- The broker's side of the Host connection. -/
structure HostBrokerSession where
  broker : BrokerCore
  helper : BrokerHelper
  permissions : List Int32
  operationSequence : Nat
  secureAttentionAllowed : Bool

/-- A method of the Host session. -/
abbrev BrokerM := Fallible HostBrokerSession BrokerProtocolError

/-- Sixteen bytes, if there are sixteen. -/
def bytes16? (bytes : Bytes) : Option Bytes16 :=
  if h : bytes.length = 16 then some ⟨bytes.toArray, by simpa using h⟩ else none

theorem bytes16?_eq_some {bytes : Bytes} {id : Bytes16} :
    bytes16? bytes = some id ↔ bytes = id.toList := by
  unfold bytes16?
  constructor
  · intro h
    split at h
    · cases h; rfl
    · cases h
  · rintro rfl
    rw [dif_pos (by simp)]
    congr 1

namespace HostBrokerSession

open Fallible

/-- The route that a lease reference of a message names. -/
def parseRoute (leaseId : Bytes) (generation : Nat) : Except BrokerProtocolError ProxyRoute :=
  match bytes16? leaseId with
  | none => .error .invalidMessage
  | some leaseId =>
    if generation = 0 then .error .invalidMessage else .ok { leaseId, generation }

variable (request : PrivilegedBridgeClientFrame)

/-- The name of the controller, in the requests that carry one. -/
def requestControllerDisplayName : Option String :=
  match request.payload with
  | some (.startPeer value) => some value.controllerDisplayName
  | some (.restartPeer value) => some value.controllerDisplayName
  | _ => none

/-- The route of a routed request. -/
def requestRoute : Except BrokerProtocolError ProxyRoute :=
  match request.payload with
  | some (.startPeer value) => parseRoute value.leaseId value.generation
  | some (.restartPeer value) => parseRoute value.leaseId value.generation
  | some (.addIceCandidate leaseId generation _) => parseRoute leaseId generation
  | some (.sendSecureAttention leaseId generation) => parseRoute leaseId generation
  | some (.inputCommand leaseId generation _) => parseRoute leaseId generation
  | some (.closePeer leaseId generation) => parseRoute leaseId generation
  | _ => .error .invalidMessage

/-- The route of an answer or an event of the Helper. -/
def responseRoute (response : PrivilegedBridgeServerFrame) :
    Except BrokerProtocolError ProxyRoute :=
  match response.payload with
  | some (.commandAccepted leaseId generation) => parseRoute leaseId generation
  | some (.peerAnswer leaseId generation _) => parseRoute leaseId generation
  | some (.localIceCandidate leaseId generation _) => parseRoute leaseId generation
  | some (.peerStateChanged leaseId generation _) => parseRoute leaseId generation
  | some (.reliableInput leaseId generation _) => parseRoute leaseId generation
  | some (.fastPointer leaseId generation _) => parseRoute leaseId generation
  | _ => .error .invalidMessage

/-- The answer to a request. -/
def responseFrame (payload : PrivilegedServerPayload) :
    PrivilegedBridgeServerFrame :=
  { protocolVersion := some { major := 1, minor := 0 }
    requestId := request.requestId
    sequence := request.sequence
    payload := some payload }

/-- The answer that tells the Host its lease. -/
def leaseResponse (lease : Lease) (permissions : List Int32) : PrivilegedBridgeServerFrame :=
  responseFrame request (.lease
    { leaseId := lease.id.toList
      generation := lease.generation
      issuedAtUnixMs := lease.issuedAtMs
      expiresAtUnixMs := lease.expiresAtMs
      sessionId := lease.sessionId.toList
      permissions
      controllerDisplayName := lease.controllerDisplayName })

/-- A session that has been granted nothing. -/
def new (broker : BrokerCore) (helper : BrokerHelper) : HostBrokerSession :=
  { broker, helper, permissions := [], operationSequence := 0, secureAttentionAllowed := false }

/-- Let the Host send secure attention. -/
def withSecureAttention (s : HostBrokerSession) (allowed : Bool) : HostBrokerSession :=
  { s with secureAttentionAllowed := allowed }

/-- The active lease. -/
def active (s : HostBrokerSession) : Option Lease := s.broker.leases.active

/-- Call the broker; all its errors are one. -/
def callBroker {α ε : Type} (op : BrokerCore → BrokerCore × Except ε α) : BrokerM α := fun s =>
  ((op s.broker).2.mapError fun _ => .lease, { s with broker := (op s.broker).1 })

/-- Ask the Helper. -/
def exchange (request : PrivilegedBridgeClientFrame) : BrokerM PrivilegedBridgeServerFrame :=
  fun s =>
    let calls := s.helper.calls ++ [.exchange request]
    (s.helper.exchange calls, { s with helper := { s.helper with calls } })

/-- Poll the Helper. -/
def pollHelper : BrokerM (Option PrivilegedBridgeServerFrame) := fun s =>
  let calls := s.helper.calls ++ [.tryEvent]
  (s.helper.tryEvent calls, { s with helper := { s.helper with calls } })

/-- Shut the Helper down. -/
def failHelper : BrokerM Unit :=
  modify fun s => { s with helper := { s.helper with calls := s.helper.calls ++ [.failClosed] } }

/-- Send a request to the Helper and check that the answer belongs to it. -/
def forward (route : ProxyRoute) :
    BrokerM PrivilegedBridgeServerFrame := do
  let response ← exchange request
  if response.requestId ≠ request.requestId ∨ response.sequence ≠ request.sequence then do
    failHelper
    throw .staleResponse
  else do
    let answered ← ofResult (responseRoute response)
    if answered ≠ route then do
      failHelper
      throw .staleResponse
    else return response

/-- The controller named by a request, if one is, is the one of the active lease. -/
def checkControllerDisplayName : BrokerM Unit := do
  match requestControllerDisplayName request with
  | none => return ()
  | some name => do
    let s ← get
    let lease ← orThrow s.active .lease
    require (name = lease.controllerDisplayName) .invalidMessage

variable (nowMs : Nat)

/-- Authorise a request under the active lease and forward it. -/
def forwardAuthorized :
    BrokerM PrivilegedBridgeServerFrame := do
  checkControllerDisplayName request
  let route ← ofResult (requestRoute request)
  let s ← get
  let sequence ← orThrow (checkedAdd s.operationSequence 1) .lease
  modify fun s => { s with operationSequence := sequence }
  callBroker (·.authorizeCommand route.leaseId route.generation sequence nowMs)
  forward request route

/-- Acquire a lease and enable the route.  `nextLeaseId` is the answer of the random
identifier source. -/
def acquire (value : AcquirePrivilegedLeaseRequest)
    (nowMs : Nat) (nextLeaseId : Except LeaseError Bytes16) :
    BrokerM PrivilegedBridgeServerFrame := do
  let sessionId ← orThrow (bytes16? value.sessionId) .invalidMessage
  let lease ← callBroker (·.acquire
    { sessionId
      generation := value.generation
      controllerDisplayName := value.controllerDisplayName
      mayControlInput := value.permissions.contains SessionPermission.controlInput.toInt32 }
    nowMs nextLeaseId)
  callBroker (·.beginControl lease.generation)
  modify fun s => { s with permissions := value.permissions, operationSequence := 0 }
  return leaseResponse request lease value.permissions

/-- Renew the active lease. -/
def renewLease (leaseId : Bytes) (generation nowMs : Nat) :
    BrokerM PrivilegedBridgeServerFrame := do
  let route ← ofResult (parseRoute leaseId generation)
  let lease ← callBroker (·.renew route.leaseId route.generation nowMs)
  let s ← get
  return leaseResponse request lease s.permissions

/-- Release a lease.  The Helper is asked before the lease is looked at. -/
def releaseLease (leaseId : Bytes) (generation : Nat) :
    BrokerM PrivilegedBridgeServerFrame := do
  let route ← ofResult (parseRoute leaseId generation)
  let response ← forward request route
  let _ ← callBroker (·.release route.leaseId route.generation)
  modify fun s => { s with permissions := [] }
  return response

/-- Apply a request of the Host. -/
def handle (nextLeaseId : Except LeaseError Bytes16) : BrokerM PrivilegedBridgeServerFrame :=
  match request.payload with
  | none => throw .invalidMessage
  | some (.acquireLease value) => acquire request value nowMs nextLeaseId
  | some (.renewLease leaseId generation) => renewLease request leaseId generation nowMs
  | some (.releaseLease leaseId generation) => releaseLease request leaseId generation
  | some (.inputCommand ..) => do
    let s ← get
    require (SessionPermission.controlInput.toInt32 ∈ s.permissions) .permissionDenied
    forwardAuthorized request nowMs
  | some (.sendSecureAttention ..) => do
    let s ← get
    require (s.secureAttentionAllowed = true ∧
      SessionPermission.controlInput.toInt32 ∈ s.permissions) .permissionDenied
    forwardAuthorized request nowMs
  | some (.startPeer _) | some (.restartPeer _) | some (.addIceCandidate ..)
  | some (.closePeer ..) => forwardAuthorized request nowMs
  | some (.authenticate _) | some (.registerHelper _) => throw .invalidMessage

/-- Poll an event of the Helper, which must belong to the active lease. -/
def tryEvent : BrokerM (Option PrivilegedBridgeServerFrame) := do
  let event ← pollHelper
  match event with
  | none => return none
  | some response => do
    let s ← get
    let lease ← orThrow s.active .lease
    let answered ← ofResult (responseRoute response)
    if answered ≠ { leaseId := lease.id, generation := lease.generation } then do
      failHelper
      throw .staleResponse
    else return some response

/-- Shut the Helper down when the lease has run out. -/
def expire (s : HostBrokerSession) (nowMs : Nat) : HostBrokerSession × Bool :=
  let r := s.broker.expire nowMs
  match r.2 with
  | none => ({ s with broker := r.1 }, false)
  | some _ =>
    ({ s with
      broker := r.1
      helper := { s.helper with calls := s.helper.calls ++ [.failClosed] }
      permissions := [] }, true)

/-- Shut everything down. -/
def failClosed (s : HostBrokerSession) : HostBrokerSession :=
  { s with
    helper := { s.helper with calls := s.helper.calls ++ [.failClosed] }
    broker := s.broker.disconnectHost.1
    permissions := [] }

end HostBrokerSession

/-! ## The session as a machine -/

/-- An operation of the Host session. -/
inductive BrokerInput where
  | handle (request : PrivilegedBridgeClientFrame) (nowMs : Nat)
      (nextLeaseId : Except LeaseError Bytes16)
  | tryEvent
  | expire (nowMs : Nat)
  | failClosed

/-- The time an operation is given, if it takes one. -/
def BrokerInput.time : BrokerInput → Option Nat
  | .handle _ nowMs _ => some nowMs
  | .expire nowMs => some nowMs
  | .tryEvent | .failClosed => none

/-- What an operation answers. -/
inductive BrokerOutput where
  | handled (result : Except BrokerProtocolError PrivilegedBridgeServerFrame)
  | event (result : Except BrokerProtocolError (Option PrivilegedBridgeServerFrame))
  | expired (expired : Bool)
  | failedClosed

namespace HostBrokerSession

/-- The Host session as a machine. -/
def machine : Machine HostBrokerSession BrokerInput BrokerOutput where
  step s
    | .handle request nowMs nextLeaseId =>
      let r := handle request nowMs nextLeaseId s
      (r.2, .handled r.1)
    | .tryEvent =>
      let r := tryEvent s
      (r.2, .event r.1)
    | .expire nowMs =>
      let r := s.expire nowMs
      (r.1, .expired r.2)
    | .failClosed => (s.failClosed, .failedClosed)

end HostBrokerSession

end Bridge

end Roammand
