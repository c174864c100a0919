import Roammand.Library.Except
import Roammand.Bridge.Framing

/-!
# Privileged bridge: the event path from Helper to Host

The Helper numbers the events of its native peer with one counter, pointer events
and critical events alike.  The broker polls them from its hop and forwards them,
the Host polls them from its own hop, and `ProxyEvents.tryRecv` accepts an event
only under the number that follows the last one.  Calls travel the same two hops
in the other direction, and a call that waits for its answer sets the events it
meets aside in an event queue (`Roammand.Bridge.Framing`).

The module models the Helper, the broker session and the Host proxy as one system
in which each party takes its steps in any order, and follows the events through
it.

Main results:

- Definition `Chain.machine`: the system, one input for each step of each party.
- Theorem `event_delivery`: in a run whose calls only receive events while their
  pointer slot is free, the Host's polls deliver what the Helper emitted, complete
  and in order, and no poll fails by itself.
- Theorem `pointer_overtaken`: two pointer events that meet one call make the next
  poll fail closed.
-/

namespace Roammand

namespace Bridge

open Library List FramedBridgeRpc

/-! ## The Helper -/

/-- An event of the privileged peer. -/
inductive ProxyEvent where
  | connected
  | disconnected
  | failed
  | localStop
  | localIceCandidate (candidate : PeerIceCandidate)
  | reliableInput (encodedEnvelope : Bytes)
  | fastPointer (encodedEnvelope : Bytes)
  deriving DecidableEq

/-- Every event but a pointer event is critical. -/
def ProxyEvent.isCritical : ProxyEvent → Bool
  | .fastPointer _ => false
  | _ => true

/-- The errors of the Helper. -/
inductive HelperProtocolError where
  | invalidMessage
  | staleRoute
  | backend
  | sequenceOverflow
  deriving DecidableEq

/-- The Helper: the route its gate is attached to, the number of its next event,
and whether it has failed closed. -/
structure HelperProtocol where
  route : Option ProxyRoute
  nextEventSequence : Nat
  failed : Bool

/-- The frame of an event. -/
def eventFrame (route : ProxyRoute) (sequence : Nat) (event : ProxyEvent) : ServerFrame :=
  { requestId := s!"event-{sequence}"
    sequence
    payload :=
      match event with
      | .connected => .peerStateChanged route .connected
      | .disconnected => .peerStateChanged route .disconnected
      | .failed => .peerStateChanged route .failed
      | .localStop => .peerStateChanged route .closed
      | .localIceCandidate candidate => .localIceCandidate route candidate
      | .reliableInput encodedEnvelope => .reliableInput route encodedEnvelope
      | .fastPointer encodedEnvelope => .fastPointer route encodedEnvelope }

/-- An answer takes the identifier and the number of its request. -/
def responseFrame (request : ClientFrame) (payload : ServerPayload) : ServerFrame :=
  { requestId := request.requestId, sequence := request.sequence, payload }

namespace HelperProtocol

/-- A Helper that has not been attached to a route. -/
def new : HelperProtocol := { route := none, nextEventSequence := 1, failed := false }

/-- Release the gate and the native resources. -/
def failClosed (h : HelperProtocol) : HelperProtocol := { h with route := none, failed := true }

/-- Attach a route of a newer generation. -/
def attach (h : HelperProtocol) (route : ProxyRoute) : Except HelperProtocolError HelperProtocol :=
  if route.generation = 0 ∨ h.route.any (fun current => route.generation ≤ current.generation) then
    .error .staleRoute
  else
    .ok { h with route := some route }

/-- The current route stays; any other has to be attached. -/
def attachOrAuthorize (h : HelperProtocol) (route : ProxyRoute) :
    Except HelperProtocolError HelperProtocol :=
  if h.route = some route then .ok h else h.attach route

/-- A command other than the two that negotiate needs the current route. -/
def authorize (h : HelperProtocol) (route : ProxyRoute) :
    Except HelperProtocolError HelperProtocol :=
  if h.route = some route then .ok h else .error .staleRoute

/-- Execute one command.  `backend` is the outcome of the native operation, with
the answer that the two negotiating commands return. -/
def handle (h : HelperProtocol) (request : ClientFrame) (backend : Option PeerAnswer) :
    HelperProtocol × Except HelperProtocolError ServerFrame :=
  let accepted := responseFrame request (.commandAccepted request.route)
  if h.failed then (h, .error .backend)
  else if request.route.generation = 0 then (h, .error .invalidMessage)
  else
    match request.command with
    | .startPeer | .restartPeer =>
      match h.attachOrAuthorize request.route, backend with
      | .error error, _ => (h, .error error)
      | .ok h, none => (h.failClosed, .error .backend)
      | .ok h, some answer => (h, .ok (responseFrame request (.peerAnswer request.route answer)))
    | .addIceCandidate | .inputCommand | .sendSecureAttention | .closePeer =>
      match h.authorize request.route, backend with
      | .error error, _ => (h, .error error)
      | .ok h, none => (h.failClosed, .error .backend)
      | .ok h, some _ => (h, .ok accepted)
    | .releaseLease =>
      match h.authorize request.route, backend with
      | .error error, _ => (h, .error error)
      | .ok h, none => (h.failClosed, .error .backend)
      | .ok h, some _ => ({ h with route := none }, .ok accepted)
    | .renewLease => (h, .error .invalidMessage)

/-- Poll the native peer, whose answer is `polled`, and number its event. -/
def tryEvent (h : HelperProtocol) (polled : Except HelperProtocolError (Option ProxyEvent)) :
    HelperProtocol × Except HelperProtocolError (Option ServerFrame) :=
  if h.failed then (h, .error .backend)
  else
    match polled with
    | .error error => (h.failClosed, .error error)
    | .ok none => (h, .ok none)
    | .ok (some event) =>
      match h.route with
      | none => (h, .error .staleRoute)
      | some route =>
        match checkedAdd h.nextEventSequence 1 with
        | none => (h, .error .sequenceOverflow)
        | some next =>
          ({ h with nextEventSequence := next },
            .ok (some (eventFrame route h.nextEventSequence event)))

end HelperProtocol

/-! ## The Host proxy -/

/-- The route an answer or an event names. -/
def responseRoute (frame : ServerFrame) : Option ProxyRoute :=
  match frame.payload with
  | .localIceCandidate route _ | .peerStateChanged route _ | .reliableInput route _
  | .fastPointer route _ | .peerAnswer route _ | .commandAccepted route | .lease route =>
    some route
  | .error => none

/-- The event in a payload, with its route. -/
def mapPayload : ServerPayload → Except ProxyError (ProxyRoute × ProxyEvent)
  | .localIceCandidate route candidate => .ok (route, .localIceCandidate candidate)
  | .peerStateChanged route .connected => .ok (route, .connected)
  | .peerStateChanged route .disconnected => .ok (route, .disconnected)
  | .peerStateChanged route .failed => .ok (route, .failed)
  | .peerStateChanged route .closed => .ok (route, .localStop)
  | .peerStateChanged _ _ => .error .invalidMessage
  | .reliableInput route encodedEnvelope =>
    if encodedEnvelope.isEmpty then .error .invalidMessage
    else .ok (route, .reliableInput encodedEnvelope)
  | .fastPointer route encodedEnvelope =>
    if encodedEnvelope.isEmpty then .error .invalidMessage
    else .ok (route, .fastPointer encodedEnvelope)
  | .error => .error .rejected
  | _ => .error .staleResponse

/-- Read a polled frame as an event on a route. -/
def mapEvent (frame : ServerFrame) : Except ProxyError (ProxyRoute × ProxyEvent) :=
  if frame.sequence = 0 then .error .staleResponse
  else
    match mapPayload frame.payload with
    | .error error => .error error
    | .ok (route, event) =>
      if route.generation = 0 then .error .invalidMessage else .ok (route, event)

/-- Read the answer to a call: each command has its own kind of answer, on the
route the command was sent for. -/
def readAnswer (request : ClientFrame) (response : ServerFrame) : Except ProxyError Unit :=
  match request.command, response.payload with
  | _, .error => .error .rejected
  | .startPeer, .peerAnswer route answer | .restartPeer, .peerAnswer route answer =>
    if answer.sdp.isEmpty ∨ answer.dtlsFingerprintSha256.length ≠ 32 ∨ route.generation = 0 then
      .error .invalidMessage
    else if route ≠ request.route then .error .staleRoute
    else .ok ()
  | .startPeer, _ | .restartPeer, _ => .error .staleResponse
  | .renewLease, .lease route =>
    if route.generation = 0 then .error .invalidMessage
    else if route ≠ request.route then .error .staleRoute
    else .ok ()
  | .renewLease, _ => .error .rejected
  | _, .commandAccepted route =>
    if route.generation = 0 then .error .invalidMessage
    else if route ≠ request.route then .error .staleRoute
    else .ok ()
  | _, _ => .error .staleResponse

/-- The Host's end of the bridge: its route, the number of the last event it
accepted, the number of its next call, and its end of the hop. -/
structure ProxyShared where
  route : ProxyRoute
  lastEventSequence : Nat
  nextFrameSequence : Nat
  rpc : FramedBridgeRpc
  failed : Bool

namespace ProxyShared

/-- The proxy and its end of the hop give up together. -/
def failClosed (p : ProxyShared) : ProxyShared :=
  { p with failed := true, rpc := p.rpc.failClosed }

/-- Start a call: the frame to send, numbered by the frame counter. -/
def startCall (p : ProxyShared) (command : Command) :
    ProxyShared × Except ProxyError ClientFrame :=
  if p.failed then (p, .error .failedClosed)
  else
    match checkedAdd p.nextFrameSequence 1 with
    | none => (p.failClosed, .error .failedClosed)
    | some next =>
      if p.rpc.transport.closed then (p.failClosed, .error .transport)
      else
        ({ p with nextFrameSequence := next },
          .ok
            { requestId := s!"session-{p.route.generation}-{p.nextFrameSequence}"
              sequence := p.nextFrameSequence
              route := p.route
              command })

/-- One turn of a call: `none` while it goes on waiting. -/
def receive (accepts : ServerFrame → Bool) (p : ProxyShared) (request : ClientFrame) :
    ProxyShared × Option (Except ProxyError Unit) :=
  match p.rpc.callReceive accepts request with
  | (rpc, none) => ({ p with rpc }, none)
  | (rpc, some (.error error)) => ({ p with rpc }.failClosed, some (.error error))
  | (rpc, some (.ok response)) =>
    match readAnswer request response with
    | .error error => ({ p with rpc }.failClosed, some (.error error))
    | .ok () => ({ p with rpc }, some (.ok ()))

/-- Poll one event: it has to be on the proxy's route and to carry the number that
follows the last one. -/
def tryRecv (accepts : ServerFrame → Bool) (p : ProxyShared) :
    ProxyShared × Except ProxyError (Option ProxyEvent) :=
  if p.failed then (p, .error .failedClosed)
  else
    match p.rpc.tryEvent accepts with
    | (rpc, .error error) => ({ p with rpc }.failClosed, .error error)
    | (rpc, .ok none) => ({ p with rpc }, .ok none)
    | (rpc, .ok (some frame)) =>
      let p := { p with rpc }
      match mapEvent frame with
      | .error error => (p.failClosed, .error error)
      | .ok (route, event) =>
        if route ≠ p.route then (p.failClosed, .error .staleRoute)
        else
          match checkedAdd p.lastEventSequence 1 with
          | none => (p, .error .staleResponse)
          | some expected =>
            if frame.sequence ≠ expected then (p.failClosed, .error .staleResponse)
            else ({ p with lastEventSequence := frame.sequence }, .ok (some event))

end ProxyShared

/-! ## The system -/

/-- The errors of the broker session. -/
inductive BrokerProtocolError where
  | invalidMessage
  | lease
  | permissionDenied
  | helper
  | staleResponse
  deriving DecidableEq

/-- Why the chain came apart: a process or its transport went away, the Helper
failed, the broker refused a request or an event for want of a lease, the broker
or its end of the hop rejected a frame, or the Host could not start a call or
rejected a frame. -/
inductive Failure where
  | disconnected
  | helper (error : HelperProtocolError)
  | refused (error : BrokerProtocolError)
  | broker (error : BrokerProtocolError)
  | brokerRpc (error : ProxyError)
  | startCall (error : ProxyError)
  | host (error : ProxyError)
  deriving DecidableEq

/-- The two hops with the three parties on them.  `toHelper` and `toBroker` hold
the requests under way; the frames of the other direction are held by the two
receiving ends.  `brokerCall` and `hostCall` are the calls being waited for. -/
structure Chain where
  helper : HelperProtocol
  toHelper : List ClientFrame
  broker : FramedBridgeRpc
  brokerCall : Option ClientFrame
  activeLease : Option ProxyRoute
  toBroker : List ClientFrame
  host : ProxyShared
  hostCall : Option ClientFrame
  broken : Option Failure

/-- The steps of the parties. -/
inductive ChainInput where
  /-- The Helper executes the next command; the native operation ends in `backend`. -/
  | helperServe (backend : Option PeerAnswer)
  /-- The Helper polls its native peer, which answers `polled`. -/
  | helperPoll (polled : Except HelperProtocolError (Option ProxyEvent))
  /-- The broker takes the Host's next request; `refusal` is set when the lease does
  not allow it. -/
  | brokerServe (refusal : Option BrokerProtocolError)
  /-- The broker's forwarded call receives the next frame. -/
  | brokerReceive
  /-- The broker polls an event and forwards it. -/
  | brokerPoll
  /-- The Host starts a call. -/
  | hostCall (command : Command)
  /-- The Host's call receives the next frame. -/
  | hostReceive
  /-- The Host polls an event. -/
  | hostPoll
  /-- A process ends, a lease lapses or a transport breaks. -/
  | disconnect

/-- What can be seen of a step. -/
inductive ChainOutput where
  | silent
  | emitted (event : ProxyEvent)
  | polled (result : Except ProxyError (Option ProxyEvent))

namespace Chain

/-- A Host that has just been granted a lease on `route` and has used the frame
numbers below `nextFrameSequence` to get there. -/
def connected (route : ProxyRoute) (nextFrameSequence : Nat) : Chain :=
  { helper := .new
    toHelper := []
    broker := .new
    brokerCall := none
    activeLease := some route
    toBroker := []
    host := { route, lastEventSequence := 0, nextFrameSequence, rpc := .new, failed := false }
    hostCall := none
    broken := none }

/-- The hops are taken down.  The Host still receives what was sent to it. -/
def tearDown (s : Chain) (failure : Failure) : Chain :=
  { s with
    broken := s.broken.or (some failure)
    host.rpc.transport.closed := true }

/-- The Helper sends a frame to the broker. -/
def sendToBroker (s : Chain) (frame : ServerFrame) : Chain :=
  { s with broker := s.broker.push frame }

/-- The broker sends a frame to the Host. -/
def sendToHost (s : Chain) (frame : ServerFrame) : Chain :=
  { s with host.rpc := s.host.rpc.push frame }

section Steps

variable (accepts : ServerFrame → Bool) (s : Chain)

/-- The command branch of the Helper's loop. -/
def helperServe (backend : Option PeerAnswer) : Chain :=
  match s.toHelper with
  | [] => s
  | request :: rest =>
    match s.helper.handle request backend with
    | (helper, .error error) => tearDown { s with helper, toHelper := rest } (.helper error)
    | (helper, .ok response) => sendToBroker { s with helper, toHelper := rest } response

/-- The event branch of the Helper's loop. -/
def helperPoll (polled : Except HelperProtocolError (Option ProxyEvent)) :
    Chain × ChainOutput :=
  match s.helper.tryEvent polled with
  | (helper, .error error) => (tearDown { s with helper } (.helper error), .silent)
  | (helper, .ok none) => ({ s with helper }, .silent)
  | (helper, .ok (some frame)) =>
    (sendToBroker { s with helper } frame,
      match polled with
      | .ok (some event) => .emitted event
      | _ => .silent)

/-- The request branch of the broker's loop: a renewal is answered by the broker,
every other command is forwarded to the Helper.  A release is forwarded without a
look at the lease. -/
def brokerServe (refusal : Option BrokerProtocolError) : Chain :=
  match s.brokerCall, s.toBroker with
  | some _, _ | none, [] => s
  | none, request :: rest =>
    match refusal with
    | some error =>
      tearDown (sendToHost { s with toBroker := rest } (responseFrame request .error))
        (.refused error)
    | none =>
      if request.command ≠ .releaseLease ∧ s.activeLease ≠ some request.route then
        tearDown (sendToHost { s with toBroker := rest } (responseFrame request .error))
          (.refused .lease)
      else if request.command = .renewLease then
        sendToHost { s with toBroker := rest } (responseFrame request (.lease request.route))
      else
        { s with
          toBroker := rest
          toHelper := s.toHelper ++ [request]
          brokerCall := some request }

/-- One turn of the call the broker forwarded. -/
def brokerReceive : Chain :=
  match s.brokerCall with
  | none => s
  | some request =>
    match s.broker.callReceive accepts request with
    | (broker, none) => { s with broker }
    | (broker, some (.error error)) =>
      tearDown (sendToHost { s with broker, brokerCall := none } (responseFrame request .error))
        (.brokerRpc error)
    | (broker, some (.ok response)) =>
      if responseRoute response ≠ some request.route then
        tearDown
          (sendToHost { s with broker, brokerCall := none } (responseFrame request .error))
          (.broker .staleResponse)
      else
        sendToHost
          { s with
            broker
            brokerCall := none
            activeLease := if request.command = .releaseLease then none else s.activeLease }
          response

/-- The event branch of the broker's loop. -/
def brokerPoll : Chain :=
  match s.brokerCall with
  | some _ => s
  | none =>
    match s.broker.tryEvent accepts with
    | (broker, .error error) => tearDown { s with broker } (.brokerRpc error)
    | (broker, .ok none) => { s with broker }
    | (broker, .ok (some frame)) =>
      match s.activeLease with
      | none => tearDown { s with broker } (.refused .lease)
      | some route =>
        if responseRoute frame ≠ some route then
          tearDown { s with broker } (.broker .staleResponse)
        else
          sendToHost { s with broker } frame

/-- The Host starts a call, unless it is waiting for one. -/
def startHostCall (command : Command) : Chain :=
  match s.hostCall with
  | some _ => s
  | none =>
    match s.host.startCall command with
    | (host, .error error) => tearDown { s with host } (.startCall error)
    | (host, .ok request) =>
      { s with host, toBroker := s.toBroker ++ [request], hostCall := some request }

/-- One turn of the Host's call. -/
def hostReceive : Chain :=
  match s.hostCall with
  | none => s
  | some request =>
    match s.host.receive accepts request with
    | (host, none) => { s with host }
    | (host, some (.error error)) => tearDown { s with host, hostCall := none } (.host error)
    | (host, some (.ok ())) => { s with host, hostCall := none }

/-- The Host polls an event, unless it is waiting for a call. -/
def hostPoll : Chain × ChainOutput :=
  match s.hostCall with
  | some _ => (s, .silent)
  | none =>
    match s.host.tryRecv accepts with
    | (host, .error error) => (tearDown { s with host } (.host error), .polled (.error error))
    | (host, .ok event) => ({ s with host }, .polled (.ok event))

/-- One step of one party.  The Helper and the broker stop with the chain. -/
def step : ChainInput → Chain × ChainOutput
  | .helperServe backend => (if s.broken.isSome then s else s.helperServe backend, .silent)
  | .helperPoll polled => if s.broken.isSome then (s, .silent) else s.helperPoll polled
  | .brokerServe refusal => (if s.broken.isSome then s else s.brokerServe refusal, .silent)
  | .brokerReceive => (if s.broken.isSome then s else s.brokerReceive accepts, .silent)
  | .brokerPoll => (if s.broken.isSome then s else s.brokerPoll accepts, .silent)
  | .hostCall command => (s.startHostCall command, .silent)
  | .hostReceive => (s.hostReceive accepts, .silent)
  | .hostPoll => s.hostPoll accepts
  | .disconnect => (s.tearDown .disconnected, .silent)

end Steps

/-- The system as a machine. -/
def machine (accepts : ServerFrame → Bool) : Machine Chain ChainInput ChainOutput where
  step s input := s.step accepts input

variable (past : List (Occurrence Chain ChainInput ChainOutput))

/-- The events the Helper emitted. -/
def emitted : List ProxyEvent :=
  past.filterMap fun o =>
    match o.output with
    | .emitted event => some event
    | _ => none

/-- The events the Host's polls returned. -/
def delivered : List ProxyEvent :=
  past.filterMap fun o =>
    match o.output with
    | .polled (.ok (some event)) => some event
    | _ => none

/-- A call receives the next frame only when that leaves the events set aside
complete and in order. -/
def CallsClear (s : Chain) : ChainInput → Prop
  | .brokerReceive => s.brokerCall.isSome → s.broker.Clear
  | .hostReceive => s.hostCall.isSome → s.host.rpc.Clear
  | _ => True

instance (s : Chain) (input : ChainInput) : Decidable (s.CallsClear input) :=
  match input with
  | .brokerReceive => inferInstanceAs (Decidable (s.brokerCall.isSome → s.broker.Clear))
  | .hostReceive => inferInstanceAs (Decidable (s.hostCall.isSome → s.host.rpc.Clear))
  | .helperServe _ | .helperPoll _ | .brokerServe _ | .brokerPoll | .hostCall _ | .hostPoll
  | .disconnect => isTrue trivial

end Chain

/-! ## Reading frames back -/

/-- The errors of a hop that its event queue has no part in. -/
def ProxyError.External (error : ProxyError) : Prop :=
  error = .transport ∨ error = .invalidMessage ∨ error = .rejected

/-- The ends of the chain that its event queues have no part in. -/
def Failure.External : Failure → Prop
  | .disconnected | .helper _ | .refused _ | .startCall _ => True
  | .broker _ => False
  | .brokerRpc error | .host error => error.External

theorem FramedBridgeRpc.Refuses.external {accepts : ServerFrame → Bool} {rpc : FramedBridgeRpc}
    {error : ProxyError} (h : rpc.Refuses accepts error) : error.External := by
  rcases h with ⟨rfl, _⟩ | ⟨rfl, _⟩
  · exact .inl rfl
  · exact .inr (.inl rfl)

/-- The frames of a list of events, numbered from `k + 1` on. -/
def numbered (route : ProxyRoute) : Nat → List ProxyEvent → List ServerFrame
  | _, [] => []
  | k, event :: events => eventFrame route (k + 1) event :: numbered route (k + 1) events

theorem numbered_snoc (route : ProxyRoute) (k : Nat) (events : List ProxyEvent)
    (event : ProxyEvent) :
    numbered route k (events ++ [event]) =
      numbered route k events ++ [eventFrame route (k + events.length + 1) event] := by
  induction events generalizing k with
  | nil => rfl
  | cons first events ih =>
    have harith : k + 1 + events.length + 1 = k + (events.length + 1) + 1 := by omega
    simp only [cons_append, numbered, ih, length_cons, harith]

theorem mem_numbered {route : ProxyRoute} {k : Nat} {events : List ProxyEvent}
    {frame : ServerFrame} (h : frame ∈ numbered route k events) :
    ∃ n event, frame = eventFrame route n event := by
  induction events generalizing k with
  | nil => simp [numbered] at h
  | cons event events ih =>
    rw [numbered, mem_cons] at h
    rcases h with rfl | h
    · exact ⟨k + 1, event, rfl⟩
    · exact ih h

@[simp]
theorem eventFrame_isEvent (route : ProxyRoute) (n : Nat) (event : ProxyEvent) :
    (eventFrame route n event).isEvent = true := by
  cases event <;> rfl

@[simp]
theorem responseRoute_eventFrame (route : ProxyRoute) (n : Nat) (event : ProxyEvent) :
    responseRoute (eventFrame route n event) = some route := by
  cases event <;> rfl

theorem mapPayload_eventFrame (route : ProxyRoute) (n : Nat) (event : ProxyEvent) :
    mapPayload (eventFrame route n event).payload = .ok (route, event) ∨
      mapPayload (eventFrame route n event).payload = .error .invalidMessage := by
  cases event with
  | reliableInput encodedEnvelope | fastPointer encodedEnvelope =>
    by_cases hempty : encodedEnvelope.isEmpty
    · exact .inr (if_pos hempty)
    · exact .inl (if_neg hempty)
  | _ => exact .inl rfl

/-- The Host reads an event frame as the event it was made from, unless the
envelope is empty or the route has no generation. -/
theorem mapEvent_eventFrame (route : ProxyRoute) (n : Nat) (event : ProxyEvent) :
    mapEvent (eventFrame route (n + 1) event) = .ok (route, event) ∨
      mapEvent (eventFrame route (n + 1) event) = .error .invalidMessage := by
  have hne : (eventFrame route (n + 1) event).sequence ≠ 0 := Nat.succ_ne_zero n
  rw [mapEvent, if_neg hne]
  rcases mapPayload_eventFrame route (n + 1) event with hmap | hmap <;> rw [hmap]
  · by_cases hgeneration : route.generation = 0
    · exact .inr (if_pos hgeneration)
    · exact .inl (if_neg hgeneration)
  · exact .inr rfl

/-- A frame that answers a request: it carries the request's identifier and
number, and the Host accepts it or rejects it for a reason of its own. -/
structure Answers (request : ClientFrame) (response : ServerFrame) : Prop where
  answer : response.isEvent = false
  requestId : response.requestId = request.requestId
  sequence : response.sequence = request.sequence
  read : ∀ error, readAnswer request response = .error error → error.External

theorem answers_error (request : ClientFrame) : Answers request (responseFrame request .error) where
  answer := rfl
  requestId := rfl
  sequence := rfl
  read := by
    intro error h
    have hread : readAnswer request (responseFrame request .error) = .error .rejected := by
      unfold readAnswer responseFrame
      cases request.command <;> rfl
    rw [hread] at h
    cases h
    exact .inr (.inr rfl)

theorem answers_lease {request : ClientFrame} (h : request.command = .renewLease) :
    Answers request (responseFrame request (.lease request.route)) where
  answer := rfl
  requestId := rfl
  sequence := rfl
  read := by
    intro error hread
    have hinvalid : error = .invalidMessage := by
      simp_all [readAnswer, responseFrame]
    exact .inr (.inl hinvalid)

/-- A command other than a renewal is answered by an acceptance. -/
theorem answers_accepted {request : ClientFrame} (hstart : request.command ≠ .startPeer)
    (hrestart : request.command ≠ .restartPeer) (hrenew : request.command ≠ .renewLease) :
    Answers request (responseFrame request (.commandAccepted request.route)) where
  answer := rfl
  requestId := rfl
  sequence := rfl
  read := by
    intro error hread
    have hinvalid : error = .invalidMessage := by
      unfold readAnswer responseFrame at hread
      cases hcommand : request.command <;> simp_all
    exact .inr (.inl hinvalid)

/-- A negotiating command is answered by the peer's answer. -/
theorem answers_peerAnswer {request : ClientFrame} (answer : PeerAnswer)
    (h : request.command = .startPeer ∨ request.command = .restartPeer) :
    Answers request (responseFrame request (.peerAnswer request.route answer)) where
  answer := rfl
  requestId := rfl
  sequence := rfl
  read := by
    intro error hread
    have hinvalid : error = .invalidMessage := by
      unfold readAnswer responseFrame at hread
      rcases h with h | h <;> simp_all
    exact .inr (.inl hinvalid)

namespace HelperProtocol

variable {h h' : HelperProtocol}

theorem attachOrAuthorize_ok {route : ProxyRoute} (hok : h.attachOrAuthorize route = .ok h') :
    h' = { h with route := some route } := by
  unfold attachOrAuthorize at hok
  split at hok
  · next hroute =>
      cases hok
      cases h
      simp_all
  · unfold attach at hok
    split at hok
    · cases hok
    · exact (Except.ok.inj hok).symm

theorem authorize_ok {route : ProxyRoute} (hok : h.authorize route = .ok h') :
    h' = h ∧ h.route = some route := by
  unfold authorize at hok
  split at hok
  · next hroute => exact ⟨(Except.ok.inj hok).symm, hroute⟩
  · cases hok

/-- What the Helper answers to a command. -/
theorem handle_ok {request : ClientFrame} {backend : Option PeerAnswer} {response : ServerFrame}
    (hhandle : h.handle request backend = (h', .ok response)) :
    h'.failed = h.failed ∧ h'.nextEventSequence = h.nextEventSequence ∧
      (h'.route = none ∨ h'.route = some request.route) ∧ Answers request response ∧
      responseRoute response = some request.route := by
  unfold handle at hhandle
  dsimp only at hhandle
  split at hhandle
  · cases hhandle
  split at hhandle
  · cases hhandle
  split at hhandle
  · next hcommand =>
      split at hhandle <;> cases hhandle
      next hattach =>
        obtain rfl := attachOrAuthorize_ok hattach
        exact ⟨rfl, rfl, .inr rfl, answers_peerAnswer _ (.inl hcommand), rfl⟩
  · next hcommand =>
      split at hhandle <;> cases hhandle
      next hattach =>
        obtain rfl := attachOrAuthorize_ok hattach
        exact ⟨rfl, rfl, .inr rfl, answers_peerAnswer _ (.inr hcommand), rfl⟩
  all_goals try
    next hcommand =>
      split at hhandle <;> cases hhandle
      next hauthorize =>
        obtain ⟨rfl, hroute⟩ := authorize_ok hauthorize
        refine ⟨rfl, rfl, ?_, answers_accepted ?_ ?_ ?_, rfl⟩
        all_goals simp_all
  · cases hhandle

variable {polled : Except HelperProtocolError (Option ProxyEvent)}

/-- What the Helper does with an event of its native peer. -/
theorem tryEvent_ok {frame : ServerFrame} (htry : h.tryEvent polled = (h', .ok (some frame))) :
    ∃ event route, polled = .ok (some event) ∧ h.route = some route ∧
      frame = eventFrame route h.nextEventSequence event ∧
      h.nextEventSequence + 1 ≤ u64Max ∧
      h' = { h with nextEventSequence := h.nextEventSequence + 1 } := by
  unfold tryEvent at htry
  split at htry
  · cases htry
  split at htry
  · cases htry
  · cases htry
  · next event =>
      split at htry
      · cases htry
      · next route hroute =>
          split at htry
          · cases htry
          · next next hnext =>
              obtain ⟨hle, rfl⟩ := checkedAdd_eq_some.mp hnext
              cases htry
              exact ⟨event, route, rfl, hroute, rfl, hle, rfl⟩

/-- A poll without an event changes nothing. -/
theorem tryEvent_none (htry : h.tryEvent polled = (h', .ok none)) : h' = h := by
  unfold tryEvent at htry
  repeat' split at htry
  all_goals cases htry
  rfl

end HelperProtocol

/-! ## The Host's end -/

/-- The decoder lets the frame through and the Host can read it. -/
def Decodes (accepts : ServerFrame → Bool) (frame : ServerFrame) : Prop :=
  accepts frame = true ∧ mapEvent frame ≠ .error .invalidMessage

instance (accepts : ServerFrame → Bool) (frame : ServerFrame) :
    Decidable (Decodes accepts frame) :=
  inferInstanceAs (Decidable (_ ∧ _))

/-- The Host's end of the chain while the proxy works: `k` events have been
delivered, the events that wait are the first of those still to come, and the only
answer that can wait is the one to the current call. -/
structure HostSide (route : ProxyRoute) (k : Nat) (rest : List ProxyEvent) (host : ProxyShared)
    (call : Option ClientFrame) : Prop where
  route_eq : host.route = route
  last_eq : host.lastEventSequence = k
  running : host.failed = false
  live : host.rpc.Live
  events : host.rpc.awaiting <+: numbered route k rest
  answers : host.rpc.responses = [] ∨
    ∃ request response, call = some request ∧ host.rpc.responses = [response] ∧
      Answers request response
  bound : k + rest.length < u64Max

/-- What a poll of the Host may do. -/
inductive HostPolled (accepts : ServerFrame → Bool) (route : ProxyRoute) (k : Nat)
    (rest : List ProxyEvent) (host : ProxyShared) :
    ProxyShared × Except ProxyError (Option ProxyEvent) → Prop where
  | event (event : ProxyEvent) (later : List ProxyEvent) (next : ProxyShared) :
      rest = event :: later → HostSide route (k + 1) later next none →
      host.rpc.awaiting = eventFrame route (k + 1) event :: next.rpc.awaiting →
      next.rpc.transport.closed = host.rpc.transport.closed →
      next.rpc.responses = host.rpc.responses →
      HostPolled accepts route k rest host (next, .ok (some event))
  | nothing : host.rpc.awaiting = [] → HostPolled accepts route k rest host (host, .ok none)
  | refused (error : ProxyError) (next : ProxyShared) :
      next.failed = true → error.External →
      (host.rpc.transport.closed = true ∨ ∃ frame ∈ host.rpc.awaiting, ¬ Decodes accepts frame) →
      HostPolled accepts route k rest host (next, .error error)

/-- What a turn of the Host's call may do; the events stay as they are. -/
inductive HostReceived (route : ProxyRoute) (k : Nat) (rest : List ProxyEvent)
    (host : ProxyShared) (request : ClientFrame) :
    ProxyShared × Option (Except ProxyError Unit) → Prop where
  | waiting (next : ProxyShared) :
      HostSide route k rest next (some request) → next.rpc.awaiting = host.rpc.awaiting →
      next.rpc.responses = host.rpc.responses →
      next.rpc.transport.closed = host.rpc.transport.closed →
      HostReceived route k rest host request (next, none)
  | answered (next : ProxyShared) :
      HostSide route k rest next none → next.rpc.awaiting = host.rpc.awaiting →
      (∃ response, host.rpc.responses = [response]) → next.rpc.responses = [] →
      next.rpc.transport.closed = host.rpc.transport.closed →
      HostReceived route k rest host request (next, some (.ok ()))
  | refused (next : ProxyShared) (error : ProxyError) :
      next.failed = true → error.External →
      HostReceived route k rest host request (next, some (.error error))

namespace HostSide

variable {accepts : ServerFrame → Bool} {route : ProxyRoute} {k : Nat} {rest : List ProxyEvent}
  {host : ProxyShared} {call : Option ClientFrame}

theorem responses_of_no_call (h : HostSide route k rest host none) : host.rpc.responses = [] := by
  rcases h.answers with hnil | ⟨_, _, hcall, _⟩
  · exact hnil
  · cases hcall

/-- The first waiting event is the next one to deliver. -/
theorem head_event {frame : ServerFrame} {frames : List ServerFrame}
    (h : HostSide route k rest host call) (hawait : host.rpc.awaiting = frame :: frames) :
    ∃ event later, rest = event :: later ∧ frame = eventFrame route (k + 1) event ∧
      frames <+: numbered route (k + 1) later := by
  have hevents := h.events
  rw [hawait] at hevents
  cases rest with
  | nil => simp [numbered] at hevents
  | cons event later =>
    rw [numbered, cons_prefix_cons] at hevents
    exact ⟨event, later, rfl, hevents.1, hevents.2⟩

theorem poll_spec (h : HostSide route k rest host none) :
    HostPolled accepts route k rest host (host.tryRecv accepts) := by
  have hresponses := h.responses_of_no_call
  have hpoll := @tryEvent_spec host.rpc accepts h.live hresponses
  have hrunning : ¬ host.failed = true := by simp [h.running]
  unfold ProxyShared.tryRecv
  rw [if_neg hrunning]
  generalize host.rpc.tryEvent accepts = polled at hpoll
  cases hpoll with
  | nothing hawait _ => exact .nothing hawait
  | refused error next hfailed hrefuses =>
    refine .refused error _ rfl hrefuses.external ?_
    rcases hrefuses with ⟨_, hclosed⟩ | ⟨_, frame, hmem, haccepts⟩
    · exact .inl hclosed
    · refine .inr ⟨frame, ?_, fun hdecodes => ?_⟩
      · simpa [hresponses] using hmem
      · simp [hdecodes.1] at haccepts
  | event frame next hlive hawait hkept hclosed =>
    obtain ⟨event, later, rfl, rfl, hlater⟩ := h.head_event hawait
    rcases mapEvent_eventFrame route k event with hmap | hmap
    · have hnext : checkedAdd host.lastEventSequence 1 = some (k + 1) := by
        have hbound := h.bound
        rw [h.last_eq, checkedAdd_eq_some]
        simp only [length_cons] at hbound
        omega
      simp only [hmap, h.route_eq, ne_eq, not_true_eq_false, if_false, hnext]
      rw [if_neg (by simp [eventFrame])]
      refine .event event later _ rfl ?_ hawait hclosed hkept
      exact {
        route_eq := rfl
        last_eq := rfl
        running := h.running
        live := hlive
        events := hlater
        answers := .inl (hkept.trans hresponses)
        bound := by
          have hbound := h.bound
          simp only [length_cons] at hbound
          omega }
    · simp only [hmap]
      refine .refused _ _ rfl (.inr (.inl rfl)) (.inr ⟨_, ?_, fun hdecodes => hdecodes.2 hmap⟩)
      rw [hawait]
      exact mem_cons_self

/-- A clear turn of the Host's call fails only for a reason of its own. -/
theorem receive_spec {request : ClientFrame} (h : HostSide route k rest host (some request))
    (hclear : host.rpc.Clear) :
    HostReceived route k rest host request (host.receive accepts request) := by
  have hreceive := @callReceive_spec host.rpc accepts request h.live hclear
  unfold ProxyShared.receive
  generalize host.rpc.callReceive accepts request = received at hreceive
  cases hreceive with
  | waiting next hlive hawait hkept hclosed =>
    apply HostReceived.waiting
    · exact { h with live := hlive, events := hawait ▸ h.events, answers := hkept ▸ h.answers }
    · exact hawait
    · exact hkept
    · exact hclosed
  | refused error next hfailed hrefuses =>
    exact .refused _ error rfl hrefuses.external
  | stale response next hfailed hmem hmismatch =>
    rcases h.answers with hnil | ⟨_, answer, hcall, hone, hanswers⟩
    · simp [hnil] at hmem
    · cases hcall
      obtain rfl : response = answer := by simpa [hone] using hmem
      exact absurd hmismatch (by simp [hanswers.requestId, hanswers.sequence])
  | answered response next hlive hawait hresponses hclosed =>
    rcases h.answers with hnil | ⟨_, answer, hcall, hone, hanswers⟩
    · simp [hnil] at hresponses
    · cases hcall
      obtain ⟨rfl, hnone⟩ : answer = response ∧ [] = next.responses := by
        simpa [hone] using hresponses
      dsimp only
      cases hread : readAnswer request answer with
      | error error => exact .refused _ error rfl (hanswers.read error hread)
      | ok =>
        apply HostReceived.answered
        · exact { h with live := hlive, events := hawait ▸ h.events, answers := .inl hnone.symm }
        · exact hawait
        · exact ⟨answer, hone⟩
        · exact hnone.symm
        · exact hclosed

end HostSide

/-! ## The whole chain -/

/-- Where the current call stands: the Host's call, the request on its way to the
broker, the broker's call, the request on its way to the Helper, and the answers
on the two hops. -/
inductive Calls (route : ProxyRoute) :
    Option ClientFrame → List ClientFrame → Option ClientFrame → List ClientFrame →
      List ServerFrame → List ServerFrame → Prop where
  | idle : Calls route none [] none [] [] []
  | asked (request : ClientFrame) : request.route = route →
      Calls route (some request) [request] none [] [] []
  | forwarded (request : ClientFrame) : request.route = route →
      Calls route (some request) [] (some request) [request] [] []
  | served (request : ClientFrame) (response : ServerFrame) : request.route = route →
      Answers request response → responseRoute response = some request.route →
      Calls route (some request) [] (some request) [] [response] []
  | answered (request : ClientFrame) (response : ServerFrame) : Answers request response →
      Calls route (some request) [] none [] [] [response]

namespace Calls

variable {route : ProxyRoute} {hostCall brokerCall : Option ClientFrame}
  {toBroker toHelper rest : List ClientFrame} {brokerResponses hostResponses : List ServerFrame}
  {request : ClientFrame}

theorem at_helper
    (h : Calls route hostCall toBroker brokerCall (request :: rest) brokerResponses hostResponses) :
    rest = [] ∧ hostCall = some request ∧ toBroker = [] ∧ brokerCall = some request ∧
      brokerResponses = [] ∧ hostResponses = [] ∧ request.route = route := by
  cases h with
  | forwarded _ hroute => exact ⟨rfl, rfl, rfl, rfl, rfl, rfl, hroute⟩

theorem at_broker
    (h : Calls route hostCall (request :: rest) brokerCall toHelper brokerResponses hostResponses) :
    rest = [] ∧ hostCall = some request ∧ brokerCall = none ∧ toHelper = [] ∧
      brokerResponses = [] ∧ hostResponses = [] ∧ request.route = route := by
  cases h with
  | asked _ hroute => exact ⟨rfl, rfl, rfl, rfl, rfl, rfl, hroute⟩

theorem in_broker_call
    (h : Calls route hostCall toBroker (some request) toHelper brokerResponses hostResponses) :
    hostCall = some request ∧ toBroker = [] ∧ hostResponses = [] ∧ request.route = route ∧
      (brokerResponses = [] ∨
        ∃ response, toHelper = [] ∧ brokerResponses = [response] ∧ Answers request response ∧
          responseRoute response = some request.route) := by
  cases h with
  | forwarded _ hroute => exact ⟨rfl, rfl, rfl, hroute, .inl rfl⟩
  | served _ response hroute hanswers hresponse =>
    exact ⟨rfl, rfl, rfl, hroute, .inr ⟨response, rfl, rfl, hanswers, hresponse⟩⟩

theorem no_broker_call
    (h : Calls route hostCall toBroker none toHelper brokerResponses hostResponses) :
    toHelper = [] ∧ brokerResponses = [] := by
  cases h <;> exact ⟨rfl, rfl⟩

theorem no_host_call
    (h : Calls route none toBroker brokerCall toHelper brokerResponses hostResponses) :
    toBroker = [] ∧ brokerCall = none ∧ toHelper = [] ∧ brokerResponses = [] ∧
      hostResponses = [] := by
  cases h
  exact ⟨rfl, rfl, rfl, rfl, rfl⟩

theorem host_answered {response : ServerFrame}
    (h : Calls route hostCall toBroker brokerCall toHelper brokerResponses
      (response :: hostResponses)) :
    toBroker = [] ∧ brokerCall = none ∧ toHelper = [] ∧ brokerResponses = [] := by
  cases h
  exact ⟨rfl, rfl, rfl, rfl⟩

end Calls

/-- The chain while nothing has failed: `k` events have been delivered and `rest`
is on the way, first what the Host's end holds and then what the broker's does. -/
structure Healthy (route : ProxyRoute) (k : Nat) (rest : List ProxyEvent) (s : Chain) :
    Prop where
  host : HostSide route k rest s.host s.hostCall
  order : numbered route k rest = s.host.rpc.awaiting ++ s.broker.awaiting
  next : s.helper.nextEventSequence = k + rest.length + 1
  gate : ∀ current, s.helper.route = some current → current = route
  lease : ∀ current, s.activeLease = some current → current = route
  brokerLive : s.broker.Live
  brokerOpen : s.broker.transport.closed = false
  hostOpen : s.host.rpc.transport.closed = false
  calls : Calls route s.hostCall s.toBroker s.brokerCall s.toHelper s.broker.responses
    s.host.rpc.responses

/-- The chain in general: once it has come apart, for a reason that its queues have
no part in, only the Host's end still counts. -/
def Linked (route : ProxyRoute) (k : Nat) (rest : List ProxyEvent) (s : Chain) : Prop :=
  match s.broken with
  | none => Healthy route k rest s
  | some failure =>
    failure.External ∧ (s.host.failed = false → HostSide route k rest s.host s.hostCall)

/-- What a step may do to the events. -/
inductive Advance (route : ProxyRoute) (k : Nat) (rest : List ProxyEvent) :
    Chain × ChainOutput → Prop where
  | silent (next : Chain) : Linked route k rest next → Advance route k rest (next, .silent)
  | nothing (next : Chain) : Linked route k rest next →
      Advance route k rest (next, .polled (.ok none))
  | failed (next : Chain) (error : ProxyError) : Linked route k rest next →
      next.broken.isSome → error ≠ .staleResponse → error ≠ .staleRoute →
      Advance route k rest (next, .polled (.error error))
  | emitted (next : Chain) (event : ProxyEvent) : Linked route k (rest ++ [event]) next →
      Advance route k rest (next, .emitted event)
  | delivered (next : Chain) (event : ProxyEvent) (later : List ProxyEvent) :
      rest = event :: later → Linked route (k + 1) later next →
      Advance route k rest (next, .polled (.ok (some event)))

section Linked

variable {accepts : ServerFrame → Bool} {route : ProxyRoute} {k : Nat} {rest : List ProxyEvent}
  {s : Chain} {failure : Failure} {frame : ServerFrame}

theorem linked_of_healthy (hbroken : s.broken = none) (h : Healthy route k rest s) :
    Linked route k rest s := by
  rw [Linked, hbroken]
  exact h

theorem linked_of_broken (hbroken : s.broken = some failure) (hexternal : failure.External)
    (h : s.host.failed = false → HostSide route k rest s.host s.hostCall) :
    Linked route k rest s := by
  rw [Linked, hbroken]
  exact ⟨hexternal, h⟩

theorem Linked.healthy (h : Linked route k rest s) (hbroken : s.broken = none) :
    Healthy route k rest s := by
  rwa [Linked, hbroken] at h

theorem Linked.external (h : Linked route k rest s) (hbroken : s.broken = some failure) :
    failure.External := by
  rw [Linked, hbroken] at h
  exact h.1

theorem Linked.host (h : Linked route k rest s) (hrunning : s.host.failed = false) :
    HostSide route k rest s.host s.hostCall := by
  cases hbroken : s.broken with
  | none => exact (h.healthy hbroken).host
  | some failure =>
    rw [Linked, hbroken] at h
    exact h.2 hrunning

/-- Closing the hop takes nothing from the Host that was sent to it. -/
theorem HostSide.close {host : ProxyShared} {call : Option ClientFrame}
    (h : HostSide route k rest host call) :
    HostSide route k rest { host with rpc.transport.closed := true } call :=
  { h with }

/-- Taking the chain down for a reason of its own keeps it linked. -/
theorem linked_tearDown (hbefore : ∀ earlier, s.broken = some earlier → earlier.External)
    (hexternal : failure.External)
    (h : s.host.failed = false → HostSide route k rest s.host s.hostCall) :
    Linked route k rest (s.tearDown failure) := by
  have hhost : (s.tearDown failure).host.failed = false →
      HostSide route k rest (s.tearDown failure).host (s.tearDown failure).hostCall :=
    fun hrunning => (h hrunning).close
  cases hbroken : s.broken with
  | none =>
    apply linked_of_broken _ hexternal hhost
    simp [Chain.tearDown, hbroken]
  | some earlier =>
    apply linked_of_broken _ (hbefore earlier hbroken) hhost
    simp [Chain.tearDown, hbroken]

theorem linked_tearDown_of_healthy (hbroken : s.broken = none) (hexternal : failure.External)
    (h : HostSide route k rest s.host s.hostCall) :
    Linked route k rest (s.tearDown failure) := by
  apply linked_tearDown _ hexternal (fun _ => h)
  intro earlier hearlier
  rw [hbroken] at hearlier
  cases hearlier

/-- The answer to the current call reaches the Host. -/
theorem HostSide.push_answer {host : ProxyShared} {request : ClientFrame}
    (h : HostSide route k rest host (some request)) (hnone : host.rpc.responses = [])
    (hanswers : Answers request frame) :
    HostSide route k rest { host with rpc := host.rpc.push frame } (some request) :=
  { h with
    events := by simpa [hanswers.answer] using h.events
    answers := .inr ⟨request, frame, rfl, by simp [hnone, hanswers.answer], hanswers⟩ }

/-- The next event on the way reaches the Host. -/
theorem HostSide.push_event {host : ProxyShared} {call : Option ClientFrame}
    {frames : List ServerFrame} (h : HostSide route k rest host call)
    (hevent : frame.isEvent = true)
    (horder : numbered route k rest = host.rpc.awaiting ++ frame :: frames) :
    HostSide route k rest { host with rpc := host.rpc.push frame } call :=
  { h with
    events := ⟨frames, by simp [hevent, horder]⟩
    answers := by simpa [hevent] using h.answers }

/-! ### The Helper's steps -/

theorem Healthy.helperServe (h : Healthy route k rest s) (hbroken : s.broken = none)
    (backend : Option PeerAnswer) : Linked route k rest (s.helperServe backend) := by
  unfold Chain.helperServe
  cases hrequests : s.toHelper with
  | nil => exact linked_of_healthy hbroken h
  | cons request others =>
    have hcalls := h.calls
    rw [hrequests] at hcalls
    obtain ⟨rfl, hhost, hto, hbroker, hone, hnone, hroute⟩ := hcalls.at_helper
    dsimp only
    split
    · next helper error hhandle =>
        exact linked_tearDown_of_healthy hbroken trivial h.host
    · next helper response hhandle =>
        obtain ⟨-, hnext, hgate, hanswers, hresponse⟩ := HelperProtocol.handle_ok hhandle
        apply linked_of_healthy
        · exact hbroken
        · exact {
            h with
            order := by simpa [Chain.sendToBroker, hanswers.answer] using h.order
            next := hnext.trans h.next
            gate := by
              intro current hcurrent
              rcases hgate with hgate | hgate
              · cases hgate.symm.trans hcurrent
              · cases hgate.symm.trans hcurrent
                exact hroute
            calls := by
              simp only [Chain.sendToBroker, responses_push, hhost, hto, hbroker,
                hone, hnone, hanswers.answer]
              exact .served request response hroute hanswers hresponse }

theorem Healthy.helperPoll (h : Healthy route k rest s) (hbroken : s.broken = none)
    (polled : Except HelperProtocolError (Option ProxyEvent)) :
    Advance route k rest (s.helperPoll polled) := by
  unfold Chain.helperPoll
  split
  · exact .silent _ (linked_tearDown_of_healthy hbroken trivial h.host)
  · next helper htry =>
      obtain rfl := HelperProtocol.tryEvent_none htry
      exact .silent _ (linked_of_healthy hbroken h)
  · next helper frame htry =>
      obtain ⟨event, current, rfl, hroute, rfl, hbound, rfl⟩ := HelperProtocol.tryEvent_ok htry
      obtain rfl := h.gate current hroute
      apply Advance.emitted
      apply linked_of_healthy
      · exact hbroken
      · have hlength : (rest ++ [event]).length = rest.length + 1 := by simp
        have hnext := h.next
        exact {
          h with
          host := {
            h.host with
            events := by
              rw [numbered_snoc]
              exact h.host.events.trans (prefix_append _ _)
            bound := by omega }
          order := by
            simp [Chain.sendToBroker, numbered_snoc, h.order, hnext]
          next := by
            simp only [Chain.sendToBroker]
            omega
          calls := by simpa [Chain.sendToBroker] using h.calls }

/-! ### The broker's steps -/

/-- The broker refuses a request: it sends an error and ends the session. -/
theorem Healthy.refuse (h : Healthy route k rest s) (hbroken : s.broken = none)
    {request : ClientFrame} (hcall : s.hostCall = some request)
    (hnone : s.host.rpc.responses = []) {s' : Chain} (hhost : s'.host = s.host)
    (hhostCall : s'.hostCall = s.hostCall) (hbroken' : s'.broken = s.broken)
    (hexternal : failure.External) :
    Linked route k rest
      ((s'.sendToHost (responseFrame request .error)).tearDown failure) := by
  apply linked_tearDown_of_healthy
  · exact hbroken'.trans hbroken
  · exact hexternal
  · have hside := h.host
    rw [hcall] at hside
    simpa [Chain.sendToHost, hhost, hhostCall, hcall] using
      hside.push_answer hnone (answers_error request)

theorem Healthy.brokerServe (h : Healthy route k rest s) (hbroken : s.broken = none)
    (refusal : Option BrokerProtocolError) : Linked route k rest (s.brokerServe refusal) := by
  unfold Chain.brokerServe
  split
  · exact linked_of_healthy hbroken h
  · exact linked_of_healthy hbroken h
  · next request others hbroker hrequests =>
      have hcalls := h.calls
      rw [hrequests] at hcalls
      obtain ⟨rfl, hcall, -, hto, hone, hnone, hroute⟩ := hcalls.at_broker
      have hside := h.host
      rw [hcall] at hside
      split
      · apply h.refuse hbroken hcall hnone <;> trivial
      split
      · apply h.refuse hbroken hcall hnone <;> trivial
      split
      · next hrenew =>
          have hanswers := answers_lease hrenew
          refine linked_of_healthy hbroken ?_
          exact {
            h with
            host := by simpa [Chain.sendToHost, hcall] using hside.push_answer hnone hanswers
            order := by simpa [Chain.sendToHost, hanswers.answer] using h.order
            calls := by
              simp only [Chain.sendToHost, responses_push, hcall, hbroker, hto,
                hone, hnone, hanswers.answer]
              exact .answered request _ hanswers }
      · refine linked_of_healthy hbroken ?_
        exact {
          h with
          calls := by
            simp only [hcall, hto, hone, hnone, nil_append]
            exact .forwarded request hroute }

theorem Healthy.brokerReceive (h : Healthy route k rest s) (hbroken : s.broken = none)
    (hclear : s.brokerCall.isSome → s.broker.Clear) :
    Linked route k rest (s.brokerReceive accepts) := by
  unfold Chain.brokerReceive
  cases hcall : s.brokerCall with
  | none => exact linked_of_healthy hbroken h
  | some request =>
    have hcalls := h.calls
    rw [hcall] at hcalls
    obtain ⟨hhost, hto, hnone, hroute, hresponses⟩ := hcalls.in_broker_call
    have hside := h.host
    rw [hhost] at hside
    have hreceive := @callReceive_spec s.broker accepts request h.brokerLive
      (hclear (by simp [hcall]))
    dsimp only
    generalize s.broker.callReceive accepts request = received at hreceive
    cases hreceive with
    | waiting next hlive hawait hkept hclosed =>
      dsimp only
      refine linked_of_healthy hbroken ?_
      exact {
        h with
        order := by rw [h.order, hawait]
        brokerLive := hlive
        brokerOpen := hclosed.trans h.brokerOpen
        calls := by rw [hkept]; exact hcalls }
    | refused error next hfailed hrefuses =>
      apply h.refuse hbroken hhost hnone
      · rfl
      · rfl
      · rfl
      · exact hrefuses.external
    | stale response next hfailed hmem hmismatch =>
      rcases hresponses with hnil | ⟨answer, _, hone, hanswers, _⟩
      · simp [hnil] at hmem
      · obtain rfl : response = answer := by simpa [hone] using hmem
        exact absurd hmismatch (by simp [hanswers.requestId, hanswers.sequence])
    | answered response next hlive hawait hkept hclosed =>
      rcases hresponses with hnil | ⟨answer, hhelper, hone, hanswers, hresponse⟩
      · simp [hnil] at hkept
      · obtain ⟨rfl, hnext⟩ : answer = response ∧ [] = next.responses := by
          simpa [hone] using hkept
        simp only [hresponse, ne_eq, not_true_eq_false, if_false]
        refine linked_of_healthy hbroken ?_
        exact {
          h with
          host := by
            simpa [Chain.sendToHost, hhost] using hside.push_answer hnone hanswers
          order := by
            simpa [Chain.sendToHost, hanswers.answer, hawait] using h.order
          lease := by
            intro current hcurrent
            simp only [Chain.sendToHost] at hcurrent
            split at hcurrent
            · cases hcurrent
            · exact h.lease current hcurrent
          brokerLive := hlive
          brokerOpen := hclosed.trans h.brokerOpen
          calls := by
            simp only [Chain.sendToHost, responses_push, hhost, hto, hhelper,
              ← hnext, hnone, hanswers.answer]
            exact .answered request _ hanswers }

theorem Healthy.brokerPoll (h : Healthy route k rest s) (hbroken : s.broken = none) :
    Linked route k rest (s.brokerPoll accepts) := by
  unfold Chain.brokerPoll
  cases hcall : s.brokerCall with
  | some request => exact linked_of_healthy hbroken h
  | none =>
    have hcalls := h.calls
    rw [hcall] at hcalls
    have hpoll := @tryEvent_spec s.broker accepts h.brokerLive
      hcalls.no_broker_call.2
    dsimp only
    generalize s.broker.tryEvent accepts = polled at hpoll
    cases hpoll with
    | nothing hawait hclosed => exact linked_of_healthy hbroken { h with calls := hcalls }
    | refused error next hfailed hrefuses =>
      exact linked_tearDown_of_healthy hbroken hrefuses.external h.host
    | event frame next hlive hawait hkept hclosed =>
      have horder : numbered route k rest = s.host.rpc.awaiting ++ frame :: next.awaiting := by
        rw [h.order, hawait]
      obtain ⟨n, event, rfl⟩ : ∃ n event, frame = eventFrame route n event := by
        apply mem_numbered
        rw [horder]
        simp
      dsimp only
      cases hlease : s.activeLease with
      | none => exact linked_tearDown_of_healthy hbroken trivial h.host
      | some current =>
        obtain rfl := h.lease current hlease
        simp only [responseRoute_eventFrame, ne_eq, not_true_eq_false, if_false]
        refine linked_of_healthy hbroken ?_
        exact {
          h with
          host := h.host.push_event (eventFrame_isEvent _ _ _) horder
          order := by simp [Chain.sendToHost, horder]
          lease := fun _ hcurrent => (Option.some.inj hcurrent).symm
          brokerLive := hlive
          brokerOpen := hclosed.trans h.brokerOpen
          calls := by simpa [Chain.sendToHost, hkept] using hcalls }

/-! ### The Host's steps -/

/-- A request joins the chain. -/
theorem startCall_ok {host next : ProxyShared} {command : Command} {request : ClientFrame}
    (h : host.startCall command = (next, .ok request)) :
    request.route = host.route ∧ host.failed = false ∧ host.rpc.transport.closed = false ∧
      ∃ n, next = { host with nextFrameSequence := n } := by
  unfold ProxyShared.startCall at h
  split at h
  · cases h
  · next hrunning =>
      split at h
      · cases h
      · next n _ =>
          split at h
          · cases h
          · next hopen =>
              cases h
              exact ⟨rfl, by simpa using hrunning, by simpa using hopen, n, rfl⟩

theorem startCall_error {host next : ProxyShared} {command : Command} {error : ProxyError}
    (h : host.startCall command = (next, .error error)) : next.failed = true := by
  unfold ProxyShared.startCall at h
  repeat' split at h
  all_goals cases h
  all_goals first | assumption | rfl

theorem Linked.startHostCall (h : Linked route k rest s) (command : Command) :
    Linked route k rest (s.startHostCall command) := by
  unfold Chain.startHostCall
  cases hcall : s.hostCall with
  | some request => exact h
  | none =>
    dsimp only
    split
    · next host error hstart =>
        apply linked_tearDown
        · exact fun earlier hearlier => h.external hearlier
        · trivial
        · intro hrunning
          rw [startCall_error hstart] at hrunning
          cases hrunning
    · next host request hstart =>
        obtain ⟨hroute, hrunning, hopen, n, rfl⟩ := startCall_ok hstart
        have hside := h.host hrunning
        rw [hcall] at hside
        have hside' : HostSide route k rest { s.host with nextFrameSequence := n }
            (some request) :=
          { hside with answers := .inl hside.responses_of_no_call }
        cases hbroken : s.broken with
        | some failure =>
          exact linked_of_broken rfl (h.external hbroken) (fun _ => hside')
        | none =>
          have hhealthy := h.healthy hbroken
          have hcalls := hhealthy.calls
          rw [hcall] at hcalls
          obtain ⟨hto, hbroker, hhelper, hone, hnone⟩ := hcalls.no_host_call
          refine linked_of_healthy rfl ?_
          exact {
            hhealthy with
            host := hside'
            calls := by
              simp only [hto, hbroker, hhelper, hone, hnone, nil_append]
              exact .asked request (hroute.trans hside.route_eq) }

theorem receive_failed {host : ProxyShared} {request : ClientFrame} (h : host.failed = true) :
    (host.receive accepts request).1.failed = true := by
  unfold ProxyShared.receive
  repeat' split
  all_goals first | exact h | rfl

/-- A proxy that has failed leaves the chain broken. -/
theorem Linked.broken_of_failed (h : Linked route k rest s) (hfailed : s.host.failed = true) :
    ∃ failure, s.broken = some failure := by
  cases hbroken : s.broken with
  | some failure => exact ⟨failure, rfl⟩
  | none =>
    have hrunning := (h.healthy hbroken).host.running
    rw [hfailed] at hrunning
    cases hrunning

/-- A proxy that fails takes the chain down. -/
theorem Linked.fail_host (h : Linked route k rest s) {host : ProxyShared}
    {call : Option ClientFrame}
    (hfailed : host.failed = true) (hexternal : failure.External) :
    Linked route k rest (({ s with host, hostCall := call } : Chain).tearDown failure) := by
  apply linked_tearDown
  · exact fun earlier hearlier => h.external hearlier
  · exact hexternal
  · intro hrunning
    cases hfailed.symm.trans hrunning

theorem Linked.hostReceive (h : Linked route k rest s)
    (hclear : s.hostCall.isSome → s.host.rpc.Clear) :
    Linked route k rest (s.hostReceive accepts) := by
  unfold Chain.hostReceive
  cases hcall : s.hostCall with
  | none => exact h
  | some request =>
    dsimp only
    by_cases hfailed : s.host.failed = true
    · obtain ⟨failure, hbroken⟩ := h.broken_of_failed hfailed
      have hnext := @receive_failed accepts s.host request hfailed
      have hexternal := h.external hbroken
      split
      all_goals next heq =>
        rw [heq] at hnext
        refine linked_of_broken ?_ hexternal ?_
        · simp [Chain.tearDown, hbroken]
        · intro hrunning
          cases hnext.symm.trans hrunning
    · have hside := h.host (by simpa using hfailed)
      rw [hcall] at hside
      have hreceive := @HostSide.receive_spec accepts route k rest s.host request hside
        (hclear (by simp [hcall]))
      generalize s.host.receive accepts request = received at hreceive
      cases hreceive with
      | refused next error hfailed hexternal => exact h.fail_host hfailed hexternal
      | waiting next hnext hawait hkept hclosed =>
        cases hbroken : s.broken with
        | some failure =>
          exact linked_of_broken rfl (h.external hbroken) (fun _ => hnext)
        | none =>
          have hhealthy := h.healthy hbroken
          refine linked_of_healthy rfl ?_
          exact {
            hhealthy with
            host := hnext
            order := by rw [hhealthy.order, hawait]
            hostOpen := hclosed.trans hhealthy.hostOpen
            calls := by
              rw [hkept, ← hcall]
              exact hhealthy.calls }
      | answered next hnext hawait hone hnone hclosed =>
        cases hbroken : s.broken with
        | some failure =>
          exact linked_of_broken rfl (h.external hbroken) (fun _ => hnext)
        | none =>
          have hhealthy := h.healthy hbroken
          obtain ⟨response, hone⟩ := hone
          have hcalls := hhealthy.calls
          rw [hone] at hcalls
          obtain ⟨hto, hbroker, hhelper, hbrokerNone⟩ := hcalls.host_answered
          refine linked_of_healthy rfl ?_
          exact {
            hhealthy with
            host := hnext
            order := by rw [hhealthy.order, hawait]
            hostOpen := hclosed.trans hhealthy.hostOpen
            calls := by
              simp only [hto, hbroker, hhelper, hbrokerNone, hnone]
              exact .idle }

theorem ProxyError.External.not_stale {error : ProxyError} (h : error.External) :
    error ≠ .staleResponse ∧ error ≠ .staleRoute := by
  rcases h with rfl | rfl | rfl <;> exact ⟨by decide, by decide⟩

theorem isSome_broken_tearDown (s : Chain) (failure : Failure) :
    (s.tearDown failure).broken.isSome := by
  cases hbroken : s.broken <;> simp [Chain.tearDown, hbroken]

theorem Linked.hostPoll (h : Linked route k rest s) :
    Advance route k rest (s.hostPoll accepts) := by
  unfold Chain.hostPoll
  cases hcall : s.hostCall with
  | some request => exact .silent _ h
  | none =>
    dsimp only
    by_cases hfailed : s.host.failed = true
    · obtain ⟨failure, hbroken⟩ := h.broken_of_failed hfailed
      simp only [ProxyShared.tryRecv, hfailed, if_true]
      refine .failed _ _ ?_ (isSome_broken_tearDown _ _) (by decide) (by decide)
      refine linked_of_broken ?_ (h.external hbroken) ?_
      · simp [Chain.tearDown, hbroken]
      · intro hrunning
        cases hfailed.symm.trans hrunning
    · have hside := h.host (by simpa using hfailed)
      rw [hcall] at hside
      have hpoll := @HostSide.poll_spec accepts route k rest s.host hside
      generalize s.host.tryRecv accepts = polled at hpoll
      cases hpoll with
      | refused error next hfailed hexternal hwhy =>
        refine .failed _ _ (h.fail_host hfailed hexternal) (isSome_broken_tearDown _ _) ?_ ?_
        · exact hexternal.not_stale.1
        · exact hexternal.not_stale.2
      | nothing hawait =>
        apply Advance.nothing
        rw [← hcall]
        exact h
      | event event later next hrest hnext hawait hclosed hkept =>
        refine .delivered _ event later hrest ?_
        cases hbroken : s.broken with
        | some failure =>
          exact linked_of_broken rfl (h.external hbroken) (fun _ => hnext)
        | none =>
          have hhealthy := h.healthy hbroken
          have horder := hhealthy.order
          have hcount := hhealthy.next
          subst hrest
          refine linked_of_healthy rfl ?_
          exact {
            hhealthy with
            host := hnext
            order := by simpa [numbered, hawait] using horder
            next := by
              simp only [length_cons] at hcount
              simp only [hcount]
              omega
            hostOpen := hclosed.trans hhealthy.hostOpen
            calls := by
              rw [hkept, ← hcall]
              exact hhealthy.calls }

/-- A step that lets its call receive in peace emits, delivers in order, or leaves
the events alone. -/
theorem Linked.step (h : Linked route k rest s) {input : ChainInput}
    (hclear : s.CallsClear input) : Advance route k rest (s.step accepts input) := by
  cases hbroken : s.broken with
  | some failure =>
    cases input with
    | hostCall command => exact .silent _ (h.startHostCall command)
    | hostReceive => exact .silent _ (h.hostReceive hclear)
    | hostPoll => exact h.hostPoll
    | disconnect =>
      apply Advance.silent
      apply linked_tearDown
      · exact fun earlier hearlier => h.external hearlier
      · trivial
      · exact fun hrunning => h.host hrunning
    | _ =>
      simp only [Chain.step, hbroken, Option.isSome_some, if_true]
      exact .silent _ h
  | none =>
    have hhealthy := h.healthy hbroken
    have hwhole : ¬ s.broken.isSome = true := by simp [hbroken]
    cases input with
    | helperServe backend =>
      simp only [Chain.step, if_neg hwhole]
      exact .silent _ (hhealthy.helperServe hbroken backend)
    | helperPoll polled =>
      simp only [Chain.step, if_neg hwhole]
      exact hhealthy.helperPoll hbroken polled
    | brokerServe refusal =>
      simp only [Chain.step, if_neg hwhole]
      exact .silent _ (hhealthy.brokerServe hbroken refusal)
    | brokerReceive =>
      simp only [Chain.step, if_neg hwhole]
      exact .silent _ (hhealthy.brokerReceive hbroken hclear)
    | brokerPoll =>
      simp only [Chain.step, if_neg hwhole]
      exact .silent _ (hhealthy.brokerPoll hbroken)
    | hostCall command => exact .silent _ (h.startHostCall command)
    | hostReceive => exact .silent _ (h.hostReceive hclear)
    | hostPoll => exact h.hostPoll
    | disconnect =>
      exact .silent _ (linked_tearDown_of_healthy hbroken trivial hhealthy.host)

/-! ### Whole runs -/

/-- The chain stays linked, whatever has been emitted and delivered. -/
theorem Advance.linked {result : Chain × ChainOutput} (h : Advance route k rest result) :
    ∃ k rest, Linked route k rest result.1 := by
  cases h with
  | silent _ hnext | nothing _ hnext | failed _ _ hnext | emitted _ _ hnext
  | delivered _ _ _ _ hnext => exact ⟨_, _, hnext⟩

/-- The events of a run so far: what was emitted is what was delivered followed by
what the chain still carries. -/
def Followed (route : ProxyRoute) (past : List (Occurrence Chain ChainInput ChainOutput))
    (s : Chain) : Prop :=
  ∃ rest, Chain.emitted past = Chain.delivered past ++ rest ∧
    Linked route (Chain.delivered past).length rest s

variable (past later : List (Occurrence Chain ChainInput ChainOutput))

theorem emitted_append :
    Chain.emitted (past ++ later) = Chain.emitted past ++ Chain.emitted later :=
  filterMap_append

theorem delivered_append :
    Chain.delivered (past ++ later) = Chain.delivered past ++ Chain.delivered later :=
  filterMap_append

theorem Followed.step {past : List (Occurrence Chain ChainInput ChainOutput)}
    (h : Followed route past s) {input : ChainInput} (hclear : s.CallsClear input) :
    Followed route (past ++ [(Chain.machine accepts).occurrence s input])
      ((Chain.machine accepts).step s input).1 := by
  obtain ⟨rest, hsplit, hlinked⟩ := h
  have hstep := @Linked.step accepts route _ rest s hlinked input hclear
  have hoccurrence : (Chain.machine accepts).occurrence s input =
      { before := s, input := input, output := (s.step accepts input).2,
        after := (s.step accepts input).1 } := rfl
  have hmachine : ((Chain.machine accepts).step s input).1 = (s.step accepts input).1 := rfl
  unfold Followed
  rw [hoccurrence, hmachine, emitted_append, delivered_append, hsplit]
  generalize s.step accepts input = result at hstep
  cases hstep with
  | silent next hnext | nothing next hnext | failed next _ hnext =>
    refine ⟨rest, ?_, ?_⟩
    · simp [Chain.emitted, Chain.delivered]
    · simpa [Chain.delivered] using hnext
  | emitted next event hnext =>
    refine ⟨rest ++ [event], ?_, ?_⟩
    · simp [Chain.emitted, Chain.delivered]
    · simpa [Chain.delivered] using hnext
  | delivered next event later hrest hnext =>
    subst hrest
    refine ⟨later, ?_, ?_⟩
    · simp [Chain.emitted, Chain.delivered]
    · simpa [Chain.delivered] using hnext

/-- A Host that has just connected is linked to its Helper. -/
theorem linked_connected (route : ProxyRoute) (n : Nat) :
    Linked route 0 [] (Chain.connected route n) := by
  refine linked_of_healthy rfl ?_
  exact {
    host := {
      route_eq := rfl
      last_eq := rfl
      running := rfl
      live := ⟨rfl, rfl⟩
      events := nil_prefix
      answers := .inl rfl
      bound := by decide }
    order := rfl
    next := rfl
    gate := by
      intro current hcurrent
      cases hcurrent
    lease := fun current hcurrent => (Option.some.inj hcurrent).symm
    brokerLive := ⟨rfl, rfl⟩
    brokerOpen := rfl
    hostOpen := rfl
    calls := .idle }

/-! ### Draining the chain -/

/-- `n` rounds of a poll of the broker followed by a poll of the Host. -/
def pollRounds : Nat → List ChainInput
  | 0 => []
  | n + 1 => .brokerPoll :: .hostPoll :: pollRounds n

/-- The chain is whole, no call is under way, the lease is still held and every
event on the way can be decoded. -/
structure Ready (accepts : ServerFrame → Bool) (route : ProxyRoute) (k : Nat)
    (rest : List ProxyEvent) (s : Chain) : Prop where
  healthy : Healthy route k rest s
  whole : s.broken = none
  noCall : s.hostCall = none
  held : s.activeLease = some route
  decodes : ∀ frame ∈ numbered route k rest, Decodes accepts frame

/-- A poll of the broker leaves an event at the Host's end if there is one at all. -/
theorem Ready.brokerPoll (h : Ready accepts route k rest s) :
    Ready accepts route k rest (s.brokerPoll accepts) ∧
      ((s.brokerPoll accepts).host.rpc.awaiting = [] → rest = []) := by
  have hcalls := h.healthy.calls
  rw [h.noCall] at hcalls
  obtain ⟨-, hbroker, -, hnone, -⟩ := hcalls.no_host_call
  have hlinked := @Healthy.brokerPoll accepts route k rest s h.healthy h.whole
  have hpoll := @tryEvent_spec s.broker accepts h.healthy.brokerLive hnone
  revert hlinked
  simp only [Chain.brokerPoll, hbroker]
  generalize s.broker.tryEvent accepts = polled at hpoll
  cases hpoll with
  | nothing hawait hclosed =>
    intro hlinked
    refine ⟨⟨hlinked.healthy h.whole, h.whole, h.noCall, h.held, h.decodes⟩, ?_⟩
    intro hempty
    have horder := h.healthy.order
    rw [hempty, hawait] at horder
    cases rest with
    | nil => rfl
    | cons event later => cases horder
  | refused error next hfailed hrefuses =>
    exfalso
    rcases hrefuses with ⟨_, hclosed⟩ | ⟨_, frame, hmem, haccepts⟩
    · rw [h.healthy.brokerOpen] at hclosed
      cases hclosed
    · have hframe : frame ∈ s.broker.awaiting := by simpa [hnone] using hmem
      have hdecodes := h.decodes frame (by rw [h.healthy.order]; simp [hframe])
      rw [hdecodes.1] at haccepts
      cases haccepts
  | event frame next hlive hawait hkept hclosed =>
    have hmem : frame ∈ numbered route k rest := by
      rw [h.healthy.order, hawait]
      simp
    obtain ⟨n, event, rfl⟩ := mem_numbered hmem
    simp only [h.held, responseRoute_eventFrame, ne_eq, not_true_eq_false, if_false]
    intro hlinked
    refine ⟨⟨hlinked.healthy h.whole, h.whole, h.noCall, rfl, h.decodes⟩, ?_⟩
    simp [Chain.sendToHost]

/-- A poll of the Host delivers the next event if one has arrived. -/
theorem Ready.hostPoll (h : Ready accepts route k rest s)
    (harrived : s.host.rpc.awaiting = [] → rest = []) :
    (rest = [] ∧ (s.hostPoll accepts).2 = .polled (.ok none) ∧
        Ready accepts route k rest (s.hostPoll accepts).1) ∨
      ∃ event later, rest = event :: later ∧
        (s.hostPoll accepts).2 = .polled (.ok (some event)) ∧
        Ready accepts route (k + 1) later (s.hostPoll accepts).1 := by
  have hside := h.healthy.host
  rw [h.noCall] at hside
  have hadvance := @Linked.hostPoll accepts route k rest s (linked_of_healthy h.whole h.healthy)
  have hpoll := @HostSide.poll_spec accepts route k rest s.host hside
  revert hadvance
  simp only [Chain.hostPoll, h.noCall]
  generalize s.host.tryRecv accepts = polled at hpoll
  cases hpoll with
  | nothing hawait =>
    intro _
    refine .inl ⟨harrived hawait, rfl, ⟨?_, h.whole, rfl, h.held, h.decodes⟩⟩
    have hhealthy := h.healthy
    rw [← h.noCall]
    exact hhealthy
  | refused error next hfailed hexternal hwhy =>
    exfalso
    rcases hwhy with hclosed | ⟨frame, hmem, hnot⟩
    · rw [h.healthy.hostOpen] at hclosed
      cases hclosed
    · apply hnot
      apply h.decodes
      rw [h.healthy.order]
      exact mem_append_left _ hmem
  | event event later next hrest hnext hawait hclosed hkept =>
    intro hadvance
    subst hrest
    refine .inr ⟨event, later, rfl, rfl, ⟨?_, h.whole, rfl, h.held, ?_⟩⟩
    · cases hadvance with
      | delivered _ _ later' heq hlinked =>
        cases heq
        exact hlinked.healthy h.whole
    · intro frame hmem
      apply h.decodes
      rw [numbered]
      exact mem_cons_of_mem _ hmem

/-- Enough rounds of polls deliver everything that is on the way. -/
theorem Ready.drain {n : Nat} (h : Ready accepts route k rest s) (hn : rest.length ≤ n) :
    Chain.delivered ((Chain.machine accepts).trace s (pollRounds n)) = rest := by
  induction n generalizing k rest s with
  | zero =>
    obtain rfl : rest = [] := length_eq_zero_iff.mp (by omega)
    rfl
  | succ n ih =>
    obtain ⟨hready, harrived⟩ := h.brokerPoll
    have hwhole : ¬ s.broken.isSome = true := by simp [h.whole]
    have hbroker : (Chain.machine accepts).step s .brokerPoll =
        (s.brokerPoll accepts, .silent) := by
      simp [Chain.machine, Chain.step, if_neg hwhole]
    have hhost : (Chain.machine accepts).step (s.brokerPoll accepts) .hostPoll =
        (s.brokerPoll accepts).hostPoll accepts := rfl
    simp only [pollRounds, Machine.trace_cons, Chain.delivered, filterMap_cons,
      Machine.occurrence_output, hbroker, hhost]
    rcases hready.hostPoll harrived with ⟨rfl, hout, hnext⟩ | ⟨event, later, rfl, hout, hnext⟩
    · rw [hout]
      exact ih hnext (by simp)
    · rw [hout]
      simp only [length_cons] at hn
      exact congrArg (event :: ·) (ih hnext (by omega))

end Linked

/-- The event path.  In a run whose calls receive an event only while the pointer
slot of their hop is free (and, for a critical event, while the queue has room):
the chain never comes apart because of its queues; no poll of the Host fails for a
number or a route, and one that fails finds the chain down; the events delivered,
and the critical ones among them, are the first of those emitted, each once and in
order; and from a state with no call under way, a held lease and decodable events,
polling delivers all that was emitted. -/
theorem event_delivery {accepts : ServerFrame → Bool} {route : ProxyRoute} {n : Nat}
    {inputs : List ChainInput}
    (hclear : (Chain.machine accepts).Guarded Chain.CallsClear (.connected route n) inputs) :
    (∀ o ∈ (Chain.machine accepts).trace (.connected route n) inputs,
      ∀ failure, o.after.broken = some failure → failure.External) ∧
    (∀ o ∈ (Chain.machine accepts).trace (.connected route n) inputs,
      ∀ error, o.output = .polled (.error error) →
        error ≠ .staleResponse ∧ error ≠ .staleRoute ∧ o.after.broken.isSome) ∧
    Chain.delivered ((Chain.machine accepts).trace (.connected route n) inputs) <+:
      Chain.emitted ((Chain.machine accepts).trace (.connected route n) inputs) ∧
    (Chain.delivered ((Chain.machine accepts).trace (.connected route n) inputs)).filter
        (·.isCritical) <+:
      (Chain.emitted ((Chain.machine accepts).trace (.connected route n) inputs)).filter
        (·.isCritical) ∧
    (((Chain.machine accepts).run (.connected route n) inputs).broken = none →
      ((Chain.machine accepts).run (.connected route n) inputs).hostCall = none →
      ((Chain.machine accepts).run (.connected route n) inputs).activeLease = some route →
      (∀ frame ∈ ((Chain.machine accepts).run (.connected route n) inputs).host.rpc.awaiting ++
        ((Chain.machine accepts).run (.connected route n) inputs).broker.awaiting,
        Decodes accepts frame) →
      ∀ rounds,
        (Chain.emitted ((Chain.machine accepts).trace (.connected route n) inputs)).length ≤
          (Chain.delivered ((Chain.machine accepts).trace (.connected route n) inputs)).length +
            rounds →
        Chain.delivered
            ((Chain.machine accepts).trace (.connected route n) (inputs ++ pollRounds rounds)) =
          Chain.emitted ((Chain.machine accepts).trace (.connected route n) inputs)) := by
  have hkeeps : ∀ s input, (∃ k rest, Linked route k rest s) → s.CallsClear input →
      ∃ k rest, Linked route k rest ((Chain.machine accepts).step s input).1 := by
    rintro s input ⟨k, rest, hlinked⟩ hinput
    exact (@Linked.step accepts route k rest s hlinked input hinput).linked
  have hinit : ∃ k rest, Linked route k rest (.connected route n) :=
    ⟨0, [], linked_connected route n⟩
  have hfollowed : Followed route ((Chain.machine accepts).trace (.connected route n) inputs)
      ((Chain.machine accepts).run (.connected route n) inputs) := by
    have hwhole := Machine.history_invariant (Followed route)
      (fun past s input hpast hinput => hpast.step hinput) []
      ⟨[], rfl, linked_connected route n⟩ hclear
    simpa using hwhole
  obtain ⟨rest, hsplit, hlinked⟩ := hfollowed
  refine ⟨?_, ?_, ⟨rest, hsplit.symm⟩, IsPrefix.filter _ ⟨rest, hsplit.symm⟩, ?_⟩
  · intro o ho failure hbroken
    obtain ⟨-, -, ⟨k, rest, hafter⟩, -⟩ := Machine.trace_invariant _ hkeeps hinit hclear ho
    exact hafter.external hbroken
  · intro o ho error hout
    obtain ⟨⟨k, rest, hbefore⟩, hinput, -, heq⟩ :=
      Machine.trace_invariant _ hkeeps hinit hclear ho
    have hstep := @Linked.step accepts route k rest o.before hbefore o.input hinput
    have houtput : o.output = (o.before.step accepts o.input).2 := congrArg (·.output) heq
    have hafter : o.after = (o.before.step accepts o.input).1 := congrArg (·.after) heq
    rw [hout] at houtput
    rw [hafter]
    generalize o.before.step accepts o.input = result at hstep houtput
    cases hstep with
    | failed next error' hnext hbroken hresponse hroute =>
      cases houtput
      exact ⟨hresponse, hroute, hbroken⟩
    | _ => cases houtput
  · intro hwhole hcall hlease hdecodes rounds hrounds
    have hhealthy := hlinked.healthy hwhole
    have hready : Ready accepts route _ rest
        ((Chain.machine accepts).run (.connected route n) inputs) :=
      ⟨hhealthy, hwhole, hcall, hlease, by rw [hhealthy.order]; exact hdecodes⟩
    have hlength : rest.length ≤ rounds := by
      rw [hsplit, length_append] at hrounds
      omega
    rw [Machine.trace_append, delivered_append, hready.drain hlength, hsplit]

/-- A lease of the third desktop generation. -/
def sampleRoute : ProxyRoute := { leaseId := Vector.replicate 16 7, generation := 3 }

/-- An answer of the privileged peer. -/
def sampleAnswer : PeerAnswer := { sdp := "v=0", dtlsFingerprintSha256 := replicate 32 1 }

/-- The Host starts the peer and has its answer. -/
def startedInputs : List ChainInput :=
  [.hostCall .startPeer, .brokerServe none, .helperServe (some sampleAnswer), .brokerReceive,
    .hostReceive]

/-- Two events reach the Host while an input command of its own is under way. -/
def duringCall (first second : ProxyEvent) : List ChainInput :=
  [.hostCall .inputCommand, .helperPoll (.ok (some first)), .helperPoll (.ok (some second)),
    .brokerPoll, .brokerPoll, .brokerServe none, .helperServe (some sampleAnswer),
    .brokerReceive, .hostReceive, .hostReceive, .hostReceive]

theorem event_delivery_sample :
    (Chain.machine (fun _ => true)).Guarded Chain.CallsClear (.connected sampleRoute 3)
      (startedInputs ++ duringCall (.reliableInput [1]) (.fastPointer [2])) ∧
    Chain.delivered ((Chain.machine (fun _ => true)).trace (.connected sampleRoute 3)
      (startedInputs ++ duringCall (.reliableInput [1]) (.fastPointer [2]) ++ pollRounds 2)) =
      [.reliableInput [1], .fastPointer [2]] := by
  have hclear : (Chain.machine (fun _ => true)).Guarded Chain.CallsClear (.connected sampleRoute 3)
      (startedInputs ++ duringCall (.reliableInput [1]) (.fastPointer [2])) := by
    decide +kernel
  have hdrain := (event_delivery hclear).2.2.2.2 (by decide +kernel) (by decide +kernel)
    (by decide +kernel) (by decide +kernel) 2 (by decide +kernel)
  refine ⟨hclear, hdrain.trans ?_⟩
  decide +kernel

/-- A pointer event that waits while a call receives another event is overtaken by
a critical event or replaced by a pointer event.  Either way the next poll meets a
number it does not expect and fails closed, and the critical event is lost. -/
theorem pointer_overtaken :
    (Chain.emitted ((Chain.machine (fun _ => true)).trace (.connected sampleRoute 3)
        (startedInputs ++ duringCall (.fastPointer [1]) (.reliableInput [2]) ++ [.hostPoll])) =
      [.fastPointer [1], .reliableInput [2]] ∧
    Chain.delivered ((Chain.machine (fun _ => true)).trace (.connected sampleRoute 3)
        (startedInputs ++ duringCall (.fastPointer [1]) (.reliableInput [2]) ++ [.hostPoll])) =
      [] ∧
    ((Chain.machine (fun _ => true)).run (.connected sampleRoute 3)
        (startedInputs ++ duringCall (.fastPointer [1]) (.reliableInput [2]) ++
          [.hostPoll])).broken = some (.host .staleResponse)) ∧
    ((Chain.machine (fun _ => true)).run (.connected sampleRoute 3)
        (startedInputs ++ duringCall (.fastPointer [1]) (.fastPointer [2]) ++
          [.hostPoll])).broken = some (.host .staleResponse) := by
  refine ⟨⟨?_, ?_, ?_⟩, ?_⟩ <;> decide +kernel

end Bridge

end Roammand
