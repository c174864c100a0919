import Mathlib.Data.List.Nodup
import Mathlib.Logic.Function.Basic
import Roammand.Library.Run
import Roammand.Library.Bytes
import Roammand.Protocol.Messages
import Roammand.Protocol.Signaling

/-!
# The link to the signaling service

A controller keeps one connection to the signaling service.  Opening a connection, recovering it
and closing it are asynchronous, and each may be overtaken by another before it ends; every
connection therefore has a generation, and what comes back late is told by it.

An operation stands at a point where it awaits something, and is resumed with what has come back.
What is received is handed to a stream, which delivers it to the owner a little later.

Main results:

- Definition `SignalingLink.step`: what the owner calls, what the connections return and what the
  stream delivers.
- Theorem `SignalingLink.link_generations`: what is handed over comes from the connection of the
  present generation, and every other connection is closed.
-/

namespace Roammand

namespace Client

open Library Protocol Function List Option

/-! ## The link -/

/-- The errors of the client. -/
inductive SignalingClientErrorCode where
  | invalidDeviceId
  | invalidRequestId
  | invalidState
  | correlationMismatch
  | frameTooLarge
  | opaqueEnvelopeTooLarge
  | invalidFrame
  | protocolUnsupported
  | unexpectedPayload
  | invalidErrorCode
  | invalidQueueCapacity
  | queueFull
  | invalidEndpoint
  | insecureEndpoint
  | endpointCredentials
  | timeout
  | transport
  | subprotocolRequired
  | closed
  deriving DecidableEq

/-- What the owner is told: an envelope, an error of the service or one of the client. -/
inductive Delivery where
  | routedSession (senderDeviceId opaqueEnvelope : Bytes)
  | remoteError (code : ErrorCode) (retryable : Bool)
  | clientError (code : SignalingClientErrorCode)
  deriving DecidableEq

/-- The delivery is a failure. -/
def Delivery.isFailure : Delivery → Bool
  | .routedSession _ _ => false
  | .remoteError _ _ | .clientError _ => true

/-- A delivery, with the generation and the connection that it comes from. -/
structure Handed where
  generation : Nat
  transport : Nat
  delivery : Delivery
  deriving DecidableEq

/-- What the stream holds. -/
inductive StreamItem where
  | item (handed : Handed)
  | done

/-- The item of a stream, unless it is its end. -/
def StreamItem.handed? : StreamItem → Option Handed
  | .item handed => some handed
  | .done => none

/-- The operations of the owner that await something. -/
inductive LinkOperation where
  | connect
  | recover
  | close

/-- What follows the end of `_resetTransport`. -/
inductive AfterReset where
  | openTransport
  | rethrow
  | finish
  | closeStream

/-- Where an operation awaits something. -/
inductive LinkPoint where
  | closing (receiveTask : Option Nat) (after : AfterReset)
  | awaitingReceiveTask (after : AfterReset)
  | reset (after : AfterReset)
  | connecting (generation : Nat)
  | closingLate
  | registering (generation transport : Nat)
  | opened (success : Bool)
  | awaitingRecovery
  | closingStream

/-- An operation that has not ended. -/
structure LinkProcess where
  operation : LinkOperation
  point : LinkPoint

/-- The link.  Connections are numbered; an operation has a number, and a loop that receives has
its generation.  The last fields are not in the source: the connections that were opened, those
that were told to close, what was handed to the stream, and whether closing has ended. -/
structure SignalingLink where
  transport : Option Nat
  protocol : Option Nat
  controllerDeviceId : Option Bytes
  heartbeatTimer : Option Nat
  receiveTask : Option Nat
  recoveryFuture : Bool
  pendingHeartbeatRequestId : Option String
  closed : Bool
  transportGeneration : Nat
  reportedFailureGeneration : Nat
  processes : Nat → Option LinkProcess
  nextProcess : Nat
  loops : Nat → Option Nat
  lateAttempts : Nat
  streamClosed : Bool
  stream : List StreamItem
  delivered : List Handed
  opened : List Nat
  closeCalled : List Nat
  handed : List Handed
  closeReturned : Bool

/-- How an awaited call has ended, and whether the send that may follow it succeeds. -/
structure LinkResumption where
  returned : Bool
  timedOut : Bool
  sent : Bool

/-- What a receiving loop gets: the event of a frame, or an error. -/
inductive LinkReceived where
  | routedSession (senderDeviceId opaqueEnvelope : Bytes)
  | remoteError (code : ErrorCode) (retryable : Bool)
  | heartbeatAcknowledged (requestId : String)
  | registered
  | failed (code : SignalingClientErrorCode)

/-- What happens to the link. -/
inductive LinkAction where
  | connect (controllerDeviceId : Bytes)
  | recover
  | relay
  | close
  | resume (process : Nat) (resumption : LinkResumption)
  | receive (generation : Nat) (received : LinkReceived)
  | heartbeat (requestId : String) (sent : Bool)
  | lateTransport (connected : Bool)
  | deliver

namespace SignalingLink

/-- A link that was made. -/
def new : SignalingLink where
  transport := none
  protocol := none
  controllerDeviceId := none
  heartbeatTimer := none
  receiveTask := none
  recoveryFuture := false
  pendingHeartbeatRequestId := none
  closed := false
  transportGeneration := 0
  reportedFailureGeneration := 0
  processes _ := none
  nextProcess := 0
  loops _ := none
  lateAttempts := 0
  streamClosed := false
  stream := []
  delivered := []
  opened := []
  closeCalled := []
  handed := []
  closeReturned := false

/-! ### Sections -/

/-- `_routed.add` and `_routed.addError`. -/
def handOver (handed : Handed) (s : SignalingLink) : SignalingLink :=
  { s with stream := s.stream ++ [.item handed], handed := s.handed ++ [handed] }

/-- `_reportFailure`. -/
def reportFailure (generation transport : Nat) (failure : Delivery) (s : SignalingLink) :
    SignalingLink :=
  if s.reportedFailureGeneration = generation ∨ s.streamClosed then s
  else
    handOver ⟨generation, transport, failure⟩
      { s with reportedFailureGeneration := generation, heartbeatTimer := none }

variable (operation : LinkOperation) (after : AfterReset)

/-- `_resetTransport`, up to where it awaits that the connection is closed. -/
def resetTransport (s : SignalingLink) : SignalingLink × LinkPoint :=
  ({ s with
      transportGeneration := s.transportGeneration + 1
      heartbeatTimer := none
      pendingHeartbeatRequestId := none
      transport := none
      protocol := none
      receiveTask := none
      closeCalled := s.closeCalled ++ s.transport.toList },
    .closing s.receiveTask after)

/-- `_openTransport`, up to where it awaits a connection. -/
def openTransport (s : SignalingLink) : SignalingLink × LinkPoint :=
  match s.controllerDeviceId with
  | none => (s, .opened false)
  | some deviceId =>
    if s.closed ∨ s.transport ≠ none then (s, .opened false)
    else
      let s := { s with transportGeneration := s.transportGeneration + 1 }
      if deviceId.length = deviceIdBytes then (s, .connecting s.transportGeneration)
      else (s, .opened false)

/-- `_openTransport` from where the connection is there. -/
def transportOpened (generation : Nat) (sent : Bool) (s : SignalingLink) :
    SignalingLink × LinkPoint :=
  let transport := s.opened.length
  let s := { s with opened := s.opened ++ [transport] }
  if s.closed ∨ generation ≠ s.transportGeneration then
    ({ s with closeCalled := s.closeCalled ++ [transport] }, .closingLate)
  else
    let s := { s with protocol := some generation, transport := some transport }
    if sent then (s, .registering generation transport) else s.resetTransport .rethrow

/-- `_openTransport` from where the first frame is there. -/
def registrationReceived (generation transport : Nat) (registered : Bool) (s : SignalingLink) :
    SignalingLink × LinkPoint :=
  if s.closed ∨ generation ≠ s.transportGeneration ∨ registered = false then
    s.resetTransport .rethrow
  else
    ({ s with
        receiveTask := some generation
        loops := update s.loops generation (some transport)
        heartbeatTimer := some generation },
      .opened true)

/-- The caller of `_openTransport` goes on. -/
def afterOpen (success : Bool) (s : SignalingLink) :
    SignalingLink × Option LinkPoint :=
  match operation with
  | .connect =>
    if success then (s, none)
    else
      let (s, point) := { s with controllerDeviceId := none }.resetTransport .finish
      (s, some point)
  | .recover | .close => ({ s with recoveryFuture := false }, none)

/-- The end of `close`. -/
def closeStream (s : SignalingLink) : SignalingLink × Option LinkPoint :=
  ({ s with streamClosed := true, stream := s.stream ++ [.done] }, some .closingStream)

/-- The caller of `_resetTransport` goes on. -/
def afterReset (s : SignalingLink) : SignalingLink × Option LinkPoint :=
  match after with
  | .openTransport =>
    let (s, point) := s.openTransport
    (s, some point)
  | .rethrow => (s, some (.opened false))
  | .finish => (s, none)
  | .closeStream => if s.recoveryFuture then (s, some .awaitingRecovery) else s.closeStream

/-- An operation goes on from its point. -/
def resumeAt (point : LinkPoint) (resumption : LinkResumption)
    (s : SignalingLink) : SignalingLink × Option LinkPoint :=
  match point with
  | .closing receiveTask after =>
    if receiveTask.isSome ∧ resumption.returned then (s, some (.awaitingReceiveTask after))
    else (s, some (.reset after))
  | .awaitingReceiveTask after => (s, some (.reset after))
  | .reset after => s.afterReset after
  | .connecting generation =>
    if resumption.returned then
      let (s, point) := s.transportOpened generation resumption.sent
      (s, some point)
    else if resumption.timedOut then
      ({ s with lateAttempts := s.lateAttempts + 1 }, some (.opened false))
    else (s, some (.opened false))
  | .closingLate => (s, some (.opened false))
  | .registering generation transport =>
    let (s, point) := s.registrationReceived generation transport resumption.returned
    (s, some point)
  | .opened success => s.afterOpen operation success
  | .awaitingRecovery => if s.recoveryFuture then (s, some .awaitingRecovery) else s.closeStream
  | .closingStream =>
    if s.stream = [] then ({ s with closeReturned := true }, none)
    else (s, some .closingStream)

/-- Resume an operation. -/
def resume (index : Nat) (resumption : LinkResumption) (s : SignalingLink) : SignalingLink :=
  match s.processes index with
  | none => s
  | some process =>
    let (s, point) := s.resumeAt process.operation process.point resumption
    { s with
      processes := update s.processes index
        (point.map fun point => ⟨process.operation, point⟩) }

/-- An operation starts, and stands at its first point. -/
def start (started : SignalingLink × LinkPoint) : SignalingLink :=
  { started.1 with
    processes := update started.1.processes started.1.nextProcess
      (some ⟨operation, started.2⟩)
    nextProcess := started.1.nextProcess + 1 }

/-- `connect`. -/
def connect (controllerDeviceId : Bytes) (s : SignalingLink) : SignalingLink :=
  if s.transport ≠ none ∨ s.controllerDeviceId ≠ none ∨ s.closed then s
  else start .connect { s with controllerDeviceId := some controllerDeviceId }.openTransport

/-- `recover`. -/
def recover (s : SignalingLink) : SignalingLink :=
  if s.recoveryFuture ∨ s.closed ∨ s.controllerDeviceId = none then s
  else start .recover ({ s with recoveryFuture := true }.resetTransport .openTransport)

/-- `relay`: the connection that the envelope is sent on. -/
def relay (s : SignalingLink) : Option Nat :=
  if s.closed ∨ s.protocol = none then none else s.transport

/-- `close`. -/
def close (s : SignalingLink) : SignalingLink :=
  if s.closed then s
  else
    start .close ({ s with closed := true, controllerDeviceId := none }.resetTransport .closeStream)

/-- A loop of `_receiveLoop` fails. -/
def loopFailed (generation transport : Nat) (code : SignalingClientErrorCode)
    (s : SignalingLink) : SignalingLink :=
  let s := { s with loops := update s.loops generation none }
  if s.closed ∨ generation ≠ s.transportGeneration then s
  else s.reportFailure generation transport (.clientError code)

/-- A loop of `_receiveLoop` goes on with what it got. -/
def receive (generation : Nat) (received : LinkReceived) (s : SignalingLink) : SignalingLink :=
  match s.loops generation with
  | none => s
  | some transport =>
    match received with
    | .failed code => s.loopFailed generation transport code
    | .routedSession senderDeviceId opaqueEnvelope =>
      if s.closed ∨ generation ≠ s.transportGeneration then
        { s with loops := update s.loops generation none }
      else s.handOver ⟨generation, transport, .routedSession senderDeviceId opaqueEnvelope⟩
    | .remoteError code retryable =>
      if s.closed ∨ generation ≠ s.transportGeneration then
        { s with loops := update s.loops generation none }
      else s.reportFailure generation transport (.remoteError code retryable)
    | .heartbeatAcknowledged requestId =>
      if s.closed ∨ generation ≠ s.transportGeneration then
        { s with loops := update s.loops generation none }
      else if s.pendingHeartbeatRequestId ≠ some requestId then
        s.loopFailed generation transport .correlationMismatch
      else { s with pendingHeartbeatRequestId := none }
    | .registered =>
      if s.closed ∨ generation ≠ s.transportGeneration then
        { s with loops := update s.loops generation none }
      else s

variable (requestId : String)

variable {started : SignalingLink × LinkPoint} (controllerDeviceId : Bytes) (sent : Bool)

/-- `_sendHeartbeat`, when the timer fires. -/
def sendHeartbeat (s : SignalingLink) : SignalingLink :=
  match s.heartbeatTimer, s.transport with
  | some generation, some transport =>
    if s.closed ∨ generation ≠ s.transportGeneration ∨ s.protocol = none then s
    else if s.pendingHeartbeatRequestId ≠ none then
      s.reportFailure generation transport (.clientError .timeout)
    else if sent then { s with pendingHeartbeatRequestId := some requestId }
    else s.reportFailure generation transport (.clientError .transport)
  | _, _ => s

variable {point : LinkPoint} (connected : Bool)

/-- An attempt that had timed out ends: a connection that it brings is closed. -/
def lateTransport (s : SignalingLink) : SignalingLink :=
  if s.lateAttempts = 0 then s
  else
    let s := { s with lateAttempts := s.lateAttempts - 1 }
    if connected then
      { s with
        opened := s.opened ++ [s.opened.length]
        closeCalled := s.closeCalled ++ [s.opened.length] }
    else s

/-- The stream delivers its first item. -/
def deliver (s : SignalingLink) : SignalingLink :=
  match s.stream with
  | [] => s
  | item :: rest => { s with stream := rest, delivered := s.delivered ++ item.handed?.toList }

/-- What happens to the link. -/
def step (s : SignalingLink) : LinkAction → SignalingLink
  | .connect controllerDeviceId => s.connect controllerDeviceId
  | .recover => s.recover
  | .relay => s
  | .close => s.close
  | .resume index resumption => s.resume index resumption
  | .receive generation received => s.receive generation received
  | .heartbeat requestId sent => s.sendHeartbeat requestId sent
  | .lateTransport connected => s.lateTransport connected
  | .deliver => s.deliver

/-- The link as a machine. -/
def machine : Machine SignalingLink LinkAction Unit where
  step s action := (s.step action, ())

/-! ## The connections -/

/-- What is known of an operation at a point: a connection that it waits for, or waits on, is that
of the link unless the operation has been overtaken. -/
def Fits (s : SignalingLink) : LinkPoint → Prop
  | .connecting generation =>
    generation ≤ s.transportGeneration ∧
      (generation = s.transportGeneration → s.transport = none)
  | .registering generation transport =>
    generation ≤ s.transportGeneration ∧
      (generation = s.transportGeneration → s.transport = some transport)
  | .closing _ _ | .awaitingReceiveTask _ | .reset _ | .closingLate | .opened _
  | .awaitingRecovery | .closingStream => True

/-- Every connection is the one of the link or was told to close, and none is the link's once that
is closed; a loop of the present generation receives from the connection of the link. -/
structure Connections (s : SignalingLink) : Prop where
  owned : ∀ t, s.transport = some t → t ∈ s.opened ∧ t ∉ s.closeCalled
  accounted : ∀ t ∈ s.opened, s.transport = some t ∨ t ∈ s.closeCalled
  numbered : ∀ t ∈ s.opened, t < s.opened.length
  told : ∀ t ∈ s.closeCalled, t ∈ s.opened
  shut : s.closed = true → s.transport = none
  loops : ∀ g t, s.loops g = some t →
    g ≤ s.transportGeneration ∧ (g = s.transportGeneration → s.transport = some t)

/-- The connections and what the operations know of them. -/
structure Consistent (s : SignalingLink) : Prop where
  connections : Connections s
  points : ∀ i p, s.processes i = some p → Fits s p.point
  unique : ∀ i j p q g, s.processes i = some p → s.processes j = some q →
    p.point = .connecting g → q.point = .connecting g → i = j

theorem new_consistent : Consistent new where
  connections :=
    { owned := fun _ h => nomatch h
      accounted := forall_mem_nil _
      numbered := forall_mem_nil _
      told := forall_mem_nil _
      shut := fun _ => rfl
      loops := fun _ _ h => nomatch h }
  points _ _ h := nomatch h
  unique _ _ _ _ _ h := nomatch h

/-- Nothing has changed that the connections depend on. -/
structure SameConnections (s s' : SignalingLink) : Prop where
  transport : s'.transport = s.transport
  transportGeneration : s'.transportGeneration = s.transportGeneration
  opened : s'.opened = s.opened
  closeCalled : s'.closeCalled = s.closeCalled
  closed : s'.closed = s.closed
  loops : ∀ g t, s'.loops g = some t → s.loops g = some t

theorem SameConnections.connections (hsame : SameConnections s s') (h : Connections s) :
    Connections s' where
  owned := by
    rw [hsame.transport, hsame.opened, hsame.closeCalled]
    exact h.owned
  accounted := by
    rw [hsame.transport, hsame.opened, hsame.closeCalled]
    exact h.accounted
  numbered := by
    rw [hsame.opened]
    exact h.numbered
  told := by
    rw [hsame.opened, hsame.closeCalled]
    exact h.told
  shut := by
    rw [hsame.closed, hsame.transport]
    exact h.shut
  loops g t hloop := by
    rw [hsame.transport, hsame.transportGeneration]
    exact h.loops g t (hsame.loops g t hloop)

theorem SameConnections.fits (hsame : SameConnections s s') {q : LinkPoint} (hq : Fits s q) :
    Fits s' q := by
  cases q with
  | connecting g =>
    unfold Fits at hq ⊢
    rwa [hsame.transport, hsame.transportGeneration]
  | registering g t =>
    unfold Fits at hq ⊢
    rwa [hsame.transport, hsame.transportGeneration]
  | closing _ _ => trivial
  | awaitingReceiveTask _ => trivial
  | reset _ => trivial
  | closingLate => trivial
  | opened _ => trivial
  | awaitingRecovery => trivial
  | closingStream => trivial

/-- A section of an operation keeps what is known of the connections, and what the other
operations know. -/
structure Section (s s' : SignalingLink) : Prop where
  connections : Connections s'
  processes : s'.processes = s.processes
  generation : s.transportGeneration ≤ s'.transportGeneration
  fits : ∀ q, Fits s q → Fits s' q

theorem SameConnections.section (hsame : SameConnections s s')
    (hprocesses : s'.processes = s.processes) (h : Connections s) : Section s s' where
  connections := hsame.connections h
  processes := hprocesses
  generation := le_of_eq hsame.transportGeneration.symm
  fits _ := hsame.fits

theorem Connections.section (h : Connections s) : Section s s :=
  SameConnections.section ⟨rfl, rfl, rfl, rfl, rfl, fun _ _ h => h⟩ rfl h

theorem Section.trans (h : Section s s') (h' : Section s' s'') : Section s s'' where
  connections := h'.connections
  processes := h'.processes.trans h.processes
  generation := h.generation.trans h'.generation
  fits q hq := h'.fits q (h.fits q hq)

/-- A generation that has gone by leaves nothing to know of a point. -/
theorem fits_of_later {q : LinkPoint} (hq : Fits s q)
    (hlater : s.transportGeneration < s'.transportGeneration) : Fits s' q := by
  cases q with
  | connecting g =>
    exact ⟨by have := hq.1; omega, fun hg => by have := hq.1; omega⟩
  | registering g t =>
    exact ⟨by have := hq.1; omega, fun hg => by have := hq.1; omega⟩
  | closing _ _ => trivial
  | awaitingReceiveTask _ => trivial
  | reset _ => trivial
  | closingLate => trivial
  | opened _ => trivial
  | awaitingRecovery => trivial
  | closingStream => trivial

/-- `_resetTransport` gives the connection up and tells it to close. -/
theorem resetTransport_section (h : Connections s) :
    Section s (s.resetTransport after).1 where
  connections :=
    { owned := fun _ hnone => nomatch hnone
      accounted := fun t ht => by
        refine .inr (mem_append.mpr ?_)
        rcases h.accounted t ht with howned | htold
        · exact .inr (mem_toList.mpr howned)
        · exact .inl htold
      numbered := h.numbered
      told := fun t ht => by
        rcases mem_append.mp ht with ht | ht
        · exact h.told t ht
        · exact (h.owned t (mem_toList.mp ht)).1
      shut := fun _ => rfl
      loops := fun g t hloop => by
        have hbound := (h.loops g t hloop).1
        change g ≤ s.transportGeneration + 1 ∧ (g = s.transportGeneration + 1 → _)
        exact ⟨by omega, fun hg => by omega⟩ }
  processes := rfl
  generation := Nat.le_succ _
  fits _ hq := fits_of_later hq (Nat.lt_succ_self _)

/-- A new generation begins while the link has no connection. -/
theorem nextGeneration_section (h : Connections s) (hnone : s.transport = none) :
    Section s { s with transportGeneration := s.transportGeneration + 1 } where
  connections :=
    { owned := h.owned
      accounted := h.accounted
      numbered := h.numbered
      told := h.told
      shut := fun _ => hnone
      loops := fun g t hloop => by
        have hbound := (h.loops g t hloop).1
        change g ≤ s.transportGeneration + 1 ∧ (g = s.transportGeneration + 1 → _)
        exact ⟨by omega, fun hg => by omega⟩ }
  processes := rfl
  generation := Nat.le_succ _
  fits _ hq := fits_of_later hq (Nat.lt_succ_self _)

/-- `_openTransport` waits for a connection of a new generation while the link has none. -/
theorem openTransport_section (h : Connections s) :
    Section s s.openTransport.1 ∧ Fits s.openTransport.1 s.openTransport.2 ∧
      ∀ g, s.openTransport.2 = .connecting g → s.transportGeneration < g := by
  unfold openTransport
  split
  · exact ⟨h.section, trivial, nofun⟩
  · rename_i deviceId _
    by_cases hrefused : s.closed ∨ s.transport ≠ none
    · rw [if_pos hrefused]
      exact ⟨h.section, trivial, nofun⟩
    · have hnone : s.transport = none := by
        by_contra hsome
        exact hrefused (.inr hsome)
      rw [if_neg hrefused]
      by_cases hlength : deviceId.length = deviceIdBytes
      · dsimp only
        rw [if_pos hlength]
        refine ⟨nextGeneration_section h hnone, ⟨le_rfl, fun _ => hnone⟩, fun g hg => ?_⟩
        rw [← LinkPoint.connecting.inj hg]
        exact Nat.lt_succ_self _
      · dsimp only
        rw [if_neg hlength]
        exact ⟨nextGeneration_section h hnone, trivial, nofun⟩

/-- A connection that comes too late is told to close at once. -/
theorem lateConnection_section (h : Connections s) :
    Section s { s with
      opened := s.opened ++ [s.opened.length]
      closeCalled := s.closeCalled ++ [s.opened.length] } where
  connections :=
    { owned := fun t ht => by
        obtain ⟨hopened, htold⟩ := h.owned t ht
        refine ⟨mem_append_left _ hopened, fun hmem => ?_⟩
        rcases mem_append.mp hmem with hmem | hmem
        · exact htold hmem
        · have hlt := h.numbered t hopened
          rw [mem_singleton.mp hmem] at hlt
          exact absurd hlt (Nat.lt_irrefl _)
      accounted := fun t ht => by
        rcases mem_append.mp ht with ht | ht
        · rcases h.accounted t ht with howned | htold
          · exact .inl howned
          · exact .inr (mem_append_left _ htold)
        · exact .inr (mem_append_right _ ht)
      numbered := fun t ht => by
        rw [length_append, length_singleton]
        rcases mem_append.mp ht with ht | ht
        · exact Nat.lt_succ_of_lt (h.numbered t ht)
        · rw [mem_singleton.mp ht]
          exact Nat.lt_succ_self _
      told := fun t ht => by
        rcases mem_append.mp ht with ht | ht
        · exact mem_append_left _ (h.told t ht)
        · exact mem_append_right _ ht
      shut := h.shut
      loops := h.loops }
  processes := rfl
  generation := le_rfl
  fits q hq := by
    cases q <;> exact hq

/-- The connection that an operation has waited for becomes that of the link. -/
theorem acceptedConnection_section (h : Connections s) (hnone : s.transport = none)
    (hopen : s.closed = false) :
    let s' := { s with
      opened := s.opened ++ [s.opened.length]
      protocol := some s.transportGeneration
      transport := some s.opened.length }
    Connections s' ∧ Fits s' (.registering s.transportGeneration s.opened.length) ∧
      ∀ q, Fits s q → q ≠ .connecting s.transportGeneration → Fits s' q := by
  intro s'
  have hfresh : s.opened.length ∉ s.closeCalled := fun hmem =>
    absurd (h.numbered _ (h.told _ hmem)) (Nat.lt_irrefl _)
  refine ⟨?_, ⟨le_rfl, fun _ => rfl⟩, fun q hq hother => ?_⟩
  · refine ⟨fun t ht => ?_, fun t ht => ?_, fun t ht => ?_, fun t ht => ?_, fun hclosed => ?_,
      fun g t hloop => ?_⟩
    · obtain rfl := some.inj ht
      exact ⟨mem_append_right _ (mem_singleton_self _), hfresh⟩
    · rcases mem_append.mp ht with ht | ht
      · rcases h.accounted t ht with howned | htold
        · rw [hnone] at howned
          cases howned
        · exact .inr htold
      · rw [mem_singleton.mp ht]
        exact .inl rfl
    · change t < (s.opened ++ [s.opened.length]).length
      rw [length_append, length_singleton]
      rcases mem_append.mp ht with ht | ht
      · exact Nat.lt_succ_of_lt (h.numbered t ht)
      · rw [mem_singleton.mp ht]
        exact Nat.lt_succ_self _
    · exact mem_append_left _ (h.told t ht)
    · rw [hopen] at hclosed
      cases hclosed
    · obtain ⟨hbound, hcurrent⟩ := h.loops g t hloop
      refine ⟨hbound, fun hg => ?_⟩
      rw [hnone] at hcurrent
      cases hcurrent hg
  · cases q with
    | connecting g =>
      refine ⟨hq.1, fun hg => absurd ?_ hother⟩
      rw [show g = s.transportGeneration from hg]
    | registering g t =>
      refine ⟨hq.1, fun hg => ?_⟩
      have howned := hq.2 hg
      rw [hnone] at howned
      cases howned
    | closing _ _ => trivial
    | awaitingReceiveTask _ => trivial
    | reset _ => trivial
    | closingLate => trivial
    | opened _ => trivial
    | awaitingRecovery => trivial
    | closingStream => trivial

/-- What resuming an operation at a point does: the other operations know what they knew, and a
connection that is waited for is that of a new generation. -/
structure Resumed (s : SignalingLink) (point : LinkPoint)
    (result : SignalingLink × Option LinkPoint) : Prop where
  connections : Connections result.1
  processes : result.1.processes = s.processes
  fits : ∀ q, Fits s q → (∀ g, q = .connecting g → point ≠ .connecting g) → Fits result.1 q
  next : ∀ q, result.2 = some q → Fits result.1 q
  later : ∀ g, result.2 = some (.connecting g) → s.transportGeneration < g

theorem Section.resumed (h : Section s s') {next : Option LinkPoint}
    (hnext : ∀ q, next = some q → Fits s' q)
    (hlater : ∀ g, next = some (.connecting g) → s.transportGeneration < g) :
    Resumed s point (s', next) where
  connections := h.connections
  processes := h.processes
  fits q hq _ := h.fits q hq
  next := hnext
  later := hlater

/-- The operation goes on to a point that does not wait for or on a connection. -/
theorem Section.goesOn (h : Section s s') {q : LinkPoint} (hq : ∀ s, Fits s q)
    (hother : ∀ g, q ≠ .connecting g) : Resumed s point (s', some q) :=
  h.resumed (fun _ hq' => some.inj hq' ▸ hq s') fun g hg =>
    absurd (some.inj hg) (hother g)

theorem Section.ends (h : Section s s') : Resumed s point (s', none) :=
  h.resumed nofun nofun

variable (success : Bool)

theorem afterOpen_resumed (h : Connections s) :
    Resumed s (.opened success) (s.afterOpen operation success) := by
  have hrecovered : Section s { s with recoveryFuture := false } :=
    SameConnections.section ⟨rfl, rfl, rfl, rfl, rfl, fun _ _ h => h⟩ rfl h
  cases operation with
  | connect =>
    cases success with
    | true => exact h.section.ends
    | false =>
      have hcleared : Section s { s with controllerDeviceId := none } :=
        SameConnections.section ⟨rfl, rfl, rfl, rfl, rfl, fun _ _ h => h⟩ rfl h
      exact (hcleared.trans (resetTransport_section .finish hcleared.connections)).goesOn
        (fun _ => trivial) nofun
  | recover => exact hrecovered.ends
  | close => exact hrecovered.ends

theorem closeStream_resumed (h : Connections s) : Resumed s point s.closeStream := by
  have hsame : Section s s.closeStream.1 :=
    SameConnections.section ⟨rfl, rfl, rfl, rfl, rfl, fun _ _ h => h⟩ rfl h
  exact hsame.goesOn (fun _ => trivial) nofun

theorem afterReset_resumed (h : Connections s) :
    Resumed s (.reset after) (s.afterReset after) := by
  cases after with
  | openTransport =>
    obtain ⟨hsection, hfits, hlater⟩ := openTransport_section h
    refine hsection.resumed ?_ fun g hg => hlater g (some.inj hg)
    intro q hq
    rw [← some.inj hq]
    exact hfits
  | rethrow => exact h.section.goesOn (fun _ => trivial) nofun
  | finish => exact h.section.ends
  | closeStream =>
    unfold afterReset
    dsimp only
    split_ifs
    · exact h.section.goesOn (fun _ => trivial) nofun
    · exact closeStream_resumed h

/-- The connection is there: it is taken, or told to close if the operation was overtaken. -/
theorem transportOpened_resumed {generation : Nat} (sent : Bool) (h : Connections s)
    (hpoint : Fits s (.connecting generation)) :
    Resumed s (.connecting generation)
      ((s.transportOpened generation sent).1, some (s.transportOpened generation sent).2) := by
  unfold transportOpened
  dsimp only
  by_cases hovertaken : s.closed ∨ generation ≠ s.transportGeneration
  · rw [if_pos hovertaken]
    exact (lateConnection_section h).goesOn (fun _ => trivial) nofun
  · rw [if_neg hovertaken]
    rw [not_or, Bool.not_eq_true, not_not] at hovertaken
    obtain ⟨hopen, rfl⟩ := hovertaken
    obtain ⟨hconnections, hfits, hothers⟩ :=
      acceptedConnection_section h (hpoint.2 rfl) hopen
    cases sent with
    | true =>
      refine ⟨hconnections, rfl, fun q hq hother => hothers q hq ?_, ?_, nofun⟩
      · exact fun hsame => hother _ hsame rfl
      · intro q hq
        rw [← some.inj hq]
        exact hfits
    | false =>
      have hreset := resetTransport_section .rethrow hconnections
      refine ⟨hreset.connections, rfl, fun q hq hother => ?_, ?_, nofun⟩
      · exact hreset.fits q (hothers q hq fun hsame => hother _ hsame rfl)
      · intro q hq
        rw [← some.inj hq]
        trivial

theorem registrationReceived_resumed {generation transport : Nat} (registered : Bool)
    (h : Connections s) (hpoint : Fits s (.registering generation transport)) :
    Resumed s (.registering generation transport)
      ((s.registrationReceived generation transport registered).1,
        some (s.registrationReceived generation transport registered).2) := by
  unfold registrationReceived
  by_cases hovertaken : s.closed ∨ generation ≠ s.transportGeneration ∨ registered = false
  · rw [if_pos hovertaken]
    exact (resetTransport_section .rethrow h).goesOn (fun _ => trivial) nofun
  · rw [if_neg hovertaken]
    have hloops : Connections { s with
        receiveTask := some generation
        loops := update s.loops generation (some transport)
        heartbeatTimer := some generation } := by
      refine ⟨h.owned, h.accounted, h.numbered, h.told, h.shut, fun g t hloop => ?_⟩
      by_cases hg : g = generation
      · subst hg
        have hloop : update s.loops g (some transport) g = some t := hloop
        rw [update_self] at hloop
        rw [← some.inj hloop]
        exact ⟨hpoint.1, hpoint.2⟩
      · have hloop : update s.loops generation (some transport) g = some t := hloop
        rw [update_of_ne hg] at hloop
        exact h.loops g t hloop
    refine ⟨hloops, rfl, fun q hq _ => ?_, ?_, nofun⟩
    · cases q <;> exact hq
    · intro q hq
      rw [← some.inj hq]
      trivial

theorem resumeAt_resumed (operation : LinkOperation)
    (resumption : LinkResumption) (h : Connections s) (hpoint : Fits s point) :
    Resumed s point (s.resumeAt operation point resumption) := by
  cases point with
  | closing receiveTask after =>
    unfold resumeAt
    dsimp only
    split_ifs
    · exact h.section.goesOn (fun _ => trivial) nofun
    · exact h.section.goesOn (fun _ => trivial) nofun
  | awaitingReceiveTask after => exact h.section.goesOn (fun _ => trivial) nofun
  | reset after => exact afterReset_resumed after h
  | connecting generation =>
    unfold resumeAt
    dsimp only
    split_ifs
    · exact transportOpened_resumed resumption.sent h hpoint
    · have hcounted : Section s { s with lateAttempts := s.lateAttempts + 1 } :=
        SameConnections.section ⟨rfl, rfl, rfl, rfl, rfl, fun _ _ h => h⟩ rfl h
      exact hcounted.goesOn (fun _ => trivial) nofun
    · exact h.section.goesOn (fun _ => trivial) nofun
  | closingLate => exact h.section.goesOn (fun _ => trivial) nofun
  | registering generation transport =>
    exact registrationReceived_resumed resumption.returned h hpoint
  | opened success => exact afterOpen_resumed operation success h
  | awaitingRecovery =>
    unfold resumeAt
    dsimp only
    split_ifs
    · exact h.section.goesOn (fun _ => trivial) nofun
    · exact closeStream_resumed h
  | closingStream =>
    unfold resumeAt
    dsimp only
    split_ifs
    · have hreturned : Section s { s with closeReturned := true } :=
        SameConnections.section ⟨rfl, rfl, rfl, rfl, rfl, fun _ _ h => h⟩ rfl h
      exact hreturned.ends
    · exact h.section.goesOn (fun _ => trivial) nofun

variable (index : Nat) (resumption : LinkResumption)

/-- Resuming an operation keeps what is known. -/
theorem resume_consistent (h : Consistent s) :
    Consistent (s.resume index resumption) := by
  unfold resume
  split
  · exact h
  · rename_i process hprocess
    have hresumed := resumeAt_resumed process.operation resumption h.connections
      (h.points index process hprocess)
    revert hresumed
    generalize s.resumeAt process.operation process.point resumption = result
    obtain ⟨s', next⟩ := result
    intro hresumed
    have hprocesses : s'.processes = s.processes := hresumed.processes
    have hpoint : ∀ i p, update s'.processes index
        (next.map fun point => LinkProcess.mk process.operation point) i = some p →
        (i = index ∧ next = some p.point) ∨ (i ≠ index ∧ s.processes i = some p) := by
      intro i p hp
      by_cases hi : i = index
      · subst hi
        rw [update_self] at hp
        obtain ⟨point, hnext, rfl⟩ := map_eq_some_iff.mp hp
        exact .inl ⟨rfl, hnext⟩
      · rw [update_of_ne hi, hprocesses] at hp
        exact .inr ⟨hi, hp⟩
    have hsame : SameConnections s' { s' with
        processes := update s'.processes index
          (next.map fun point => LinkProcess.mk process.operation point) } :=
      ⟨rfl, rfl, rfl, rfl, rfl, fun _ _ h => h⟩
    refine ⟨hsame.connections hresumed.connections, fun i p hp => hsame.fits ?_,
      fun i j p q g hp hq hpg hqg => ?_⟩
    · rcases hpoint i p hp with ⟨-, hnext⟩ | ⟨hi, hp⟩
      · exact hresumed.next _ hnext
      · refine hresumed.fits _ (h.points i p hp) fun g hg hsame => hi ?_
        exact h.unique i index p process g hp hprocess hg hsame
    · have hearlier : ∀ k r, s.processes k = some r → r.point = .connecting g →
          next ≠ some (.connecting g) := by
        intro k r hr hrg hnext
        have hlater : s.transportGeneration < g := hresumed.later g hnext
        have hbound := h.points k r hr
        rw [hrg] at hbound
        exact absurd hbound.1 (Nat.not_le_of_lt hlater)
      rcases hpoint i p hp with ⟨rfl, hi⟩ | ⟨-, hpbefore⟩
      · rcases hpoint j q hq with ⟨rfl, -⟩ | ⟨-, hqbefore⟩
        · rfl
        · rw [hpg] at hi
          exact absurd hi (hearlier j q hqbefore hqg)
      · rcases hpoint j q hq with ⟨rfl, hj⟩ | ⟨-, hqbefore⟩
        · rw [hqg] at hj
          exact absurd hj (hearlier i p hpbefore hpg)
        · exact h.unique i j p q g hpbefore hqbefore hpg hqg

/-- What a call starts is an operation at a point that is new. -/
theorem start_consistent
    (h : Consistent s) (hsection : Section s started.1) (hfits : Fits started.1 started.2)
    (hlater : ∀ g, started.2 = .connecting g → s.transportGeneration < g) :
    Consistent (start operation started) := by
  obtain ⟨s', point⟩ := started
  have hprocesses : s'.processes = s.processes := hsection.processes
  have hpoint : ∀ i p, update s'.processes s'.nextProcess
      (some (LinkProcess.mk operation point)) i = some p →
      (i = s'.nextProcess ∧ point = p.point) ∨ s.processes i = some p := by
    intro i p hp
    by_cases hi : i = s'.nextProcess
    · rw [hi, update_self] at hp
      rw [← some.inj hp]
      exact .inl ⟨hi, rfl⟩
    · rw [update_of_ne hi, hprocesses] at hp
      exact .inr hp
  have hsame : SameConnections s' (start operation (s', point)) :=
    ⟨rfl, rfl, rfl, rfl, rfl, fun _ _ h => h⟩
  refine ⟨hsame.connections hsection.connections, fun i p hp => hsame.fits ?_,
    fun i j p q g hp hq hpg hqg => ?_⟩
  · rcases hpoint i p hp with ⟨-, hnew⟩ | hbefore
    · exact hnew ▸ hfits
    · exact hsection.fits _ (h.points i p hbefore)
  · have hearlier : ∀ k r, s.processes k = some r → r.point = .connecting g →
        point ≠ .connecting g := by
      intro k r hr hrg hnew
      have hbound := h.points k r hr
      rw [hrg] at hbound
      exact absurd hbound.1 (Nat.not_le_of_lt (hlater g hnew))
    rcases hpoint i p hp with ⟨hi, hinew⟩ | hpbefore
    · rcases hpoint j q hq with ⟨hj, -⟩ | hqbefore
      · rw [hi, hj]
      · rw [hpg] at hinew
        exact absurd hinew (hearlier j q hqbefore hqg)
    · rcases hpoint j q hq with ⟨-, hjnew⟩ | hqbefore
      · rw [hqg] at hjnew
        exact absurd hjnew (hearlier i p hpbefore hpg)
      · exact h.unique i j p q g hpbefore hqbefore hpg hqg

/-- A section outside of the operations keeps what is known. -/
theorem Section.consistent (hsection : Section s s') (h : Consistent s) : Consistent s' where
  connections := hsection.connections
  points i p hp := by
    rw [hsection.processes] at hp
    exact hsection.fits _ (h.points i p hp)
  unique := by
    rw [hsection.processes]
    exact h.unique

theorem connect_consistent (h : Consistent s) :
    Consistent (s.connect controllerDeviceId) := by
  unfold connect
  split_ifs
  · exact h
  · have hnamed : Section s { s with controllerDeviceId := some controllerDeviceId } :=
      SameConnections.section ⟨rfl, rfl, rfl, rfl, rfl, fun _ _ h => h⟩ rfl h.connections
    obtain ⟨hsection, hfits, hlater⟩ := openTransport_section hnamed.connections
    exact start_consistent .connect (hnamed.consistent h) hsection hfits hlater

theorem recover_consistent (h : Consistent s) : Consistent s.recover := by
  unfold recover
  split_ifs
  · exact h
  · have hrecovering : Section s { s with recoveryFuture := true } :=
      SameConnections.section ⟨rfl, rfl, rfl, rfl, rfl, fun _ _ h => h⟩ rfl h.connections
    exact start_consistent .recover (hrecovering.consistent h)
      (resetTransport_section .openTransport hrecovering.connections) trivial nofun

/-- Closing gives the connection up. -/
theorem close_section (h : Connections s) :
    Section s ({ s with closed := true, controllerDeviceId := none }.resetTransport
      .closeStream).1 := by
  have hreset := resetTransport_section .closeStream h
  refine ⟨?_, rfl, hreset.generation, fun q hq => fits_of_later hq (Nat.lt_succ_self _)⟩
  obtain ⟨howned, haccounted, hnumbered, htold, -, hloops⟩ := hreset.connections
  exact ⟨howned, haccounted, hnumbered, htold, fun _ => rfl, hloops⟩

theorem close_consistent (h : Consistent s) : Consistent s.close := by
  unfold close
  split_ifs
  · exact h
  · exact start_consistent .close h (close_section h.connections) trivial nofun

/-- What is handed over or received leaves the connections as they are. -/
theorem reportFailure_same (generation transport : Nat) (failure : Delivery) (s : SignalingLink) :
    SameConnections s (s.reportFailure generation transport failure) ∧
      (s.reportFailure generation transport failure).processes = s.processes := by
  unfold reportFailure
  split_ifs
  · exact ⟨⟨rfl, rfl, rfl, rfl, rfl, fun _ _ h => h⟩, rfl⟩
  · exact ⟨⟨rfl, rfl, rfl, rfl, rfl, fun _ _ h => h⟩, rfl⟩

theorem loopEnded_same (generation : Nat) (s : SignalingLink) :
    SameConnections s { s with loops := update s.loops generation none } := by
  refine ⟨rfl, rfl, rfl, rfl, rfl, fun g t hloop => ?_⟩
  have hloop : update s.loops generation none g = some t := hloop
  by_cases hg : g = generation
  · rw [hg, update_self] at hloop
    cases hloop
  · rwa [update_of_ne hg] at hloop

theorem SameConnections.trans (h : SameConnections s s') (h' : SameConnections s' s'') :
    SameConnections s s'' :=
  ⟨h'.transport.trans h.transport, h'.transportGeneration.trans h.transportGeneration,
    h'.opened.trans h.opened, h'.closeCalled.trans h.closeCalled, h'.closed.trans h.closed,
    fun g t hloop => h.loops g t (h'.loops g t hloop)⟩

theorem loopFailed_same (generation transport : Nat) (code : SignalingClientErrorCode)
    (s : SignalingLink) :
    SameConnections s (s.loopFailed generation transport code) ∧
      (s.loopFailed generation transport code).processes = s.processes := by
  have hended := loopEnded_same generation s
  unfold loopFailed
  dsimp only
  split_ifs
  · exact ⟨hended, rfl⟩
  · obtain ⟨hsame, hprocesses⟩ := reportFailure_same generation transport (.clientError code)
      { s with loops := update s.loops generation none }
    exact ⟨hended.trans hsame, hprocesses⟩

theorem receive_same (generation : Nat) (received : LinkReceived) (s : SignalingLink) :
    SameConnections s (s.receive generation received) ∧
      (s.receive generation received).processes = s.processes := by
  have hnothing : SameConnections s s ∧ s.processes = s.processes :=
    ⟨⟨rfl, rfl, rfl, rfl, rfl, fun _ _ h => h⟩, rfl⟩
  have hended := loopEnded_same generation s
  unfold receive
  split
  · exact hnothing
  · rename_i transport _
    cases received with
    | failed code => exact loopFailed_same generation transport code s
    | routedSession senderDeviceId opaqueEnvelope =>
      dsimp only
      split_ifs
      · exact ⟨hended, rfl⟩
      · exact ⟨⟨rfl, rfl, rfl, rfl, rfl, fun _ _ h => h⟩, rfl⟩
    | remoteError code retryable =>
      dsimp only
      split_ifs
      · exact ⟨hended, rfl⟩
      · exact reportFailure_same generation transport _ s
    | heartbeatAcknowledged requestId =>
      dsimp only
      split_ifs
      · exact ⟨hended, rfl⟩
      · exact loopFailed_same generation transport .correlationMismatch s
      · exact ⟨⟨rfl, rfl, rfl, rfl, rfl, fun _ _ h => h⟩, rfl⟩
    | registered =>
      dsimp only
      split_ifs
      · exact ⟨hended, rfl⟩
      · exact hnothing

theorem sendHeartbeat_same (s : SignalingLink) :
    SameConnections s (s.sendHeartbeat requestId sent) ∧
      (s.sendHeartbeat requestId sent).processes = s.processes := by
  have hnothing : SameConnections s s ∧ s.processes = s.processes :=
    ⟨⟨rfl, rfl, rfl, rfl, rfl, fun _ _ h => h⟩, rfl⟩
  unfold sendHeartbeat
  split
  · rename_i generation transport _ _
    split_ifs
    · exact hnothing
    · exact reportFailure_same generation transport _ s
    · exact ⟨⟨rfl, rfl, rfl, rfl, rfl, fun _ _ h => h⟩, rfl⟩
    · exact reportFailure_same generation transport _ s
  · exact hnothing

theorem lateTransport_section (h : Connections s) :
    Section s (s.lateTransport connected) := by
  have hcounted : Section s { s with lateAttempts := s.lateAttempts - 1 } :=
    SameConnections.section ⟨rfl, rfl, rfl, rfl, rfl, fun _ _ h => h⟩ rfl h
  unfold lateTransport
  dsimp only
  split_ifs
  · exact h.section
  · exact hcounted.trans (lateConnection_section hcounted.connections)
  · exact hcounted

theorem deliver_same (s : SignalingLink) :
    SameConnections s s.deliver ∧ s.deliver.processes = s.processes := by
  unfold deliver
  split
  · exact ⟨⟨rfl, rfl, rfl, rfl, rfl, fun _ _ h => h⟩, rfl⟩
  · exact ⟨⟨rfl, rfl, rfl, rfl, rfl, fun _ _ h => h⟩, rfl⟩

/-- Every step keeps what is known of the connections. -/
theorem step_consistent (s : SignalingLink) (action : LinkAction) (h : Consistent s) :
    Consistent (s.step action) := by
  have hsame : ∀ {s'}, SameConnections s s' ∧ s'.processes = s.processes → Consistent s' :=
    fun hsame => (hsame.1.section hsame.2 h.connections).consistent h
  cases action with
  | connect controllerDeviceId => exact connect_consistent controllerDeviceId h
  | recover => exact recover_consistent h
  | relay => exact h
  | close => exact close_consistent h
  | resume index resumption => exact resume_consistent index resumption h
  | receive generation received => exact hsame (receive_same generation received s)
  | heartbeat requestId sent => exact hsame (sendHeartbeat_same requestId sent s)
  | lateTransport connected =>
    exact (lateTransport_section connected h.connections).consistent h
  | deliver => exact hsame (deliver_same s)

/-! ## The stream -/

/-- What the stream has yet to deliver. -/
def waiting (s : SignalingLink) : List Handed :=
  s.stream.filterMap StreamItem.handed?

/-- The generations whose failure was handed over. -/
def failures (handed : List Handed) : List Nat :=
  (handed.filter (·.delivery.isFailure)).map (·.generation)

theorem failures_append (handed : List Handed) (last : Handed) :
    failures (handed ++ [last]) =
      failures handed ++ if last.delivery.isFailure then [last.generation] else [] := by
  unfold failures
  rw [filter_append, map_append, filter_singleton]
  cases last.delivery.isFailure with
  | true => rfl
  | false => rfl

/-- What is known of an operation that ends the stream. -/
def EndFits (s : SignalingLink) : LinkPoint → Prop
  | .closing _ .closeStream | .awaitingReceiveTask .closeStream | .reset .closeStream
  | .awaitingRecovery => s.closed = true
  | .closingStream => s.streamClosed = true
  | _ => True

/-- The stream delivers, in their order, the items that were handed over.  It ends once the link
is closed; a generation's failure is handed over once. -/
structure Streamed (s : SignalingLink) : Prop where
  order : s.delivered ++ s.waiting = s.handed
  ended : s.streamClosed = true → s.closed = true
  done : s.closeReturned = true → s.streamClosed = true ∧ s.waiting = []
  points : ∀ i p, s.processes i = some p → EndFits s p.point
  failed : (failures s.handed).Nodup
  reported : ∀ g ∈ failures s.handed, g ≤ s.reportedFailureGeneration
  bounded : s.reportedFailureGeneration ≤ s.transportGeneration

theorem new_streamed : Streamed new where
  order := rfl
  ended := nofun
  done := nofun
  points _ _ h := nomatch h
  failed := nodup_nil
  reported := forall_mem_nil _
  bounded := le_rfl

/-- A step that neither hands over nor delivers.  It may close the stream when the link is
closed, and end closing when nothing waits. -/
structure Silent (s s' : SignalingLink) : Prop where
  handed : s'.handed = s.handed
  delivered : s'.delivered = s.delivered
  waiting : s'.waiting = s.waiting
  reported : s'.reportedFailureGeneration = s.reportedFailureGeneration
  generation : s.transportGeneration ≤ s'.transportGeneration
  closed : s.closed = true → s'.closed = true
  streamClosed : s.streamClosed = true → s'.streamClosed = true
  ends : s'.streamClosed = true → s.streamClosed = true ∨ s'.closed = true
  returns : s'.closeReturned = true →
    s.closeReturned = true ∨ s'.streamClosed = true ∧ s'.waiting = []

theorem Silent.trans (h : Silent s s') (h' : Silent s' s'') : Silent s s'' where
  handed := h'.handed.trans h.handed
  delivered := h'.delivered.trans h.delivered
  waiting := h'.waiting.trans h.waiting
  reported := h'.reported.trans h.reported
  generation := h.generation.trans h'.generation
  closed hclosed := h'.closed (h.closed hclosed)
  streamClosed hclosed := h'.streamClosed (h.streamClosed hclosed)
  ends hends := by
    rcases h'.ends hends with hbefore | hclosed
    · rcases h.ends hbefore with hbefore | hclosed
      · exact .inl hbefore
      · exact .inr (h'.closed hclosed)
    · exact .inr hclosed
  returns hreturned := by
    rcases h'.returns hreturned with hbefore | hdone
    · rcases h.returns hbefore with hbefore | ⟨hclosed, hnone⟩
      · exact .inl hbefore
      · exact .inr ⟨h'.streamClosed hclosed, h'.waiting.trans hnone⟩
    · exact .inr hdone

theorem Silent.refl (s : SignalingLink) : Silent s s :=
  ⟨rfl, rfl, rfl, rfl, le_rfl, id, id, .inl, .inl⟩

theorem Silent.endFits (h : Silent s s') {q : LinkPoint} (hq : EndFits s q) : EndFits s' q := by
  unfold EndFits at hq ⊢
  split at hq
  all_goals first
    | exact h.closed hq
    | exact h.streamClosed hq
    | trivial

/-- A silent step keeps what is known of the stream. -/
theorem Silent.streamed (hsilent : Silent s s')
    (hpoints : ∀ i p, s'.processes i = some p → EndFits s' p.point) (h : Streamed s) :
    Streamed s' where
  order := by
    rw [hsilent.delivered, hsilent.waiting, hsilent.handed]
    exact h.order
  ended hclosed := by
    rcases hsilent.ends hclosed with hbefore | hclosed
    · exact hsilent.closed (h.ended hbefore)
    · exact hclosed
  done hreturned := by
    rcases hsilent.returns hreturned with hbefore | hdone
    · obtain ⟨hclosed, hnone⟩ := h.done hbefore
      exact ⟨hsilent.streamClosed hclosed, hsilent.waiting.trans hnone⟩
    · exact hdone
  points := hpoints
  failed := by
    rw [hsilent.handed]
    exact h.failed
  reported := by
    rw [hsilent.handed, hsilent.reported]
    exact h.reported
  bounded := by
    rw [hsilent.reported]
    exact h.bounded.trans hsilent.generation

theorem openTransport_silent (s : SignalingLink) : Silent s s.openTransport.1 := by
  unfold openTransport
  split
  · exact Silent.refl s
  · dsimp only
    split_ifs
    · exact Silent.refl s
    · exact ⟨rfl, rfl, rfl, rfl, Nat.le_succ _, id, id, .inl, .inl⟩
    · exact ⟨rfl, rfl, rfl, rfl, Nat.le_succ _, id, id, .inl, .inl⟩

theorem openTransport_endFits (s : SignalingLink) : EndFits s' s.openTransport.2 := by
  unfold openTransport
  split
  · trivial
  · dsimp only
    split_ifs
    all_goals trivial

theorem resetTransport_silent (s : SignalingLink) :
    Silent s (s.resetTransport after).1 :=
  ⟨rfl, rfl, rfl, rfl, Nat.le_succ _, id, id, .inl, .inl⟩

/-- The stream is closed when the link is. -/
theorem closeStream_silent (hclosed : s.closed = true) : Silent s s.closeStream.1 where
  handed := rfl
  delivered := rfl
  waiting := by
    change (s.stream ++ [StreamItem.done]).filterMap StreamItem.handed? = _
    rw [filterMap_append]
    exact append_nil _
  reported := rfl
  generation := le_rfl
  closed := id
  streamClosed _ := rfl
  ends _ := .inr hclosed
  returns := .inl

theorem transportOpened_silent (generation : Nat) (sent : Bool) (s : SignalingLink) :
    Silent s (s.transportOpened generation sent).1 ∧
      ∀ s', EndFits s' (s.transportOpened generation sent).2 := by
  unfold transportOpened
  dsimp only
  split_ifs
  · exact ⟨⟨rfl, rfl, rfl, rfl, le_rfl, id, id, .inl, .inl⟩, fun _ => trivial⟩
  · exact ⟨⟨rfl, rfl, rfl, rfl, le_rfl, id, id, .inl, .inl⟩, fun _ => trivial⟩
  · exact ⟨⟨rfl, rfl, rfl, rfl, Nat.le_succ _, id, id, .inl, .inl⟩, fun _ => trivial⟩

theorem registrationReceived_silent (generation transport : Nat) (registered : Bool)
    (s : SignalingLink) :
    Silent s (s.registrationReceived generation transport registered).1 ∧
      ∀ s', EndFits s' (s.registrationReceived generation transport registered).2 := by
  unfold registrationReceived
  split_ifs
  · exact ⟨resetTransport_silent .rethrow s, fun _ => trivial⟩
  · exact ⟨⟨rfl, rfl, rfl, rfl, le_rfl, id, id, .inl, .inl⟩, fun _ => trivial⟩

theorem afterOpen_silent (s : SignalingLink) :
    Silent s (s.afterOpen operation success).1 ∧
      ∀ q, (s.afterOpen operation success).2 = some q → ∀ s', EndFits s' q := by
  cases operation with
  | connect =>
    cases success with
    | true => exact ⟨Silent.refl s, nofun⟩
    | false =>
      refine ⟨⟨rfl, rfl, rfl, rfl, Nat.le_succ _, id, id, .inl, .inl⟩, fun q hq s' => ?_⟩
      rw [← some.inj hq]
      trivial
  | recover => exact ⟨⟨rfl, rfl, rfl, rfl, le_rfl, id, id, .inl, .inl⟩, nofun⟩
  | close => exact ⟨⟨rfl, rfl, rfl, rfl, le_rfl, id, id, .inl, .inl⟩, nofun⟩

/-- An operation that goes on neither hands over nor delivers, and stands at a point that fits. -/
theorem resumeAt_silent (operation : LinkOperation)
    (resumption : LinkResumption) (hpoint : EndFits s point) :
    Silent s (s.resumeAt operation point resumption).1 ∧
      ∀ q, (s.resumeAt operation point resumption).2 = some q →
        EndFits (s.resumeAt operation point resumption).1 q := by
  have hstays : ∀ {q}, EndFits s q → Silent s s ∧ ∀ q', some q = some q' → EndFits s q' :=
    fun hq => ⟨Silent.refl s, fun _ hsome => some.inj hsome ▸ hq⟩
  have hcloses : s.closed = true →
      Silent s s.closeStream.1 ∧ ∀ q, s.closeStream.2 = some q → EndFits s.closeStream.1 q := by
    refine fun hclosed => ⟨closeStream_silent hclosed, fun q hq => ?_⟩
    rw [← some.inj hq]
    exact rfl
  cases point with
  | closing receiveTask after =>
    unfold resumeAt
    dsimp only
    split_ifs
    · exact hstays (by cases after <;> exact hpoint)
    · exact hstays (by cases after <;> exact hpoint)
  | awaitingReceiveTask after => exact hstays (by cases after <;> exact hpoint)
  | reset after =>
    cases after with
    | openTransport =>
      refine ⟨openTransport_silent s, fun q hq => ?_⟩
      rw [← some.inj hq]
      exact openTransport_endFits s
    | rethrow => exact hstays trivial
    | finish => exact ⟨Silent.refl s, nofun⟩
    | closeStream =>
      unfold resumeAt afterReset
      dsimp only
      split_ifs
      · exact hstays hpoint
      · exact hcloses hpoint
  | connecting generation =>
    unfold resumeAt
    dsimp only
    split_ifs
    · obtain ⟨hsilent, hnext⟩ := transportOpened_silent generation resumption.sent s
      refine ⟨hsilent, fun q hq => ?_⟩
      rw [← some.inj hq]
      exact hnext _
    · refine ⟨⟨rfl, rfl, rfl, rfl, le_rfl, id, id, .inl, .inl⟩, fun q hq => ?_⟩
      rw [← some.inj hq]
      trivial
    · exact hstays trivial
  | closingLate => exact hstays trivial
  | registering generation transport =>
    obtain ⟨hsilent, hnext⟩ :=
      registrationReceived_silent generation transport resumption.returned s
    refine ⟨hsilent, fun q hq => ?_⟩
    rw [← some.inj hq]
    exact hnext _
  | opened success =>
    obtain ⟨hsilent, hnext⟩ := afterOpen_silent operation success s
    exact ⟨hsilent, fun q hq => hnext q hq _⟩
  | awaitingRecovery =>
    unfold resumeAt
    dsimp only
    split_ifs
    · exact hstays hpoint
    · exact hcloses hpoint
  | closingStream =>
    unfold resumeAt
    dsimp only
    split_ifs with hempty
    · refine ⟨⟨rfl, rfl, rfl, rfl, le_rfl, id, id, .inl, fun _ => .inr ⟨hpoint, ?_⟩⟩, nofun⟩
      change s.stream.filterMap StreamItem.handed? = []
      rw [hempty]
      rfl
    · exact hstays hpoint

/-- What a step hands over: an item of the connection of the link, while that is open. -/
structure HandsOver (item : Handed) (s s' : SignalingLink) : Prop where
  opened : s.closed = false
  generation : item.generation = s.transportGeneration
  transport : s.transport = some item.transport
  handed : s'.handed = s.handed ++ [item]
  delivered : s'.delivered = s.delivered
  waiting : s'.waiting = s.waiting ++ [item]
  first : item.delivery.isFailure = true → s.reportedFailureGeneration ≠ item.generation
  reported : s'.reportedFailureGeneration =
    if item.delivery.isFailure then item.generation else s.reportedFailureGeneration
  transportGeneration : s'.transportGeneration = s.transportGeneration
  closed : s'.closed = s.closed
  streamClosed : s'.streamClosed = s.streamClosed
  closeReturned : s'.closeReturned = s.closeReturned
  processes : s'.processes = s.processes

/-- Handing an item over keeps what is known of the stream. -/
theorem HandsOver.streamed (hover : HandsOver item s s') (h : Streamed s) : Streamed s' where
  order := by
    rw [hover.delivered, hover.waiting, hover.handed, ← append_assoc, h.order]
  ended := by
    rw [hover.streamClosed, hover.closed]
    exact h.ended
  done hreturned := by
    rw [hover.closeReturned] at hreturned
    have hclosed := h.ended (h.done hreturned).1
    rw [hover.opened] at hclosed
    cases hclosed
  points i p hp := by
    rw [hover.processes] at hp
    have hfits := h.points i p hp
    unfold EndFits at hfits ⊢
    rwa [hover.closed, hover.streamClosed]
  failed := by
    rw [hover.handed, failures_append]
    cases hfailure : item.delivery.isFailure with
    | false =>
      rw [if_neg Bool.false_ne_true, append_nil]
      exact h.failed
    | true =>
      rw [if_pos rfl]
      refine nodup_append.mpr ⟨h.failed, nodup_singleton _, fun g hg _ hlast => ?_⟩
      rw [mem_singleton.mp hlast]
      rintro rfl
      have hle := h.reported _ hg
      have hbound := h.bounded
      have hgeneration := hover.generation
      exact hover.first hfailure (by omega)
  reported g hg := by
    rw [hover.handed, failures_append] at hg
    rw [hover.reported]
    have hbound := h.bounded
    have hgeneration := hover.generation
    cases hfailure : item.delivery.isFailure with
    | false =>
      rw [hfailure, if_neg Bool.false_ne_true, append_nil] at hg
      rw [if_neg Bool.false_ne_true]
      exact h.reported g hg
    | true =>
      rw [hfailure, if_pos rfl] at hg
      rw [if_pos rfl]
      rcases mem_append.mp hg with hg | hg
      · have hle := h.reported g hg
        omega
      · rw [mem_singleton.mp hg]
  bounded := by
    rw [hover.reported, hover.transportGeneration]
    split_ifs
    · exact le_of_eq hover.generation
    · exact h.bounded

theorem handOver_waiting (item : Handed) (s : SignalingLink) :
    (s.handOver item).waiting = s.waiting ++ [item] := by
  unfold waiting handOver
  dsimp only
  rw [filterMap_append]
  rfl

/-- A failure is handed over unless the generation's was. -/
theorem reportFailure_cases {generation transport : Nat} (failure : Delivery)
    (hfailure : failure.isFailure = true) (hopened : s.closed = false)
    (hgeneration : generation = s.transportGeneration) (hown : s.transport = some transport) :
    s.reportFailure generation transport failure = s ∨
      HandsOver ⟨generation, transport, failure⟩ s
        (s.reportFailure generation transport failure) := by
  unfold reportFailure
  by_cases htold : s.reportedFailureGeneration = generation ∨ s.streamClosed
  · rw [if_pos htold]
    exact .inl rfl
  · rw [if_neg htold]
    rw [not_or] at htold
    refine .inr ⟨hopened, hgeneration, hown, rfl, rfl, handOver_waiting _ _, fun _ => htold.1, ?_,
      rfl, rfl, rfl, rfl, rfl⟩
    rw [if_pos hfailure]
    rfl

/-- What a step of a receiving loop or of the heartbeat does to the stream. -/
def Heard (s s' : SignalingLink) : Prop :=
  (Silent s s' ∧ s'.processes = s.processes) ∨ ∃ item, HandsOver item s s'

theorem Heard.unchanged (s : SignalingLink) : Heard s s :=
  .inl ⟨Silent.refl s, rfl⟩

/-- A loop that has ended hands over nothing. -/
theorem loopEnded_heard (generation : Nat) (s : SignalingLink) :
    Heard s { s with loops := update s.loops generation none } :=
  .inl ⟨⟨rfl, rfl, rfl, rfl, le_rfl, id, id, .inl, .inl⟩, rfl⟩

theorem reportFailure_heard {generation transport : Nat} {failure : Delivery}
    (hfailure : failure.isFailure = true) (hopened : s.closed = false)
    (hgeneration : generation = s.transportGeneration) (hown : s.transport = some transport) :
    Heard s (s.reportFailure generation transport failure) := by
  rcases reportFailure_cases failure hfailure hopened hgeneration hown with hsame | hover
  · rw [hsame]
    exact Heard.unchanged s
  · exact .inr ⟨_, hover⟩

theorem loopFailed_heard {generation transport : Nat} (code : SignalingClientErrorCode)
    (hown : generation = s.transportGeneration → s.transport = some transport) :
    Heard s (s.loopFailed generation transport code) := by
  unfold loopFailed
  dsimp only
  split_ifs with hovertaken
  · exact loopEnded_heard generation s
  · rw [not_or, Bool.not_eq_true, not_not] at hovertaken
    obtain ⟨hopened, hgeneration⟩ := hovertaken
    rcases reportFailure_cases (s := { s with
      loops := update s.loops generation none }) (.clientError code) rfl
      hopened hgeneration (hown hgeneration) with hsame | hover
    · rw [hsame]
      exact loopEnded_heard generation s
    · exact .inr ⟨_, hover.opened, hover.generation, hover.transport, hover.handed,
        hover.delivered, hover.waiting, hover.first, hover.reported, hover.transportGeneration,
        hover.closed, hover.streamClosed, hover.closeReturned, hover.processes⟩

theorem receive_heard (generation : Nat) (received : LinkReceived) (h : Connections s) :
    Heard s (s.receive generation received) := by
  unfold receive
  split
  · exact Heard.unchanged s
  · rename_i transport hloop
    have hown := (h.loops generation transport hloop).2
    by_cases hovertaken : s.closed ∨ generation ≠ s.transportGeneration
    · cases received with
      | failed code => exact loopFailed_heard code hown
      | routedSession _ _ | remoteError _ _ | heartbeatAcknowledged _ | registered =>
        dsimp only
        rw [if_pos hovertaken]
        exact loopEnded_heard generation s
    · obtain ⟨hopened, hgeneration⟩ : s.closed = false ∧ generation = s.transportGeneration := by
        rwa [not_or, Bool.not_eq_true, not_not] at hovertaken
      cases received with
      | failed code => exact loopFailed_heard code hown
      | routedSession senderDeviceId opaqueEnvelope =>
        dsimp only
        rw [if_neg hovertaken]
        exact .inr ⟨_, hopened, hgeneration, hown hgeneration, rfl, rfl, handOver_waiting _ _,
          nofun, rfl, rfl, rfl, rfl, rfl, rfl⟩
      | remoteError code retryable =>
        dsimp only
        rw [if_neg hovertaken]
        exact reportFailure_heard rfl hopened hgeneration (hown hgeneration)
      | heartbeatAcknowledged requestId =>
        dsimp only
        rw [if_neg hovertaken]
        split_ifs
        · exact loopFailed_heard _ hown
        · exact .inl ⟨⟨rfl, rfl, rfl, rfl, le_rfl, id, id, .inl, .inl⟩, rfl⟩
      | registered =>
        dsimp only
        rw [if_neg hovertaken]
        exact Heard.unchanged s

theorem sendHeartbeat_heard (s : SignalingLink) :
    Heard s (s.sendHeartbeat requestId sent) := by
  unfold sendHeartbeat
  split
  · rename_i generation transport _ hown
    by_cases hovertaken : s.closed ∨ generation ≠ s.transportGeneration ∨ s.protocol = none
    · rw [if_pos hovertaken]
      exact Heard.unchanged s
    · rw [if_neg hovertaken]
      rw [not_or, not_or, Bool.not_eq_true, not_not] at hovertaken
      obtain ⟨hopened, hgeneration, -⟩ := hovertaken
      split_ifs
      · exact reportFailure_heard rfl hopened hgeneration hown
      · exact .inl ⟨⟨rfl, rfl, rfl, rfl, le_rfl, id, id, .inl, .inl⟩, rfl⟩
      · exact reportFailure_heard rfl hopened hgeneration hown
  · exact Heard.unchanged s

/-- The stream delivers what was handed over first. -/
theorem deliver_streamed (h : Streamed s) : Streamed s.deliver := by
  unfold deliver
  split
  · exact h
  · rename_i item rest hstream
    have hwaiting : s.waiting = item.handed?.toList ++ rest.filterMap StreamItem.handed? := by
      unfold waiting
      rw [hstream, filterMap_cons]
      cases item.handed? with
      | none => rfl
      | some handed => rfl
    refine ⟨?_, h.ended, fun hreturned => ?_, fun i p hp => ?_, h.failed, h.reported, h.bounded⟩
    · have horder := h.order
      rw [hwaiting, ← append_assoc] at horder
      exact horder
    · obtain ⟨hclosed, hnone⟩ := h.done hreturned
      rw [hwaiting] at hnone
      exact ⟨hclosed, (append_eq_nil_iff.mp hnone).2⟩
    · exact h.points i p hp

theorem Heard.streamed (hheard : Heard s s') (h : Streamed s) : Streamed s' := by
  rcases hheard with ⟨hsilent, hprocesses⟩ | ⟨item, hover⟩
  · refine hsilent.streamed (fun i p hp => ?_) h
    rw [hprocesses] at hp
    exact hsilent.endFits (h.points i p hp)
  · exact hover.streamed h

/-- Resuming an operation keeps what is known of the stream. -/
theorem resume_streamed (hconsistent : Consistent s) (h : Streamed s) :
    Silent s (s.resume index resumption) ∧ Streamed (s.resume index resumption) := by
  unfold resume
  split
  · exact ⟨Silent.refl s, h⟩
  · rename_i process hprocess
    obtain ⟨hsilent, hnext⟩ := resumeAt_silent process.operation resumption
      (h.points index process hprocess)
    have hprocesses := (resumeAt_resumed process.operation resumption hconsistent.connections
      (hconsistent.points index process hprocess)).processes
    revert hsilent hnext hprocesses
    generalize s.resumeAt process.operation process.point resumption = result
    obtain ⟨s', next⟩ := result
    intro hsilent hnext hprocesses
    have hprocesses : s'.processes = s.processes := hprocesses
    have hstands : Silent s { s' with
        processes := update s'.processes index
          (next.map fun point => LinkProcess.mk process.operation point) } :=
      hsilent.trans ⟨rfl, rfl, rfl, rfl, le_rfl, id, id, .inl, .inl⟩
    refine ⟨hstands, hstands.streamed (fun i p hp => ?_) h⟩
    by_cases hi : i = index
    · have hp : update s'.processes index
          (next.map fun point => LinkProcess.mk process.operation point) i = some p := hp
      rw [hi, update_self] at hp
      obtain ⟨point, hpoint, rfl⟩ := map_eq_some_iff.mp hp
      exact hnext point hpoint
    · have hp : update s'.processes index
          (next.map fun point => LinkProcess.mk process.operation point) i = some p := hp
      rw [update_of_ne hi, hprocesses] at hp
      exact hstands.endFits (h.points i p hp)

/-- What a call starts is an operation that fits. -/
theorem start_streamed
    (hsilent : Silent s started.1) (hprocesses : started.1.processes = s.processes)
    (hfits : EndFits started.1 started.2) (h : Streamed s) :
    Silent s (start operation started) ∧ Streamed (start operation started) := by
  obtain ⟨s', point⟩ := started
  have hstarted : Silent s (start operation (s', point)) :=
    hsilent.trans ⟨rfl, rfl, rfl, rfl, le_rfl, id, id, .inl, .inl⟩
  refine ⟨hstarted, hstarted.streamed (fun i p hp => ?_) h⟩
  have hp : update s'.processes s'.nextProcess
      (some (LinkProcess.mk operation point)) i = some p := hp
  by_cases hi : i = s'.nextProcess
  · rw [hi, update_self] at hp
    rw [← some.inj hp]
    exact hfits
  · rw [update_of_ne hi, hprocesses] at hp
    exact hstarted.endFits (h.points i p hp)

theorem connect_streamed (hconnections : Connections s) (h : Streamed s) :
    Silent s (s.connect controllerDeviceId) ∧ Streamed (s.connect controllerDeviceId) := by
  unfold connect
  split_ifs
  · exact ⟨Silent.refl s, h⟩
  · have hnamed : Silent s { s with controllerDeviceId := some controllerDeviceId } :=
      ⟨rfl, rfl, rfl, rfl, le_rfl, id, id, .inl, .inl⟩
    have hsame : SameConnections s { s with controllerDeviceId := some controllerDeviceId } :=
      ⟨rfl, rfl, rfl, rfl, rfl, fun _ _ h => h⟩
    have hopened := (openTransport_section (hsame.connections hconnections)).1
    exact start_streamed .connect (hnamed.trans (openTransport_silent _)) hopened.processes
      (openTransport_endFits _) h

theorem recover_streamed (h : Streamed s) : Silent s s.recover ∧ Streamed s.recover := by
  unfold recover
  split_ifs
  · exact ⟨Silent.refl s, h⟩
  · exact start_streamed .recover ⟨rfl, rfl, rfl, rfl, Nat.le_succ _, id, id, .inl, .inl⟩ rfl
      trivial h

theorem close_streamed (h : Streamed s) : Silent s s.close ∧ Streamed s.close := by
  unfold close
  split_ifs
  · exact ⟨Silent.refl s, h⟩
  · exact start_streamed .close
      ⟨rfl, rfl, rfl, rfl, Nat.le_succ _, fun _ => rfl, id, .inl, .inl⟩ rfl rfl h

/-! ## The link over its runs -/

/-- What a step hands over, as a whole. -/
def HandedWhileCurrent (s s' : SignalingLink) : Prop :=
  ∃ new, s'.handed = s.handed ++ new ∧
    ∀ item ∈ new, s.closed = false ∧ item.generation = s.transportGeneration ∧
      s.transport = some item.transport

theorem Silent.handedWhileCurrent (h : Silent s s') : HandedWhileCurrent s s' :=
  ⟨[], by rw [append_nil, h.handed], forall_mem_nil _⟩

theorem Heard.handedWhileCurrent (h : Heard s s') : HandedWhileCurrent s s' := by
  rcases h with ⟨hsilent, -⟩ | ⟨item, hover⟩
  · exact hsilent.handedWhileCurrent
  · refine ⟨[item], hover.handed, forall_mem_singleton.mpr ?_⟩
    exact ⟨hover.opened, hover.generation, hover.transport⟩

/-- Nothing is delivered, unless the stream delivers. -/
theorem Heard.delivered (h : Heard s s') : s'.delivered = s.delivered := by
  rcases h with ⟨hsilent, -⟩ | ⟨item, hover⟩
  · exact hsilent.delivered
  · exact hover.delivered

/-- What a step does to the stream. -/
structure StreamStep (s s' : SignalingLink) : Prop where
  streamed : Streamed s'
  handed : HandedWhileCurrent s s'
  delivered : s.closeReturned = true → s'.delivered = s.delivered

theorem deliver_streamStep (h : Streamed s) : StreamStep s s.deliver := by
  refine ⟨deliver_streamed h, ?_, fun hreturned => ?_⟩
  · unfold deliver
    split
    · exact (Silent.refl s).handedWhileCurrent
    · exact ⟨[], (append_nil _).symm, forall_mem_nil _⟩
  · unfold deliver
    split
    · rfl
    · rename_i item rest hstream
      have hnone := (h.done hreturned).2
      unfold waiting at hnone
      rw [hstream, filterMap_cons] at hnone
      cases hitem : item.handed? with
      | none => exact append_nil _
      | some handed =>
        rw [hitem] at hnone
        cases hnone

theorem step_streamStep (s : SignalingLink) (action : LinkAction) (hconsistent : Consistent s)
    (h : Streamed s) : StreamStep s (s.step action) := by
  have hsilent : ∀ {s'}, Silent s s' ∧ Streamed s' → StreamStep s s' := fun hsilent =>
    ⟨hsilent.2, hsilent.1.handedWhileCurrent, fun _ => hsilent.1.delivered⟩
  have hheard : ∀ {s'}, Heard s s' → StreamStep s s' := fun hheard =>
    ⟨hheard.streamed h, hheard.handedWhileCurrent, fun _ => hheard.delivered⟩
  cases action with
  | connect controllerDeviceId =>
    exact hsilent (connect_streamed controllerDeviceId hconsistent.connections h)
  | recover => exact hsilent (recover_streamed h)
  | relay => exact hsilent ⟨Silent.refl s, h⟩
  | close => exact hsilent (close_streamed h)
  | resume index resumption => exact hsilent (resume_streamed index resumption hconsistent h)
  | receive generation received =>
    exact hheard (receive_heard generation received hconsistent.connections)
  | heartbeat requestId sent => exact hheard (sendHeartbeat_heard requestId sent s)
  | lateTransport connected =>
    apply hheard
    unfold step lateTransport
    dsimp only
    split_ifs
    · exact Heard.unchanged s
    · exact .inl ⟨⟨rfl, rfl, rfl, rfl, le_rfl, id, id, .inl, .inl⟩, rfl⟩
    · exact .inl ⟨⟨rfl, rfl, rfl, rfl, le_rfl, id, id, .inl, .inl⟩, rfl⟩
  | deliver => exact deliver_streamStep h

/-- What is known of the link after every run. -/
theorem run_known (actions : List LinkAction) :
    Consistent (machine.run new actions) ∧ Streamed (machine.run new actions) :=
  Machine.run_invariant (fun s => Consistent s ∧ Streamed s) (G := fun _ _ => True)
    (fun s action h _ =>
      ⟨step_consistent s action h.1, (step_streamStep s action h.1 h.2).streamed⟩)
    ⟨new_consistent, new_streamed⟩ (Machine.guarded_true _ actions)

/-- Only the connection of the link is open: every other one was told to close. -/
theorem Connections.only_open (h : Connections s) (t : Nat) :
    (t ∈ s.opened ∧ t ∉ s.closeCalled) ↔ s.transport = some t := by
  constructor
  · rintro ⟨hopened, hnot⟩
    exact (h.accounted t hopened).resolve_right hnot
  · exact h.owned t

theorem Streamed.failures_once (h : Streamed s) : (failures s.delivered).Nodup := by
  have hfailed := h.failed
  rw [← h.order] at hfailed
  unfold failures at hfailed ⊢
  rw [filter_append, map_append] at hfailed
  exact (nodup_append.mp hfailed).1

/-- After every run, a step hands over only what comes from the connection of the link, while it
is of the present generation and the link is not closed; the stream delivers this in its order,
with one failure of a generation at most.  A connection that was opened and not told to close is
that of the link, and a closed link has none.  An envelope is sent on that connection only.  Once
closing has ended nothing is delivered. -/
theorem link_generations (actions : List LinkAction) (action : LinkAction) :
    let s := machine.run new actions
    let s' := s.step action
    (∃ handed, s'.handed = s.handed ++ handed ∧
      ∀ item ∈ handed, s.closed = false ∧ item.generation = s.transportGeneration ∧
        s.transport = some item.transport) ∧
    s.delivered ++ s.waiting = s.handed ∧
    (failures s.delivered).Nodup ∧
    (∀ t, (t ∈ s.opened ∧ t ∉ s.closeCalled) ↔ s.transport = some t) ∧
    (∀ t, s.relay = some t → s.closed = false ∧ s.transport = some t) ∧
    (s.closed = true → s.transport = none) ∧
    (s.closeReturned = true → s'.delivered = s.delivered) := by
  intro s s'
  obtain ⟨hconsistent, hstreamed⟩ := run_known actions
  have hstep := step_streamStep s action hconsistent hstreamed
  refine ⟨hstep.handed, hstreamed.order, hstreamed.failures_once,
    hconsistent.connections.only_open, fun t hrelay => ?_, hconsistent.connections.shut,
    hstep.delivered⟩
  unfold relay at hrelay
  split_ifs at hrelay with hrefused
  rw [not_or, Bool.not_eq_true] at hrefused
  exact ⟨hrefused.1, hrelay⟩

/-- An envelope that waits in the stream is delivered after the link was closed: its generation
has gone by, and its connection was told to close. -/
theorem delivered_late :
    let answered : LinkResumption := ⟨true, false, true⟩
    let s := machine.run new [.connect (replicate 32 1), .resume 0 answered,
      .resume 0 answered, .receive 1 (.routedSession [2] [3]), .close]
    (s.step .deliver).delivered = [⟨1, 0, .routedSession [2] [3]⟩] ∧ s.delivered = [] ∧
      s.closed = true ∧ s.transportGeneration = 2 ∧ s.closeCalled = [0] ∧
      s.transport = none := by
  decide

end SignalingLink

end Client

end Roammand
