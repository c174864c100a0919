import Roammand.Library.Bytes
import Roammand.Bridge.Lease

/-!
# Privileged bridge: framed calls and queued events

Both hops of the bridge, Helper to broker and broker to Host, carry two kinds of
frame in one direction: answers to calls, and events nobody asked for.  A call
waits for its answer and sets aside the events it meets on the way; a poll
returns the events set aside before it reads the transport again.

Events set aside go to an `EventQueue`: a bounded queue for critical events and
one slot for the newest pointer position.  The queue hands out critical events
first, and the slot keeps only its last value, so what leaves the queue is in
general neither complete nor in the order of arrival.  `FramedBridgeRpc.Clear`
is the condition on a receiving call under which it is both.

Main results:

- Definitions `FramedBridgeRpc.callReceive` and `FramedBridgeRpc.tryEvent`: one turn of
  the loop of a call, and one poll.
- Theorem `FramedBridgeRpc.tryEvent_spec`: a poll takes the oldest waiting event.
- Theorem `FramedBridgeRpc.callReceive_spec`: a clear turn of a call loses and
  reorders no event.
-/

namespace Roammand

namespace Bridge

open Library

/-- How many critical events an event queue holds. -/
def maxCriticalEvents : Nat := 256

/-! ## The event queue -/

/-- The errors of an event queue. -/
inductive EventQueueError where
  | criticalOverflow
  | failed

/-- Events set aside: critical ones in order, and the newest pointer event. -/
structure EventQueue (τ : Type) where
  critical : List τ
  fast : Option τ
  failed : Bool

namespace EventQueue

variable {τ : Type}

/-- A queue with no events. -/
def new : EventQueue τ := { critical := [], fast := none, failed := false }

/-- A queue that has overflowed keeps nothing. -/
def failClosed (_ : EventQueue τ) : EventQueue τ :=
  { critical := [], fast := none, failed := true }

/-- Enqueue a critical event, or fail the queue closed on overflow. -/
def pushCritical (q : EventQueue τ) (event : τ) :
    EventQueue τ × Except EventQueueError Unit :=
  if q.failed then (q, .error .failed)
  else if maxCriticalEvents ≤ q.critical.length then (q.failClosed, .error .criticalOverflow)
  else ({ q with critical := q.critical ++ [event] }, .ok ())

/-- Replace the pending pointer event with the newest value. -/
def pushFast (q : EventQueue τ) (event : τ) : EventQueue τ × Except EventQueueError Unit :=
  if q.failed then (q, .error .failed)
  else ({ q with fast := some event }, .ok ())

/-- Take the oldest critical event. -/
def popCritical (q : EventQueue τ) : EventQueue τ × Except EventQueueError (Option τ) :=
  if q.failed then (q, .error .failed)
  else ({ q with critical := q.critical.tail }, .ok q.critical.head?)

/-- Take the pending pointer event. -/
def popFast (q : EventQueue τ) : EventQueue τ × Option τ :=
  if q.failed then (q, none)
  else ({ q with fast := none }, q.fast)

/-- What the queue hands out, in the order in which it does. -/
def pending (q : EventQueue τ) : List τ := q.critical ++ q.fast.toList

variable {q : EventQueue τ}

theorem pushCritical_of_room {event : τ} (hlive : q.failed = false)
    (hroom : q.critical.length < maxCriticalEvents) :
    q.pushCritical event = ({ q with critical := q.critical ++ [event] }, .ok ()) := by
  have hnot : ¬ maxCriticalEvents ≤ q.critical.length := by omega
  simp [pushCritical, hlive, hnot]

theorem pushFast_of_live {event : τ} (hlive : q.failed = false) :
    q.pushFast event = ({ q with fast := some event }, .ok ()) := by
  simp [pushFast, hlive]

end EventQueue

/-! ## Frames -/

/-- A lease with the generation of the desktop it was granted for. -/
structure ProxyRoute where
  leaseId : Bytes16
  generation : Nat
  deriving DecidableEq

/-- A local ICE candidate of the privileged peer. -/
structure PeerIceCandidate where
  candidate : String
  sdpMid : String
  sdpMLineIndex : Nat
  deriving DecidableEq

/-- The answer of the privileged peer to an offer. -/
structure PeerAnswer where
  sdp : String
  dtlsFingerprintSha256 : Bytes

/-- The states of the privileged peer. -/
inductive PeerState where
  | new
  | negotiating
  | connected
  | disconnected
  | failed
  | closed

/-- What a frame from the Helper side of a hop carries once the connection is set
up: four kinds of event and the answers to calls. -/
inductive ServerPayload where
  | localIceCandidate (route : ProxyRoute) (candidate : PeerIceCandidate)
  | peerStateChanged (route : ProxyRoute) (state : PeerState)
  | reliableInput (route : ProxyRoute) (encodedEnvelope : Bytes)
  | fastPointer (route : ProxyRoute) (encodedEnvelope : Bytes)
  | peerAnswer (route : ProxyRoute) (answer : PeerAnswer)
  | commandAccepted (route : ProxyRoute)
  | lease (route : ProxyRoute)
  | error

/-- A frame from the Helper side of a hop. -/
structure ServerFrame where
  requestId : String
  sequence : Nat
  payload : ServerPayload

/-- The commands a Host sends over the bridge. -/
inductive Command where
  | startPeer
  | restartPeer
  | addIceCandidate
  | inputCommand
  | sendSecureAttention
  | closePeer
  | renewLease
  | releaseLease
  deriving DecidableEq

/-- A frame from the Host side of a hop. -/
structure ClientFrame where
  requestId : String
  sequence : Nat
  route : ProxyRoute
  command : Command

namespace ServerFrame

variable (frame : ServerFrame)

/-- The frame is a pointer event. -/
def isFast : Bool :=
  match frame.payload with
  | .fastPointer .. => true
  | _ => false

/-- The frame is an event that must not be lost. -/
def isCritical : Bool :=
  match frame.payload with
  | .localIceCandidate .. | .peerStateChanged .. | .reliableInput .. => true
  | _ => false

/-- The frame is an event, not an answer. -/
def isEvent : Bool := frame.isFast || frame.isCritical

end ServerFrame

/-! ## Framed calls -/

/-- The errors of the Host's side of the bridge. -/
inductive ProxyError where
  | transport
  | staleRoute
  | staleResponse
  | failedClosed
  | invalidMigration
  | invalidConfiguration
  | invalidMessage
  | helperUnavailable
  | rejected
  deriving DecidableEq

/-- The receiving end of a hop: the frames sent and not yet received, and whether
the other end is gone.  Frames sent before the other end went are still
received. -/
structure Transport where
  incoming : List ServerFrame
  closed : Bool

/-- One end of a hop. -/
structure FramedBridgeRpc where
  transport : Transport
  events : EventQueue ServerFrame
  failed : Bool

namespace FramedBridgeRpc

/-- A fresh end of an open hop. -/
def new : FramedBridgeRpc :=
  { transport := { incoming := [], closed := false }, events := .new, failed := false }

/-- The other end sends a frame. -/
def push (rpc : FramedBridgeRpc) (frame : ServerFrame) : FramedBridgeRpc :=
  { rpc with transport.incoming := rpc.transport.incoming ++ [frame] }

/-- Nothing is received or sent any more. -/
def failClosed (rpc : FramedBridgeRpc) : FramedBridgeRpc := { rpc with failed := true }

/-- Set an event aside; an answer is returned to the caller. -/
def enqueueEvent (rpc : FramedBridgeRpc) (frame : ServerFrame) :
    FramedBridgeRpc × Except ProxyError (Option ServerFrame) :=
  match frame.payload with
  | .fastPointer .. =>
    ({ rpc with events := (rpc.events.pushFast frame).1 },
      match (rpc.events.pushFast frame).2 with
      | .error _ => .error .failedClosed
      | .ok () => .ok none)
  | .localIceCandidate .. | .peerStateChanged .. | .reliableInput .. =>
    ({ rpc with events := (rpc.events.pushCritical frame).1 },
      match (rpc.events.pushCritical frame).2 with
      | .error _ => .error .failedClosed
      | .ok () => .ok none)
  | _ => (rpc, .ok (some frame))

/-- Take an event set aside earlier, critical events first. -/
def queuedEvent (rpc : FramedBridgeRpc) :
    FramedBridgeRpc × Except ProxyError (Option ServerFrame) :=
  let (events, popped) := rpc.events.popCritical
  match popped with
  | .error _ => ({ rpc with events }, .error .failedClosed)
  | .ok (some event) => ({ rpc with events }, .ok (some event))
  | .ok none =>
    let (events, fast) := events.popFast
    ({ rpc with events }, .ok fast)

section Receiving

variable (accepts : ServerFrame → Bool)

/-- One turn of the receive loop of a call that waits for the answer to `request`:
`none` while the call goes on waiting.  `accepts` tells which frames the decoder
lets through. -/
def callReceive (rpc : FramedBridgeRpc) (request : ClientFrame) :
    FramedBridgeRpc × Option (Except ProxyError ServerFrame) :=
  match rpc.transport.incoming with
  | [] =>
    if rpc.transport.closed then (rpc.failClosed, some (.error .transport)) else (rpc, none)
  | frame :: rest =>
    let rpc := { rpc with transport := { rpc.transport with incoming := rest } }
    if !accepts frame then (rpc.failClosed, some (.error .invalidMessage))
    else
      match rpc.enqueueEvent frame with
      | (rpc, .error error) => (rpc.failClosed, some (.error error))
      | (rpc, .ok none) => (rpc, none)
      | (rpc, .ok (some response)) =>
        if response.requestId ≠ request.requestId ∨ response.sequence ≠ request.sequence then
          (rpc.failClosed, some (.error .staleResponse))
        else
          (rpc, some (.ok response))

/-- Poll one event: an event set aside if there is one, else the next frame of the
transport if there is one. -/
def tryEvent (rpc : FramedBridgeRpc) :
    FramedBridgeRpc × Except ProxyError (Option ServerFrame) :=
  if rpc.failed then (rpc, .error .failedClosed)
  else
    match rpc.queuedEvent with
    | (rpc, .error error) => (rpc, .error error)
    | (rpc, .ok (some event)) => (rpc, .ok (some event))
    | (rpc, .ok none) =>
      match rpc.transport.incoming with
      | [] =>
        if rpc.transport.closed then (rpc.failClosed, .error .transport) else (rpc, .ok none)
      | frame :: rest =>
        let rpc := { rpc with transport := { rpc.transport with incoming := rest } }
        if !accepts frame then (rpc.failClosed, .error .invalidMessage)
        else
          match rpc.enqueueEvent frame with
          | (rpc, .error error) => (rpc.failClosed, .error error)
          | (rpc, .ok none) => rpc.queuedEvent
          | (rpc, .ok (some _)) => (rpc.failClosed, .error .staleResponse)

end Receiving

/-! ## What a poll and a call do to the waiting events -/

/-- Neither the end nor its queue has failed. -/
def Live (rpc : FramedBridgeRpc) : Prop := rpc.failed = false ∧ rpc.events.failed = false

/-- The events that have arrived at this end and have not been polled. -/
def awaiting (rpc : FramedBridgeRpc) : List ServerFrame :=
  rpc.events.pending ++ rpc.transport.incoming.filter (·.isEvent)

/-- The answers that have arrived at this end and have not been received. -/
def responses (rpc : FramedBridgeRpc) : List ServerFrame :=
  rpc.transport.incoming.filter (!·.isEvent)

/-- A call may receive the next frame without disturbing the events set aside: it
is an answer, or the pointer slot is free and, for a critical event, the queue has
room. -/
def Clear (rpc : FramedBridgeRpc) : Prop :=
  match rpc.transport.incoming with
  | [] => True
  | frame :: _ =>
    frame.isEvent → rpc.events.fast = none ∧
      (frame.isCritical → rpc.events.critical.length < maxCriticalEvents)

instance (rpc : FramedBridgeRpc) : Decidable rpc.Clear :=
  match h : rpc.transport.incoming with
  | [] => isTrue (by simp [Clear, h])
  | frame :: _ =>
    decidable_of_iff
      (frame.isEvent → rpc.events.fast = none ∧
        (frame.isCritical → rpc.events.critical.length < maxCriticalEvents))
      (by simp [Clear, h])

variable {rpc : FramedBridgeRpc} {accepts : ServerFrame → Bool}

@[simp]
theorem awaiting_push (rpc : FramedBridgeRpc) (frame : ServerFrame) :
    (rpc.push frame).awaiting = rpc.awaiting ++ if frame.isEvent then [frame] else [] := by
  by_cases h : frame.isEvent <;> simp [push, awaiting, h]

@[simp]
theorem responses_push (rpc : FramedBridgeRpc) (frame : ServerFrame) :
    (rpc.push frame).responses = rpc.responses ++ if frame.isEvent then [] else [frame] := by
  by_cases h : frame.isEvent <;> simp [push, responses, h]

variable {frame : ServerFrame}

theorem enqueueEvent_event (hlive : rpc.events.failed = false)
    (hevent : frame.isEvent) (hfast : rpc.events.fast = none)
    (hroom : frame.isCritical → rpc.events.critical.length < maxCriticalEvents) :
    ∃ events, rpc.enqueueEvent frame = ({ rpc with events }, .ok none) ∧
      events.failed = false ∧ events.pending = rpc.events.pending ++ [frame] := by
  by_cases hcritical : frame.isCritical
  · have hpush := @EventQueue.pushCritical_of_room _ _ frame hlive (hroom hcritical)
    refine ⟨{ rpc.events with critical := rpc.events.critical ++ [frame] }, ?_, hlive, ?_⟩
    · unfold ServerFrame.isCritical at hcritical
      unfold enqueueEvent
      rw [hpush]
      split at hcritical <;> simp_all
    · simp [EventQueue.pending, hfast]
  · have hpointer : frame.isFast := by simpa [ServerFrame.isEvent, hcritical] using hevent
    refine ⟨{ rpc.events with fast := some frame }, ?_, hlive, ?_⟩
    · unfold ServerFrame.isFast at hpointer
      unfold enqueueEvent
      rw [EventQueue.pushFast_of_live hlive]
      split at hpointer <;> simp_all
    · simp [EventQueue.pending, hfast]

theorem enqueueEvent_answer (h : frame.isEvent = false) :
    rpc.enqueueEvent frame = (rpc, .ok (some frame)) := by
  unfold ServerFrame.isEvent ServerFrame.isFast ServerFrame.isCritical at h
  unfold enqueueEvent
  split <;> simp_all

theorem queuedEvent_empty (hlive : rpc.events.failed = false) (h : rpc.events.pending = []) :
    rpc.queuedEvent = (rpc, .ok none) := by
  obtain ⟨hcritical, hfast⟩ := List.append_eq_nil_iff.mp h
  have hnone : rpc.events.fast = none := by simpa using hfast
  obtain ⟨transport, ⟨critical, fast, failed⟩, stopped⟩ := rpc
  simp_all [queuedEvent, EventQueue.popCritical, EventQueue.popFast]

variable {rest : List ServerFrame}

theorem queuedEvent_cons
    (hlive : rpc.events.failed = false) (h : rpc.events.pending = frame :: rest) :
    ∃ events, rpc.queuedEvent = ({ rpc with events }, .ok (some frame)) ∧
      events.failed = false ∧ events.pending = rest := by
  obtain ⟨transport, ⟨critical, fast, failed⟩, stopped⟩ := rpc
  cases critical with
  | nil =>
    obtain ⟨rfl, rfl⟩ : fast = some frame ∧ rest = [] := by
      cases fast <;> simp_all [EventQueue.pending]
    exact ⟨{ critical := [], fast := none, failed := false }, by
      simp_all [queuedEvent, EventQueue.popCritical, EventQueue.popFast], rfl, rfl⟩
  | cons first critical =>
    obtain ⟨rfl, rfl⟩ : first = frame ∧ critical ++ fast.toList = rest := by
      simpa [EventQueue.pending] using h
    exact ⟨{ critical, fast, failed := false }, by
      simp_all [queuedEvent, EventQueue.popCritical], rfl, rfl⟩

/-- Why an end gives up that is none of the queue's doing: the other end is gone,
or a frame did not decode. -/
def Refuses (accepts : ServerFrame → Bool) (rpc : FramedBridgeRpc) (error : ProxyError) : Prop :=
  (error = .transport ∧ rpc.transport.closed = true) ∨
    (error = .invalidMessage ∧
      ∃ frame, (frame ∈ rpc.awaiting ∨ frame ∈ rpc.responses) ∧ accepts frame = false)

theorem refuses_of_head
    (hincoming : rpc.transport.incoming = frame :: rest) (haccepts : ¬ accepts frame) :
    rpc.Refuses accepts .invalidMessage := by
  have hmem : frame ∈ rpc.transport.incoming := by
    rw [hincoming]
    exact List.mem_cons_self
  refine .inr ⟨rfl, frame, ?_, by simpa using haccepts⟩
  by_cases hevent : frame.isEvent
  · exact .inl (List.mem_append_right _ (List.mem_filter.mpr ⟨hmem, hevent⟩))
  · exact .inr (List.mem_filter.mpr ⟨hmem, by simpa using hevent⟩)

/-- What a poll may do. -/
inductive Polled (accepts : ServerFrame → Bool) (rpc : FramedBridgeRpc) :
    FramedBridgeRpc × Except ProxyError (Option ServerFrame) → Prop where
  | event (frame : ServerFrame) (next : FramedBridgeRpc) :
      next.Live → rpc.awaiting = frame :: next.awaiting → next.responses = rpc.responses →
      next.transport.closed = rpc.transport.closed → Polled accepts rpc (next, .ok (some frame))
  | nothing : rpc.awaiting = [] → rpc.transport.closed = false →
      Polled accepts rpc (rpc, .ok none)
  | refused (error : ProxyError) (next : FramedBridgeRpc) :
      next.failed = true → rpc.Refuses accepts error → Polled accepts rpc (next, .error error)

/-- A poll of a live end at which no answer waits takes the oldest waiting event. -/
theorem tryEvent_spec (hlive : rpc.Live) (hresponses : rpc.responses = []) :
    Polled accepts rpc (rpc.tryEvent accepts) := by
  obtain ⟨hopen, hevents⟩ := hlive
  cases hpending : rpc.events.pending with
  | cons frame rest =>
    obtain ⟨events, heq, hfailed, hrest⟩ := queuedEvent_cons hevents hpending
    rw [tryEvent, hopen, heq]
    apply Polled.event frame
    · exact ⟨hopen, hfailed⟩
    · simp [awaiting, hpending, hrest]
    · rfl
    · rfl
  | nil =>
    rw [tryEvent, hopen, queuedEvent_empty hevents hpending]
    cases hincoming : rpc.transport.incoming with
    | nil =>
      by_cases hclosed : rpc.transport.closed
      · simp only [hincoming, hclosed, Bool.false_eq_true, if_false, if_true]
        exact .refused _ _ rfl (.inl ⟨rfl, hclosed⟩)
      · simp only [hincoming, hclosed, Bool.false_eq_true, if_false]
        exact .nothing (by simp [awaiting, hpending, hincoming]) (by simpa using hclosed)
    | cons frame rest =>
      have hevent : frame.isEvent = true := by
        by_contra hanswer
        simp [responses, hincoming, hanswer] at hresponses
      have hnone : rpc.events.fast = none := by
        simpa using (List.append_eq_nil_iff.mp hpending).2
      have hempty : rpc.events.critical = [] := (List.append_eq_nil_iff.mp hpending).1
      by_cases haccepts : accepts frame
      · set received : FramedBridgeRpc :=
          { rpc with transport := { rpc.transport with incoming := rest } } with hreceived
        obtain ⟨events, hpush, hfailed, hqueue⟩ :=
          @enqueueEvent_event received frame hevents hevent hnone
            (fun _ => by simp [hreceived, hempty, maxCriticalEvents])
        obtain ⟨events', hpop, hfailed', hqueue'⟩ :=
          @queuedEvent_cons { received with events } frame [] hfailed
            (by simpa [hreceived, hpending] using hqueue)
        simp only [hincoming, haccepts, Bool.false_eq_true, if_false, Bool.not_true,
          ← hreceived, hpush, hpop]
        apply Polled.event frame
        · exact ⟨hopen, hfailed'⟩
        · simp [awaiting, hpending, hincoming, hevent, hqueue', hreceived]
        · simp [responses, hincoming, hevent, hreceived]
        · rfl
      · simp only [hincoming, haccepts, Bool.false_eq_true, if_false, Bool.not_false, if_true]
        exact .refused _ _ rfl (refuses_of_head hincoming haccepts)

/-- What one turn of a call may do. -/
inductive Received (accepts : ServerFrame → Bool) (rpc : FramedBridgeRpc) (request : ClientFrame) :
    FramedBridgeRpc × Option (Except ProxyError ServerFrame) → Prop where
  | waiting (next : FramedBridgeRpc) :
      next.Live → next.awaiting = rpc.awaiting → next.responses = rpc.responses →
      next.transport.closed = rpc.transport.closed → Received accepts rpc request (next, none)
  | answered (response : ServerFrame) (next : FramedBridgeRpc) :
      next.Live → next.awaiting = rpc.awaiting → rpc.responses = response :: next.responses →
      next.transport.closed = rpc.transport.closed →
      Received accepts rpc request (next, some (.ok response))
  | stale (response : ServerFrame) (next : FramedBridgeRpc) :
      next.failed = true → response ∈ rpc.responses →
      (response.requestId ≠ request.requestId ∨ response.sequence ≠ request.sequence) →
      Received accepts rpc request (next, some (.error .staleResponse))
  | refused (error : ProxyError) (next : FramedBridgeRpc) :
      next.failed = true → rpc.Refuses accepts error →
      Received accepts rpc request (next, some (.error error))

/-- A clear turn of a call on a live end keeps every waiting event in its place. -/
theorem callReceive_spec {request : ClientFrame} (hlive : rpc.Live) (hclear : rpc.Clear) :
    Received accepts rpc request (rpc.callReceive accepts request) := by
  obtain ⟨hopen, hevents⟩ := hlive
  rw [callReceive]
  cases hincoming : rpc.transport.incoming with
  | nil =>
    by_cases hclosed : rpc.transport.closed
    · simp only [hclosed, if_true]
      exact .refused _ _ rfl (.inl ⟨rfl, hclosed⟩)
    · simp only [hclosed, Bool.false_eq_true, if_false]
      exact .waiting _ ⟨hopen, hevents⟩ rfl rfl rfl
  | cons frame rest =>
    by_cases haccepts : accepts frame
    · set received : FramedBridgeRpc :=
        { rpc with transport := { rpc.transport with incoming := rest } } with hreceived
      by_cases hevent : frame.isEvent
      · simp only [Clear, hincoming, hevent, forall_const] at hclear
        obtain ⟨events, hpush, hfailed, hqueue⟩ :=
          @enqueueEvent_event received frame hevents hevent hclear.1 hclear.2
        simp only [haccepts, Bool.not_true, Bool.false_eq_true, if_false, ← hreceived, hpush]
        apply Received.waiting
        · exact ⟨hopen, hfailed⟩
        · simp [awaiting, hqueue, hincoming, hevent, hreceived]
        · simp [responses, hincoming, hevent, hreceived]
        · rfl
      · have hanswer : frame.isEvent = false := by simpa using hevent
        simp only [haccepts, Bool.not_true, Bool.false_eq_true, if_false, ← hreceived,
          enqueueEvent_answer hanswer]
        by_cases hmatch :
            frame.requestId ≠ request.requestId ∨ frame.sequence ≠ request.sequence
        · rw [if_pos hmatch]
          exact .stale frame _ rfl (by simp [responses, hincoming, hanswer]) hmatch
        · rw [if_neg hmatch]
          apply Received.answered frame
          · exact ⟨hopen, hevents⟩
          · simp [awaiting, hincoming, hanswer, hreceived]
          · simp [responses, hincoming, hanswer, hreceived]
          · rfl
    · simp only [haccepts, Bool.not_false, if_true]
      exact .refused _ _ rfl (refuses_of_head hincoming haccepts)

end FramedBridgeRpc

end Bridge

end Roammand
