import Roammand.Server.Service

/-!
# What the service can do in one step

The handlers of the frames differ in the replies they send far more than in what they do to the
shared state.  This module says once what a handler can do; the results about the service are
case analyses over that list.

Main results:

- Definition `Task.Plain`: a task that announces no removal and relays no pairing envelope.
- Definition `Service.Handled` with theorem `handleFrame_handled`: everything that the handling
  of a frame can do.
- Definition `Service.Stepped` with theorem `step_stepped`: everything that a step can do.
-/

namespace Roammand

namespace Server

open Library Protocol RendezvousStore

/-- The pairing envelope that a frame relays: the rendezvous, the sender and the envelope. -/
def pairingEnvelope (frame : SignalingServerFrame) : Option (Bytes × Bytes × Bytes) :=
  match frame.payload with
  | some (.routedPairing rendezvousId senderDeviceId opaqueEnvelope) =>
    some (rendezvousId, senderDeviceId, opaqueEnvelope)
  | _ => none

/-- The owner of a registration: its token and its connection. -/
def Route.owner (route : Route) : UInt64 × Nat := (route.token, route.connection)

namespace Task

/-- The notices that a task has still to attempt. -/
def notices : Task → List (Nat × DeviceID)
  | .sendToDevice _ _ _ notice => notice.toList
  | .reply _ notice => notice.toList
  | _ => []

/-- The pairing envelope that a task relays. -/
def routed : Task → Option (Bytes × Bytes × Bytes)
  | .sendToDevice _ frame _ _ => pairingEnvelope frame
  | .send _ _ frame _ => pairingEnvelope frame
  | .reply frame _ => pairingEnvelope frame
  | _ => none

/-- The connection that a task sends to without a further lookup, with its device. -/
def direct : Task → Option (Nat × DeviceID)
  | .send connection deviceID _ _ => some (connection, deviceID)
  | _ => none

/-- A task that announces no removal, relays no pairing envelope and has not looked up its
recipient yet. -/
structure Plain (task : Task) : Prop where
  notices : task.notices = []
  routed : task.routed = none
  direct : task.direct = none

end Task

namespace Service

/-- Tasks that announce no removal and relay no pairing envelope. -/
def AllPlain (tasks : List Task) : Prop := ∀ task ∈ tasks, task.Plain

variable (code : ErrorCode)

/-- An error carries no envelope. -/
theorem pairingEnvelope_publicError (requestID : String) :
    pairingEnvelope (publicError code requestID) = none := by
  unfold publicError
  cases publicErrorSpec code <;> rfl

/-- A response without an envelope is plain. -/
theorem allPlain_respond {frame : SignalingServerFrame} (h : pairingEnvelope frame = none) :
    AllPlain (respond frame) := by
  intro task htask
  rw [respond, List.mem_singleton] at htask
  subst htask
  exact ⟨rfl, h, rfl⟩

/-- An error is plain. -/
theorem allPlain_publicError (requestID : String) :
    AllPlain (respond (publicError code requestID)) :=
  allPlain_respond (pairingEnvelope_publicError code requestID)

theorem allPlain_singleton {task : Task} (h : task.Plain) : AllPlain [task] := by
  intro task' htask
  rw [List.mem_singleton.mp htask]
  exact h

theorem allPlain_nil : AllPlain [] := fun _ htask => absurd htask List.not_mem_nil

/-- What follows a frame is plain. -/
theorem allPlain_afterSend (reached : Bool) (after : AfterSend) :
    AllPlain (afterSend reached after) := by
  cases after with
  | ignore => exact allPlain_nil
  | offline requestID =>
    cases reached
    · exact allPlain_publicError _ _
    · exact allPlain_nil
  | hostJoined requestID rendezvous now =>
    cases reached
    · exact allPlain_singleton ⟨rfl, rfl, rfl⟩
    · exact allPlain_respond rfl

/-- The notices of plain tasks. -/
theorem AllPlain.notices {tasks : List Task} (h : AllPlain tasks) :
    tasks.flatMap Task.notices = [] := by
  rw [List.flatMap_eq_nil_iff]
  exact fun task htask => (h task htask).notices

/-! ## Handlers -/

/-- Everything that the handling of a frame can do. -/
inductive Handled (s : Service) (n : Nat) (connection : ClientConnection)
    (payload : SignalingClientPayload) (now : Time) : Service → List Task → Prop
  | quiet {tasks} (plain : AllPlain tasks) : Handled s n connection payload now s tasks
  | touched {presence tasks}
      (same : ∀ d, (presence.lookup d).map Route.owner = (s.presence.lookup d).map Route.owner)
      (plain : AllPlain tasks) : Handled s n connection payload now { s with presence } tasks
  | closed : Handled s n connection payload now
      (s.setConnection n { connection with closed := true }) []
  | registered {d tasks} (unregistered : connection.registered = false) (free : d ∉ s.presence)
      (plain : AllPlain tasks) :
      Handled s n connection payload now
        ({ s with presence := s.presence.insert d ⟨connection.token, n, now⟩ }.setConnection n
          { connection with deviceID := d, registered := true }) tasks
  | createRefused {removed store tasks}
      (sweeps : Sweeps s.rendezvous now removed store) (plain : AllPlain tasks) :
      Handled s n connection payload now { s.recordRemovals removed none with rendezvous := store }
        (notifyAll .expired none s.removals.length removed ++ tasks)
  | created {stored removed store tasks} (registered : connection.registered = true)
      (sweeps : Sweeps s.rendezvous now removed store)
      (host : stored.host = connection.deviceID) (controller : stored.controller = none)
      (free : store.refusal stored = none) (plain : AllPlain tasks) :
      Handled s n connection payload now
        { s.recordRemovals removed none with
          rendezvous := store.add stored
          createdBy := Function.update s.createdBy stored.id n }
        (notifyAll .expired none s.removals.length removed ++ tasks)
  | joined {r tasks} (registered : connection.registered = true)
      (stored : s.rendezvous.byID.lookup r.id = some r) (notHost : r.host ≠ connection.deviceID)
      (unjoined : r.controller = none) (plain : AllPlain tasks) :
      Handled s n connection payload now
        { s with
          rendezvous := s.rendezvous.joined r connection.deviceID
          joinedBy := Function.update s.joinedBy r.id n } tasks
  | relayed {id r peer opaqueEnvelope requestID} (registered : connection.registered = true)
      (request : payload = .relayPairing id.1 opaqueEnvelope)
      (stored : s.rendezvous.byID.lookup id = some r) (live : now < r.expiresAt)
      (members : (connection.deviceID = r.host ∧ r.controller = some peer) ∨
        (r.controller = some connection.deviceID ∧ peer = r.host)) :
      Handled s n connection payload now s
        [.sendToDevice peer
          (baseServerFrame "" (.routedPairing id.1 connection.deviceID.1 opaqueEnvelope))
          (.offline requestID) none]
  | completed {r store requestID completion}
      (stored : s.rendezvous.byID.lookup r.id = some r) (host : r.host = connection.deviceID)
      (sound : Sound s.rendezvous store)
      (removes : Removes s.rendezvous [r] store) :
      Handled s n connection payload now { s.recordRemovals [r] none with rendezvous := store }
        (.reply (rendezvousClosedFrame requestID r.id completion)
            (some (s.removals.length, connection.deviceID)) ::
          r.controller.toList.map fun controller =>
            .sendToDevice controller (rendezvousClosedFrame "" r.id completion) .ignore
              (some (s.removals.length, controller)))

/-- Without removals nothing is recorded. -/
theorem recordRemovals_nil (s : Service) (disconnected : Option DeviceID) :
    s.recordRemovals [] disconnected = s := by
  unfold recordRemovals
  rw [List.map_nil, List.append_nil]

section handlers

variable {text : CodeText} {options : Options} {s : Service} {n : Nat}
  {connection : ClientConnection} {requestID : String} {payload : SignalingClientPayload}
  {now : Time}

/-- An error is one of the outcomes of a frame. -/
theorem Handled.refused (code : ErrorCode) (requestID : String) :
    Handled s n connection payload now s (respond (publicError code requestID)) :=
  .quiet (allPlain_publicError code requestID)

theorem handleRegistration_handled (hregistered : connection.registered = false)
    (deviceId : Bytes) :
    Handled s n connection payload now
      (handleRegistration options s n connection requestID deviceId now).1
      (handleRegistration options s n connection requestID deviceId now).2 := by
  unfold handleRegistration
  cases deviceIDFromBytes deviceId with
  | none => exact .refused _ _
  | some d =>
    simp only [PresenceRegistry.register]
    by_cases hd : d ∈ s.presence
    · simp only [if_pos hd, Bool.false_eq_true, if_false]
      exact .refused _ _
    · simp only [if_neg hd, if_true]
      exact .registered hregistered hd (allPlain_respond rfl)

theorem handleHeartbeat_handled :
    Handled s n connection payload now (handleHeartbeat options s n connection requestID now).1
      (handleHeartbeat options s n connection requestID now).2 := by
  unfold handleHeartbeat PresenceRegistry.touch
  cases hroute : s.presence.lookup connection.deviceID with
  | none =>
    simp only [Bool.false_eq_true, if_false]
    exact .closed
  | some route =>
    by_cases htoken : route.token ≠ connection.token
    · simp only [if_pos htoken, Bool.false_eq_true, if_false]
      exact .closed
    · simp only [if_neg htoken, if_true]
      refine .touched (fun d => ?_) (allPlain_respond rfl)
      rw [Table.lookup_insert]
      by_cases hd : d = connection.deviceID
      · rw [if_pos hd, hd, hroute]
        rfl
      · rw [if_neg hd]

theorem handlePresenceQuery_handled (deviceId : Bytes) :
    Handled s n connection payload now (handlePresenceQuery options s requestID deviceId now).1
      (handlePresenceQuery options s requestID deviceId now).2 := by
  unfold handlePresenceQuery
  cases deviceIDFromBytes deviceId with
  | none => exact .refused _ _
  | some d => exact .quiet (allPlain_respond rfl)

theorem handleCreateRendezvous_handled (hs : s.rendezvous.Indexed)
    (hregistered : connection.registered = true) (rendezvousId : Bytes) (kind : Int32)
    (pairingCode : String) (allowed : Bool) :
    Handled s n connection payload now
      (handleCreateRendezvous text options s n connection requestID rendezvousId kind pairingCode
        now allowed).1
      (handleCreateRendezvous text options s n connection requestID rendezvousId kind pairingCode
        now allowed).2 := by
  unfold handleCreateRendezvous
  cases rendezvousIDFromBytes rendezvousId with
  | none => exact .refused _ _
  | some id =>
    cases pairingKind kind with
    | none => exact .refused _ _
    | some k =>
      dsimp only
      by_cases hcode : validCreatePairingCode text k pairingCode = false
      · rw [if_pos hcode]
        exact .refused _ _
      · rw [if_neg hcode]
        by_cases hallowed : allowed = false
        · rw [if_pos hallowed]
          exact .refused _ _
        · rw [if_neg hallowed]
          rcases create_cases text hs _ pairingCode now with
            ⟨-, h⟩ | ⟨-, stored, removed, store, hsame, hc, hsweeps, ⟨err, h⟩ | ⟨hfree, h⟩⟩
          · rw [h]
            simp only [notifyAll, List.nil_append, recordRemovals_nil]
            exact .refused _ _
          · rw [h]
            exact .createRefused hsweeps (allPlain_publicError _ _)
          · rw [h]
            have hid : stored.id = id := hsame.id
            subst hid
            exact .created hregistered hsweeps hsame.host hc hfree (allPlain_respond rfl)

theorem finishJoin_handled (hs : s.rendezvous.Indexed)
    (hregistered : connection.registered = true) (id : RendezvousID) :
    Handled s n connection payload now
      (finishJoin s n connection requestID now
        (s.rendezvous.joinLocked id connection.deviceID now)).1
      (finishJoin s n connection requestID now
        (s.rendezvous.joinLocked id connection.deviceID now)).2 := by
  unfold finishJoin
  rcases joinLocked_cases hs id connection.deviceID now with
    ⟨err, h⟩ | ⟨r, h, hr, rfl, -, -, hc⟩ | ⟨r, h, hr, rfl, -, hhost, hc⟩
  · rw [h]
    exact .refused _ _
  · rw [h]
    have hjoin : recordJoin s n r = s.joinedBy := by
      rw [recordJoin, hr, Option.bind_some, hc, if_neg nofun]
    simp only [hjoin]
    exact .quiet (allPlain_singleton ⟨rfl, rfl, rfl⟩)
  · rw [h]
    have hjoin : recordJoin s n { r with controller := some connection.deviceID } =
        Function.update s.joinedBy r.id n := by
      rw [recordJoin, hr, Option.bind_some, hc, if_pos rfl]
    simp only [hjoin]
    exact .joined hregistered hr hhost hc (allPlain_singleton ⟨rfl, rfl, rfl⟩)

theorem handleJoinById_handled (hs : s.rendezvous.Indexed)
    (hregistered : connection.registered = true) (rendezvousId : Bytes) (allowed : Bool) :
    Handled s n connection payload now
      (handleJoinById s n connection requestID rendezvousId now allowed).1
      (handleJoinById s n connection requestID rendezvousId now allowed).2 := by
  unfold handleJoinById
  cases rendezvousIDFromBytes rendezvousId with
  | none => exact .refused _ _
  | some id =>
    by_cases hallowed : allowed = false
    · simp only [if_pos hallowed]
      exact .refused _ _
    · simp only [if_neg hallowed]
      exact finishJoin_handled hs hregistered id

theorem handleJoinByCode_handled (hs : s.rendezvous.Indexed)
    (hregistered : connection.registered = true) (code : String) (allowed : Bool) :
    Handled s n connection payload now
      (handleJoinByCode text s n connection requestID code now allowed).1
      (handleJoinByCode text s n connection requestID code now allowed).2 := by
  unfold handleJoinByCode
  dsimp only
  by_cases hcode : validPairingCode (text.toUpper (text.trimSpace code)) = false
  · rw [if_pos hcode]
    exact .refused _ _
  · rw [if_neg hcode]
    by_cases hallowed : allowed = false
    · rw [if_pos hallowed]
      exact .refused _ _
    · rw [if_neg hallowed]
      rcases joinByCode_cases text s.rendezvous
        (text.toUpper (text.trimSpace code)) connection.deviceID now with h | ⟨id, h⟩
      · rw [h]
        exact .refused _ _
      · rw [h]
        exact finishJoin_handled hs hregistered id

theorem handleRelayPairing_handled (hregistered : connection.registered = true)
    (rendezvousId opaqueEnvelope : Bytes) :
    Handled s n connection (.relayPairing rendezvousId opaqueEnvelope) now
      (handleRelayPairing s connection requestID rendezvousId opaqueEnvelope now).1
      (handleRelayPairing s connection requestID rendezvousId opaqueEnvelope now).2 := by
  unfold handleRelayPairing rendezvousIDFromBytes
  by_cases hlength : rendezvousId.length = rendezvousIdBytes
  · rw [dif_pos hlength]
    dsimp only
    by_cases hsize : opaqueEnvelope.length = 0 ∨
        maxOpaqueSignalingEnvelopeBytes < opaqueEnvelope.length
    · rw [if_pos hsize]
      exact .refused _ _
    · rw [if_neg hsize]
      unfold peer
      rcases activeLocked_cases s.rendezvous ⟨rendezvousId, hlength⟩ now with
        ⟨err, hactive⟩ | ⟨r, hactive, hr, htime⟩
      · rw [hactive]
        exact .refused _ _
      · rw [hactive]
        dsimp only
        cases hc : r.controller with
        | none => exact .refused _ _
        | some controller =>
          by_cases hhost : connection.deviceID = r.host
          · simp only [if_pos hhost]
            exact .relayed hregistered rfl hr htime (.inl ⟨hhost, hc⟩)
          · simp only [if_neg hhost]
            by_cases hcontroller : connection.deviceID = controller
            · simp only [if_pos hcontroller]
              rw [← hcontroller] at hc
              exact .relayed hregistered rfl hr htime (.inr ⟨hc, rfl⟩)
            · simp only [if_neg hcontroller]
              exact .refused _ _
  · rw [dif_neg hlength]
    exact .refused _ _

theorem handleCompleteRendezvous_handled (hs : s.rendezvous.Indexed) (rendezvousId : Bytes)
    (completion : Int32) :
    Handled s n connection payload now
      (handleCompleteRendezvous s connection requestID rendezvousId completion now).1
      (handleCompleteRendezvous s connection requestID rendezvousId completion now).2 := by
  unfold handleCompleteRendezvous
  cases rendezvousIDFromBytes rendezvousId with
  | none => exact .refused _ _
  | some id =>
    dsimp only
    by_cases hcompletion : completion ≠ PairingRendezvousCompletion.succeeded.toInt32 ∧
        completion ≠ PairingRendezvousCompletion.rejected.toInt32
    · rw [if_pos hcompletion]
      exact .refused _ _
    · rw [if_neg hcompletion]
      rcases complete_spec hs id connection.deviceID now with
        ⟨err, h⟩ | ⟨r, store, h, hr, rfl, hhost, -, hsound, hremoves⟩
      · rw [h]
        exact .refused _ _
      · rw [h]
        exact .completed hr hhost hsound hremoves

theorem handleRelaySession_handled (recipientDeviceId opaqueEnvelope : Bytes) :
    Handled s n connection payload now
      (handleRelaySession s connection requestID recipientDeviceId opaqueEnvelope).1
      (handleRelaySession s connection requestID recipientDeviceId opaqueEnvelope).2 := by
  unfold handleRelaySession
  cases deviceIDFromBytes recipientDeviceId with
  | none => exact .refused _ _
  | some recipient =>
    by_cases hsize : opaqueEnvelope.length = 0 ∨
        maxOpaqueSignalingEnvelopeBytes < opaqueEnvelope.length
    · simp only [if_pos hsize]
      exact .refused _ _
    · simp only [if_neg hsize]
      exact .quiet (allPlain_singleton ⟨rfl, rfl, rfl⟩)

/-- The handling of a frame does one of these. -/
theorem handleFrame_handled (hs : s.rendezvous.Indexed) (allowed : Bool) :
    Handled s n connection payload now
      (handleFrame text options s n connection requestID payload now allowed).1
      (handleFrame text options s n connection requestID payload now allowed).2 := by
  unfold handleFrame
  by_cases hregistered : connection.registered = false
  · rw [if_pos hregistered]
    cases payload with
    | register deviceId => exact handleRegistration_handled hregistered deviceId
    | _ => exact .refused _ _
  · rw [if_neg hregistered]
    rw [Bool.not_eq_false] at hregistered
    cases payload with
    | register deviceId => exact .refused _ _
    | heartbeat => exact handleHeartbeat_handled
    | presenceQuery deviceId => exact handlePresenceQuery_handled deviceId
    | createRendezvous rendezvousId kind pairingCode =>
      exact handleCreateRendezvous_handled hs hregistered rendezvousId kind pairingCode allowed
    | joinRendezvousById rendezvousId =>
      exact handleJoinById_handled hs hregistered rendezvousId allowed
    | joinRendezvousByCode pairingCode =>
      exact handleJoinByCode_handled hs hregistered pairingCode allowed
    | relayPairing rendezvousId opaqueEnvelope =>
      exact handleRelayPairing_handled hregistered rendezvousId opaqueEnvelope
    | completeRendezvous rendezvousId completion =>
      exact handleCompleteRendezvous_handled hs rendezvousId completion
    | relaySession recipientDeviceId opaqueEnvelope =>
      exact handleRelaySession_handled recipientDeviceId opaqueEnvelope

end handlers

/-! ## Steps -/

/-- Everything that a task can do. -/
inductive Ran (s : Service) (self : Option (Nat × DeviceID)) (sent : Bool) :
    Task → Service → List Task → List Delivery → Prop
  | unreached {deviceID frame after notice} (offline : s.presence.lookup deviceID = none) :
      Ran s self sent (.sendToDevice deviceID frame after notice) (s.recordAttempt notice)
        (afterSend false after) []
  | found {deviceID frame after notice route} (online : s.presence.lookup deviceID = some route) :
      Ran s self sent (.sendToDevice deviceID frame after notice) (s.recordAttempt notice)
        [.send route.connection deviceID frame after] []
  | sent {connection deviceID frame after} :
      Ran s self sent (.send connection deviceID frame after) s (afterSend sent after)
        [⟨connection, deviceID, frame, sent⟩]
  | removedUnreached {requestID rendezvous now removed store}
      (stored : s.rendezvous.byID.lookup removed.id = some removed)
      (isRemoved : s.rendezvous.complete rendezvous.id rendezvous.host now =
        some (.ok removed, store))
      (sound : Sound s.rendezvous store)
      (removes : Removes s.rendezvous [removed] store) :
      Ran s self sent (.completeUnreached requestID rendezvous now)
        { s.recordRemovals [removed] none with rendezvous := store }
        [.reply (publicError .deviceOffline requestID)
          (self.map fun c => (s.removals.length, c.2))] []
  | keptUnreached {requestID rendezvous now} :
      Ran s self sent (.completeUnreached requestID rendezvous now) s
        (respond (publicError .deviceOffline requestID)) []
  | dropped {frame notice} (sweeper : self = none) :
      Ran s self sent (.reply frame notice) s [] []
  | replied {n deviceID frame notice} (connection : self = some (n, deviceID)) :
      Ran s self sent (.reply frame notice)
        (if sent then s.recordAttempt notice else (s.recordAttempt notice).closeNow n) []
        [⟨n, deviceID, frame, sent⟩]
  | closedExpired {cutoff} : Ran s self sent (.closeExpired cutoff) (s.closeExpired cutoff) [] []

/-- Running a task does one of these. -/
theorem runTask_ran {s : Service} (hs : s.rendezvous.Indexed) (self : Option (Nat × DeviceID))
    (sent : Bool) (task : Task) :
    Ran s self sent task (s.runTask self sent task).1 (s.runTask self sent task).2.1
      (s.runTask self sent task).2.2 := by
  cases task with
  | sendToDevice deviceID frame after notice =>
    simp only [runTask]
    cases hroute : s.presence.lookup deviceID with
    | none => exact .unreached hroute
    | some route => exact .found hroute
  | send connection deviceID frame after => exact .sent
  | completeUnreached requestID rendezvous now =>
    simp only [runTask]
    rcases complete_spec hs rendezvous.id rendezvous.host now with
      ⟨err, h⟩ | ⟨r, store, h, hr, hid, -, -, hsound, hremoves⟩
    · rw [h]
      exact .keptUnreached
    · rw [h]
      exact .removedUnreached (hid.symm ▸ hr) h hsound hremoves
  | reply frame notice =>
    simp only [runTask]
    cases self with
    | none => exact .dropped rfl
    | some c => exact .replied rfl
  | closeExpired cutoff => exact .closedExpired

/-- Everything that a step can do. -/
inductive Stepped (s : Service) : Input → Service → List Delivery → Prop
  | idle {input} : Stepped s input s []
  | connected : Stepped s .connect
      { s with
        nextToken := s.nextToken + 1
        connections := s.connections ++
          [{ token := s.nextToken + 1, registered := false, deviceID := Rendezvous.zero.host
             closed := false, phase := .serving, tasks := [] }] } []
  | refused {n connection message now allowed code requestID}
      (present : s.connections[n]? = some connection) (serving : connection.phase = .serving)
      (free : connection.tasks = []) :
      Stepped s (.receive n message now allowed)
        (s.setTasks n (respond (publicError code requestID))) []
  | handled {n connection message now allowed requestID payload s' tasks}
      (present : s.connections[n]? = some connection) (serving : connection.phase = .serving)
      (free : connection.tasks = [])
      (decoded : decodeClientFrame message = .ok (requestID, payload))
      (handled : Handled s n connection payload now s' tasks) :
      Stepped s (.receive n message now allowed) (s'.setTasks n tasks) []
  | ran {n connection sent task rest s' tasks deliveries}
      (present : s.connections[n]? = some connection)
      (running : connection.phase = .serving ∨ connection.phase = .leaving)
      (next : connection.tasks = task :: rest)
      (ran : Ran s (some (n, connection.deviceID)) sent task s' tasks deliveries) :
      Stepped s (.proceed n sent) (s'.setTasks n (tasks ++ rest)) deliveries
  | released {n connection sent} (present : s.connections[n]? = some connection)
      (closing : connection.phase = .closing) :
      Stepped s (.proceed n sent)
        ({ s with presence := s.presence.remove connection.deviceID connection.token }.setConnection
          n { connection with phase := .leaving }) []
  | ended {n connection sent} (present : s.connections[n]? = some connection)
      (leaving : connection.phase = .leaving) (free : connection.tasks = []) :
      Stepped s (.proceed n sent)
        (s.setConnection n { connection with phase := .ended, closed := true }) []
  | stopped {n connection order removed store}
      (present : s.connections[n]? = some connection) (serving : connection.phase = .serving)
      (free : connection.tasks = []) (registered : connection.registered = true)
      (sound : Sound s.rendezvous store)
      (removes : Removes s.rendezvous removed store)
      (mem_iff : ∀ r, r ∈ removed ↔ s.rendezvous.byID.lookup r.id = some r ∧
        r.id ∈ s.rendezvous.memberIndex.memberIDs connection.deviceID) :
      Stepped s (.stop n order)
        ({ s.recordRemovals removed (some connection.deviceID) with
          rendezvous := store }.setConnection n
            { connection with
              phase := .closing
              tasks := notifyAll .disconnected (some connection.deviceID) s.removals.length
                removed }) []
  | abandoned {n connection order} (present : s.connections[n]? = some connection)
      (serving : connection.phase = .serving) (free : connection.tasks = [])
      (unregistered : connection.registered = false) :
      Stepped s (.stop n order) (s.setConnection n { connection with phase := .leaving }) []
  | swept {now cutoff removed store} (free : s.sweeper = [])
      (sweeps : Sweeps s.rendezvous now removed store) :
      Stepped s (.sweep now)
        { s.recordRemovals removed none with
          rendezvous := store
          sweeper := notifyAll .expired none s.removals.length removed ++
            [.closeExpired cutoff] } []
  | sweeperRan {sent task rest s' tasks deliveries} (next : s.sweeper = task :: rest)
      (ran : Ran s none sent task s' tasks deliveries) :
      Stepped s (.proceedSweeper sent) { s' with sweeper := tasks ++ rest } deliveries

/-- A connection that proceeds does one of these. -/
theorem proceed_stepped {s : Service} (hs : s.rendezvous.Indexed) {n : Nat}
    {connection : ClientConnection} (hn : s.connections[n]? = some connection) (sent : Bool) :
    Stepped s (.proceed n sent) (s.proceed n connection sent).1
      (s.proceed n connection sent).2 := by
  have hrun : connection.phase = .serving ∨ connection.phase = .leaving → ∀ task rest,
      connection.tasks = task :: rest →
      Stepped s (.proceed n sent)
        ((s.runTask (some (n, connection.deviceID)) sent task).1.setTasks n
          ((s.runTask (some (n, connection.deviceID)) sent task).2.1 ++ rest))
        (s.runTask (some (n, connection.deviceID)) sent task).2.2 :=
    fun hphase task rest htasks => .ran hn hphase htasks (runTask_ran hs _ sent task)
  unfold proceed
  cases hphase : connection.phase with
  | closing => exact .released hn hphase
  | ended => exact .idle
  | serving =>
    dsimp only
    cases htasks : connection.tasks with
    | nil =>
      simp only [reduceCtorEq, if_false]
      exact .idle
    | cons task rest => exact hrun (.inl hphase) task rest htasks
  | leaving =>
    dsimp only
    cases htasks : connection.tasks with
    | nil =>
      simp only [if_true]
      have hended : Stepped s (.proceed n sent) _ [] := .ended hn hphase htasks
      rw [htasks] at hended
      exact hended
    | cons task rest => exact hrun (.inr hphase) task rest htasks

/-- Every step does one of these. -/
theorem step_stepped (text : CodeText) (options : Options) {s : Service}
    (hs : s.rendezvous.Indexed) (input : Input) :
    Stepped s input (step text options s input).1 (step text options s input).2 := by
  cases input with
  | connect => exact .connected
  | receive n message now allowed =>
    simp only [step]
    cases hn : s.connections[n]? with
    | none => exact .idle
    | some connection =>
      by_cases hready : connection.phase = .serving ∧ connection.tasks.isEmpty
      · simp only [if_pos hready]
        have hfree := List.isEmpty_iff.mp hready.2
        unfold receive
        cases hdecode : decodeClientFrame message with
        | error e => exact .refused hn hready.1 hfree
        | ok request =>
          exact .handled hn hready.1 hfree hdecode (handleFrame_handled hs allowed)
      · simp only [if_neg hready]
        exact .idle
  | proceed n sent =>
    simp only [step]
    cases hn : s.connections[n]? with
    | none => exact .idle
    | some connection => exact proceed_stepped hs hn sent
  | stop n order =>
    simp only [step]
    cases hn : s.connections[n]? with
    | none => exact .idle
    | some connection =>
      by_cases hready : connection.phase = .serving ∧ connection.tasks.isEmpty
      · simp only [if_pos hready]
        have hfree := List.isEmpty_iff.mp hready.2
        unfold stop
        by_cases hregistered : connection.registered = true
        · rw [if_pos hregistered]
          obtain ⟨removed, store, h, hsound, hremoves, hmem⟩ :=
            removeForDevice_spec hs connection.deviceID order
          rw [h]
          exact .stopped hn hready.1 hfree hregistered hsound hremoves hmem
        · rw [if_neg hregistered]
          exact .abandoned hn hready.1 hfree (Bool.eq_false_iff.mpr hregistered)
      · simp only [if_neg hready]
        exact .idle
  | sweep now =>
    simp only [step]
    by_cases hfree : s.sweeper.isEmpty = true
    · simp only [if_pos hfree]
      unfold startSweep sweep
      obtain ⟨removed, store, h, hsweeps⟩ := sweepLocked_spec hs now
      rw [h]
      exact .swept (List.isEmpty_iff.mp hfree) hsweeps
    · simp only [if_neg hfree]
      exact .idle
  | proceedSweeper sent =>
    simp only [step]
    unfold proceedSweeper
    cases hnext : s.sweeper with
    | nil => exact .idle
    | cons task rest => exact .sweeperRan hnext (runTask_ran hs none sent task)

/-! ## Tasks under way -/

/-- The tasks of all goroutines. -/
def allTasks (s : Service) : List Task := s.connections.flatMap ClientConnection.tasks ++ s.sweeper

/-- A task is one of a connection or of the sweeper. -/
theorem mem_allTasks {s : Service} {task : Task} :
    task ∈ s.allTasks ↔
      (∃ (n : Nat) (connection : ClientConnection),
        s.connections[n]? = some connection ∧ task ∈ connection.tasks) ∨ task ∈ s.sweeper := by
  rw [allTasks, List.mem_append, List.mem_flatMap]
  constructor
  · rintro (⟨connection, hmem, htask⟩ | htask)
    · obtain ⟨n, hn⟩ := List.mem_iff_getElem?.mp hmem
      exact .inl ⟨n, connection, hn, htask⟩
    · exact .inr htask
  · rintro (⟨n, connection, hn, htask⟩ | htask)
    · exact .inl ⟨connection, List.mem_of_getElem? hn, htask⟩
    · exact .inr htask

/-- Replacing a connection adds no other tasks than its own. -/
theorem mem_allTasks_setConnection {s : Service} {n : Nat} {connection : ClientConnection}
    {task : Task} (h : task ∈ (s.setConnection n connection).allTasks) :
    task ∈ connection.tasks ∨ task ∈ s.allTasks := by
  rcases mem_allTasks.mp h with ⟨m, connection', hm, htask⟩ | htask
  · change (s.connections.set n connection)[m]? = some connection' at hm
    rw [List.getElem?_set] at hm
    by_cases hnm : n = m
    · rw [if_pos hnm] at hm
      split at hm
      · rw [← Option.some.inj hm] at htask
        exact .inl htask
      · cases hm
    · rw [if_neg hnm] at hm
      exact .inr (mem_allTasks.mpr (.inl ⟨m, connection', hm, htask⟩))
  · exact .inr (mem_allTasks.mpr (.inr htask))

theorem mem_allTasks_modify {s : Service} {n : Nat} {f : ClientConnection → ClientConnection}
    {task : Task} (h : task ∈ allTasks { s with connections := s.connections.modify n f }) :
    (∃ connection, s.connections[n]? = some connection ∧ task ∈ (f connection).tasks) ∨
      task ∈ s.allTasks := by
  rcases mem_allTasks.mp h with ⟨m, connection', hm, htask⟩ | htask
  · change (s.connections.modify n f)[m]? = some connection' at hm
    rw [List.getElem?_modify] at hm
    obtain ⟨connection, hm, heq⟩ := Option.map_eq_some_iff.mp hm
    by_cases hnm : n = m
    · rw [if_pos hnm] at heq
      rw [← heq] at htask
      exact .inl ⟨connection, hnm ▸ hm, htask⟩
    · rw [if_neg hnm] at heq
      rw [← heq] at htask
      exact .inr (mem_allTasks.mpr (.inl ⟨m, connection, hm, htask⟩))
  · exact .inr (mem_allTasks.mpr (.inr htask))

/-- Replacing the tasks of a connection adds no others. -/
theorem mem_allTasks_setTasks {s : Service} {n : Nat} {tasks : List Task} {task : Task}
    (h : task ∈ (s.setTasks n tasks).allTasks) : task ∈ tasks ∨ task ∈ s.allTasks := by
  rcases mem_allTasks_modify h with ⟨_, -, htask⟩ | htask
  · exact .inl htask
  · exact .inr htask

end Service

end Server

end Roammand
