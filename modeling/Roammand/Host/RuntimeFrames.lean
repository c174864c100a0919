import Roammand.Host.PairingEffects
import Roammand.Host.Runtime
import Roammand.Host.SignalingEffects

/-!
# Pairing and session on one connection

A frame of the service is inverted for all that it may change: `ServedEffect` says what
happens to the protocol, to the session coordinator and to the pairing coordinator.  The
protocol remembers the request it waits for, and every such request was made for the
pairing.

An error of the service loses the identifier of its request on the way to the pairing
coordinator.  The protocol keeps its rendezvous when the error answers another request,
but the pairing coordinator gives up its attempt.

Main results:

- Theorem `handleRemoteServerFrame_effect`: a frame has one of the listed effects.
- Theorem `frame_noninterference`: an error that answers no request of the pairing leaves
  both pairing states alone exactly when no attempt is under way, and only a routed
  session envelope reaches the session coordinator.
- Theorem `relay_error_fails_pairing`: an error about a relayed session envelope that ends
  an attempt.
-/

namespace Roammand

namespace Host

open Library Protocol Fallible SignalingProtocol PairingPhase

/-- The events that the pairing coordinator is told. -/
def SignalingEvent.isPairing : SignalingEvent → Bool
  | .pairingCreated _ _ _ | .pairingJoined _ _ _ | .routedPairing _ _ _ | .pairingClosed _ _
  | .remoteError _ _ => true
  | .registered _ | .heartbeatAcknowledged _ _ | .routedSession _ _ => false

/-- All that a frame can do. -/
inductive ServedEffect (setting : RuntimeSetting) (decoded : Option SignalingServerFrame)
    (nowUnixMs : UInt64) (s : ServedState) :
    Except RuntimeError (List RemoteSessionOutbound) → ServedState → Prop where
  | refused (error : SignalingClientError) :
      ServedEffect setting decoded nowUnixMs s (.error (.protocol error)) s
  | registered {requestId : String} (hstate : s.protocol.state = .registering requestId) :
      ServedEffect setting decoded nowUnixMs s (.error .unexpectedFrame)
        { s with protocol := { s.protocol with state := .ready } }
  | heartbeat :
      ServedEffect setting decoded nowUnixMs s (.ok [])
        { s with protocol := { s.protocol with pendingHeartbeatRequestId := none } }
  | session {frame : SignalingServerFrame} {sender envelope : Bytes}
      {r : Except RuntimeError (List RemoteSessionOutbound)} {sessions : RemoteSessionCoordinator}
      (hframe : decoded = some frame)
      (hpayload : frame.payload = some (.routedSession sender envelope)) :
      ServedEffect setting decoded nowUnixMs s r { s with sessions }
  | pairing {frame : SignalingServerFrame} {payload : SignalingServerPayload}
      {event : SignalingEvent} {protocol : SignalingProtocol} (hframe : decoded = some frame)
      (hpayload : frame.payload = some payload)
      (heffect : FrameEffect s.protocol frame.requestId payload event protocol)
      (hevent : event.isPairing = true) :
      ServedEffect setting decoded nowUnixMs s (.ok [])
        { s with
          protocol
          pairing := (PairingHost.step setting.pairing s.pairing (.event event nowUnixMs)).1 }

theorem handleRemoteServerFrame_effect (setting : RuntimeSetting) (env : Environment)
    (encoded : Bytes) (nowUnixMs : UInt64) (s : ServedState) :
    wp (handleRemoteServerFrame setting env encoded nowUnixMs)
      (ServedEffect setting (setting.decodeFrame encoded) nowUnixMs s) s := by
  rw [handleRemoteServerFrame, wp_bind, wp_zoom, wp_mapError]
  refine wp_mono (handleBinary_effect setting.decodeFrame encoded) ?_
  rintro r protocol (⟨e, rfl, rfl⟩ | ⟨frame, payload, event, hframe, hpayload, rfl, heffect⟩)
  · exact .refused e
  simp only [Except.mapError, andThen_ok]
  have hpairing : event.isPairing = true →
      ServedEffect setting (setting.decodeFrame encoded) nowUnixMs s (.ok [])
        { s with
          protocol
          pairing := (PairingHost.step setting.pairing s.pairing (.event event nowUnixMs)).1 } :=
    .pairing hframe hpayload heffect
  cases heffect with
  | registered hstate => exact .registered hstate
  | heartbeat hready => exact .heartbeat
  | routedSession hready => exact .session hframe hpayload
  | created hactive hphase => exact hpairing rfl
  | joined hactive hphase => exact hpairing rfl
  | routedPairing hactive hphase => exact hpairing rfl
  | closed hactive hcheck => exact hpairing rfl
  | answered hactive hanswered => exact hpairing rfl
  | unanswered hother => exact hpairing rfl

/-! ## The requests of the pairing -/

namespace SignalingProtocol

/-- The request that a rendezvous waits for. -/
def PairingPhase.request? : PairingPhase → Option String
  | .creating requestId | .completing requestId _ => some requestId
  | .inviting | .joined _ => none

variable {p p' : SignalingProtocol} {requestId : String}

theorem PairingPhase.answeredBy_eq_true {phase : PairingPhase} :
    answeredBy requestId phase = true ↔ request? phase = some requestId := by
  cases phase with
  | creating expected => simp [answeredBy, request?]
  | inviting => simp [answeredBy, request?]
  | joined peer => simp [answeredBy, request?]
  | completing expected completion => simp [answeredBy, request?]

/-- The request that the rendezvous of the protocol waits for. -/
def pairingRequest? (p : SignalingProtocol) : Option String :=
  p.pairing.bind fun active => request? active.phase

/-- A frame makes the protocol wait for no new request. -/
theorem FrameEffect.pairingRequest? {p p' : SignalingProtocol} {requestId : String}
    {payload : SignalingServerPayload} {event : SignalingEvent}
    (h : FrameEffect p requestId payload event p') :
    p'.pairingRequest? = none ∨ p'.pairingRequest? = p.pairingRequest? := by
  cases h with
  | registered hstate => exact .inr rfl
  | heartbeat hready => exact .inr rfl
  | routedSession hready => exact .inr rfl
  | created hactive hphase => exact .inl rfl
  | joined hactive hphase => exact .inl rfl
  | routedPairing hactive hphase => exact .inr rfl
  | closed hactive hcheck => exact .inl rfl
  | answered hactive hanswered => exact .inl rfl
  | unanswered hother => exact .inr rfl

/-- A frame opens no rendezvous. -/
theorem FrameEffect.pairing_none {payload : SignalingServerPayload} {event : SignalingEvent}
    (h : FrameEffect p requestId payload event p') (hnone : p.pairing = none) :
    p'.pairing = none := by
  cases h with
  | registered hstate => exact hnone
  | heartbeat hready => exact hnone
  | routedSession hready => exact hnone
  | created hactive hphase => cases hnone.symm.trans hactive
  | joined hactive hphase => cases hnone.symm.trans hactive
  | routedPairing hactive hphase => exact hnone
  | closed hactive hcheck => rfl
  | answered hactive hanswered => rfl
  | unanswered hother => exact hnone

/-- An error that answers another request leaves the protocol as it is. -/
theorem FrameEffect.error_other {requestId errorRequestId : String}
    {code : Int32} {retryable : Bool} {event : SignalingEvent}
    (h : FrameEffect p requestId (.error code retryable errorRequestId) event p')
    (hother : p.pairingRequest? ≠ some requestId) : p' = p := by
  cases h with
  | answered hactive hanswered =>
    rw [SignalingProtocol.pairingRequest?, hactive, Option.bind_some] at hother
    exact absurd (answeredBy_eq_true.mp hanswered) hother
  | unanswered _ => rfl

/-- An error frame that is in order: it names a request, twice the same, and a known code. -/
structure ReportsError (encoded : Bytes) (frame : SignalingServerFrame) (code : Int32)
    (errorRequestId : String) : Prop where
  length : encoded.length ≤ maxSignalingServiceFrameBytes
  version : frame.protocolVersion.any (fun version => version.major = protocolMajorVersion) = true
  named : frame.requestId ≠ ""
  same : errorRequestId = frame.requestId
  short : (utf8 frame.requestId).length ≤ maxRequestIdUtf8Bytes
  known : (ErrorCode.ofInt32? code).any (fun code => code ≠ .unspecified) = true

/-- An error frame is accepted exactly if it is in order. -/
theorem handleBinary_error_iff {decode : Bytes → Option SignalingServerFrame} {encoded : Bytes}
    {frame : SignalingServerFrame} {code : Int32} {retryable : Bool} {errorRequestId : String}
    (hframe : decode encoded = some frame)
    (hpayload : frame.payload = some (.error code retryable errorRequestId))
    (p : SignalingProtocol) :
    wp (handleBinary decode encoded)
      (fun r _ => r.isOk = true ↔ ReportsError encoded frame code errorRequestId) p := by
  have hrefused : ∀ {e : SignalingClientError}, ¬ ReportsError encoded frame code errorRequestId →
      ((Except.error e : Except SignalingClientError SignalingEvent).isOk = true ↔
        ReportsError encoded frame code errorRequestId) := by
    intro e h
    exact ⟨fun hok => (by cases hok), fun hreports => absurd hreports h⟩
  simp only [handleBinary, handleFrame, handlePayload, handleError, validateRequestId, wp_bind,
    wp_require, wp_orThrow, wp_get, wp_onlyIf, wp_modify, wp_pure, andThen_ok, andThen_error,
    hframe, hpayload, Option.some.injEq, forall_eq', reduceCtorEq, false_implies, and_true]
  refine ⟨fun hlength => ⟨fun version hversion => ⟨fun hmajor => ⟨fun hid => ⟨fun hvalid =>
    ⟨fun known hknown => ⟨fun hspecified => ?_, fun h => hrefused fun hr => h ?_⟩,
    fun h => hrefused fun hr => ?_⟩, fun h => hrefused fun hr => h ⟨hr.named, hr.short⟩⟩,
    fun h => hrefused fun hr => h ?_⟩, fun h => hrefused fun hr => h ?_⟩,
    fun h => hrefused fun hr => ?_⟩, fun h => hrefused fun hr => h hr.length⟩
  · have hreports : ReportsError encoded frame code errorRequestId :=
      ⟨hlength, by simp [hversion, hmajor], hvalid.1, not_not.mp (not_or.mp hid).2, hvalid.2,
        by simp [hknown, hspecified]⟩
    exact ⟨fun _ => ⟨fun _ => hreports, fun _ => rfl⟩, fun _ => ⟨fun _ => hreports, fun _ => rfl⟩⟩
  · have hcode := hr.known
    rw [hknown] at hcode
    simpa using hcode
  · have hcode := hr.known
    rw [h] at hcode
    cases hcode
  · simp [hr.named, hr.same]
  · have hmajor := hr.version
    rw [hversion] at hmajor
    simpa using hmajor
  · have hmajor := hr.version
    rw [h] at hmajor
    cases hmajor

end SignalingProtocol

namespace RemoteConnection

/-- The protocol waits for requests of the pairing only. -/
def Owned (connection : RemoteConnection) : Prop :=
  ∀ requestId, connection.protocol.pairingRequest? = some requestId →
    requestId ∈ connection.pairingRequests

/-- The rendezvous, the registration and the requests of the pairing stay as they are. -/
structure Quiet (connection connection' : RemoteConnection) : Prop where
  pairing : connection'.protocol.pairing = connection.protocol.pairing
  state : connection'.protocol.state = connection.protocol.state
  pairingRequests : connection'.pairingRequests = connection.pairingRequests

instance : IsPreorder RemoteConnection Quiet where
  refl _ := ⟨rfl, rfl, rfl⟩
  trans _ _ _ h h' := ⟨h'.pairing.trans h.pairing, h'.state.trans h.state,
    h'.pairingRequests.trans h.pairingRequests⟩

theorem Quiet.owned {connection connection' : RemoteConnection}
    (h : Quiet connection connection') (howned : connection.Owned) : connection'.Owned := by
  intro requestId hrequest
  rw [pairingRequest?, h.pairing] at hrequest
  rw [h.pairingRequests]
  exact howned requestId hrequest

theorem nextRemoteRequestId_quiet : Keeps Quiet nextRemoteRequestId :=
  .bind (.modify fun _ => ⟨rfl, rfl, rfl⟩) fun _ => .bind .get fun _ => .pure _

/-- An operation of the protocol that leaves its rendezvous and its registration alone. -/
theorem onProtocol_quiet {α : Type} {m : SignalingProtocol.Operation α}
    (h : ∀ p, wp m (fun _ p' => p'.pairing = p.pairing ∧ p'.state = p.state) p) :
    Keeps Quiet (onProtocol m) := fun connection =>
  ⟨(h connection.protocol).1, (h connection.protocol).2, rfl⟩

theorem sendRemoteOutbound_quiet (encodeEnvelope : SignalingEnvelope → Bytes)
    (sends : SignalingClientFrame → Bool) (items : List RemoteSessionOutbound) :
    Keeps Quiet (sendRemoteOutbound encodeEnvelope sends items) := by
  induction items with
  | nil => exact .pure _
  | cons item items ih =>
    refine .bind nextRemoteRequestId_quiet fun requestId => .bind (onProtocol_quiet ?_)
      fun frame => .bind .require fun _ => ih
    intro p
    simp [SignalingProtocol.relaySession, SignalingProtocol.validateRequestId]

variable (sends : SignalingClientFrame → Bool)

theorem sendHeartbeat_quiet :
    Keeps Quiet (sendHeartbeat sends) := by
  refine .bind nextRemoteRequestId_quiet fun requestId => .bind (onProtocol_quiet ?_)
    fun frame => .require
  intro p
  simp [SignalingProtocol.heartbeat, SignalingProtocol.validateRequestId]

/-- All that a request for the pairing can do to the protocol. -/
inductive RequestEffect (p : SignalingProtocol) (requestId : String) :
    PairingOutbound → Except SignalingClientError SignalingClientFrame →
    SignalingProtocol → Prop where
  | refused (item : PairingOutbound) (error : SignalingClientError) :
      RequestEffect p requestId item (.error error) p
  | created {rendezvousId : Bytes} {kind : PairingRendezvousKind} {pairingCode : String}
      {frame : SignalingClientFrame} :
      RequestEffect p requestId (.create rendezvousId kind pairingCode) (.ok frame)
        { p with
          pairing := some
            { rendezvousId, kind, expiresAtUnixMs := 0, phase := .creating requestId } }
  | relayed {rendezvousId opaqueEnvelope : Bytes} {frame : SignalingClientFrame} :
      RequestEffect p requestId (.relay rendezvousId opaqueEnvelope) (.ok frame) p
  | completed {active : ProtocolPairing} {completion : PairingRendezvousCompletion}
      {frame : SignalingClientFrame} (hactive : p.pairing = some active) :
      RequestEffect p requestId (.complete active.rendezvousId completion) (.ok frame)
        { p with pairing := some { active with phase := .completing requestId completion } }

theorem validatePairingCode_still (kind : PairingRendezvousKind) (pairingCode : String)
    (p : SignalingProtocol) :
    wp (validatePairingCode kind pairingCode) (fun _ p' => p' = p) p := by
  cases kind with
  | qr => rfl
  | desktopCode => rfl
  | unspecified => rfl

variable (requestId : String)

theorem pairingRequest_effect (item : PairingOutbound) (p : SignalingProtocol) :
    wp (pairingRequest requestId item) (RequestEffect p requestId item) p := by
  cases item with
  | create rendezvousId kind pairingCode =>
    simp only [pairingRequest, createPairing, validateRendezvousId, validateRequestId, wp_bind,
      wp_get, wp_require, andThen_ok, andThen_error]
    refine ⟨fun _ => ⟨fun _ => wp_mono (validatePairingCode_still kind pairingCode p) ?_,
      fun _ => .refused _ _⟩, fun _ => .refused _ _⟩
    rintro (error | ⟨⟩) p' rfl
    · exact .refused _ _
    · simp only [andThen_ok, andThen_error, wp_bind, wp_require, wp_modify, wp_pure]
      exact ⟨fun _ => .created, fun _ => .refused _ _⟩
  | relay rendezvousId opaqueEnvelope =>
    simp only [pairingRequest, relayPairing, validateRendezvousId, validateRequestId, wp_bind,
      wp_get, wp_require, wp_orThrow, andThen_ok, andThen_error, wp_pure]
    exact ⟨fun _ => ⟨fun _ => ⟨fun _ => ⟨fun active _ => ⟨fun _ => .relayed,
      fun _ => .refused _ _⟩, fun _ => .refused _ _⟩, fun _ => .refused _ _⟩,
      fun _ => .refused _ _⟩, fun _ => .refused _ _⟩
  | complete rendezvousId completion =>
    simp only [pairingRequest, completePairing, validateRendezvousId, validateRequestId, wp_bind,
      wp_get, wp_require, wp_orThrow, andThen_ok, andThen_error, wp_modify, wp_pure]
    refine ⟨fun _ => ⟨fun _ => ⟨fun _ => ⟨fun active hactive => ⟨fun hopen => ?_,
      fun _ => .refused _ _⟩, fun _ => .refused _ _⟩, fun _ => .refused _ _⟩,
      fun _ => .refused _ _⟩, fun _ => .refused _ _⟩
    obtain ⟨-, rfl, -⟩ := hopen
    exact .completed hactive

/-- The protocol waits for the last request afterwards, or for the same as before. -/
theorem RequestEffect.pairingRequest? {p p' : SignalingProtocol} {requestId : String}
    {item : PairingOutbound} {r : Except SignalingClientError SignalingClientFrame}
    (h : RequestEffect p requestId item r p') :
    p'.pairingRequest? = p.pairingRequest? ∨ p'.pairingRequest? = some requestId := by
  cases h with
  | refused error => exact .inl rfl
  | created => exact .inr rfl
  | relayed => exact .inl rfl
  | completed hactive => exact .inr rfl

theorem sendPairingOutbound_owned
    (items : List PairingOutbound) : Keeps (Carried Owned) (sendPairingOutbound sends items) := by
  induction items with
  | nil => exact .pure _
  | cons item items ih =>
    refine .of_carried fun connection howned => ?_
    rw [sendPairingOutbound, wp_bind]
    refine wp_mono (nextRemoteRequestId_quiet connection) ?_
    rintro (error | requestId) connection₁ hquiet
    · exact hquiet.owned howned
    have howned₁ := hquiet.owned howned
    simp only [andThen_ok, wp_bind, rememberRequest, wp_modify, onProtocol, wp_zoom, wp_mapError]
    refine wp_mono (pairingRequest_effect requestId item connection₁.protocol) ?_
    intro r protocol heffect
    have howned₂ : Owned { connection₁ with
        pairingRequests := connection₁.pairingRequests ++ [requestId]
        protocol } := by
      intro id hid
      rcases heffect.pairingRequest? with hsame | hnew
      · rw [hsame] at hid
        exact List.mem_append_left _ (howned₁ id hid)
      · obtain rfl := Option.some.inj (hnew.symm.trans hid)
        exact List.mem_append_right _ (List.mem_singleton_self _)
    cases r with
    | error error => exact howned₂
    | ok frame =>
      simp only [Except.mapError, andThen_ok, andThen_error, wp_bind, wp_require]
      exact ⟨fun _ => ih _ howned₂, fun _ => howned₂⟩

/-- What a new connection starts with. -/
structure Opened (connection : RemoteConnection) : Prop where
  ready : connection.protocol.state = .ready
  pairing : connection.protocol.pairing = none
  pairingRequests : connection.pairingRequests = []

theorem registration_opens (p : SignalingProtocol) :
    wp (registration requestId) (fun _ p' => p'.pairing = p.pairing) p := by
  simp [registration, validateRequestId]

theorem register_opens (setting : RuntimeSetting) (sends : SignalingClientFrame → Bool)
    (registered : Bytes) {connection : RemoteConnection}
    (hpairing : connection.protocol.pairing = none)
    (hrequests : connection.pairingRequests = []) :
    wp (register setting sends registered) (fun r connection' => r = .ok () →
      Opened connection') connection := by
  rw [register, wp_bind]
  refine wp_mono (nextRemoteRequestId_quiet connection) ?_
  rintro (error | requestId) connection₁ hquiet
  · exact fun h => by cases h
  simp only [andThen_ok, wp_bind, onProtocol, wp_zoom, wp_mapError]
  refine wp_mono (registration_opens requestId connection₁.protocol) ?_
  rintro (error | frame) p hp
  · exact fun h => by cases h
  simp only [Except.mapError, andThen_ok, andThen_error, wp_bind, wp_require]
  refine ⟨fun _ => ?_, fun _ h => by cases h⟩
  rw [wp_zoom, wp_mapError]
  refine wp_mono (handleBinary_effect setting.decodeFrame registered) ?_
  rintro r p' (⟨e, rfl, rfl⟩ | ⟨frame, payload, event, -, -, rfl, heffect⟩)
  · exact fun h => by cases h
  simp only [Except.mapError, andThen_ok, wp_require]
  refine ⟨fun hregistered _ => ?_, fun _ h => by cases h⟩
  have hnone : p'.pairing = none :=
    heffect.pairing_none (hp.trans (hquiet.pairing.trans hpairing))
  cases heffect with
  | registered hstate => exact ⟨rfl, hnone, hquiet.pairingRequests.trans hrequests⟩
  | heartbeat | routedSession | created | joined | routedPairing | closed | answered |
    unanswered => cases hregistered

theorem connectRemote_opens {setting : RuntimeSetting} {hostDeviceId : Bytes}
    {generation : UInt64} {sends : SignalingClientFrame → Bool} {registered : Bytes}
    {connection : RemoteConnection}
    (h : connectRemote setting hostDeviceId generation sends registered = .ok connection) :
    Opened connection := by
  unfold connectRemote at h
  obtain ⟨protocol, hnew, h⟩ := bind_eq_ok.mp h
  have hpairing : protocol.pairing = none := by
    unfold new at hnew
    split at hnew
    · cases hnew
    · cases hnew
      rfl
  have hopens : wp (register setting sends registered) (fun r connection' => r = .ok () →
      Opened connection') ⟨protocol, 0, generation, []⟩ :=
    register_opens setting sends registered hpairing rfl
  unfold wp at hopens
  dsimp only at h
  generalize register setting sends registered ⟨protocol, 0, generation, []⟩ = result at h hopens
  obtain ⟨r, opened⟩ := result
  cases r with
  | error error => cases h
  | ok u =>
    cases h
    exact hopens rfl

theorem Opened.owned {connection : RemoteConnection} (h : Opened connection) :
    connection.Owned := by
  intro requestId hrequest
  rw [pairingRequest?, h.pairing] at hrequest
  cases hrequest

end RemoteConnection

namespace RemoteRuntime

variable {setting : RuntimeSetting} {s : RemoteRuntime}

/-- The connection of a link, also of one that has failed. -/
def Link.connection? : Link → Option RemoteConnection
  | .registered connection | .broken connection => some connection
  | .offline => none

/-- The connection waits for requests of the pairing only. -/
def Owned (s : RemoteRuntime) : Prop :=
  ∀ connection, Link.connection? s.link = some connection → connection.Owned

theorem linkAfter_connection? {α : Type} (r : Except RuntimeError α)
    (connection : RemoteConnection) :
    Link.connection? (linkAfter r connection) = some connection := by
  cases r with
  | ok a => rfl
  | error e => rfl

theorem Link.breakIf_connection? (failed : Bool) (link : Link) :
    Link.connection? (Link.breakIf failed link) = Link.connection? link := by
  cases link with
  | offline => rfl
  | broken connection => rfl
  | registered connection =>
    cases failed with
    | true => rfl
    | false => rfl

/-- An operation on the connection that keeps the requests in order. -/
theorem Owned.onConnection {m : RemoteConnection.Operation Unit} (h : s.Owned)
    (hm : Keeps (Carried RemoteConnection.Owned) m) : Owned (onConnection m s).1 := by
  unfold RemoteRuntime.onConnection
  cases hlink : s.link with
  | offline => exact h
  | broken connection => exact h
  | registered connection =>
    intro connection' hconnection'
    rw [linkAfter_connection?] at hconnection'
    cases hconnection'
    exact hm connection (h connection (by rw [hlink]; rfl))

theorem Quiet.carried {m : RemoteConnection.Operation Unit} (hm : Keeps RemoteConnection.Quiet m) :
    Keeps (Carried RemoteConnection.Owned) m :=
  fun connection howned => RemoteConnection.Quiet.owned (hm connection) howned

theorem Owned.frame (h : s.Owned) (env : Environment) (encoded : Bytes) (nowUnixMs : UInt64) :
    Owned (frame setting env encoded nowUnixMs s).1 := by
  unfold RemoteRuntime.frame
  cases hlink : s.link with
  | offline => exact h
  | broken connection => exact h
  | registered connection =>
    have howned := h connection (by rw [hlink]; rfl)
    intro connection' hconnection'
    dsimp only at hconnection'
    rw [linkAfter_connection?] at hconnection'
    cases hconnection'
    intro requestId hrequest
    have heffect := handleRemoteServerFrame_effect setting env encoded nowUnixMs
      ⟨connection.protocol, s.sessions, s.pairing⟩
    unfold wp at heffect
    generalize handleRemoteServerFrame setting env encoded nowUnixMs
      ⟨connection.protocol, s.sessions, s.pairing⟩ = result at heffect hrequest
    obtain ⟨r, served⟩ := result
    cases heffect with
    | refused error => exact howned requestId hrequest
    | registered hstate => exact howned requestId hrequest
    | heartbeat => exact howned requestId hrequest
    | session hframe hpayload => exact howned requestId hrequest
    | pairing hframe hpayload heffect hevent =>
      rcases heffect.pairingRequest? with hnone | hsame
      · cases hnone.symm.trans hrequest
      · exact howned requestId (hsame.symm.trans hrequest)

theorem Owned.connect (h : s.Owned) (sends : SignalingClientFrame → Bool) (registered : Bytes) :
    Owned (connect setting sends registered s).1 := by
  unfold RemoteRuntime.connect
  cases hlink : s.link with
  | registered connection => exact h
  | broken connection => exact h
  | offline =>
    dsimp only
    split
    · rename_i connection hconnection
      intro connection' hconnection'
      cases hconnection'
      exact (RemoteConnection.connectRemote_opens hconnection).owned
    · exact fun connection hconnection => by cases hconnection

theorem Owned.flushPairing (h : s.Owned) (nowUnixMs : UInt64)
    (sends : SignalingClientFrame → Bool) :
    Owned (flushPairing setting nowUnixMs sends s).1 := by
  unfold RemoteRuntime.flushPairing
  cases hlink : s.link with
  | offline => exact h
  | broken connection => exact h
  | registered connection =>
    refine Owned.onConnection ?_ (RemoteConnection.sendPairingOutbound_owned sends _)
    exact h

theorem Owned.step (h : s.Owned) (a : RuntimeAction) : Owned (step setting s a).1 := by
  cases a with
  | connect sends registered => exact h.connect sends registered
  | frame env encoded nowUnixMs => exact h.frame env encoded nowUnixMs
  | flushPairing nowUnixMs sends => exact h.flushPairing nowUnixMs sends
  | sendRemote sends =>
    exact Owned.onConnection (s := { s with relays := [] }) h
      (Quiet.carried (RemoteConnection.sendRemoteOutbound_quiet _ _ _))
  | heartbeat sends => exact h.onConnection (Quiet.carried (RemoteConnection.sendHeartbeat_quiet _))
  | session input =>
    intro connection hconnection
    exact h connection ((Link.breakIf_connection? _ _).symm.trans hconnection)
  | command command => exact h
  | lost env nowUnixMs => exact fun connection hconnection => by cases hconnection
  | shutdown env => exact fun connection hconnection => by cases hconnection

/-! ## Errors that answer other requests -/

/-- The rendezvous of the protocol and the attempt of the coordinator stay as they are. -/
def PairingKept (e : Occurrence RemoteRuntime RuntimeAction RuntimeOutput) : Prop :=
  (Link.connection? e.after.link).map (fun connection => connection.protocol.pairing) =
    (Link.connection? e.before.link).map (fun connection => connection.protocol.pairing) ∧
  e.after.pairing.pairing.active = e.before.pairing.pairing.active

/-- An error of the service leaves no attempt. -/
theorem step_remoteError_active (setting : PairingHost.Setting) (host : PairingHost)
    (code : ErrorCode) (retryable : Bool) (nowUnixMs : UInt64) :
    (PairingHost.step setting host
      (.event (.remoteError code retryable) nowUnixMs)).1.pairing.active
      = none := by
  have h : wp (HostPairingCoordinator.handleSignalingEvent setting.crypto setting.signingIdentity
      (.remoteError code retryable) nowUnixMs) (fun _ c => c.active = none) host.pairing := by
    simp only [HostPairingCoordinator.handleSignalingEvent, wp_bind, wp_modify, wp_get, wp_ite,
      wp_throw, andThen_ok]
    refine ⟨fun _ => rfl, fun hnone => ?_⟩
    simpa using hnone
  exact h

variable (env : Environment) {encoded : Bytes} (nowUnixMs : UInt64)
  {connection : RemoteConnection}

/-- The part of a frame's effect that an error can have. -/
theorem error_frame_cases {frame : SignalingServerFrame} {code : Int32}
    {retryable : Bool} {errorRequestId : String} (howned : connection.Owned)
    (hframe : setting.decodeFrame encoded = some frame)
    (hpayload : frame.payload = some (.error code retryable errorRequestId))
    (hother : frame.requestId ∉ connection.pairingRequests)
    (sessions : RemoteSessionCoordinator) (pairing : PairingHost) :
    wp (handleRemoteServerFrame setting env encoded nowUnixMs) (fun _ served =>
      served.protocol.pairing = connection.protocol.pairing ∧
      ((ReportsError encoded frame code errorRequestId ∧
          served.pairing.pairing.active = none) ∨
        (¬ ReportsError encoded frame code errorRequestId ∧
          served.pairing = pairing)))
      ⟨connection.protocol, sessions, pairing⟩ := by
  rw [handleRemoteServerFrame, wp_bind, wp_zoom, wp_mapError]
  refine wp_mono (wp_and (handleBinary_effect setting.decodeFrame encoded)
    (handleBinary_error_iff hframe hpayload connection.protocol)) ?_
  rintro r protocol ⟨⟨e, rfl, rfl⟩ | ⟨frame', payload, event, hframe', hpayload', rfl, heffect⟩,
    hreports⟩
  · exact ⟨rfl, .inr ⟨fun h => (by cases hreports.mpr h), rfl⟩⟩
  · obtain rfl := Option.some.inj (hframe.symm.trans hframe')
    obtain rfl := Option.some.inj (hpayload.symm.trans hpayload')
    have hsame : protocol = connection.protocol :=
      heffect.error_other fun h => hother (howned _ h)
    cases heffect with
    | answered hactive hanswered =>
      exact ⟨congrArg SignalingProtocol.pairing hsame, .inl ⟨hreports.mp rfl,
        step_remoteError_active _ _ _ _ _⟩⟩
    | unanswered _ =>
      exact ⟨rfl, .inl ⟨hreports.mp rfl, step_remoteError_active _ _ _ _ _⟩⟩

/-- A frame that is not a routed session envelope leaves the session coordinator alone. -/
theorem frame_sessions {env : Environment} {encoded : Bytes} {nowUnixMs : UInt64}
    (h : ∀ frame sender envelope, setting.decodeFrame encoded = some frame →
      frame.payload ≠ some (.routedSession sender envelope)) :
    (frame setting env encoded nowUnixMs s).1.sessions = s.sessions := by
  unfold RemoteRuntime.frame
  cases s.link with
  | offline => rfl
  | broken connection => rfl
  | registered connection =>
    have heffect := handleRemoteServerFrame_effect setting env encoded nowUnixMs
      ⟨connection.protocol, s.sessions, s.pairing⟩
    unfold wp at heffect
    dsimp only
    generalize handleRemoteServerFrame setting env encoded nowUnixMs
      ⟨connection.protocol, s.sessions, s.pairing⟩ = result at heffect ⊢
    obtain ⟨r, served⟩ := result
    cases heffect with
    | refused error => rfl
    | registered hstate => rfl
    | heartbeat => rfl
    | session hframe hpayload => exact absurd hpayload (h _ _ _ hframe)
    | pairing hframe hpayload heffect hevent => rfl

/-- An error that answers no request of the pairing leaves both pairing states alone exactly
if no attempt is under way, unless it is not in order. -/
theorem error_kept_iff {frame : SignalingServerFrame} {code : Int32}
    {retryable : Bool} {errorRequestId : String} (howned : s.Owned)
    (hlink : s.link = .registered connection)
    (hframe : setting.decodeFrame encoded = some frame)
    (hpayload : frame.payload = some (.error code retryable errorRequestId))
    (hother : frame.requestId ∉ connection.pairingRequests) :
    PairingKept ((machine setting).occurrence s (.frame env encoded nowUnixMs)) ↔
      s.pairing.pairing.active = none ∨
        ¬ ReportsError encoded frame code errorRequestId := by
  have hcases := error_frame_cases env nowUnixMs (howned connection (by rw [hlink]; rfl)) hframe
    hpayload hother s.sessions s.pairing
  unfold wp at hcases
  have hkept : PairingKept ((machine setting).occurrence s (.frame env encoded nowUnixMs)) ↔
      (handleRemoteServerFrame setting env encoded nowUnixMs
        ⟨connection.protocol, s.sessions, s.pairing⟩).2.pairing.pairing.active =
        s.pairing.pairing.active := by
    simp only [PairingKept, Machine.occurrence_after, Machine.occurrence_before, machine,
      RemoteRuntime.step, RemoteRuntime.frame, hlink, linkAfter_connection?, Option.map_some]
    exact ⟨fun h => h.2, fun h => ⟨congrArg some hcases.1, h⟩⟩
  rw [hkept]
  rcases hcases.2 with ⟨hreports, hnone⟩ | ⟨hrefused, hsame⟩
  · rw [hnone]
    exact ⟨fun h => .inl h.symm, fun h => (h.resolve_right (not_not_intro hreports)).symm⟩
  · rw [hsame]
    exact ⟨fun _ => .inr hrefused, fun _ => rfl⟩

/-- On every run, an error that answers no request of the pairing leaves the rendezvous of
the protocol and the attempt of the coordinator alone exactly when there is no attempt (or
the frame is refused), and nothing but a routed session envelope reaches the session
coordinator. -/
theorem frame_noninterference (setting : RuntimeSetting) (sessions : RemoteSessionCoordinator)
    (pairing : PairingHost) (actions : List RuntimeAction) :
    ∀ e ∈ (machine setting).trace (initial sessions pairing) actions,
      ∀ env encoded nowUnixMs, e.input = .frame env encoded nowUnixMs →
      (∀ connection frame code retryable errorRequestId,
        e.before.link = .registered connection →
        setting.decodeFrame encoded = some frame →
        frame.payload = some (.error code retryable errorRequestId) →
        frame.requestId ∉ connection.pairingRequests →
        (PairingKept e ↔ e.before.pairing.pairing.active = none ∨
          ¬ ReportsError encoded frame code errorRequestId)) ∧
      ((∀ frame sender envelope, setting.decodeFrame encoded = some frame →
          frame.payload ≠ some (.routedSession sender envelope)) →
        e.after.sessions = e.before.sessions) := by
  intro e he env encoded nowUnixMs hinput
  obtain ⟨howned, -, -, hoccurrence⟩ := (machine setting).trace_invariant Owned
    (fun s a hs _ => hs.step a) (fun _ h => by cases h)
    ((machine setting).guarded_true _ actions) he
  rw [hinput] at hoccurrence
  refine ⟨fun connection frame code retryable errorRequestId hlink hframe hpayload hother => ?_,
    fun h => ?_⟩
  · have hkept := error_kept_iff env nowUnixMs howned hlink hframe hpayload hother
    rwa [← hoccurrence] at hkept
  · rw [hoccurrence]
    exact frame_sessions h

/-- A connection on which a session envelope is relayed to a device that has gone. -/
def sampleRelay : List RuntimeAction :=
  [SampleConnection.connect, SampleConnection.start, SampleConnection.flush,
    SampleConnection.receive (SampleConnection.routedCandidate
      SampleExchange.controller.deviceId "c-1" SampleConnection.firstSession),
    SampleConnection.receive (SampleConnection.routedCandidate SampleConnection.stranger "d-1"
      SampleConnection.secondSession),
    .sendRemote fun _ => true]

/-- The state of that connection before the error arrives. -/
def sampleRelayed : RemoteRuntime :=
  (machine SampleConnection.setting).run SampleConnection.runtime sampleRelay

/-- The connection of that state. -/
def sampleRelayedConnection : RemoteConnection where
  protocol :=
    { deviceId := sampleHostIdentity.deviceId
      state := .ready
      pairing := some
        { rendezvousId := SampleExchange.rendezvousId.toList, kind := .qr, expiresAtUnixMs := 0
          phase := .creating "host-1-2" }
      pendingHeartbeatRequestId := none }
  requestCounter := 3
  generation := 1
  pairingRequests := ["host-1-2"]

theorem sampleRelayed_link : sampleRelayed.link = .registered sampleRelayedConnection := by
  decide +kernel

/-- The error about the relayed envelope. -/
def sampleRelayError : Occurrence RemoteRuntime RuntimeAction RuntimeOutput :=
  (machine SampleConnection.setting).occurrence sampleRelayed
    (SampleConnection.receive SampleConnection.recipientOffline)

theorem sampleRelayError_mem : sampleRelayError ∈ (machine SampleConnection.setting).trace
    SampleConnection.runtime (sampleRelay ++
      [SampleConnection.receive SampleConnection.recipientOffline]) := by
  rw [Machine.trace_snoc]
  exact List.mem_append_right _ (List.mem_singleton_self _)

theorem sampleRelayError_before : sampleRelayError.before = sampleRelayed :=
  Machine.occurrence_before _ _

theorem decode_recipientOffline :
    SampleConnection.setting.decodeFrame SampleConnection.recipientOffline =
      some (SampleConnection.serverFrame "host-1-3" (.error 4 true "host-1-3")) := by
  decide +kernel

theorem frame_noninterference_sample :
    "host-1-3" ∉ sampleRelayedConnection.pairingRequests ∧
    (PairingKept sampleRelayError ↔ sampleRelayed.pairing.pairing.active = none ∨
      ¬ ReportsError SampleConnection.recipientOffline
        (SampleConnection.serverFrame "host-1-3" (.error 4 true "host-1-3")) 4 "host-1-3") ∧
    sampleRelayError.after.sessions = sampleRelayed.sessions := by
  have hother : "host-1-3" ∉ sampleRelayedConnection.pairingRequests := by decide
  have hframe := decode_recipientOffline
  have h := frame_noninterference SampleConnection.setting _ _ _ sampleRelayError
    sampleRelayError_mem SampleConnection.environment SampleConnection.recipientOffline
    SampleExchange.now rfl
  rw [sampleRelayError_before] at h
  refine ⟨hother, h.1 _ _ _ _ _ sampleRelayed_link hframe rfl hother, h.2 ?_⟩
  intro frame sender envelope hdecoded hrouted
  obtain rfl := Option.some.inj (hframe.symm.trans hdecoded)
  cases hrouted

/-- An error about a session envelope, whose recipient has gone, ends an attempt that waits
for its rendezvous. -/
theorem relay_error_fails_pairing :
    sampleRelayError ∈ (machine SampleConnection.setting).trace SampleConnection.runtime
      (sampleRelay ++ [SampleConnection.receive SampleConnection.recipientOffline]) ∧
    sampleRelayError.before.link = .registered sampleRelayedConnection ∧
    SampleConnection.setting.decodeFrame SampleConnection.recipientOffline =
      some (SampleConnection.serverFrame "host-1-3" (.error 4 true "host-1-3")) ∧
    "host-1-3" ∉ sampleRelayedConnection.pairingRequests ∧
    sampleRelayError.before.pairing.pairing.active.isSome = true ∧
    ¬ PairingKept sampleRelayError := by
  rw [sampleRelayError_before]
  refine ⟨sampleRelayError_mem, sampleRelayed_link, decode_recipientOffline, by decide, ?_, ?_⟩
  · decide +kernel
  · intro hkept
    have hactive := hkept.2
    revert hactive
    decide +kernel

end RemoteRuntime

end Host

end Roammand
