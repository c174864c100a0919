import Roammand.Host.Signaling

/-!
# What a frame does to the protocol state

Every frame of the service is inverted once: `FrameEffect` lists the frames that are
accepted, with the event each of them becomes and the protocol state after it.  A frame
that is refused leaves the protocol state as it was.

Main results:

- Definition `FrameEffect`.
- Theorem `handleBinary_effect`: a binary frame is refused or has one of these effects.
-/

namespace Roammand

namespace Host

open Library Protocol Fallible

namespace SignalingProtocol

/-- The frames that are accepted, with their events and the state after them. -/
inductive FrameEffect (p : SignalingProtocol) (requestId : String) :
    SignalingServerPayload → SignalingEvent → SignalingProtocol → Prop where
  | registered {expires : UInt64} (hstate : p.state = .registering requestId) :
      FrameEffect p requestId (.registered p.deviceId expires) (.registered expires)
        { p with state := .ready }
  | heartbeat {time expires : UInt64} (hready : p.state = .ready) :
      FrameEffect p requestId (.heartbeatAcknowledged time expires)
        (.heartbeatAcknowledged time expires) { p with pendingHeartbeatRequestId := none }
  | routedSession {sender envelope : Bytes} (hready : p.state = .ready) :
      FrameEffect p requestId (.routedSession sender envelope) (.routedSession sender envelope) p
  | created {active : ProtocolPairing} {kind : Int32} {expires : UInt64}
      (hactive : p.pairing = some active) (hphase : active.phase = .creating requestId) :
      FrameEffect p requestId (.rendezvousCreated active.rendezvousId kind expires)
        (.pairingCreated active.rendezvousId active.kind expires)
        { p with
          pairing := some { active with expiresAtUnixMs := expires, phase := .inviting } }
  | joined {active : ProtocolPairing} {peer : Bytes} (hactive : p.pairing = some active)
      (hphase : active.phase = .inviting) :
      FrameEffect p requestId (.rendezvousJoined active.rendezvousId peer active.expiresAtUnixMs)
        (.pairingJoined active.rendezvousId peer active.expiresAtUnixMs)
        { p with pairing := some { active with phase := .joined peer } }
  | routedPairing {active : ProtocolPairing} {sender envelope : Bytes}
      (hactive : p.pairing = some active) (hphase : active.phase = .joined sender) :
      FrameEffect p requestId (.routedPairing active.rendezvousId sender envelope)
        (.routedPairing active.rendezvousId sender envelope) p
  | closed {active : ProtocolPairing} {wire : Int32} {completion : PairingRendezvousCompletion}
      (hactive : p.pairing = some active)
      (hcheck : checkClosed active.phase requestId completion = .ok ()) :
      FrameEffect p requestId (.rendezvousClosed active.rendezvousId wire)
        (.pairingClosed active.rendezvousId completion) { p with pairing := none }
  | answered {active : ProtocolPairing} {code : Int32} {error : ErrorCode} {retryable : Bool}
      (hactive : p.pairing = some active)
      (hanswered : PairingPhase.answeredBy requestId active.phase = true) :
      FrameEffect p requestId (.error code retryable requestId) (.remoteError error retryable)
        { p with pairing := none }
  | unanswered {code : Int32} {error : ErrorCode} {retryable : Bool}
      (hother : ∀ active, p.pairing = some active →
        PairingPhase.answeredBy requestId active.phase = false) :
      FrameEffect p requestId (.error code retryable requestId) (.remoteError error retryable) p

/-- A frame is refused and changes nothing, or it has an effect. -/
def Handled (p : SignalingProtocol) (requestId : String) (payload : SignalingServerPayload)
    (r : Except SignalingClientError SignalingEvent) (p' : SignalingProtocol) : Prop :=
  (∃ e, r = .error e ∧ p' = p) ∨ ∃ event, r = .ok event ∧
    FrameEffect p requestId payload event p'

variable {p : SignalingProtocol} {requestId : String}

theorem Handled.refused {payload : SignalingServerPayload} {e : SignalingClientError} :
    Handled p requestId payload (.error e) p :=
  .inl ⟨e, rfl, rfl⟩

theorem handleRegistered_effect (deviceId : Bytes) (expires : UInt64) :
    wp (handleRegistered requestId deviceId expires)
      (Handled p requestId (.registered deviceId expires)) p := by
  rw [handleRegistered, wp_get_bind]
  cases hstate : p.state with
  | disconnected => exact .refused
  | ready => exact .refused
  | registering expected =>
    simp only [wp_bind, wp_require, andThen_ok, andThen_error, wp_modify, wp_pure]
    refine ⟨fun hid => ⟨fun hdevice => ?_, fun _ => .refused⟩, fun _ => .refused⟩
    subst hid hdevice
    exact .inr ⟨_, rfl, .registered hstate⟩

theorem handleHeartbeatAcknowledged_effect (time expires : UInt64) :
    wp (handleHeartbeatAcknowledged requestId time expires)
      (Handled p requestId (.heartbeatAcknowledged time expires)) p := by
  simp only [handleHeartbeatAcknowledged, wp_bind, wp_get, wp_require, wp_orThrow, andThen_ok,
    andThen_error, wp_modify, wp_pure]
  exact ⟨fun hready => ⟨fun expected _ => ⟨fun _ => ⟨fun _ => .inr ⟨_, rfl, .heartbeat hready⟩,
    fun _ => .refused⟩, fun _ => .refused⟩, fun _ => .refused⟩, fun _ => .refused⟩

theorem handleRoutedSession_effect (sender envelope : Bytes) :
    wp (handleRoutedSession requestId sender envelope)
      (Handled p requestId (.routedSession sender envelope)) p := by
  simp only [handleRoutedSession, wp_bind, wp_get, wp_require, andThen_ok, andThen_error, wp_pure]
  exact ⟨fun hready => ⟨fun _ => ⟨fun _ => .inr ⟨_, rfl, .routedSession hready⟩,
    fun _ => .refused⟩, fun _ => .refused⟩, fun _ => .refused⟩

variable {phase : PairingPhase}

theorem creatingRequest?_eq_some {expected : String} :
    PairingPhase.creatingRequest? phase = some expected ↔ phase = .creating expected := by
  cases phase with
  | creating id => simp [PairingPhase.creatingRequest?]
  | inviting => simp [PairingPhase.creatingRequest?]
  | joined peer => simp [PairingPhase.creatingRequest?]
  | completing id completion => simp [PairingPhase.creatingRequest?]

theorem peer?_eq_some {peer : Bytes} :
    PairingPhase.peer? phase = some peer ↔ phase = .joined peer := by
  cases phase with
  | creating id => simp [PairingPhase.peer?]
  | inviting => simp [PairingPhase.peer?]
  | joined peer' => simp [PairingPhase.peer?]
  | completing id completion => simp [PairingPhase.peer?]

variable (rendezvousId : Bytes)

theorem handlePairingCreated_effect (kind : Int32) (expires : UInt64) :
    wp (handlePairingCreated requestId rendezvousId kind expires)
      (Handled p requestId (.rendezvousCreated rendezvousId kind expires)) p := by
  simp only [handlePairingCreated, wp_bind, wp_get, wp_require, wp_orThrow, andThen_ok,
    andThen_error, wp_modify, wp_pure]
  refine ⟨fun known _ => ⟨fun _ => ⟨fun active hactive => ⟨fun expected hexpected =>
    ⟨fun hid => ⟨fun hmatch => ?_, fun _ => .refused⟩, fun _ => .refused⟩, fun _ => .refused⟩,
    fun _ => .refused⟩, fun _ => .refused⟩, fun _ => .refused⟩
  obtain ⟨rfl, rfl⟩ := hmatch
  subst hid
  exact .inr ⟨_, rfl, .created hactive (creatingRequest?_eq_some.mp hexpected)⟩

theorem handlePairingJoined_effect (rendezvousId peer : Bytes) (expires : UInt64) :
    wp (handlePairingJoined requestId rendezvousId peer expires)
      (Handled p requestId (.rendezvousJoined rendezvousId peer expires)) p := by
  simp only [handlePairingJoined, wp_bind, wp_get, wp_require, wp_orThrow, andThen_ok,
    andThen_error, wp_modify, wp_pure]
  refine ⟨fun _ => ⟨fun active hactive => ⟨fun hphase => ⟨fun hmatch => ⟨fun _ => ?_,
    fun _ => .refused⟩, fun _ => .refused⟩, fun _ => .refused⟩, fun _ => .refused⟩,
    fun _ => .refused⟩
  obtain ⟨rfl, rfl⟩ := hmatch
  exact .inr ⟨_, rfl, .joined hactive hphase⟩

theorem handleRoutedPairing_effect (rendezvousId sender envelope : Bytes) :
    wp (handleRoutedPairing requestId rendezvousId sender envelope)
      (Handled p requestId (.routedPairing rendezvousId sender envelope)) p := by
  simp only [handleRoutedPairing, wp_bind, wp_get, wp_require, wp_orThrow, andThen_ok,
    andThen_error, wp_pure]
  refine ⟨fun _ => ⟨fun _ => ⟨fun active hactive => ⟨fun peer hpeer => ⟨fun hid =>
    ⟨fun hsender => ?_, fun _ => .refused⟩, fun _ => .refused⟩, fun _ => .refused⟩,
    fun _ => .refused⟩, fun _ => .refused⟩, fun _ => .refused⟩
  subst hid hsender
  exact .inr ⟨_, rfl, .routedPairing hactive (peer?_eq_some.mp hpeer)⟩

theorem handlePairingClosed_effect (completion : Int32) :
    wp (handlePairingClosed requestId rendezvousId completion)
      (Handled p requestId (.rendezvousClosed rendezvousId completion)) p := by
  simp only [handlePairingClosed, wp_bind, wp_get, wp_require, wp_orThrow, andThen_ok,
    andThen_error]
  refine ⟨fun known _ => ⟨fun _ => ⟨fun active hactive => ⟨fun hid => ?_, fun _ => .refused⟩,
    fun _ => .refused⟩, fun _ => .refused⟩, fun _ => .refused⟩
  subst hid
  rw [wp_ofResult]
  cases hcheck : checkClosed active.phase requestId known with
  | error e => exact .refused
  | ok u =>
    simp only [andThen_ok, wp_bind, wp_modify, wp_pure]
    exact .inr ⟨_, rfl, .closed hactive hcheck⟩

theorem handleError_effect (code : Int32) (retryable : Bool) (errorRequestId : String) :
    wp (handleError requestId code retryable errorRequestId)
      (Handled p requestId (.error code retryable errorRequestId)) p := by
  simp only [handleError, wp_bind, wp_get, wp_require, wp_orThrow, andThen_ok, andThen_error,
    validateRequestId, wp_onlyIf, wp_modify, wp_pure]
  refine ⟨fun hid => ⟨fun _ => ⟨fun known _ => ⟨fun _ => ⟨fun hanswered => ?_,
    fun hother => ?_⟩, fun _ => .refused⟩, fun _ => .refused⟩, fun _ => .refused⟩,
    fun _ => .refused⟩
  · obtain ⟨-, rfl⟩ := not_or.mp hid |>.imp_right not_not.mp
    cases hactive : p.pairing with
    | none =>
      rw [hactive] at hanswered
      cases hanswered
    | some active =>
      rw [hactive] at hanswered
      exact .inr ⟨_, rfl, .answered hactive hanswered⟩
  · obtain ⟨-, rfl⟩ := not_or.mp hid |>.imp_right not_not.mp
    refine .inr ⟨_, rfl, .unanswered fun active hactive => ?_⟩
    rw [hactive] at hother
    simpa using hother

/-- A frame of the service is refused or has an effect. -/
theorem handlePayload_effect (payload : SignalingServerPayload) :
    wp (handlePayload requestId payload) (Handled p requestId payload) p := by
  cases payload with
  | registered deviceId expires => exact handleRegistered_effect _ _
  | heartbeatAcknowledged time expires => exact handleHeartbeatAcknowledged_effect _ _
  | presenceResult deviceId online => exact .refused
  | rendezvousCreated rendezvousId kind expires => exact handlePairingCreated_effect _ _ _
  | rendezvousJoined rendezvousId peer expires => exact handlePairingJoined_effect _ _ _
  | routedPairing rendezvousId sender envelope => exact handleRoutedPairing_effect _ _ _
  | rendezvousClosed rendezvousId completion => exact handlePairingClosed_effect _ _
  | routedSession sender envelope => exact handleRoutedSession_effect _ _
  | error code retryable errorRequestId => exact handleError_effect _ _ _

/-- A binary frame is refused and changes nothing, or it decodes to a frame with an effect. -/
def HandledBinary (p : SignalingProtocol) (decoded : Option SignalingServerFrame)
    (r : Except SignalingClientError SignalingEvent) (p' : SignalingProtocol) : Prop :=
  (∃ e, r = .error e ∧ p' = p) ∨
    ∃ frame payload event, decoded = some frame ∧ frame.payload = some payload ∧
      r = .ok event ∧ FrameEffect p frame.requestId payload event p'

theorem HandledBinary.refused {decoded : Option SignalingServerFrame} {e : SignalingClientError} :
    HandledBinary p decoded (.error e) p :=
  .inl ⟨e, rfl, rfl⟩

theorem handleBinary_effect (decode : Bytes → Option SignalingServerFrame) (encoded : Bytes) :
    wp (handleBinary decode encoded) (HandledBinary p (decode encoded)) p := by
  simp only [handleBinary, handleFrame, wp_bind, wp_require, wp_orThrow, andThen_ok, andThen_error]
  refine ⟨fun _ => ⟨fun frame hframe => ⟨fun version _ => ⟨fun _ => ⟨fun payload hpayload => ?_,
    fun _ => .refused⟩, fun _ => .refused⟩, fun _ => .refused⟩, fun _ => .refused⟩,
    fun _ => .refused⟩
  refine wp_mono (handlePayload_effect payload) ?_
  rintro r p' (⟨e, rfl, rfl⟩ | ⟨event, rfl, heffect⟩)
  · exact .refused
  · exact .inr ⟨frame, payload, event, hframe, hpayload, rfl, heffect⟩

end SignalingProtocol

end Host

end Roammand
