import Roammand.Host.Runtime
import Roammand.Host.SessionConsistency

/-!
# What a routed envelope may change

Every device that the signaling service knows can have an envelope routed to the Host.
An envelope that cannot be decoded or that names another sender or recipient is
refused at once.  Any other one first lets what is too old expire, and then belongs to
the active session, to the pending session, or to nobody.

A device that is not the controller of the active session gets no further than the
expiry, which a tick of the clock would have done as well.  The controller itself may
send something that has to be refused; where the check stands after the write, the
refused message has already replaced what was kept.

Main results:

- Definition `Addressed`: the envelope is well-formed and addressed to the Host.
- Theorem `stranger_noninterference`: what an envelope of another device does to the
  active session.
-/

namespace Roammand

namespace Host

namespace RemoteSessionCoordinator

open Library Protocol Fallible ActiveSession OfferVerifier

variable {c c' : RemoteSessionCoordinator} {crypto : Crypto} {env : Environment}
  {senderDeviceId : Bytes} {decoded : Option SignalingEnvelope} {envelope : SignalingEnvelope}
  {now : UInt64}

/-! ## The way of an envelope -/

/-- The envelope is well-formed, and it goes from its sender to the Host. -/
structure Addressed (c : RemoteSessionCoordinator) (senderDeviceId : Bytes)
    (decoded : Option SignalingEnvelope) (envelope : SignalingEnvelope) : Prop where
  decoded : decoded = some envelope
  valid : validateEnvelopeFields envelope = .ok ()
  sender : envelope.senderDeviceId = senderDeviceId
  recipient : envelope.recipientDeviceId = c.hostDeviceId

/-- What becomes of an envelope once everything too old has expired. -/
def dispatchRouted (crypto : Crypto) (env : Environment) (envelope : SignalingEnvelope)
    (now : UInt64) : CoordinatorM (List RemoteSessionOutbound) := do
  let c ← get
  if c.matchesFailedAttempt envelope then return []
  else
    match c.active with
    | none => handlePendingEnvelope crypto env envelope now
    | some active =>
      if active.controllerDeviceId = envelope.senderDeviceId then
        handleActiveEnvelope crypto env envelope now
      else do
        let error ← errorOutbound envelope.senderDeviceId envelope.requestId .deviceBusy now
        return [error]

/-- The coordinator without a pending session and a failed attempt that are too old. -/
def freshened (c : RemoteSessionCoordinator) (now : UInt64) : RemoteSessionCoordinator :=
  (expirePending now c).2

/-- An envelope that is not addressed to the Host changes nothing. -/
theorem handleRouted_refused (hopen : c.closed = false)
    (h : ∀ envelope, ¬ Addressed c senderDeviceId decoded envelope) :
    handleRouted crypto env senderDeviceId decoded now c = (.error .invalidEnvelope, c) := by
  have hwp : wp (handleRouted crypto env senderDeviceId decoded now)
      (fun r c' => (r, c') = (.error .invalidEnvelope, c)) c := by
    unfold handleRouted
    simp only [wp_bind, wp_get, andThen_ok, wp_require, wp_orThrow, andThen_error, wp_ofResult]
    refine ⟨fun _ => ⟨fun envelope henvelope => ?_, fun _ => trivial⟩, fun hclosed => ?_⟩
    · cases hvalid : validateEnvelopeFields envelope with
      | error error => rfl
      | ok _ =>
        simp only [Except.mapError, andThen_ok, wp_bind, wp_require, andThen_error]
        refine ⟨fun hids => ?_, fun _ => trivial⟩
        exact absurd ⟨henvelope, hvalid, hids.1, hids.2⟩ (h envelope)
    · exact absurd hopen hclosed
  exact hwp

/-- Any other envelope is dispatched after the expiry. -/
theorem handleRouted_addressed {Q : Except RemoteSessionError (List RemoteSessionOutbound) →
      RemoteSessionCoordinator → Prop} (hopen : c.closed = false)
    (h : Addressed c senderDeviceId decoded envelope)
    (hdispatch : wp (expireActiveReconnect env now)
      (andThen (fun _ => dispatchRouted crypto env envelope now) Q) (c.freshened now)) :
    wp (handleRouted crypto env senderDeviceId decoded now) Q c := by
  unfold handleRouted
  simp only [wp_bind, wp_get, andThen_ok, wp_require, wp_orThrow, andThen_error, wp_ofResult]
  refine ⟨fun _ => ⟨fun found hfound => ?_, fun hnone => ?_⟩, fun hclosed => absurd hopen hclosed⟩
  · obtain rfl : envelope = found := Option.some.inj (h.decoded.symm.trans hfound)
    simp only [h.valid, Except.mapError, andThen_ok, wp_bind, wp_require, andThen_error]
    refine ⟨fun _ => ?_, fun hids => absurd ⟨h.sender, h.recipient⟩ hids⟩
    rw [expirePending, wp_modify, andThen_ok, wp_bind]
    exact hdispatch
  · rw [h.decoded] at hnone
    cases hnone

/-- What closing a session yields. -/
def closeResult (env : Environment) (finalError : Option ErrorCode) (sessions : SessionRegistry)
    (a : ActiveSession) : Except RemoteSessionError Unit := do
  (HostPeerSession.close a.session).1.mapError mapPeerError
  ((sessions.unregister a.sessionId).2.map fun _ => ()).mapError fun _ => .service
  ensure (env.published (if finalError = none then .idle else .failed) = true) .service

theorem closeActive_some {finalError : Option ErrorCode} {a : ActiveSession}
    (ha : c.active = some a) : closeActive env finalError c =
      (closeResult env finalError c.sessions a, { c with
        active := none
        sessions := (c.sessions.unregister a.sessionId).1
        retired := c.retired ++ [(HostPeerSession.close a.session).2.dropped] }) := by
  have hwp : wp (closeActive env finalError) (fun r c' => (r, c') =
      (closeResult env finalError c.sessions a, { c with
        active := none
        sessions := (c.sessions.unregister a.sessionId).1
        retired := c.retired ++ [(HostPeerSession.close a.session).2.dropped] })) c := by
    unfold closeActive closeResult
    rw [wp_get_bind, ha]
    dsimp only
    rw [wp_modify_bind, wp_bind, wp_ofResult]
    cases (HostPeerSession.close a.session).1.mapError mapPeerError with
    | error error => rfl
    | ok _ =>
      rw [andThen_ok, wp_bind, wp_ofResult]
      cases ((c.sessions.unregister a.sessionId).2.map fun _ => ()).mapError
          fun _ => RemoteSessionError.service with
      | error error => rfl
      | ok _ => rfl
  exact hwp

/-- The coordinator after the active session has been closed. -/
def withoutActive (c : RemoteSessionCoordinator) (a : ActiveSession) : RemoteSessionCoordinator :=
  { c with
    active := none
    sessions := (c.sessions.unregister a.sessionId).1
    retired := c.retired ++ [(HostPeerSession.close a.session).2.dropped] }

theorem expireActiveReconnect_early (h : ¬ Expired now c) :
    expireActiveReconnect env now c = (.ok false, c) := by
  have hwp : wp (expireActiveReconnect env now) (fun r c' => (r, c') = (.ok false, c)) c := by
    refine wp_mono (expireActiveReconnect_spec c) ?_
    rintro r c' (⟨hexpired, _⟩ | ⟨_, rfl, rfl⟩)
    · exact absurd hexpired h
    · rfl
  exact hwp

variable {a : ActiveSession}

theorem expireActiveReconnect_due (ha : c.active = some a)
    (h : Expired now c) : expireActiveReconnect env now c =
      ((closeResult env (some .iceFailed) c.sessions a).map fun _ => true, c.withoutActive a) := by
  obtain ⟨a', deadline, ha', hdeadline, hle⟩ := h
  obtain rfl : a = a' := Option.some.inj (ha.symm.trans ha')
  have hexpired : (c.reconnectDeadlineUnixMs.any fun deadline => deadline ≤ now) = true := by
    rw [reconnectDeadlineUnixMs, ha, Option.bind_some, hdeadline]
    simpa using hle
  have hwp : wp (expireActiveReconnect env now) (fun r c' => (r, c') =
      ((closeResult env (some .iceFailed) c.sessions a).map fun _ => true, c.withoutActive a))
      c := by
    unfold expireActiveReconnect
    rw [wp_get_bind, wp_bind, wp_onlyIf]
    refine ⟨fun _ => ?_, fun h => absurd hexpired h⟩
    unfold wp
    rw [closeActive_some ha]
    cases closeResult env (some .iceFailed) c.sessions a with
    | error error => rfl
    | ok _ => simp only [andThen_ok, wp_pure, hexpired]; rfl
  exact hwp

/-! ## Envelopes of other devices -/

/-- The result leaves the connection alone. -/
def Tolerable {α : Type} (r : Except RemoteSessionError α) : Prop :=
  ∀ error, r = .error error → error.keepsConnection = true

variable {α : Type}

theorem tolerable_ok (a : α) : Tolerable (.ok a) := nofun

theorem tolerable_error {error : RemoteSessionError} (h : error.keepsConnection = true) :
    Tolerable (.error error : Except RemoteSessionError α) := by
  rintro _ ⟨⟩
  exact h

variable (controllerDeviceId sessionId : Bytes)

/-- One message does not make a pending session ready. -/
theorem collectPending_first (requestId : String)
    (payload : SignalingPayload) (c : RemoteSessionCoordinator) :
    wp (collectPending (.new controllerDeviceId sessionId requestId now) payload) (fun r c' =>
      Tolerable r ∧ ∃ pending, pending.isReady = false ∧ c' = { c with pending := some pending })
      { c with pending := some (.new controllerDeviceId sessionId requestId now) } := by
  have hset : ∀ {r : Except RemoteSessionError Unit} {pending : PendingSession}, Tolerable r →
      pending.isReady = false → Tolerable r ∧ ∃ pending', pending'.isReady = false ∧
        { c with pending := some pending } = { c with pending := some pending' } :=
    fun hr hready => ⟨hr, _, hready, rfl⟩
  unfold collectPending
  split
  · simp only [setPending, wp_bind, wp_modify, andThen_ok, wp_require]
    exact ⟨fun _ => hset (tolerable_ok _) rfl, fun h => absurd rfl h⟩
  · rw [wp_bind, wp_orThrow]
    refine ⟨fun payload _ => ?_, fun _ => hset (tolerable_error rfl) rfl⟩
    rw [andThen_ok]
    split
    · simp only [setPending, wp_bind, wp_modify, andThen_ok, wp_require, andThen_error]
      exact ⟨fun _ => ⟨fun _ => hset (tolerable_ok _) rfl, fun h => absurd rfl h⟩,
        fun _ => hset (tolerable_error rfl) rfl⟩
    · rw [wp_bind, wp_ofResult]
      unfold PendingSession.pushCandidate
      dsimp only
      split
      · exact hset (tolerable_error rfl) rfl
      · rw [andThen_ok, setPending, wp_modify]
        exact hset (tolerable_ok _) rfl
    · exact hset (tolerable_ok _) rfl
  · exact hset (tolerable_error rfl) rfl

theorem tryStartPending_early {pending : PendingSession} (h : pending.isReady = false) :
    tryStartPending crypto env now { c with pending := some pending } =
      (.ok [], { c with pending := some pending }) := by
  have hwp : wp (tryStartPending crypto env now) (fun r c' => (r, c') =
      (.ok [], { c with pending := some pending })) { c with pending := some pending } := by
    unfold tryStartPending
    rw [wp_get_bind]
    dsimp only
    rw [wp_ite]
    exact ⟨fun hready => absurd (h.symm.trans hready) (by decide), fun _ => rfl⟩
  exact hwp

theorem preparePending_first (requestId : String) (hpending : c.pending = none) :
    wp (preparePending controllerDeviceId sessionId requestId now) (fun r c' =>
      r = .ok (some (.new controllerDeviceId sessionId requestId now)) ∧
        c' = { c with
          pending := some (.new controllerDeviceId sessionId requestId now) }) c := by
  unfold preparePending
  rw [wp_get_bind, hpending]
  exact ⟨rfl, rfl⟩

/-- A first message is not enough to start a session: it is kept or refused. -/
theorem handlePendingEnvelope_first (hpending : c.pending = none) :
    wp (handlePendingEnvelope crypto env envelope now) (fun r c' =>
      Tolerable r ∧ ∃ pending, c' = { c with pending }) c := by
  unfold handlePendingEnvelope
  rw [wp_bind, wp_orThrow]
  refine ⟨fun payload _ => ?_, fun _ => ⟨tolerable_error rfl, c.pending, rfl⟩⟩
  rw [andThen_ok]
  split
  · rw [wp_bind, wp_require]
    refine ⟨fun _ => ?_, fun _ => ⟨tolerable_error rfl, c.pending, rfl⟩⟩
    rw [andThen_ok, wp_modify_bind, wp_pure]
    exact ⟨tolerable_ok _, _, rfl⟩
  · rw [wp_bind, wp_orThrow]
    refine ⟨fun sessionId _ => ?_, fun _ => ⟨tolerable_error rfl, c.pending, rfl⟩⟩
    rw [andThen_ok, wp_bind]
    refine wp_mono (preparePending_first _ sessionId _ hpending) ?_
    rintro _ _ ⟨rfl, rfl⟩
    rw [andThen_ok, wp_bind]
    refine wp_mono (collectPending_first _ _ _ _ c) ?_
    rintro (error | _) _ ⟨htolerable, pending, hready, rfl⟩
    · refine ⟨fun error' herror => ?_, _, rfl⟩
      cases herror
      exact htolerable error rfl
    · rw [andThen_ok]
      unfold wp
      rw [tryStartPending_early hready]
      exact ⟨tolerable_ok _, _, rfl⟩

/-- What an envelope of another device leaves of the active session and the registry,
beside what a tick leaves of them. -/
structure AsTick (env : Environment) (now : UInt64) (c c' : RemoteSessionCoordinator)
    (r : Output) : Prop where
  active : c'.active = (expireActiveReconnect env now c).2.active
  sessions : c'.sessions = (expireActiveReconnect env now c).2.sessions
  /-- The result leaves the connection alone, unless the tick fails in the same way. -/
  result : ∀ error, r = .error error →
    error.keepsConnection = true ∨ (expireActiveReconnect env now c).1 = .error error

/-- The dispatch of an envelope of another device after the expiry. -/
theorem dispatchRouted_stranger (hactive : c.active = some a ∨ c.active = none)
    (hpending : c.pending = none) (hstranger : envelope.senderDeviceId ≠ a.controllerDeviceId) :
    wp (dispatchRouted crypto env envelope now) (fun r c' => Tolerable r ∧
      ∃ pending, c' = { c with pending }) c := by
  have hsame : ∃ pending, c = { c with pending } := ⟨c.pending, rfl⟩
  unfold dispatchRouted
  rw [wp_get_bind, wp_ite]
  refine ⟨fun _ => ⟨tolerable_ok _, hsame⟩, fun _ => ?_⟩
  split
  · exact handlePendingEnvelope_first hpending
  · next b hb =>
      obtain rfl : b = a := by
        rcases hactive with ha | hnone
        · exact Option.some.inj (hb.symm.trans ha)
        · rw [hnone] at hb
          cases hb
      rw [wp_ite]
      refine ⟨fun hcontroller => absurd hcontroller.symm hstranger, fun _ => ?_⟩
      unfold errorOutbound outbound
      simp only [wp_bind, wp_get, andThen_ok, wp_require, wp_pure, andThen_error]
      exact ⟨fun _ => ⟨tolerable_ok _, hsame⟩, fun _ => ⟨tolerable_error rfl, hsame⟩⟩

/-- What holds in every state that a run of the coordinator reaches. -/
structure Reached (c : RemoteSessionCoordinator) : Prop where
  coherent : Coherent c
  consistent : Consistent c

theorem serviceMachine_reached (crypto : Crypto) (input : ServiceInput) (hc : Reached c) :
    Reached ((serviceMachine crypto).step c input).1 := by
  refine ⟨(serviceMachine_settles crypto input hc.coherent).coherent, ?_⟩
  cases input with
  | coordinator input => exact (perform_effect input c).consistent hc.consistent
  | terminateController controllerDeviceId => exact ⟨hc.consistent.live, hc.consistent.closed⟩
  | terminateAll reason => exact ⟨hc.consistent.live, hc.consistent.closed⟩

theorem run_reached (crypto : Crypto) {hostDeviceId : Bytes}
    (hnew : withConfig hostDeviceId = .ok c)
    (inputs : List ServiceInput) : Reached ((serviceMachine crypto).run c inputs) := by
  have hinitial : Reached c := by
    refine ⟨withConfig_coherent hnew, ?_⟩
    unfold withConfig at hnew
    obtain ⟨verifier, _, hc⟩ := bind_eq_ok.mp hnew
    cases hc
    exact new_consistent hostDeviceId verifier
  exact Machine.run_invariant (G := fun _ _ => True) Reached
    (fun _ input hc _ => serviceMachine_reached crypto input hc) hinitial (Machine.guarded_true _ _)

theorem Reached.not_closed (hc : Reached c) (ha : c.active = some a) :
    c.closed = false := by
  cases hclosed : c.closed with
  | false => rfl
  | true =>
    rw [hc.consistent.closed hclosed] at ha
    cases ha

theorem handleRouted_stranger (hc : Reached c) (ha : c.active = some a)
    (hstranger : senderDeviceId ≠ a.controllerDeviceId)
    (haddressed : Addressed c senderDeviceId decoded envelope) :
    wp (handleRouted crypto env senderDeviceId decoded now)
      (fun r c' => AsTick env now c c' r) c := by
  have hpending : (c.freshened now).pending = none := by
    rw [freshened, expirePending]
    simp [modify, modifyGet, MonadStateOf.modifyGet, hc.coherent.pending (by rw [ha]; rfl)]
  have hsender : envelope.senderDeviceId ≠ a.controllerDeviceId := by
    rw [haddressed.sender]
    exact hstranger
  refine handleRouted_addressed (hc.not_closed ha) haddressed ?_
  by_cases hexpired : Expired now c
  · have htick : expireActiveReconnect env now c = _ := expireActiveReconnect_due ha hexpired
    have hexpiry : expireActiveReconnect env now (c.freshened now) =
        ((closeResult env (some .iceFailed) c.sessions a).map fun _ => true,
          (c.freshened now).withoutActive a) :=
      expireActiveReconnect_due (c := c.freshened now) ha hexpired
    unfold wp
    rw [hexpiry]
    cases hresult : closeResult env (some .iceFailed) c.sessions a with
    | error error =>
      rw [hresult] at htick
      refine ⟨by rw [htick]; rfl, by rw [htick]; rfl, fun error' herror => .inr ?_⟩
      rw [htick, ← Except.error.inj herror]
      rfl
    | ok _ =>
      rw [Except.map, andThen_ok]
      refine wp_mono (dispatchRouted_stranger (c := (c.freshened now).withoutActive a) (a := a)
        (.inr rfl) hpending hsender) ?_
      rintro r _ ⟨htolerable, pending, rfl⟩
      exact ⟨by rw [htick]; rfl, by rw [htick]; rfl, fun error herror =>
        .inl (htolerable error herror)⟩
  · have htick : expireActiveReconnect env now c = _ := expireActiveReconnect_early hexpired
    have hexpiry : expireActiveReconnect env now (c.freshened now) = (.ok false, c.freshened now) :=
      expireActiveReconnect_early (c := c.freshened now) hexpired
    unfold wp
    rw [hexpiry, andThen_ok]
    refine wp_mono (dispatchRouted_stranger (c := c.freshened now) (a := a) (.inl ha) hpending
      hsender) ?_
    rintro r _ ⟨htolerable, pending, rfl⟩
    exact ⟨by rw [htick]; rfl, by rw [htick]; rfl, fun error herror =>
      .inl (htolerable error herror)⟩

/-- An envelope of a device that is not the active controller is refused without any
effect, or it does to the active session what a tick at the same time does, and its
result leaves the connection alone unless the tick fails in the same way. -/
theorem stranger_noninterference (crypto : Crypto) {hostDeviceId : Bytes}
    (hnew : withConfig hostDeviceId = .ok c) (inputs : List ServiceInput) (env : Environment)
    (senderDeviceId : Bytes) (decoded : Option SignalingEnvelope) (now : UInt64)
    (a : ActiveSession) (hactive : ((serviceMachine crypto).run c inputs).active = some a)
    (hstranger : senderDeviceId ≠ a.controllerDeviceId) :
    wp (handleRouted crypto env senderDeviceId decoded now) (fun r c' =>
      ((∃ envelope, Addressed ((serviceMachine crypto).run c inputs) senderDeviceId decoded
          envelope) ∧ AsTick env now ((serviceMachine crypto).run c inputs) c' r) ∨
      ((∀ envelope, ¬ Addressed ((serviceMachine crypto).run c inputs) senderDeviceId decoded
          envelope) ∧ r = .error .invalidEnvelope ∧ c' = (serviceMachine crypto).run c inputs))
      ((serviceMachine crypto).run c inputs) := by
  have hreached := run_reached crypto hnew inputs
  generalize (serviceMachine crypto).run c inputs = c at hactive hreached ⊢
  by_cases haddressed : ∃ envelope, Addressed c senderDeviceId decoded envelope
  · obtain ⟨envelope, henvelope⟩ := haddressed
    refine wp_mono (handleRouted_stranger hreached hactive hstranger henvelope) ?_
    intro r c' htick
    exact .inl ⟨⟨envelope, henvelope⟩, htick⟩
  · have hrefused : ∀ envelope, ¬ Addressed c senderDeviceId decoded envelope :=
      fun envelope h => haddressed ⟨envelope, h⟩
    unfold wp
    rw [handleRouted_refused (hreached.not_closed hactive) hrefused]
    exact .inr ⟨hrefused, rfl, rfl⟩

/-- A Host on which everything succeeds but the closing of the peer. -/
def unclosableEnvironment : Environment := { sampleEnvironment with
  parts := .ok {
    negotiate := fun _ => .ok ⟨"v=0\r\n", List.replicate 32 6⟩
    acknowledge := fun calls =>
      if calls.getLast? = some .close then .error .peerFailure else .ok ()
    respond := fun _ => .ok () } }

/-- The sample session has been started, and its peer has been lost. -/
def lostSession : List ServiceInput :=
  (sampleStart ++ [sampleLoss]).map fun input =>
    .coordinator { input with env := unclosableEnvironment }

/-- The coordinator of the lost session. -/
def lostCoordinator : RemoteSessionCoordinator :=
  (serviceMachine sampleOfferCrypto).run sampleCoordinator lostSession

/-- A device that is not the sample controller. -/
def strangerDeviceId : Bytes := List.replicate 32 9

/-- The stranger wants to negotiate. -/
def strangerEnvelope : SignalingEnvelope where
  senderDeviceId := strangerDeviceId
  recipientDeviceId := sampleOffer.hostDeviceId
  requestId := "request-2"
  sentAtUnixMs := 1700000001000
  payload := some (.webrtcNegotiation
    { sessionId := List.replicate 16 9
      payload := some .endOfCandidates })

theorem lostCoordinator_active :
    ∃ a, lostCoordinator.active = some a ∧ strangerDeviceId ≠ a.controllerDeviceId := by
  have hcontroller : lostCoordinator.active.map (·.controllerDeviceId) =
      some sampleOffer.controllerDeviceId := by decide +kernel
  obtain ⟨a, ha, heq⟩ := Option.map_eq_some_iff.mp hcontroller
  refine ⟨a, ha, ?_⟩
  rw [heq]
  decide +kernel

theorem strangerEnvelope_addressed :
    Addressed lostCoordinator strangerDeviceId (some strangerEnvelope) strangerEnvelope where
  decoded := rfl
  valid := by decide +kernel
  sender := rfl
  recipient := by decide +kernel

/-- The stranger is told that the Host is busy. -/
theorem stranger_noninterference_sample :
    (∃ a, lostCoordinator.active = some a ∧ strangerDeviceId ≠ a.controllerDeviceId) ∧
    wp (handleRouted sampleOfferCrypto unclosableEnvironment strangerDeviceId
      (some strangerEnvelope) 1700000001000)
      (fun r c' => AsTick unclosableEnvironment 1700000001000 lostCoordinator c' r)
      lostCoordinator := by
  have hnew : withConfig AuthorizationRegistry.sampleHostId = .ok sampleCoordinator := rfl
  obtain ⟨a, ha, hstranger⟩ := lostCoordinator_active
  refine ⟨⟨a, ha, hstranger⟩, ?_⟩
  refine wp_mono (stranger_noninterference sampleOfferCrypto hnew lostSession
    unclosableEnvironment strangerDeviceId (some strangerEnvelope) 1700000001000 a ha hstranger) ?_
  rintro r c' (⟨_, htick⟩ | ⟨hrefused, _⟩)
  · exact htick
  · exact absurd strangerEnvelope_addressed (hrefused strangerEnvelope)

/-- An envelope that does not decode leaves a session whose window has passed, and one
that does may report why that session could not be closed. -/
theorem stranger_after_window :
    (¬ ∀ (crypto : Crypto) (hostDeviceId : Bytes) (c : RemoteSessionCoordinator)
      (inputs : List ServiceInput) (env : Environment) (senderDeviceId : Bytes)
      (decoded : Option SignalingEnvelope) (now : UInt64) (a : ActiveSession),
      withConfig hostDeviceId = .ok c → ((serviceMachine crypto).run c inputs).active = some a →
      senderDeviceId ≠ a.controllerDeviceId →
      ((handleRouted crypto env senderDeviceId decoded now
        ((serviceMachine crypto).run c inputs)).2.active =
        (expireActiveReconnect env now ((serviceMachine crypto).run c inputs)).2.active)) ∧
    (¬ ∀ (crypto : Crypto) (hostDeviceId : Bytes) (c : RemoteSessionCoordinator)
      (inputs : List ServiceInput) (env : Environment) (senderDeviceId : Bytes)
      (decoded : Option SignalingEnvelope) (now : UInt64) (a : ActiveSession),
      withConfig hostDeviceId = .ok c → ((serviceMachine crypto).run c inputs).active = some a →
      senderDeviceId ≠ a.controllerDeviceId →
      Tolerable (handleRouted crypto env senderDeviceId decoded now
        ((serviceMachine crypto).run c inputs)).1) := by
  have hnew : withConfig AuthorizationRegistry.sampleHostId = .ok sampleCoordinator := rfl
  obtain ⟨a, ha, hstranger⟩ := lostCoordinator_active
  constructor
  · intro h
    have hsame := h sampleOfferCrypto _ _ lostSession unclosableEnvironment _ none
      1700000100000 a hnew ha hstranger
    have hisSome := congrArg Option.isSome hsame
    revert hisSome
    decide +kernel
  · intro h
    have htolerable := h sampleOfferCrypto _ _ lostSession unclosableEnvironment _
      (some strangerEnvelope) 1700000100000 a hnew ha hstranger
    have herror : (handleRouted sampleOfferCrypto unclosableEnvironment
        strangerDeviceId (some strangerEnvelope) 1700000100000 lostCoordinator).1 =
          .error .peer := by
      decide +kernel
    exact absurd (htolerable .peer herror) (by decide)

end RemoteSessionCoordinator

end Host

end Roammand
