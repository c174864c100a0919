import Roammand.Host.InputGating

/-!
# One session at a time

The coordinator keeps its active session in several places: in its own field, in the
registry that local operations read, and by what it does not keep, a pending session
or a failed attempt of the same name.  Starting a session is a chain of steps that
may each fail after an earlier one has written something.  This module shows that
the places agree in every state that a run reaches, whatever fails on the way.

After the session has become the active one its start can still fail when the
answer is encoded.  It never does: everything in the answer is bounded by what has
been checked before.

Main results:

- Definition `Coherent`: what agrees in every state.
- Theorem `startPending_spec`: a start that fails leaves nothing behind.
- Theorem `handleRouted_eq`: an envelope is handled without a start, or with a start as
  its last step.
- Theorem `session_consistency`: over every run, with terminations by the Host in between,
  the places agree, and a start that fails has closed the session it has created.
-/

namespace Roammand

namespace Host

open Library Protocol Fallible HostPeerSession OfferVerifier SessionRegistry Option

namespace ActiveSession

/-- It is still the same session of the same controller. -/
def SameSession (a a' : ActiveSession) : Prop :=
  a'.sessionId = a.sessionId ∧ a'.controllerDeviceId = a.controllerDeviceId

instance : IsPreorder ActiveSession SameSession where
  refl _ := ⟨rfl, rfl⟩
  trans _ _ _ h h' := ⟨h'.1.trans h.1, h'.2.trans h.2⟩

/-- Using the peer keeps the session. -/
theorem onSession_same {α : Type} (f : HostWebRtcError → RemoteSessionError) (m : SessionM α) :
    Keeps SameSession (onSession f m) :=
  fun _ => ⟨rfl, rfl⟩

/-- Adding candidates keeps the session. -/
theorem addCandidates_same (candidates : List PeerIceCandidate) :
    Keeps SameSession (addCandidates candidates) := by
  induction candidates with
  | nil => exact .pure ()
  | cons candidate candidates ih => exact .bind (onSession_same _ _) fun _ => ih

/-- Preparing a restart keeps the session. -/
theorem prepareReconnect_same (requestId : String) (now : UInt64) :
    Keeps SameSession (prepareReconnect requestId now) :=
  .bind .get fun _ => .bind (.modify fun _ => ⟨rfl, rfl⟩) fun _ => .pure _

/-- Recording a restart keeps the session. -/
theorem setReconnect_same (pending : PendingSession) :
    Keeps SameSession (setReconnect pending) :=
  .modify fun _ => ⟨rfl, rfl⟩

end ActiveSession

namespace RemoteSessionCoordinator

open ActiveSession

/-! ## What agrees -/

/-- The places that know about the active session agree. -/
structure Coherent (c : RemoteSessionCoordinator) : Prop where
  /-- The Host has a well-formed identifier. -/
  host : c.hostDeviceId.length = deviceIdBytes
  /-- The active session has a well-formed identifier. -/
  sized : ∀ a, c.active = some a → a.sessionId.length = sessionIdBytes
  /-- Whatever is registered is the active session with its controller. -/
  registered : ∀ sessionId controllerDeviceId, c.sessions[sessionId]? = some controllerDeviceId →
    ∃ a, c.active = some a ∧ a.sessionId = sessionId ∧ a.controllerDeviceId = controllerDeviceId
  /-- Nothing is pending beside an active session. -/
  pending : c.active.isSome → c.pending = none
  /-- The failed attempt is not the active session. -/
  failed : ∀ a attempt, c.active = some a → c.failedAttempt = some attempt →
    ¬ (attempt.controllerDeviceId = a.controllerDeviceId ∧ attempt.sessionId = a.sessionId)
  /-- Every other session that was ever started is closed. -/
  retired : ∀ s ∈ c.retired, s.state = .closed

variable {nowUnixMs : UInt64} {c c' : RemoteSessionCoordinator} {crypto : Crypto}
  {env : Environment}

/-- Nothing is registered without an active session. -/
theorem Coherent.unregistered (h : Coherent c) (hnone : c.active = none) (sessionId : Bytes) :
    c.sessions[sessionId]? = none := by
  cases hfound : c.sessions[sessionId]? with
  | none => rfl
  | some controller =>
    obtain ⟨a, ha, _⟩ := h.registered sessionId controller hfound
    rw [hnone] at ha
    cases ha

/-- Without a session there is nothing that could disagree. -/
theorem Coherent.of_none (hhost : c.hostDeviceId.length = deviceIdBytes) (hnone : c.active = none)
    (hempty : ∀ sessionId : Bytes, c.sessions[sessionId]? = none)
    (hretired : ∀ s ∈ c.retired, s.state = .closed) : Coherent c where
  host := hhost
  sized a ha := by
    rw [hnone] at ha
    cases ha
  registered sessionId controller hfound := by
    rw [hempty] at hfound
    cases hfound
  pending hsome := by
    rw [hnone] at hsome
    cases hsome
  failed a attempt ha := by
    rw [hnone] at ha
    cases ha
  retired := hretired

/-- One more session is closed and dropped. -/
theorem Coherent.retire (h : Coherent c) (session : HostPeerSession) :
    ∀ s ∈ c.retired ++ [session.dropped], s.state = .closed := by
  intro s hs
  rcases List.mem_append.mp hs with hs | hs
  · exact h.retired s hs
  · rw [List.mem_singleton.mp hs]
    exact (dropped_spec session).2

/-- The session goes on, and nothing else has changed but the state of the verifier. -/
structure Stays (c c' : RemoteSessionCoordinator) : Prop where
  host : c'.hostDeviceId = c.hostDeviceId
  sessions : c'.sessions = c.sessions
  pending : c'.pending = c.pending
  failed : c'.failedAttempt = c.failedAttempt
  retired : c'.retired = c.retired
  active : (c.active = none ∧ c'.active = none) ∨
    ∃ a a', c.active = some a ∧ c'.active = some a' ∧ SameSession a a'

/-- A step that changes only the verifier. -/
theorem Stays.of_active (hhost : c'.hostDeviceId = c.hostDeviceId)
    (hsessions : c'.sessions = c.sessions) (hpending : c'.pending = c.pending)
    (hfailed : c'.failedAttempt = c.failedAttempt) (hretired : c'.retired = c.retired)
    (hactive : c'.active = c.active) : Stays c c' := by
  refine ⟨hhost, hsessions, hpending, hfailed, hretired, ?_⟩
  cases ha : c.active with
  | none => exact .inl ⟨rfl, hactive.trans ha⟩
  | some a => exact .inr ⟨a, a, rfl, hactive.trans ha, Std.Refl.refl a⟩

instance : IsPreorder RemoteSessionCoordinator Stays where
  refl _ := .of_active rfl rfl rfl rfl rfl rfl
  trans c₁ c₂ c₃ h h' := by
    refine ⟨h'.host.trans h.host, h'.sessions.trans h.sessions, h'.pending.trans h.pending,
      h'.failed.trans h.failed, h'.retired.trans h.retired, ?_⟩
    rcases h.active with ⟨h₁, h₂⟩ | ⟨a₁, a₂, h₁, h₂, hsame⟩
    · rcases h'.active with ⟨_, h₃⟩ | ⟨a₂, _, h₂', _⟩
      · exact .inl ⟨h₁, h₃⟩
      · rw [h₂] at h₂'
        cases h₂'
    · rcases h'.active with ⟨h₂', _⟩ | ⟨a₂', a₃, h₂', h₃, hsame'⟩
      · rw [h₂] at h₂'
        cases h₂'
      · rw [h₂] at h₂'
        cases h₂'
        exact .inr ⟨a₁, a₃, h₁, h₃, Trans.trans hsame hsame'⟩

/-- While the session goes on, the places still agree. -/
theorem Stays.coherent (h : Stays c c') (hc : Coherent c) : Coherent c' := by
  refine ⟨h.host ▸ hc.host, ?_, ?_, ?_, ?_, h.retired ▸ hc.retired⟩
  all_goals rcases h.active with ⟨hnone, hnone'⟩ | ⟨a, a', ha, ha', hid, hcontroller⟩
  · exact fun b hb => absurd hb (by simp [hnone'])
  · rintro b hb
    rw [ha'] at hb
    cases hb
    rw [hid]
    exact hc.sized a ha
  · intro sessionId controller hfound
    rw [h.sessions, hc.unregistered hnone] at hfound
    cases hfound
  · intro sessionId controller hfound
    rw [h.sessions] at hfound
    obtain ⟨b, hb, rfl, rfl⟩ := hc.registered sessionId controller hfound
    rw [ha] at hb
    cases hb
    exact ⟨a', ha', hid, hcontroller⟩
  · exact fun hsome => absurd hsome (by simp [hnone'])
  · intro _
    rw [h.pending]
    exact hc.pending (by simp [ha])
  · exact fun b _ hb => absurd hb (by simp [hnone'])
  · intro b attempt hb hattempt
    rw [ha'] at hb
    cases hb
    rw [hid, hcontroller]
    exact hc.failed a attempt ha (h.failed ▸ hattempt)

/-! ## Operations on the active session -/

variable {α : Type}

/-- What keeps the session lets it go on. -/
theorem onActive_stays {e : RemoteSessionError} {m : ActiveM α}
    (h : Keeps SameSession m) : Keeps Stays (onActive e m) := by
  intro c
  rw [wp_onActive]
  refine ⟨fun _ => Std.Refl.refl c, fun a ha => wp_mono (h a) ?_⟩
  intro _ a' hsame
  exact ⟨rfl, rfl, rfl, rfl, rfl, .inr ⟨a, a', ha, rfl, hsame⟩⟩

/-- Verifying an offer lets the session go on. -/
theorem verifyRemoteOffer_stays (authentication : SessionOfferAuthentication)
    (description : WebRtcSessionDescription) (now : UInt64) :
    Keeps Stays (verifyRemoteOffer crypto env authentication description now) := by
  intro c
  refine wp_mono (verifyRemoteOffer_spec authentication description now c) ?_
  rintro _ _ ⟨verifier, rfl⟩
  exact .of_active rfl rfl rfl rfl rfl rfl

/-- Its loss lets the session go on. -/
theorem beginActiveReconnect_stays (now : UInt64) :
    Keeps Stays (beginActiveReconnect env now) :=
  .bind (onActive_stays (onSession_same _ _)) fun _ =>
    .bind (onActive_stays (.modify fun _ => ⟨rfl, rfl⟩)) fun _ => .require

/-- So do the messages of its negotiation. -/
theorem handleActiveNegotiation_stays (negotiation : WebRtcNegotiation) (requestId : String)
    (now : UInt64) : Keeps Stays (handleActiveNegotiation env negotiation requestId now) := by
  refine .bind .get fun c => .bind .orThrow fun a => .bind .require fun _ =>
    .bind .orThrow fun payload => ?_
  cases payload with
  | iceCandidate candidate =>
    exact .ite (onActive_stays (onSession_same _ _))
      (.bind (onActive_stays (prepareReconnect_same _ _)) fun _ =>
        .bind .ofResult fun _ => onActive_stays (setReconnect_same _))
  | description description =>
    exact .bind .require fun _ => .bind (beginActiveReconnect_stays now) fun _ =>
      .bind (onActive_stays (prepareReconnect_same _ _)) fun _ =>
      .bind (onActive_stays (setReconnect_same _)) fun _ => .require
  | endOfCandidates => exact .pure _

/-- So does a restart. -/
theorem restartActive_stays (pending : PendingSession) (now : UInt64) :
    Keeps Stays (restartActive crypto env pending now) :=
  .bind .orThrow fun _ => .bind .orThrow fun _ =>
    .bind (verifyRemoteOffer_stays _ _ _) fun _ => .bind .get fun _ => .bind .orThrow fun _ =>
    .bind .require fun _ => .bind .require fun _ =>
    .bind (onActive_stays (onSession_same _ _)) fun _ =>
    .bind .ofResult fun _ => .bind (onActive_stays (addCandidates_same _)) fun _ =>
    .bind (onActive_stays (.modify fun _ => ⟨rfl, rfl⟩)) fun _ => .pure _

/-- So does an attempt to restart, whether or not it is ready. -/
theorem tryRestartActive_stays (now : UInt64) :
    Keeps Stays (tryRestartActive crypto env now) := by
  refine .bind .get fun c => ?_
  split
  · exact .pure _
  · refine .ite (tryRestartActive_keeps ?_ (restartActive_stays _ _)) (.pure _)
    exact onActive_stays (.modify fun _ => ⟨rfl, rfl⟩)

/-- So does an envelope for a session that reconnects. -/
theorem handleActiveReconnectEnvelope_stays (envelope : SignalingEnvelope) (now : UInt64) :
    Keeps Stays (handleActiveReconnectEnvelope crypto env envelope now) := by
  refine .bind .orThrow fun payload => ?_
  split
  · exact .bind (beginActiveReconnect_stays now) fun _ =>
      .bind (onActive_stays (prepareReconnect_same _ _)) fun _ => .bind .require fun _ =>
      .bind (onActive_stays (setReconnect_same _)) fun _ => .bind .require fun _ =>
      tryRestartActive_stays _
  · exact .bind (handleActiveNegotiation_stays _ _ _) fun _ => tryRestartActive_stays _
  · exact .throw _

/-! ## Ending the session -/

/-- The session is gone, and nothing else has changed. -/
structure Idles (c c' : RemoteSessionCoordinator) : Prop where
  coherent : Coherent c'
  active : c'.active = none
  pending : c'.pending = c.pending
  failed : c'.failedAttempt = c.failedAttempt

/-- Closing takes the session out of every place, even if a step of it fails. -/
theorem closeActive_idles (finalError : Option ErrorCode) (hc : Coherent c) :
    wp (closeActive env finalError) (fun _ c' => Idles c c') c := by
  unfold closeActive
  rw [wp_get_bind]
  split
  · next hnone =>
      rw [wp_onlyIf]
      exact ⟨fun _ => ⟨hc, hnone, rfl, rfl⟩, fun _ => ⟨hc, hnone, rfl, rfl⟩⟩
  · next a ha =>
      have hidles : Idles c { c with
          active := none
          sessions := (c.sessions.unregister a.sessionId).1
          retired := c.retired ++ [(close a.session).2.dropped] } := by
        refine ⟨.of_none hc.host rfl (fun sessionId => ?_) (hc.retire _), rfl, rfl, rfl⟩
        cases hfound : (c.sessions.unregister a.sessionId).1[sessionId]? with
        | none => rfl
        | some controller =>
          obtain ⟨hbefore, hother⟩ := getElem?_unregister hfound
          obtain ⟨b, hb, rfl, rfl⟩ := hc.registered _ _ hbefore
          rw [ha] at hb
          cases hb
          exact absurd rfl (hother (hc.sized a ha))
      rw [wp_modify_bind]
      have hstill : Keeps Eq (do
          ofResult ((close a.session).1.mapError mapPeerError)
          ofResult (((c.sessions.unregister a.sessionId).2.map fun _ => ()).mapError
            fun _ => RemoteSessionError.service)
          updateRemoteStatus env (if finalError = none then .idle else .failed)) :=
        .bind .ofResult fun _ => .bind .ofResult fun _ => .require
      refine wp_mono (hstill _) ?_
      rintro _ _ rfl
      exact hidles

/-! ## Starting a session

A verified offer has fields of fixed length and at most two permissions, and the
peer's answer is checked before it is used. -/

theorem ascendingPermissions_length {previous : Option Int32} {values : List Int32}
    {permissions : List SessionPermission}
    (h : ascendingPermissions previous values = .ok permissions)
    (hprevious : (previous.map Int32.toInt).getD 0 ≤ 2) :
    (values.length : Int) + (previous.map Int32.toInt).getD 0 ≤ 2 := by
  induction values generalizing previous permissions with
  | nil => simpa using hprevious
  | cons value values ih =>
    simp only [ascendingPermissions, bind_eq_ok, okOr_eq_ok, ensure_eq_ok] at h
    obtain ⟨permission, hpermission, -, ⟨hspecified, hless⟩, rest, hrest, -⟩ := h
    rw [SessionPermission.ofInt32?_eq_some] at hpermission
    have hvalue : value.toInt ≤ 2 ∧ 1 ≤ value.toInt := by
      rw [hpermission]
      cases permission with
      | unspecified => exact absurd rfl hspecified
      | viewScreen => decide
      | controlInput => decide
    have htail := ih hrest (by simpa using hvalue.1)
    rw [map_some, getD_some] at htail
    rw [List.length_cons]
    cases previous with
    | none =>
      rw [map_none, getD_none]
      omega
    | some p =>
      have hless : p < value := by simpa using hless
      have hless := Int32.lt_iff_toInt_lt.mp hless
      rw [map_some, getD_some]
      omega

/-- What the verification of an offer has checked about its size. -/
structure SizedOffer (authentication : SessionOfferAuthentication) : Prop where
  fields : validateFixedFields authentication = .ok ()
  permissions : authentication.requestedPermissions.length ≤ 2

/-- A verified offer has fields of the right sizes. -/
theorem verifyRemoteOffer_sized (authentication : SessionOfferAuthentication)
    (description : WebRtcSessionDescription) (now : UInt64) (c : RemoteSessionCoordinator) :
    wp (verifyRemoteOffer crypto env authentication description now)
      (fun r _ => ∀ verified, r = .ok verified → SizedOffer authentication) c := by
  unfold verifyRemoteOffer
  simp only [wp_bind, wp_get, andThen_ok, wp_modify, wp_ofResult]
  intro verified hverified
  have hbound := verifyBindings_of_verify
    ⟨authentication, description.sdp, description.dtlsFingerprintSha256, env.registry, now⟩
    (mapError_eq_ok.mp hverified)
  simp only [verifyBindings, normalizeSessionPermissions, bind_eq_ok, ensure_eq_ok]
    at hbound
  obtain ⟨_, hfields, -, -, -, -, _, ⟨-, -, _, hascending, -⟩, -⟩ := hbound
  have hlength := ascendingPermissions_length hascending (by simp)
  refine ⟨hfields, ?_⟩
  simp only [map_none, getD_none] at hlength
  omega

/-- The Host's answer to a verified offer is short. -/
theorem length_signRemoteAnswer_le {offer : SessionOfferAuthentication} {answerSdp : String}
    {hostFingerprint : Bytes} {answer : SessionAnswerAuthentication}
    (h : signRemoteAnswer crypto env offer answerSdp hostFingerprint = .ok answer)
    (hoffer : SizedOffer offer) (hfingerprint : hostFingerprint.length = nonceOrHashBytes) :
    (Protobuf.encodeFields answer.fields).length ≤ 1000 := by
  have hpermissions := hoffer.permissions
  have hfields := hoffer.fields
  simp only [validateFixedFields, ensure_eq_ok] at hfields
  simp only [signRemoteAnswer, bind_eq_ok, okOr_eq_ok] at h
  obtain ⟨_, -, signature, -, hanswer⟩ := h
  have hlength := length_encode_answer_le answer
  cases hanswer
  simp only [deviceIdBytes, sessionIdBytes, nonceOrHashBytes, signatureBytes, Vector.length_toList]
    at *
  omega

/-- A payload of moderate size is sent. -/
theorem outbound_fits {recipientDeviceId : Bytes} {requestId : String} {payload : SignalingPayload}
    (hc : Coherent c) (hrecipient : recipientDeviceId.length = deviceIdBytes)
    (hrequest : (utf8 requestId).length ≤ maxRequestIdUtf8Bytes)
    (hpayload : (Protobuf.encodeFields payload.fields).length ≤ 200000) (now : UInt64) :
    wp (outbound recipientDeviceId requestId now payload) (fun r c' => r.isOk ∧ c' = c) c := by
  unfold outbound
  simp only [wp_bind, wp_get, andThen_ok, wp_require, wp_pure, andThen_error]
  have hhost := hc.host
  have hlength := length_encode_envelope_le
    { senderDeviceId := c.hostDeviceId, recipientDeviceId, requestId, sentAtUnixMs := now,
      payload := some payload } rfl
  simp only [deviceIdBytes, maxRequestIdUtf8Bytes, maxOpaqueSignalingEnvelopeBytes] at *
  refine ⟨fun _ => ⟨rfl, trivial⟩, fun hlong => absurd ?_ hlong⟩
  omega

variable (session : HostPeerSession) (error : RemoteSessionError)

/-- Giving up a session closes it and leaves no active one. -/
theorem abandon_idles (hc : Coherent c) (hnone : c.active = none) :
    wp (abandon session error : CoordinatorM α) (fun r c' => r.isOk = false ∧ Idles c c' ∧
      c'.retired = c.retired ++ [(close session).2.dropped]) c := by
  unfold abandon
  simp only [wp_bind, wp_modify, andThen_ok, wp_throw]
  exact ⟨rfl, ⟨.of_none hc.host hnone (hc.unregistered hnone) (hc.retire _), hnone, rfl, rfl⟩,
    trivial⟩

/-- Giving up a session takes it out of the registry again. -/
theorem unregisterAndAbandon_idles {registered : RemoteSession} {sessions : SessionRegistry}
    (hc : Coherent c) (hnone : c.active = none)
    (hregister : c.sessions.register registered = .ok sessions) :
    wp (unregisterAndAbandon registered.sessionId session error : CoordinatorM α)
      (fun r c' => r.isOk = false ∧ Idles c c' ∧
        c'.retired = c.retired ++ [(close session).2.dropped])
      { c with sessions } := by
  unfold unregisterAndAbandon
  rw [wp_modify_bind]
  have hempty : Coherent { c with
      sessions := (sessions.unregister registered.sessionId).1 } := by
    refine .of_none hc.host hnone (fun sessionId => ?_) hc.retired
    cases hfound : (sessions.unregister registered.sessionId).1[sessionId]? with
    | none => rfl
    | some controller =>
      obtain ⟨hlength, -, rfl⟩ := register_ok hregister
      obtain ⟨hbefore, hother⟩ := getElem?_unregister hfound
      rcases getElem?_insert_cases hbefore with ⟨hsame, -⟩ | hfound
      · exact absurd hsame (hother hlength)
      · rw [hc.unregistered hnone] at hfound
        cases hfound
  refine wp_mono (abandon_idles session error hempty hnone) ?_
  rintro r c' ⟨hfailed, ⟨hcoherent, hnone', hpending, hattempt⟩, hretired⟩
  exact ⟨hfailed, ⟨hcoherent, hnone', hpending, hattempt⟩, hretired⟩

/-- The failed attempt, if there is one, is about another session. -/
def NotFailed (c : RemoteSessionCoordinator) (controllerDeviceId sessionId : Bytes) : Prop :=
  ∀ attempt, c.failedAttempt = some attempt →
    ¬ (attempt.controllerDeviceId = controllerDeviceId ∧ attempt.sessionId = sessionId)

/-! ### The peer session of a start -/

/-- The peer session of a verified offer, before it has answered. -/
def createSession (env : Environment) (verified : VerifiedSessionOffer) :
    Except RemoteSessionError HostPeerSession := do
  let parts ← env.parts
  (HostPeerSession.new verified.sessionId verified.permissions
    { negotiate := parts.negotiate, acknowledge := parts.acknowledge, calls := [] }
    { respond := parts.respond, calls := [] }).mapError mapPeerError

/-- A start up to its verified offer. -/
def verifyPending (crypto : Crypto) (env : Environment) (pending : PendingSession)
    (nowUnixMs : UInt64) : CoordinatorM
      (SessionOfferAuthentication × WebRtcSessionDescription × VerifiedSessionOffer) := do
  let authentication ← orThrow pending.authentication .invalidEnvelope
  let description ← orThrow pending.description .invalidEnvelope
  updateRemoteStatus env .authenticating
  let verified ← verifyRemoteOffer crypto env authentication description nowUnixMs
  require (verified.controller.deviceId = pending.controllerDeviceId ∧
    verified.sessionId = pending.sessionId) .authentication
  return (authentication, description, verified)

/-- What a start does with its verified offer. -/
def startVerified (crypto : Crypto) (env : Environment) (pending : PendingSession)
    (nowUnixMs : UInt64)
    (offer : SessionOfferAuthentication × WebRtcSessionDescription × VerifiedSessionOffer) :
    CoordinatorM (List RemoteSessionOutbound) := do
  let started ← activateVerifiedSession crypto env offer.1 offer.2.1 pending.candidates offer.2.2
  let authentication ← outbound started.controllerDeviceId pending.requestId nowUnixMs
    (.sessionAuthentication (some (.answer started.answerAuthentication)))
  let description ← outbound started.controllerDeviceId pending.requestId nowUnixMs
    (.webrtcNegotiation
      { sessionId := started.sessionId
        payload := some (.description
          { type := sessionDescriptionTypeAnswer
            sdp := started.answer.sdp
            dtlsFingerprintSha256 := started.answer.dtlsFingerprintSha256 }) })
  return [authentication, description]

/-- A start verifies the offer and goes on with it. -/
theorem startPending_eq (pending : PendingSession) (now : UInt64) :
    startPending crypto env pending now =
      verifyPending crypto env pending now >>= startVerified crypto env pending now := by
  simp only [startPending, verifyPending, startVerified, bind_bind, bind_of_pure]

/-- The peer session that a start creates, if it gets so far. -/
def createdSession (crypto : Crypto) (env : Environment) (pending : PendingSession)
    (nowUnixMs : UInt64) (c : RemoteSessionCoordinator) : Option HostPeerSession :=
  ((verifyPending crypto env pending nowUnixMs c).1.bind fun offer =>
    createSession env offer.2.2).toOption

/-- A start that fails closes and drops the session that it has created, as the offer or
the candidates have left it. -/
def Disposes (offerSdp : String) (candidates : List PeerIceCandidate) :
    Option HostPeerSession → List HostPeerSession → List HostPeerSession → Prop
  | none, retired, retired' => retired' = retired
  | some session, retired, retired' => ∃ left,
      (left = (acceptOffer offerSdp session).2 ∨ left =
        (addPendingCandidates candidates (acceptOffer offerSdp session).2).2) ∧
      retired' = retired ++ [(close left).2.dropped]

/-- The description that a peer session is offered. -/
def offerSdp (pending : PendingSession) : String := (pending.description.map (·.sdp)).getD ""

/-- A session has been started for a verified offer, with an answer that can be sent. -/
structure Begins (verified : VerifiedSessionOffer) (started : StartedSession)
    (c c' : RemoteSessionCoordinator) : Prop where
  coherent : Coherent c'
  failed : c'.failedAttempt = c.failedAttempt
  controller : started.controllerDeviceId = verified.controller.deviceId
  sized : started.sessionId.length = sessionIdBytes
  answer : validAnswer started.answer = true
  authentication : (Protobuf.encodeFields started.answerAuthentication.fields).length ≤ 1000

/-- An activation either leaves no session behind or starts the offered one. -/
theorem activateVerifiedSession_spec {authentication : SessionOfferAuthentication}
    {verified : VerifiedSessionOffer} (hoffer : SizedOffer authentication)
    (description : WebRtcSessionDescription) (candidates : List PeerIceCandidate)
    (hc : Coherent c) (hnone : c.active = none) (hpending : c.pending = none)
    (hother : NotFailed c verified.controller.deviceId verified.sessionId) :
    wp (activateVerifiedSession crypto env authentication description candidates verified)
      (fun r c' => (r.isOk = false ∧ Idles c c' ∧
        Disposes description.sdp candidates (createSession env verified).toOption c.retired
          c'.retired) ∨
        ∃ started, r = .ok started ∧ Begins verified started c c') c := by
  have hidle : Idles c c := ⟨hc, hnone, rfl, rfl⟩
  unfold activateVerifiedSession
  rw [wp_bind, wp_ofResult]
  cases hparts : env.parts with
  | error error =>
    refine .inl ⟨rfl, hidle, ?_⟩
    rw [createSession, hparts]
    rfl
  | ok parts => ?_
  rw [andThen_ok, wp_bind, wp_ofResult]
  cases hnew : HostPeerSession.new verified.sessionId verified.permissions
      { negotiate := parts.negotiate, acknowledge := parts.acknowledge, calls := [] }
      { respond := parts.respond, calls := [] } with
  | error error =>
    refine .inl ⟨rfl, hidle, ?_⟩
    simp only [createSession, hparts, bind, Except.bind, hnew]
    rfl
  | ok session => ?_
  have hcreated : (createSession env verified).toOption = some session := by
    simp only [createSession, hparts, bind, Except.bind, hnew]
    rfl
  rw [Except.mapError, andThen_ok, hcreated]
  have haccepted := acceptOffer_spec description.sdp session
  unfold wp at haccepted
  rcases hresult : acceptOffer description.sdp session with
    ⟨error | answer, offered⟩
  all_goals rw [hresult] at haccepted
  · refine wp_mono (abandon_idles _ _ hc hnone) fun _ _ h =>
      .inl ⟨h.1, h.2.1, offered, .inl ?_, h.2.2⟩
    rw [hresult]
  have hanswer : validAnswer answer = true := (haccepted.2 answer rfl).2
  have hoffered : offered = (acceptOffer description.sdp session).2 := by rw [hresult]
  dsimp only
  split
  · exact wp_mono (abandon_idles _ _ hc hnone) fun _ _ h =>
      .inl ⟨h.1, h.2.1, offered, .inl hoffered, h.2.2⟩
  next answerAuthentication hsigned =>
  rw [wp_get_bind]
  split
  · exact wp_mono (abandon_idles _ _ hc hnone) fun _ _ h =>
      .inl ⟨h.1, h.2.1, offered, .inl hoffered, h.2.2⟩
  next sessions hregister =>
  have habandon : ∀ (left : HostPeerSession) (error : RemoteSessionError),
      left = offered ∨ left = (addPendingCandidates candidates offered).2 →
      wp (unregisterAndAbandon verified.sessionId left error)
        (fun (r : Except RemoteSessionError StartedSession) c' => (r.isOk = false ∧ Idles c c' ∧
          Disposes description.sdp candidates (some session) c.retired c'.retired) ∨
          ∃ started, r = .ok started ∧ Begins verified started c c') { c with sessions } :=
    fun left error hleft =>
      wp_mono (unregisterAndAbandon_idles left error hc hnone hregister) fun _ _ h =>
        .inl ⟨h.1, h.2.1, left, hoffered ▸ hleft, h.2.2⟩
  rw [wp_modify_bind, wp_ite]
  refine ⟨fun _ => ?_, fun _ => habandon _ _ (.inl rfl)⟩
  rcases hadded : addPendingCandidates candidates offered with ⟨error | _, added⟩
  · exact habandon _ _ (.inr (by rw [hadded]))
  dsimp only
  rw [wp_ite]
  refine ⟨fun _ => ?_, fun _ => habandon _ _ (.inr (by rw [hadded]))⟩
  rw [wp_modify_bind, wp_pure]
  obtain ⟨hlength, -, rfl⟩ := register_ok hregister
  have hfingerprint : answer.dtlsFingerprintSha256.length = nonceOrHashBytes := by
    simp only [validAnswer, decide_eq_true_eq] at hanswer
    exact hanswer.2
  refine .inr ⟨_, rfl, ⟨hc.host, ?_, ?_, fun _ => hpending, ?_, hc.retired⟩, rfl, rfl, hlength,
    hanswer, length_signRemoteAnswer_le hsigned hoffer hfingerprint⟩
  · rintro _ ⟨⟩
    exact hlength
  · intro sessionId controller hfound
    rcases getElem?_insert_cases hfound with ⟨rfl, rfl⟩ | hfound
    · exact ⟨_, rfl, rfl, rfl⟩
    · rw [hc.unregistered hnone] at hfound
      cases hfound
  · rintro _ attempt ⟨⟩ hattempt
    exact hother attempt hattempt

/-- A valid answer has a bounded description and a fingerprint. -/
theorem length_validAnswer {answer : PeerAnswer} (h : validAnswer answer = true) :
    (utf8 answer.sdp).length ≤ maximumSdpBytes ∧
      answer.dtlsFingerprintSha256.length = nonceOrHashBytes := by
  simp only [validAnswer, validSdp, decide_eq_true_eq, Bool.decide_and, Bool.and_eq_true] at h
  rw [length_utf8]
  exact ⟨h.1.2, h.2⟩

/-- Without a session it is gone all the same. -/
theorem Stays.idles (h : Stays c c') (hc : Coherent c) (hnone : c.active = none) : Idles c c' := by
  refine ⟨h.coherent hc, ?_, h.pending, h.failed⟩
  rcases h.active with ⟨_, hnone'⟩ | ⟨a, _, ha, _⟩
  · exact hnone'
  · rw [hnone] at ha
    cases ha

/-- What was gone stays gone. -/
theorem Idles.trans {c'' : RemoteSessionCoordinator} (h : Idles c c') (h' : Idles c' c'') :
    Idles c c'' :=
  ⟨h'.coherent, h'.active, h'.pending.trans h.pending, h'.failed.trans h.failed⟩

/-- A start verifies the offer that it has been given, for the session it is about. -/
theorem verifyPending_spec (pending : PendingSession) (now : UInt64)
    (c : RemoteSessionCoordinator) :
    wp (verifyPending crypto env pending now) (fun r c' => Stays c c' ∧ ∀ offer, r = .ok offer →
      pending.description = some offer.2.1 ∧ SizedOffer offer.1 ∧
      offer.2.2.controller.deviceId = pending.controllerDeviceId ∧
      offer.2.2.sessionId = pending.sessionId) c := by
  have hsame : Stays c c := Std.Refl.refl c
  unfold verifyPending updateRemoteStatus
  simp only [wp_bind, wp_orThrow, andThen_ok, andThen_error, wp_require]
  refine ⟨fun authentication _ => ⟨fun description hdescription => ⟨fun _ => ?_, fun _ => ?_⟩,
    fun _ => ?_⟩, fun _ => ?_⟩
  · refine wp_mono (wp_and (verifyRemoteOffer_stays authentication description now c)
      (verifyRemoteOffer_sized authentication description now c)) ?_
    rintro (error | verified) c₁ ⟨hstays, hsized⟩
    · exact ⟨hstays, by rintro _ ⟨⟩⟩
    · simp only [andThen_ok, andThen_error, wp_bind, wp_require, wp_pure]
      refine ⟨fun hids => ⟨hstays, ?_⟩, fun _ => ⟨hstays, by rintro _ ⟨⟩⟩⟩
      rintro _ ⟨⟩
      exact ⟨hdescription, hsized verified rfl, hids⟩
  all_goals exact ⟨hsame, by rintro _ ⟨⟩⟩

/-- A start that returns an error leaves no session behind, and a start that has made
its session the active one returns no error. -/
theorem startPending_spec {pending : PendingSession} (now : UInt64) (hc : Coherent c)
    (hnone : c.active = none) (hpending : c.pending = none)
    (hcontroller : pending.controllerDeviceId.length = deviceIdBytes)
    (hrequest : (utf8 pending.requestId).length ≤ maxRequestIdUtf8Bytes)
    (hother : NotFailed c pending.controllerDeviceId pending.sessionId) :
    wp (startPending crypto env pending now) (fun r c' =>
      (r.isOk = false ∧ Idles c c' ∧ Disposes (offerSdp pending) pending.candidates
        (createdSession crypto env pending now c) c.retired c'.retired) ∨
      (r.isOk = true ∧ Coherent c' ∧ c'.failedAttempt = c.failedAttempt)) c := by
  rw [startPending_eq, wp_bind]
  have hverified : wp (verifyPending crypto env pending now) _ c := verifyPending_spec pending now c
  unfold wp at hverified ⊢
  unfold createdSession
  rcases hresult : verifyPending crypto env pending now c with
    ⟨error | ⟨authentication, description, verified⟩, c₁⟩
  all_goals rw [hresult] at hverified
  · exact .inl ⟨rfl, hverified.1.idles hc hnone, hverified.1.retired⟩
  obtain ⟨hstays, hoffer⟩ := hverified
  obtain ⟨hdescription, hoffer, hids⟩ := hoffer _ rfl
  have hsdp : offerSdp pending = description.sdp := by
    unfold offerSdp
    rw [hdescription]
    rfl
  have hidle₁ := hstays.idles hc hnone
  have hother₁ : NotFailed c₁ verified.controller.deviceId verified.sessionId := by
    intro attempt hattempt
    rw [hids.1, hids.2]
    exact hother attempt (hidle₁.failed ▸ hattempt)
  change andThen _ _ (.ok (authentication, description, verified)) c₁
  rw [andThen_ok, startVerified, wp_bind]
  refine wp_mono (activateVerifiedSession_spec hoffer description pending.candidates
    hidle₁.coherent hidle₁.active (hidle₁.pending.trans hpending) hother₁) ?_
  rintro r c₂ (⟨hfailed, hidle₂, hdisposes⟩ | ⟨started, rfl, hbegins⟩)
  · cases r with
    | ok started => cases hfailed
    | error error =>
      refine .inl ⟨rfl, hidle₁.trans hidle₂, ?_⟩
      rw [hsdp]
      exact hstays.retired ▸ hdisposes
  have hrecipient : started.controllerDeviceId.length = deviceIdBytes := by
    rw [hbegins.controller, hids.1, hcontroller]
  have hauthentication : (Protobuf.encodeFields (SignalingPayload.sessionAuthentication
      (some (.answer started.answerAuthentication))).fields).length ≤ 200000 := by
    have hinner := Protobuf.length_messageField_le 2 started.answerAuthentication.fields
    have houter := Protobuf.length_messageField_le 12
      (SessionAuthentication.answer started.answerAuthentication).fields
    have hanswer := hbegins.authentication
    simp only [SignalingPayload.fields, map_some, getD_some,
      SessionAuthentication.fields] at *
    omega
  obtain ⟨hsdp, hfingerprint⟩ := length_validAnswer hbegins.answer
  have hdescription : (Protobuf.encodeFields (SignalingPayload.webrtcNegotiation
      { sessionId := started.sessionId
        payload := some (.description
          { type := sessionDescriptionTypeAnswer
            sdp := started.answer.sdp
            dtlsFingerprintSha256 := started.answer.dtlsFingerprintSha256 }) }).fields).length ≤
      200000 := by
    refine le_trans length_encode_description_le ?_
    have hsession := hbegins.sized
    simp only [maximumSdpBytes, nonceOrHashBytes, sessionIdBytes] at *
    omega
  rw [andThen_ok, wp_bind]
  refine wp_mono (outbound_fits hbegins.coherent hrecipient hrequest hauthentication now) ?_
  rintro (error | _) _ ⟨hsent, rfl⟩
  · cases hsent
  rw [andThen_ok, wp_bind]
  refine wp_mono (outbound_fits hbegins.coherent hrecipient hrequest hdescription now) ?_
  rintro (error | _) _ ⟨hsent, rfl⟩
  · cases hsent
  exact .inr ⟨rfl, hbegins.coherent, hbegins.failed.trans hidle₁.failed⟩

/-- After an operation the places agree, and if it has recorded a failed attempt there
is no session. -/
structure Settles (c c' : RemoteSessionCoordinator) : Prop where
  coherent : Coherent c'
  failed : ∀ attempt, c'.failedAttempt = some attempt →
    c.failedAttempt = some attempt ∨ c'.active = none

/-- No failed attempt has been recorded. -/
theorem Settles.of_failed (hc : Coherent c') (h : c'.failedAttempt = c.failedAttempt) :
    Settles c c' :=
  ⟨hc, fun _ hattempt => .inl (h ▸ hattempt)⟩

/-- A session that goes on leaves the places in agreement. -/
theorem Stays.settles (h : Stays c c') (hc : Coherent c) : Settles c c' :=
  .of_failed (h.coherent hc) h.failed

/-- So does a session that is gone. -/
theorem Idles.settles (h : Idles c c') : Settles c c' := .of_failed h.coherent h.failed

/-- The pending session of a controller, with the identifier of its last request. -/
structure Names (pending : PendingSession) (envelope : SignalingEnvelope) (sessionId : Bytes) :
    Prop where
  controller : pending.controllerDeviceId = envelope.senderDeviceId
  sessionId : pending.sessionId = sessionId
  request : pending.requestId = envelope.requestId

variable {envelope : SignalingEnvelope} {sessionId : Bytes} {pending : PendingSession}

/-- A pending session may be recorded while there is no session. -/
theorem Coherent.setPending (hc : Coherent c) (hnone : c.active = none)
    (pending : Option PendingSession) : Coherent { c with pending } :=
  .of_none hc.host hnone (hc.unregistered hnone) hc.retired

/-- A pending session is prepared for the sender of the envelope. -/
theorem preparePending_spec (envelope : SignalingEnvelope) (sessionId : Bytes) (now : UInt64)
    (c : RemoteSessionCoordinator) :
    wp (preparePending envelope.senderDeviceId sessionId envelope.requestId now) (fun r c' =>
      (r = .ok none ∧ c' = c) ∨ ∃ pending, r = .ok (some pending) ∧
        Names pending envelope sessionId ∧ c' = { c with pending := some pending }) c := by
  unfold preparePending
  rw [wp_get_bind]
  split
  · exact .inr ⟨_, rfl, ⟨rfl, rfl, rfl⟩, rfl⟩
  · rw [wp_ite]
    refine ⟨fun hsame => ?_, fun _ => .inl ⟨rfl, rfl⟩⟩
    exact .inr ⟨_, rfl, ⟨hsame.1, hsame.2, rfl⟩, rfl⟩

/-- Collecting a message keeps the names of the pending session. -/
theorem collectPending_spec (h : Names pending envelope sessionId) (payload : SignalingPayload)
    (c : RemoteSessionCoordinator) :
    wp (collectPending pending payload) (fun _ c' => ∃ pending, Names pending envelope sessionId ∧
      c' = { c with pending := some pending }) { c with pending := some pending } := by
  have hset : ∀ pending', Names pending' envelope sessionId →
      ∃ pending, Names pending envelope sessionId ∧
        { c with pending := some pending' } = { c with pending := some pending } :=
    fun pending' h' => ⟨pending', h', rfl⟩
  unfold collectPending
  split
  · next offer =>
      have hkept := hset { pending with authentication := some offer }
        ⟨h.controller, h.sessionId, h.request⟩
      simp only [setPending, wp_bind, wp_modify, andThen_ok, wp_require]
      exact ⟨fun _ => hkept, fun _ => hkept⟩
  · rw [wp_bind, wp_orThrow]
    refine ⟨fun payload _ => ?_, fun _ => hset pending h⟩
    rw [andThen_ok]
    split
    · next description _ =>
        have hkept := hset { pending with description := some description }
          ⟨h.controller, h.sessionId, h.request⟩
        simp only [setPending, wp_bind, wp_modify, andThen_ok, wp_require, andThen_error]
        exact ⟨fun _ => ⟨fun _ => hkept, fun _ => hkept⟩, fun _ => hset pending h⟩
    · rw [wp_bind, wp_ofResult]
      unfold PendingSession.pushCandidate
      dsimp only
      split
      · exact hset pending h
      · rw [andThen_ok, setPending, wp_modify]
        exact hset _ ⟨h.controller, h.sessionId, h.request⟩
    · exact hset pending h
  · exact hset pending h

/-- A start that fails leaves no session, and the one that it has created is closed. -/
structure Fails (crypto : Crypto) (env : Environment) (pending : PendingSession) (now : UInt64)
    (c c' : RemoteSessionCoordinator) : Prop where
  active : c'.active = none
  disposes : Disposes (offerSdp pending) pending.candidates
    (createdSession crypto env pending now { c with pending := none }) c.retired c'.retired

variable (now : UInt64)

/-- A ready session is started, or recorded as a failed attempt. -/
theorem tryStartPending_spec (hc : Coherent c) (hnone : c.active = none)
    (hnames : Names pending envelope sessionId)
    (hvalid : validateEnvelopeFields envelope = .ok ())
    (hother : NotFailed c envelope.senderDeviceId sessionId) :
    wp (tryStartPending crypto env now) (fun _ c' => Settles c c' ∧
      (pending.isReady = true →
        (startPending crypto env pending now { c with pending := none }).1.isOk = false →
        Fails crypto env pending now c c')) { c with pending := some pending } := by
  obtain ⟨hsender, -, hrequest⟩ := validateEnvelopeFields_eq_ok.mp hvalid
  unfold tryStartPending
  rw [wp_get_bind]
  dsimp only
  rw [wp_ite]
  refine ⟨fun _ => ?_,
    fun hready => ⟨.of_failed (hc.setPending hnone _) rfl, fun h => absurd h hready⟩⟩
  rw [wp_modify_bind, wp_bind, wp_outcome]
  have hresult : wp (startPending crypto env pending now) (fun r _ =>
      r = (startPending crypto env pending now { c with pending := none }).1)
      { c with pending := none } := rfl
  refine wp_mono (wp_and hresult (startPending_spec now (hc.setPending hnone none) hnone rfl
    (by rw [hnames.controller, hsender]) (by rw [hnames.request]; exact hrequest)
    (by rw [hnames.controller, hnames.sessionId]; exact hother))) ?_
  rintro (error | outbound) c' ⟨hresult, ⟨hfailed, hidle, hdisposes⟩ | ⟨hok, hcoherent, hattempt⟩⟩
  · simp only [andThen_ok, wp_bind, wp_modify]
    refine wp_mono (outbound_still _ _ _ _ _) ?_
    have hsettles : Settles c { c' with
        failedAttempt := some ⟨pending.controllerDeviceId, pending.sessionId, now⟩ } :=
      ⟨.of_none hidle.coherent.host hidle.active (hidle.coherent.unregistered hidle.active)
        hidle.coherent.retired, fun _ _ => .inr hidle.active⟩
    have hfails : Fails crypto env pending now c { c' with
        failedAttempt := some ⟨pending.controllerDeviceId, pending.sessionId, now⟩ } :=
      ⟨hidle.active, hdisposes⟩
    rintro (error | _) _ rfl
    · exact ⟨hsettles, fun _ _ => hfails⟩
    · exact ⟨hsettles, fun _ _ => hfails⟩
  · cases hok
  · cases hfailed
  · refine ⟨.of_failed hcoherent hattempt, fun _ hfailed => ?_⟩
    rw [← hresult] at hfailed
    cases hfailed

/-- The sender of a message that is not dropped may start the session it is about. -/
theorem notFailed_of_matches {payload : SignalingPayload}
    (hpayload : envelope.payload = some payload)
    (hsession : payloadSessionId payload = some sessionId)
    (h : ¬ c.matchesFailedAttempt envelope = true) :
    NotFailed c envelope.senderDeviceId sessionId := by
  rintro attempt hattempt ⟨hcontroller, hid⟩
  refine h ?_
  unfold matchesFailedAttempt
  rw [hpayload, bind_some, hsession, any_some, hattempt, any_some]
  exact decide_eq_true ⟨hcontroller, hid⟩

/-! ### What comes before a start

An envelope is handled without starting anything, or the pending session is started as
its last step. -/

/-- A message while no session is active, up to a start: what is answered, or none if the
start comes next. -/
def gatherPending (envelope : SignalingEnvelope) (nowUnixMs : UInt64) :
    CoordinatorM (Option (List RemoteSessionOutbound)) := do
  let payload ← orThrow envelope.payload .invalidEnvelope
  match payload with
  | .sessionStatus status => do
    require (status.state = sessionStateClosing) .invalidEnvelope
    modify fun c => { c with
      pending := c.pending.filter fun pending =>
        ¬ (pending.controllerDeviceId = envelope.senderDeviceId ∧
          pending.sessionId = status.sessionId) }
    return some []
  | payload => do
    let sessionId ← orThrow (payloadSessionId payload) .invalidEnvelope
    let prepared ← preparePending envelope.senderDeviceId sessionId envelope.requestId nowUnixMs
    match prepared with
    | none => do
      let error ← errorOutbound envelope.senderDeviceId envelope.requestId .deviceBusy
        nowUnixMs
      return some [error]
    | some pending => do
      collectPending pending payload
      return none

/-- An envelope up to a start. -/
def gatherRouted (crypto : Crypto) (env : Environment) (routedSenderDeviceId : Bytes)
    (decoded : Option SignalingEnvelope) (nowUnixMs : UInt64) :
    CoordinatorM (Option (List RemoteSessionOutbound)) := do
  let c ← get
  require (c.closed = false) .closed
  let envelope ← orThrow decoded .invalidEnvelope
  ofResult ((validateEnvelopeFields envelope).mapError fun _ => .invalidEnvelope)
  require (envelope.senderDeviceId = routedSenderDeviceId ∧
    envelope.recipientDeviceId = c.hostDeviceId) .invalidEnvelope
  expirePending nowUnixMs
  let _ ← expireActiveReconnect env nowUnixMs
  let c ← get
  if c.matchesFailedAttempt envelope then return some []
  else
    match c.active with
    | none => gatherPending envelope nowUnixMs
    | some active =>
      if active.controllerDeviceId = envelope.senderDeviceId then do
        let sent ← handleActiveEnvelope crypto env envelope nowUnixMs
        return some sent
      else do
        let error ← errorOutbound envelope.senderDeviceId envelope.requestId .deviceBusy
          nowUnixMs
        return some [error]

/-- The end of an envelope: the answer, or the start. -/
def orStart (crypto : Crypto) (env : Environment) (nowUnixMs : UInt64) :
    Option (List RemoteSessionOutbound) → CoordinatorM (List RemoteSessionOutbound)
  | some sent => pure sent
  | none => tryStartPending crypto env nowUnixMs

/-- An envelope is gathered first, and then a ready session is started. -/
theorem handlePendingEnvelope_eq (envelope : SignalingEnvelope) (now : UInt64) :
    handlePendingEnvelope crypto env envelope now =
      gatherPending envelope now >>= orStart crypto env now := by
  unfold handlePendingEnvelope gatherPending
  rw [bind_bind]
  congr 1
  funext payload
  cases payload with
  | sessionStatus status => simp only [bind_bind, bind_of_pure, orStart]
  | _ =>
    simp only [bind_bind]
    congr 1
    funext sessionId
    congr 1
    funext prepared
    cases prepared with
    | none => simp only [bind_bind, bind_of_pure, orStart]
    | some pending => simp only [bind_bind, bind_of_pure, orStart]

/-- An envelope is handled without a start, or with a start as its last step. -/
theorem handleRouted_eq (senderDeviceId : Bytes) (decoded : Option SignalingEnvelope)
    (now : UInt64) :
    handleRouted crypto env senderDeviceId decoded now =
      gatherRouted crypto env senderDeviceId decoded now >>= orStart crypto env now := by
  unfold handleRouted gatherRouted
  simp only [bind_bind]
  congr 1
  funext c
  congr 1
  funext _
  congr 1
  funext envelope
  congr 1
  funext _
  congr 1
  funext _
  congr 1
  funext _
  congr 1
  funext _
  congr 1
  funext c
  split
  · rfl
  cases c.active with
  | none => exact handlePendingEnvelope_eq envelope now
  | some active =>
    dsimp only
    split
    · simp only [bind_bind, bind_of_pure, orStart, bind_return]
    · simp only [bind_bind, bind_of_pure, orStart]

/-- A pending session holds a message of an envelope and may be started. -/
structure Gathered (envelope : SignalingEnvelope) (pending : PendingSession)
    (c c' : RemoteSessionCoordinator) : Prop where
  names : ∃ sessionId, Names pending envelope sessionId ∧
    NotFailed c envelope.senderDeviceId sessionId
  after : c' = { c with pending := some pending }
  first : c.pending = none → pending.isReady = false

/-- A new pending session is empty. -/
theorem preparePending_empty (controllerDeviceId sessionId : Bytes) (requestId : String)
    (now : UInt64) (c : RemoteSessionCoordinator) :
    wp (preparePending controllerDeviceId sessionId requestId now) (fun r _ =>
      c.pending = none → ∀ pending, r = .ok (some pending) →
        pending.authentication = none ∧ pending.description = none) c := by
  unfold preparePending
  rw [wp_get_bind]
  split
  · rintro - _ ⟨⟩
    exact ⟨rfl, rfl⟩
  · next hpending =>
      have hne : ∀ {p : Prop}, c.pending = none → p :=
        fun h => by rw [h] at hpending; cases hpending
      rw [wp_ite]
      exact ⟨fun _ h => hne h, fun _ h => hne h⟩

/-- One message does not complete an empty pending session. -/
theorem collectPending_unready (payload : SignalingPayload) (c : RemoteSessionCoordinator) :
    wp (collectPending pending payload) (fun _ c' =>
      pending.authentication = none ∧ pending.description = none →
        ∀ p, c'.pending = some p → p.isReady = false) { c with pending := some pending } := by
  have hsame : pending.authentication = none ∧ pending.description = none →
      ∀ p, some pending = some p → p.isReady = false := by
    rintro ⟨h, -⟩ _ ⟨⟩
    simp [PendingSession.isReady, h]
  have hoffer : ∀ {offer}, pending.authentication = none ∧ pending.description = none →
      ∀ p, some { pending with authentication := offer } = some p → p.isReady = false := by
    rintro _ ⟨-, h⟩ _ ⟨⟩
    simp [PendingSession.isReady, h]
  have hdescription : ∀ {description}, pending.authentication = none ∧ pending.description = none →
      ∀ p, some { pending with description } = some p → p.isReady = false := by
    rintro _ ⟨h, -⟩ _ ⟨⟩
    simp [PendingSession.isReady, h]
  unfold collectPending
  split
  · simp only [setPending, wp_bind, wp_modify, andThen_ok, wp_require]
    exact ⟨fun _ => hoffer, fun _ => hoffer⟩
  · rw [wp_bind, wp_orThrow]
    refine ⟨fun payload _ => ?_, fun _ => hsame⟩
    rw [andThen_ok]
    split
    · simp only [setPending, wp_bind, wp_modify, andThen_ok, wp_require, andThen_error]
      exact ⟨fun _ => ⟨fun _ => hdescription, fun _ => hdescription⟩, fun _ => hsame⟩
    · rw [wp_bind, wp_ofResult]
      unfold PendingSession.pushCandidate
      dsimp only
      split
      · exact hsame
      · rw [andThen_ok, setPending, wp_modify]
        rintro ⟨h, -⟩ _ ⟨⟩
        simp [PendingSession.isReady, h]
    · exact hsame
  · exact hsame

/-- Gathering answers the envelope or leaves a pending session. -/
theorem gatherPending_spec (hc : Coherent c) (hnone : c.active = none)
    (hmatches : ¬ c.matchesFailedAttempt envelope = true) :
    wp (gatherPending envelope now) (fun r c' => (r ≠ .ok none → Settles c c') ∧
      (r = .ok none → ∃ pending, Gathered envelope pending c c')) c := by
  have hleft : ∀ {r : Except RemoteSessionError (Option (List RemoteSessionOutbound))} {c'},
      Settles c c' → r ≠ .ok none → (r ≠ .ok none → Settles c c') ∧
        (r = .ok none → ∃ pending, Gathered envelope pending c c') :=
    fun h hne => ⟨fun _ => h, fun heq => absurd heq hne⟩
  have hsame : Settles c c := .of_failed hc rfl
  unfold gatherPending
  rw [wp_bind, wp_orThrow]
  refine ⟨fun payload hpayload => ?_, fun _ => hleft hsame (by simp)⟩
  rw [andThen_ok]
  split
  · rw [wp_bind, wp_require]
    refine ⟨fun _ => ?_, fun _ => hleft hsame (by simp)⟩
    rw [andThen_ok, wp_modify_bind, wp_pure]
    exact hleft (.of_failed (hc.setPending hnone _) rfl) (by simp)
  · rw [wp_bind, wp_orThrow]
    refine ⟨fun sessionId hsession => ?_, fun _ => hleft hsame (by simp)⟩
    have hother := notFailed_of_matches hpayload hsession hmatches
    rw [andThen_ok, wp_bind]
    refine wp_mono (wp_and (preparePending_spec envelope sessionId now c)
      (preparePending_empty envelope.senderDeviceId sessionId envelope.requestId now c)) ?_
    rintro _ _ ⟨⟨rfl, rfl⟩ | ⟨pending, rfl, hnames, rfl⟩, hfirst⟩
    · rw [andThen_ok, wp_bind]
      refine wp_mono (outbound_still _ _ _ _ _) ?_
      rintro (error | _) _ rfl
      · exact hleft hsame (by simp)
      · rw [andThen_ok, wp_pure]
        exact hleft hsame (by simp)
    · rw [andThen_ok, wp_bind]
      refine wp_mono (wp_and (collectPending_spec hnames _ c) (collectPending_unready _ c)) ?_
      rintro (error | _) _ ⟨⟨pending', hnames', rfl⟩, hready⟩
      · exact hleft (.of_failed (hc.setPending hnone _) rfl) (by simp)
      · refine ⟨fun hne => absurd rfl hne, fun _ =>
          ⟨pending', ⟨sessionId, hnames', hother⟩, rfl, ?_⟩⟩
        exact fun hpending => hready (hfirst hpending pending rfl) pending' rfl

/-! ## The entry points -/

/-- No failed attempt is recorded. -/
structure Forgets (c c' : RemoteSessionCoordinator) : Prop where
  coherent : Coherent c'
  failed : ∀ attempt, c'.failedAttempt = some attempt → c.failedAttempt = some attempt

/-- The failed attempt stays as it was. -/
theorem Forgets.of_failed (hc : Coherent c') (h : c'.failedAttempt = c.failedAttempt) :
    Forgets c c' :=
  ⟨hc, fun _ hattempt => h ▸ hattempt⟩

/-- An operation may follow one that records nothing. -/
theorem Forgets.settles {c'' : RemoteSessionCoordinator} (h : Forgets c c')
    (h' : Settles c' c'') : Settles c c'' := by
  refine ⟨h'.coherent, fun attempt hattempt => ?_⟩
  rcases h'.failed attempt hattempt with hbefore | hnone
  · exact .inl (h.failed attempt hbefore)
  · exact .inr hnone

/-- A pending session that is too old is dropped. -/
theorem expirePending_forgets (hc : Coherent c) :
    wp (expirePending now) (fun r c' => r = .ok () ∧ Forgets c c') c := by
  unfold expirePending
  rw [wp_modify]
  refine ⟨rfl, ⟨hc.host, hc.sized, hc.registered, fun hsome => ?_, ?_, hc.retired⟩, ?_⟩
  · rw [hc.pending hsome]
    rfl
  · intro a attempt ha hattempt
    exact hc.failed a attempt ha (filter_eq_some_iff.mp hattempt).1
  · intro attempt hattempt
    exact (filter_eq_some_iff.mp hattempt).1

/-- A session that has been lost for too long is closed. -/
theorem expireActiveReconnect_forgets (hc : Coherent c) :
    wp (expireActiveReconnect env now) (fun _ c' => Forgets c c') c := by
  unfold expireActiveReconnect
  rw [wp_get_bind, wp_bind, wp_onlyIf]
  refine ⟨fun _ => wp_mono (closeActive_idles _ hc) ?_, fun _ => .of_failed hc rfl⟩
  rintro (error | _) c' hidle
  · exact .of_failed hidle.coherent hidle.failed
  · exact .of_failed hidle.coherent hidle.failed

variable {α : Type}

/-- A message may be refused before the operation goes on. -/
theorem outbound_settles {recipientDeviceId : Bytes} {requestId : String}
    {payload : SignalingPayload} {now : UInt64} {f : RemoteSessionOutbound → CoordinatorM α}
    (hf : ∀ sent, wp (f sent) (fun _ c' => Settles c c') c) (hc : Coherent c) :
    wp (outbound recipientDeviceId requestId now payload >>= f) (fun _ c' => Settles c c') c := by
  rw [wp_bind]
  refine wp_mono (outbound_still _ _ _ _ _) ?_
  rintro (error | sent) _ rfl
  · exact .of_failed hc rfl
  · exact hf sent

variable (finalError : Option ErrorCode)

/-- Closing leaves the places in agreement. -/
theorem closeActive_settles (hc : Coherent c) :
    wp (closeActive env finalError) (fun _ c' => Settles c c') c :=
  wp_mono (closeActive_idles finalError hc) fun _ _ h => h.settles

/-- What follows the end of the session keeps its result. -/
theorem closeActive_bind {finalError : Option ErrorCode} {m : CoordinatorM α}
    (hm : Keeps Eq m) (hc : Coherent c) :
    wp (closeActive env finalError >>= fun _ => m) (fun _ c' => Settles c c') c := by
  rw [wp_bind]
  refine wp_mono (closeActive_settles finalError hc) ?_
  rintro (error | _) c' hsettles
  · exact hsettles
  · rw [andThen_ok]
    refine wp_mono (hm c') ?_
    rintro _ _ rfl
    exact hsettles

/-- So does an envelope for the active session. -/
theorem handleActiveEnvelope_settles (envelope : SignalingEnvelope) (now : UInt64)
    (hc : Coherent c) :
    wp (handleActiveEnvelope crypto env envelope now) (fun _ c' => Settles c c') c := by
  have hsame : Settles c c := .of_failed hc rfl
  have hreconnect : wp (handleActiveReconnectEnvelope crypto env envelope now)
      (fun _ c' => Settles c c') c :=
    wp_mono (handleActiveReconnectEnvelope_stays envelope now c) fun _ _ h => h.settles hc
  unfold handleActiveEnvelope
  split
  · exact hreconnect
  · exact hreconnect
  · simp only [wp_bind, wp_require, andThen_ok, andThen_error, wp_get, wp_orThrow]
    refine ⟨fun _ => ⟨fun a _ => ⟨fun _ => ?_, fun _ => hsame⟩, fun _ => hsame⟩, fun _ => hsame⟩
    rw [← wp_bind]
    exact closeActive_bind (.pure _) hc
  · exact hsame

/-- A routed envelope has left a pending session to be started. -/
structure Awaits (pending : PendingSession) (c c' : RemoteSessionCoordinator) : Prop where
  gathered : ∃ c₂ envelope, Forgets c c₂ ∧ c₂.active = none ∧
    validateEnvelopeFields envelope = .ok () ∧ Gathered envelope pending c₂ c' ∧
    (pending.isReady = true → c₂.retired = c.retired)

/-- An expiry leaves the pending session alone. -/
theorem expireActiveReconnect_pending (hc : Coherent c) :
    wp (expireActiveReconnect env now) (fun _ c' => c'.pending = c.pending ∧
      (c.active = none → c'.retired = c.retired)) c := by
  unfold expireActiveReconnect
  rw [wp_get_bind, wp_bind, wp_onlyIf]
  refine ⟨fun hexpired => wp_mono (closeActive_idles _ hc) ?_, fun _ => ⟨rfl, fun _ => rfl⟩⟩
  have hactive : ∀ {p : Prop}, c.active = none → p := fun hnone => by
    simp [reconnectDeadlineUnixMs, hnone] at hexpired
  rintro (error | _) c' hidle
  · exact ⟨hidle.pending, fun hnone => hactive hnone⟩
  · exact ⟨hidle.pending, fun hnone => hactive hnone⟩

/-- A routed envelope is answered or leaves a session to be started. -/
theorem gatherRouted_spec (senderDeviceId : Bytes) (decoded : Option SignalingEnvelope)
    (now : UInt64) (hc : Coherent c) :
    wp (gatherRouted crypto env senderDeviceId decoded now) (fun r c' =>
      (r ≠ .ok none → Settles c c') ∧ (r = .ok none → ∃ pending, Awaits pending c c')) c := by
  have hleft : ∀ {r : Except RemoteSessionError (Option (List RemoteSessionOutbound))} {c'},
      Settles c c' → r ≠ .ok none → (r ≠ .ok none → Settles c c') ∧
        (r = .ok none → ∃ pending, Awaits pending c c') :=
    fun h hne => ⟨fun _ => h, fun heq => absurd heq hne⟩
  have hsame : Settles c c := .of_failed hc rfl
  unfold gatherRouted
  simp only [wp_bind, wp_get, andThen_ok, wp_require, wp_orThrow, andThen_error, wp_ofResult]
  refine ⟨fun _ => ⟨fun envelope _ => ?_, fun _ => hleft hsame (by simp)⟩,
    fun _ => hleft hsame (by simp)⟩
  cases hvalid : validateEnvelopeFields envelope with
  | error error => exact hleft hsame (by simp)
  | ok _ => ?_
  simp only [Except.mapError, andThen_ok, wp_bind, wp_require, andThen_error]
  refine ⟨fun _ => ?_, fun _ => hleft hsame (by simp)⟩
  have hexpire : wp (expirePending now) (fun _ c₁ => c₁.retired = c.retired ∧
      c₁.active = c.active ∧ (c.pending = none → c₁.pending = none)) c := by
    refine ⟨rfl, rfl, fun hpending => ?_⟩
    change c.pending.filter _ = none
    rw [hpending]
    rfl
  refine wp_mono (wp_and (expirePending_forgets now hc) hexpire) ?_
  rintro _ c₁ ⟨⟨rfl, hforgets₁⟩, hretired₁, hactive₁, hpending₁⟩
  rw [andThen_ok, wp_bind]
  refine wp_mono (wp_and (expireActiveReconnect_forgets now hforgets₁.coherent)
    (expireActiveReconnect_pending now hforgets₁.coherent)) ?_
  rintro r c₂ ⟨hforgets₂, hpending₂, hretired₂⟩
  have hforgets : Forgets c c₂ :=
    ⟨hforgets₂.coherent, fun attempt h => hforgets₁.failed attempt (hforgets₂.failed attempt h)⟩
  have hsettled : ∀ {r : Except RemoteSessionError (Option (List RemoteSessionOutbound))} {c'},
      Settles c₂ c' → r ≠ .ok none → (r ≠ .ok none → Settles c c') ∧
        (r = .ok none → ∃ pending, Awaits pending c c') :=
    fun h => hleft (hforgets.settles h)
  have hc₂ := hforgets₂.coherent
  cases r with
  | error error => exact hsettled (.of_failed hc₂ rfl) (by simp)
  | ok expired => ?_
  rw [andThen_ok, wp_get_bind, wp_ite]
  rw [wp_pure]
  refine ⟨fun _ => hsettled (.of_failed hc₂ rfl) (by simp), fun hmatches => ?_⟩
  split
  · next hnone =>
      refine wp_mono (gatherPending_spec now hc₂ hnone hmatches) ?_
      rintro r c' ⟨hsettles, hgathered⟩
      refine ⟨fun hne => hforgets.settles (hsettles hne), fun heq => ?_⟩
      obtain ⟨pending, hgathered⟩ := hgathered heq
      refine ⟨pending, c₂, envelope, hforgets, hnone, hvalid, hgathered, fun hready => ?_⟩
      cases hactive : c.active with
      | none => exact (hretired₂ (hactive₁.trans hactive)).trans hretired₁
      | some a =>
        have hempty := hpending₂.trans (hpending₁ (hc.pending (by rw [hactive]; rfl)))
        rw [hgathered.first hempty] at hready
        cases hready
  · rw [wp_ite]
    refine ⟨fun _ => ?_, fun _ => ?_⟩
    · rw [wp_bind]
      refine wp_mono (handleActiveEnvelope_settles envelope now hc₂) ?_
      rintro (error | sent) c' hsettles
      · exact hsettled hsettles (by simp)
      · rw [andThen_ok, wp_pure]
        exact hsettled hsettles (by simp)
    · rw [wp_bind]
      refine wp_mono (outbound_still _ _ _ _ _) ?_
      rintro (error | sent) _ rfl
      · exact hsettled (.of_failed hc₂ rfl) (by simp)
      · rw [andThen_ok, wp_pure]
        exact hsettled (.of_failed hc₂ rfl) (by simp)

/-- What the start of a pending session does after an envelope. -/
theorem Awaits.start (h : Awaits pending c c') (now : UInt64) :
    wp (tryStartPending crypto env now) (fun _ c'' => Settles c c'' ∧ (pending.isReady = true →
      (startPending crypto env pending now { c' with pending := none }).1.isOk = false →
      c''.active = none ∧ Disposes (offerSdp pending) pending.candidates
        (createdSession crypto env pending now { c' with pending := none })
        c.retired c''.retired)) c' := by
  obtain ⟨c₂, envelope, hforgets, hnone, hvalid, ⟨⟨sessionId, hnames, hother⟩, rfl, -⟩, hretired⟩ :=
    h.gathered
  refine wp_mono (tryStartPending_spec now hforgets.coherent hnone hnames hvalid hother) ?_
  rintro r c'' ⟨hsettles, hfails⟩
  refine ⟨hforgets.settles hsettles, fun hready hfailed => ?_⟩
  obtain ⟨hactive, hdisposes⟩ := hfails hready hfailed
  exact ⟨hactive, hretired hready ▸ hdisposes⟩

/-- A routed envelope leaves the places in agreement. -/
theorem handleRouted_settles (senderDeviceId : Bytes) (decoded : Option SignalingEnvelope)
    (now : UInt64) (hc : Coherent c) :
    wp (handleRouted crypto env senderDeviceId decoded now) (fun _ c' => Settles c c') c := by
  rw [handleRouted_eq, wp_bind]
  refine wp_mono (gatherRouted_spec senderDeviceId decoded now hc) ?_
  rintro (error | _ | sent) c' ⟨hsettles, hawaits⟩
  · exact hsettles (by simp)
  · obtain ⟨pending, hawaits⟩ := hawaits rfl
    exact wp_mono (hawaits.start now) fun _ _ h => h.1
  · exact hsettles (by simp)

/-- So does closing with a notice for the controller. -/
theorem closeActiveWithRemoteNotification_settles (hc : Coherent c) :
    wp (closeActiveWithRemoteNotification env now finalError) (fun _ c' => Settles c c') c := by
  unfold closeActiveWithRemoteNotification
  rw [wp_get_bind]
  split
  · exact .of_failed hc rfl
  · exact outbound_settles (fun _ => closeActive_bind (.pure _) hc) hc

/-- So does input, whatever comes after the session has ended. -/
theorem handleInput_settles {handle : SessionM α} {finish : CoordinatorM Unit}
    (hfinish : ∀ {c}, Coherent c → wp finish (fun _ c' => Settles c c') c) (hc : Coherent c) :
    wp (handleInput env handle finish) (fun _ c' => Settles c c') c := by
  unfold handleInput
  rw [wp_get_bind, wp_ite]
  refine ⟨fun _ => .of_failed hc rfl, fun _ => ?_⟩
  rw [wp_bind]
  refine wp_mono (onActive_stays (.outcome (onSession_same _ _)) c) ?_
  rintro (error | result) c' hstays
  · exact hstays.settles hc
  have hc' := hstays.coherent hc
  have hforgets : Forgets c c' := .of_failed hc' hstays.failed
  rw [andThen_ok]
  cases result with
  | ok _ =>
    rw [wp_bind]
    refine wp_mono (hfinish hc') ?_
    rintro (error | _) c'' hsettles
    · exact hforgets.settles hsettles
    · exact hforgets.settles hsettles
  | error error =>
    exact wp_mono (closeActive_bind (.throw _) hc') fun _ _ h => hforgets.settles h

/-- So does closing a session that has ended by itself. -/
theorem closeEnded_settles (hc : Coherent c) :
    wp (closeEnded env) (fun _ c' => Settles c c') c := by
  unfold closeEnded
  rw [wp_get_bind, wp_onlyIf]
  exact ⟨fun _ => closeActive_settles _ hc, fun _ => .of_failed hc rfl⟩

/-- So does an event of the peer. -/
theorem handlePeerEvent_settles (event : RemotePeerEvent) (now : UInt64) (hc : Coherent c) :
    wp (handlePeerEvent env event now) (fun _ c' => Settles c c') c := by
  unfold handlePeerEvent
  rw [wp_get_bind, wp_bind, wp_require]
  refine ⟨fun _ => ?_, fun _ => .of_failed hc rfl⟩
  rw [andThen_ok, wp_bind]
  refine wp_mono (expireActiveReconnect_forgets now hc) ?_
  intro r c₁ hforgets
  have hc₁ := hforgets.coherent
  have hsettled : ∀ {c'}, Settles c₁ c' → Settles c c' := fun h => hforgets.settles h
  have hstays : ∀ {m : CoordinatorM (List RemoteSessionOutbound)}, Keeps Stays m →
      wp m (fun _ c' => Settles c c') c₁ :=
    fun h => wp_mono (h c₁) fun _ _ h => hsettled (h.settles hc₁)
  cases r with
  | error error => exact hsettled (.of_failed hc₁ rfl)
  | ok expired => ?_
  rw [andThen_ok, wp_ite]
  refine ⟨fun _ => hsettled (.of_failed hc₁ rfl), fun _ => ?_⟩
  cases event with
  | connected =>
    exact hstays (.bind (onActive_stays (onSession_same _ _)) fun _ =>
      .bind (onActive_stays (.modify fun _ => ⟨rfl, rfl⟩)) fun _ =>
      .bind .require fun _ => .pure _)
  | localIceCandidate candidate =>
    exact hstays (.bind .get fun _ => .bind .orThrow fun _ =>
      .bind (outbound_keeps _ _ _ _) fun _ => .pure _)
  | reliableInput decoded =>
    exact wp_mono (handleInput_settles (fun h => closeEnded_settles h) hc₁) fun _ _ h => hsettled h
  | fastPointer decoded =>
    exact wp_mono (handleInput_settles (fun h => .of_failed h rfl) hc₁) fun _ _ h => hsettled h
  | disconnected => exact hstays (.bind (beginActiveReconnect_stays now) fun _ => .pure _)
  | failed => exact hstays (.bind (beginActiveReconnect_stays now) fun _ => .pure _)
  | localStop =>
    exact wp_mono (closeActiveWithRemoteNotification_settles now none hc₁) fun _ _ h => hsettled h

/-- So does an error of the source of events. -/
theorem receivePeerEvent_settles (received : Received) (now : UInt64) (hc : Coherent c) :
    wp (receivePeerEvent env received now) (fun _ c' => Settles c c') c := by
  have hsame : Settles c c := .of_failed hc rfl
  unfold receivePeerEvent
  rw [wp_get_bind]
  split
  · exact hsame
  · exact hsame
  · exact handlePeerEvent_settles _ _ hc
  · exact closeActive_bind (.throw _) hc

/-- So does a termination. -/
theorem handleTermination_settles (event : SessionTerminatedEvent) (now : UInt64)
    (hc : Coherent c) :
    wp (handleTermination env event now) (fun _ c' => Settles c c') c := by
  unfold handleTermination
  rw [wp_get_bind, wp_ite]
  exact ⟨fun _ => closeActiveWithRemoteNotification_settles _ _ hc, fun _ => .of_failed hc rfl⟩

/-- So does the loss of signaling. -/
theorem signalingLost_settles (hc : Coherent c) :
    wp (signalingLost env now) (fun _ c' => Settles c c') c := by
  have hdropped : Forgets c { c with pending := none } :=
    .of_failed ⟨hc.host, hc.sized, hc.registered, fun _ => rfl, hc.failed, hc.retired⟩ rfl
  unfold signalingLost
  rw [wp_modify_bind, wp_get_bind]
  split
  · exact hdropped.settles (.of_failed hdropped.coherent rfl)
  · rw [wp_bind, wp_outcome]
    refine wp_mono (beginActiveReconnect_stays now _) ?_
    rintro r c' hstays
    have hc' := hstays.coherent hdropped.coherent
    have hforgets : Forgets c c' := .of_failed hc' hstays.failed
    rw [andThen_ok]
    cases r with
    | ok _ => exact hforgets.settles (.of_failed hc' rfl)
    | error error =>
      exact wp_mono (closeActive_bind (.throw _) hc') fun _ _ h => hforgets.settles h

/-- So does a shutdown. -/
theorem shutdown_settles (hc : Coherent c) :
    wp (shutdown env) (fun _ c' => Settles c c') c := by
  have hdropped : Forgets c { c with pending := none, failedAttempt := none } := by
    refine ⟨⟨hc.host, hc.sized, hc.registered, fun _ => rfl, fun _ _ _ h => ?_, hc.retired⟩,
      fun _ h => ?_⟩
    · cases h
    · cases h
  unfold shutdown
  rw [wp_modify_bind, wp_bind]
  refine wp_mono (closeActive_idles none hdropped.coherent) ?_
  rintro (error | _) c' hidle
  · exact hdropped.settles hidle.settles
  · have hc' := hidle.coherent
    refine hdropped.settles (.of_failed ?_ hidle.failed)
    exact ⟨hc'.host, hc'.sized, hc'.registered, hc'.pending, hc'.failed, hc'.retired⟩

/-- A result that is dropped changes nothing. -/
theorem silently_settles {m : CoordinatorM α}
    (h : wp m (fun _ c' => Settles c c') c) : wp (silently m) (fun _ c' => Settles c c') c := by
  unfold silently
  rw [wp_bind]
  refine wp_mono h ?_
  rintro (error | _) c' hsettles
  · exact hsettles
  · exact hsettles

/-- Every operation keeps the places in agreement. -/
theorem perform_settles (input : Input) (hc : Coherent c) :
    wp (perform crypto input) (fun _ c' => Settles c c') c := by
  unfold perform
  split
  · exact handleRouted_settles _ _ _ hc
  · exact handlePeerEvent_settles _ _ hc
  · refine silently_settles (wp_mono (expireActiveReconnect_forgets _ hc) ?_)
    exact fun _ _ h => h.settles (.of_failed h.coherent rfl)
  · exact receivePeerEvent_settles _ _ hc
  · exact handleTermination_settles _ _ hc
  · exact silently_settles (signalingLost_settles _ hc)
  · refine silently_settles ?_
    unfold privilegedRouteChanged
    rw [wp_get_bind, wp_onlyIf]
    refine ⟨fun _ => ?_, fun _ => .of_failed hc rfl⟩
    exact wp_mono (beginActiveReconnect_stays _ c) fun _ _ h => h.settles hc
  · exact silently_settles (shutdown_settles hc)

/-! ## Whole runs -/

/-- What happens to the coordinator of a Host: one of its operations, or a local
operation that takes sessions out of the registry. -/
inductive ServiceInput where
  | coordinator (input : Input)
  | terminateController (controllerDeviceId : Bytes)
  | terminateAll (reason : TerminationReason)

/-- The coordinator beside the local operations, with what is announced by them. -/
def serviceMachine (crypto : Crypto) :
    Machine RemoteSessionCoordinator ServiceInput (Output ⊕ List SessionTerminatedEvent) where
  step c
    | .coordinator input => ((perform crypto input c).2, .inl (perform crypto input c).1)
    | .terminateController controllerDeviceId =>
      ({ c with sessions := (c.sessions.terminateController controllerDeviceId).1 },
        .inr (c.sessions.terminateController controllerDeviceId).2)
    | .terminateAll reason =>
      ({ c with sessions := (c.sessions.terminateAll reason).1 },
        .inr (c.sessions.terminateAll reason).2)

/-- The registry has lost entries. -/
theorem Coherent.shrink (hc : Coherent c) {sessions : SessionRegistry}
    (h : ∀ (sessionId : Bytes) controllerDeviceId, sessions[sessionId]? = some controllerDeviceId →
      c.sessions[sessionId]? = some controllerDeviceId) : Coherent { c with sessions } :=
  ⟨hc.host, hc.sized, fun sessionId controller hfound =>
    hc.registered sessionId controller (h sessionId controller hfound), hc.pending, hc.failed,
    hc.retired⟩

/-- So does every input of the service. -/
theorem serviceMachine_settles (crypto : Crypto) (input : ServiceInput) (hc : Coherent c) :
    Settles c ((serviceMachine crypto).step c input).1 := by
  cases input with
  | coordinator input => exact perform_settles input hc
  | terminateController controllerDeviceId =>
    refine .of_failed (hc.shrink fun sessionId controller hfound => ?_) rfl
    exact (getElem?_terminateController.mp hfound).1
  | terminateAll reason =>
    refine .of_failed (hc.shrink fun sessionId controller hfound => ?_) rfl
    simp [terminateAll] at hfound

/-- What has happened to the coordinator. -/
abbrev ServiceEvent :=
  Occurrence RemoteSessionCoordinator ServiceInput (Output ⊕ List SessionTerminatedEvent)

/-- A start of a pending session, in the state that it begins in. -/
structure Activation where
  env : Environment
  pending : PendingSession
  nowUnixMs : UInt64
  state : RemoteSessionCoordinator

/-- What a start returns. -/
def Activation.result (crypto : Crypto) (a : Activation) :
    Except RemoteSessionError (List RemoteSessionOutbound) :=
  (startPending crypto a.env a.pending a.nowUnixMs a.state).1

/-- The peer session that a start creates, if it gets so far. -/
def Activation.created (crypto : Crypto) (a : Activation) : Option HostPeerSession :=
  createdSession crypto a.env a.pending a.nowUnixMs a.state

/-- The start that an event comes to. -/
def activation? (crypto : Crypto) (e : ServiceEvent) : Option Activation :=
  match e.input with
  | .coordinator ⟨env, .routed senderDeviceId decoded nowUnixMs⟩ =>
    match gatherRouted crypto env senderDeviceId decoded nowUnixMs e.before with
    | (.ok none, c) => (c.pending.filter PendingSession.isReady).map fun pending =>
      { env, pending, nowUnixMs, state := { c with pending := none } }
    | _ => none
  | _ => none

/-- An event has come to a start that has returned an error. -/
structure ActivationFailed (crypto : Crypto) (a : Activation) (e : ServiceEvent) : Prop where
  started : activation? crypto e = some a
  failed : (a.result crypto).isOk = false

/-- No session is active or registered, the session that was created is the only one that
has ended, and every session that has ended is closed. -/
structure NothingLeft (crypto : Crypto) (a : Activation) (e : ServiceEvent) : Prop where
  active : e.after.active = none
  sessions : ∀ sessionId : Bytes, e.after.sessions[sessionId]? = none
  disposed : Disposes (offerSdp a.pending) a.pending.candidates (a.created crypto)
    e.before.retired e.after.retired
  closed : ∀ s ∈ e.after.retired, s.state = .closed

/-- An activation that fails leaves nothing behind. -/
theorem ActivationFailed.nothingLeft {e : ServiceEvent} {a : Activation}
    (h : ActivationFailed crypto a e) (hc : Coherent e.before)
    (hstep : e.after = ((serviceMachine crypto).step e.before e.input).1) :
    NothingLeft crypto a e := by
  obtain ⟨hstarted, hfailed⟩ := h
  have hcoherent : Coherent e.after := hstep ▸ (serviceMachine_settles crypto e.input hc).coherent
  unfold activation? at hstarted
  split at hstarted
  · next env senderDeviceId decoded now hinput =>
      have hgather : wp (gatherRouted crypto env senderDeviceId decoded now) _ e.before :=
        gatherRouted_spec senderDeviceId decoded now hc
      split at hstarted
      · next c hresult =>
          unfold wp at hgather
          rw [hresult] at hgather
          obtain ⟨pending, hawaits⟩ := hgather.2 rfl
          obtain ⟨_, _, -, -, -, hgathered, -⟩ := hawaits.gathered
          obtain ⟨p, hp, rfl⟩ := map_eq_some_iff.mp hstarted
          obtain ⟨hpending, hready⟩ := filter_eq_some_iff.mp hp
          have hc' : c = _ := hgathered.after
          obtain rfl : pending = p := by
            rw [hc'] at hpending
            exact some.inj hpending
          have hafter : e.after = (tryStartPending crypto env now c).2 := by
            rw [hstep, hinput]
            change (handleRouted crypto env senderDeviceId decoded now e.before).2 = _
            rw [handleRouted_eq]
            simp only [bind, hresult, orStart]
          have hstart : wp (tryStartPending crypto env now) _ c := hawaits.start now
          unfold wp at hstart
          rw [← hafter] at hstart
          obtain ⟨hnone, hdisposed⟩ := hstart.2 hready hfailed
          exact ⟨hnone, hcoherent.unregistered hnone, hdisposed, hcoherent.retired⟩
      · cases hstarted
  · cases hstarted

/-- A new coordinator has no session. -/
theorem withConfig_coherent {hostDeviceId : Bytes} (h : withConfig hostDeviceId = .ok c) :
    Coherent c := by
  unfold withConfig at h
  obtain ⟨verifier, hverifier, hc⟩ := bind_eq_ok.mp h
  rw [mapError_eq_ok] at hverifier
  cases hc
  unfold OfferVerifier.new at hverifier
  split at hverifier
  · cases hverifier
  · next hlength =>
      refine .of_none (Decidable.not_not.mp hlength) rfl (fun _ => ?_) fun _ hs => ?_
      · exact Std.ExtTreeMap.getElem?_empty
      · cases hs

/-- In every state that a run reaches the places agree, and an activation that has
returned an error has left nothing behind. -/
theorem session_consistency (crypto : Crypto) {hostDeviceId : Bytes}
    (hnew : withConfig hostDeviceId = .ok c) (inputs : List ServiceInput) :
    Coherent ((serviceMachine crypto).run c inputs) ∧
      ∀ e ∈ (serviceMachine crypto).trace c inputs, ∀ a, ActivationFailed crypto a e →
        NothingLeft crypto a e := by
  have hinitial := withConfig_coherent hnew
  have hstep : ∀ c input, Coherent c → True → Coherent ((serviceMachine crypto).step c input).1 :=
    fun c input hc _ => (serviceMachine_settles crypto input hc).coherent
  have hguard := Machine.guarded_true (M := serviceMachine crypto) c inputs
  refine ⟨Machine.run_invariant Coherent hstep hinitial hguard, fun e he a hfailed => ?_⟩
  obtain ⟨hc, -, -, heq⟩ := Machine.trace_invariant Coherent hstep hinitial hguard he
  exact hfailed.nothingLeft hc (congrArg Occurrence.after heq)

/-- A Host on which the connection of a new session cannot be recorded. -/
def unrecordedEnvironment : Environment := { sampleEnvironment with recorded := false }

/-- The sample session is offered, and its start fails after it was registered. -/
def unrecordedStart : List ServiceInput :=
  sampleStart.map fun input => .coordinator { input with env := unrecordedEnvironment }

/-- A start that fails after the session was registered leaves nothing behind. -/
theorem session_consistency_sample :
    withConfig AuthorizationRegistry.sampleHostId = .ok sampleCoordinator ∧
    ∃ e ∈ (serviceMachine sampleOfferCrypto).trace sampleCoordinator unrecordedStart,
      ∃ a, ActivationFailed sampleOfferCrypto a e ∧
        (a.created sampleOfferCrypto).isSome ∧
        NothingLeft sampleOfferCrypto a e := by
  have hnew : withConfig AuthorizationRegistry.sampleHostId = .ok sampleCoordinator := rfl
  have hany : (((serviceMachine sampleOfferCrypto).trace sampleCoordinator
      unrecordedStart).any fun e => (activation? sampleOfferCrypto e).any fun a =>
        !(a.result sampleOfferCrypto).isOk &&
          (a.created sampleOfferCrypto).isSome) = true := by decide +kernel
  obtain ⟨e, he, hany⟩ := List.any_eq_true.mp hany
  obtain ⟨a, hstarted, hany⟩ := (any_eq_true _ _).mp hany
  obtain ⟨hfailed, hcreated⟩ := Bool.and_eq_true_iff.mp hany
  have hactivation : ActivationFailed sampleOfferCrypto a e :=
    ⟨hstarted, Bool.not_eq_true' _ ▸ hfailed⟩
  exact ⟨hnew, e, he, a, hactivation, hcreated,
    (session_consistency _ hnew unrecordedStart).2 e he a hactivation⟩

end RemoteSessionCoordinator

end Host

end Roammand
