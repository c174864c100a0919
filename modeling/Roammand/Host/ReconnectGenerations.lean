import Roammand.Host.RoutedEnvelopes

/-!
# The generations of a session

When the peer of the active session is lost, its controller may negotiate again.  The
Host answers each successful renegotiation with a signed response that carries a
generation.  The generation is computed before the peer is asked for its answer, and
it is kept only after the answer has been signed and all candidates have been handed
to the peer.

This module follows the generation through every operation of the coordinator: it
moves by one exactly when a response leaves the Host.

Main results:

- Theorem `tryRestartActive_spec`: a renegotiation either yields a response with the next
  generation, or it yields none and leaves the generation as it is.
- Theorem `perform_step`: what an operation does to the active session.
-/

namespace Roammand

namespace Host

open Library Protocol Fallible HostPeerSession Option

namespace ActiveSession

/-! ## The active session -/

/-- The messages for a renegotiation name the session they are for. -/
structure Buffered (a : ActiveSession) : Prop where
  controller : a.controllerDeviceId.length = deviceIdBytes
  messages : ∀ pending, a.reconnect = some pending →
    pending.controllerDeviceId = a.controllerDeviceId ∧ pending.sessionId = a.sessionId ∧
      (utf8 pending.requestId).length ≤ maxRequestIdUtf8Bytes

/-- The session goes on with its generation and its permissions. -/
structure Holds (a a' : ActiveSession) : Prop where
  same : SameSession a a'
  generation : a'.reconnectGeneration = a.reconnectGeneration
  inputAllowed : a'.session.inputAllowed = a.session.inputAllowed
  buffered : Buffered a → Buffered a'

variable {a a' : ActiveSession}

instance : IsPreorder ActiveSession Holds where
  refl _ := ⟨Std.Refl.refl _, rfl, rfl, id⟩
  trans _ _ _ h h' := ⟨Trans.trans h.same h'.same, h'.generation.trans h.generation,
    h'.inputAllowed.trans h.inputAllowed, fun hb => h'.buffered (h.buffered hb)⟩

theorem Holds.of_session {session : HostPeerSession} {deadline : Option UInt64}
    (h : session.inputAllowed = a.session.inputAllowed) :
    Holds a { a with session, reconnectDeadlineUnixMs := deadline } :=
  ⟨⟨rfl, rfl⟩, rfl, h, fun hb => ⟨hb.controller, hb.messages⟩⟩

theorem onSession_holds {α : Type} {f : HostWebRtcError → RemoteSessionError} {m : SessionM α}
    (h : ∀ s, wp m (fun _ s' => s'.inputAllowed = s.inputAllowed) s) :
    Keeps Holds (onSession f m) := by
  intro a
  unfold onSession
  rw [wp_zoom, wp_mapError]
  exact wp_mono (h a.session) fun _ _ hs => .of_session hs

theorem addRemoteIceCandidate_holds (f : HostWebRtcError → RemoteSessionError)
    (candidate : PeerIceCandidate) :
    Keeps Holds (onSession f (addRemoteIceCandidate candidate)) :=
  onSession_holds fun s => wp_mono (addRemoteIceCandidate_spec candidate s)
    fun _ _ h => h.1.inputAllowed

theorem addCandidates_holds (candidates : List PeerIceCandidate) :
    Keeps Holds (addCandidates candidates) := by
  induction candidates with
  | nil => exact .pure ()
  | cons candidate candidates ih =>
    exact .bind (addRemoteIceCandidate_holds _ candidate) fun _ => ih

/-- What is put back names the session that it was taken from. -/
theorem Holds.setReconnect {pending pending' : PendingSession} (h : a.reconnect = some pending)
    (hcontroller : pending'.controllerDeviceId = pending.controllerDeviceId)
    (hsession : pending'.sessionId = pending.sessionId)
    (hrequest : pending'.requestId = pending.requestId) :
    Holds a { a with reconnect := some pending' } := by
  refine ⟨⟨rfl, rfl⟩, rfl, rfl, fun hb => ⟨hb.controller, ?_⟩⟩
  rintro _ ⟨⟩
  rw [hcontroller, hsession, hrequest]
  exact hb.messages pending h

theorem prepareReconnect_spec {requestId : String} (now : UInt64)
    (hrequest : (utf8 requestId).length ≤ maxRequestIdUtf8Bytes) (a : ActiveSession) :
    wp (prepareReconnect requestId now) (fun r a' => Holds a a' ∧
      ∃ pending, r = .ok pending ∧ a'.reconnect = some pending) a := by
  unfold prepareReconnect
  rw [wp_get_bind, wp_modify_bind, wp_pure]
  refine ⟨⟨⟨rfl, rfl⟩, rfl, rfl, fun hb => ⟨hb.controller, ?_⟩⟩, _, rfl, rfl⟩
  rintro _ ⟨⟩
  cases hbuffer : a.reconnect with
  | none => exact ⟨rfl, rfl, hrequest⟩
  | some pending =>
    obtain ⟨hcontroller, hsession, _⟩ := hb.messages pending hbuffer
    exact ⟨hcontroller, hsession, hrequest⟩

end ActiveSession

namespace RemoteSessionCoordinator

open ActiveSession

variable {c c' c'' : RemoteSessionCoordinator} {crypto : Crypto} {env : Environment} {now : UInt64}

/-! ## The coordinator -/

/-- There is no session, or it goes on. -/
def Goes (c c' : RemoteSessionCoordinator) : Prop :=
  (c.active = none ∧ c'.active = none) ∨
    ∃ a a', c.active = some a ∧ c'.active = some a' ∧ Holds a a'

theorem Goes.of_active (h : c'.active = c.active) : Goes c c' := by
  cases ha : c.active with
  | none => exact .inl ⟨ha, h.trans ha⟩
  | some a => exact .inr ⟨a, a, ha, h.trans ha, Std.Refl.refl a⟩

instance : IsPreorder RemoteSessionCoordinator Goes where
  refl c := .of_active rfl
  trans c c' c'' h h' := by
    rcases h with ⟨hnone, hnone'⟩ | ⟨a, a', ha, ha', hholds⟩
    · rcases h' with ⟨_, hnone''⟩ | ⟨b, _, hb, _⟩
      · exact .inl ⟨hnone, hnone''⟩
      · rw [hnone'] at hb
        cases hb
    · rcases h' with ⟨hnone, _⟩ | ⟨b, b', hb, hb', hholds'⟩
      · rw [ha'] at hnone
        cases hnone
      · rw [ha'] at hb
        cases hb
        exact .inr ⟨a, b', ha, hb', Trans.trans hholds hholds'⟩

/-- The session goes on, and no offer has been verified. -/
structure Continues (c c' : RemoteSessionCoordinator) : Prop where
  goes : Goes c c'
  stays : Stays c c'
  verifier : c'.verifier = c.verifier

instance : IsPreorder RemoteSessionCoordinator Continues where
  refl c := ⟨Std.Refl.refl c, Std.Refl.refl c, rfl⟩
  trans _ _ _ h h' := ⟨Trans.trans h.goes h'.goes, Trans.trans h.stays h'.stays,
    h'.verifier.trans h.verifier⟩

theorem Continues.of_holds {a a' : ActiveSession} (ha : c.active = some a) (h : Holds a a') :
    Continues c { c with active := some a' } :=
  ⟨.inr ⟨a, a', ha, rfl, h⟩, ⟨rfl, rfl, rfl, rfl, rfl, .inr ⟨a, a', ha, rfl, h.same⟩⟩, rfl⟩

variable {envelope : SignalingEnvelope} {α : Type}

theorem onActive_continues {e : RemoteSessionError} {m : ActiveM α}
    (h : Keeps Holds m) : Keeps Continues (onActive e m) := by
  intro c
  rw [wp_onActive]
  refine ⟨fun _ => Std.Refl.refl c, fun a ha => wp_mono (h a) ?_⟩
  exact fun _ _ hholds => .of_holds ha hholds

theorem beginActiveReconnect_continues (now : UInt64) :
    Keeps Continues (beginActiveReconnect env now) :=
  .bind (onActive_continues (onSession_holds fun s =>
      wp_mono (beginReconnect_spec s) fun _ _ h => h.1.inputAllowed)) fun _ =>
    .bind (onActive_continues (.modify fun _ => .of_session rfl)) fun _ => .require

/-- The verifier accepts an offer, and it remembers that. -/
def Admits (crypto : Crypto) (env : Environment) (now : UInt64) (v v' : OfferVerifier)
    (authentication : SessionOfferAuthentication) (verified : VerifiedSessionOffer) : Prop :=
  ∃ sdp fingerprint,
    v.verify crypto authentication sdp fingerprint env.registry now = (v', .ok verified)

/-- The verification of an offer succeeds with what the verifier returns. -/
theorem verifyRemoteOffer_admits (authentication : SessionOfferAuthentication)
    (description : WebRtcSessionDescription) (now : UInt64) (c : RemoteSessionCoordinator) :
    wp (verifyRemoteOffer crypto env authentication description now) (fun r c' =>
      ∃ verifier, c' = { c with verifier } ∧ ∀ verified, r = .ok verified →
        Admits crypto env now c.verifier verifier authentication verified) c := by
  unfold verifyRemoteOffer
  rw [wp_get_bind, wp_modify_bind, wp_ofResult]
  refine ⟨_, rfl, fun verified hverified => ?_⟩
  exact ⟨description.sdp, description.dtlsFingerprintSha256,
    Prod.ext rfl (mapError_eq_ok.mp hverified)⟩

/-! ## A renegotiation -/

/-- An answer that a restart returns can be sent. -/
theorem acceptReconnectOffer_answer (offerSdp : String) (s : HostPeerSession) :
    wp (acceptReconnectOffer offerSdp) (fun r _ =>
      ∀ answer, r = .ok answer → validAnswer answer = true) s := by
  unfold acceptReconnectOffer
  simp only [wp_bind, wp_get, andThen_ok, wp_require, wp_modify]
  refine ⟨fun _ => ⟨fun _ => ?_, fun _ _ h => by cases h⟩, fun _ _ h => by cases h⟩
  unfold callNegotiate wp
  dsimp only
  cases s.peer.negotiate (s.peer.calls ++ [.restart offerSdp]) with
  | error error => exact fun _ h => by cases h
  | ok answer =>
    simp only [andThen_ok, wp_bind, wp_require, wp_modify, wp_pure, andThen_error]
    refine ⟨fun hvalid => ?_, fun _ _ h => by cases h⟩
    rintro _ ⟨⟩
    exact hvalid

theorem acceptReconnectOffer_holds (f : HostWebRtcError → RemoteSessionError) (offerSdp : String)
    (a : ActiveSession) :
    wp (onSession f (acceptReconnectOffer offerSdp)) (fun r a' => Holds a a' ∧
      ∀ answer, r = .ok answer → validAnswer answer = true) a := by
  unfold onSession
  rw [wp_zoom, wp_mapError]
  refine wp_mono (wp_and (acceptReconnectOffer_spec offerSdp a.session)
    (acceptReconnectOffer_answer offerSdp a.session)) ?_
  rintro r s ⟨⟨hquiet, _⟩, hanswer⟩
  refine ⟨.of_session hquiet.inputAllowed, fun answer hr => hanswer answer ?_⟩
  exact mapError_eq_ok.mp hr

/-- The controller, the nonce and the expiry of the offer that a message is about. -/
def binding : SessionAuthentication → Bytes × Bytes × UInt64
  | .offer m => (m.controllerDeviceId, m.nonce, m.expiresAtUnixMs)
  | .answer m => (m.controllerDeviceId, m.nonce, m.expiresAtUnixMs)
  | .reconnect m => (m.controllerDeviceId, m.nonce, m.expiresAtUnixMs)

/-- The Host's response to a verified offer is short. -/
theorem length_signRemoteReconnect_le {offer : SessionOfferAuthentication} {answerSdp : String}
    {hostFingerprint : Bytes} {generation : UInt32} {reconnect : SessionReconnectAuthentication}
    (h : signRemoteReconnect crypto env offer answerSdp hostFingerprint generation = .ok reconnect)
    (hoffer : SizedOffer offer) (hfingerprint : hostFingerprint.length = nonceOrHashBytes) :
    (Protobuf.encodeFields reconnect.fields).length ≤ 1000 ∧
      reconnect.reconnectGeneration = generation ∧
      binding (.reconnect reconnect) = binding (.offer offer) := by
  have hpermissions := hoffer.permissions
  have hfields := hoffer.fields
  simp only [validateFixedFields, ensure_eq_ok] at hfields
  simp only [signRemoteReconnect, bind_eq_ok, okOr_eq_ok] at h
  obtain ⟨_, -, signature, -, hreconnect⟩ := h
  have hlength := length_encode_reconnect_le reconnect
  cases hreconnect
  refine ⟨?_, rfl, rfl⟩
  simp only [deviceIdBytes, sessionIdBytes, nonceOrHashBytes, signatureBytes, Vector.length_toList]
    at *
  omega

/-- The session has been negotiated again, and its generation has moved by one. -/
structure Restarts (a a' : ActiveSession) : Prop where
  same : SameSession a a'
  generation : a'.reconnectGeneration.toNat = a.reconnectGeneration.toNat + 1
  inputAllowed : a'.session.inputAllowed = a.session.inputAllowed
  buffered : Buffered a → Buffered a'

/-- What a renegotiation has returned, beside the session it is for. -/
structure RestartedAs (restarted : RestartedSession) (a' : ActiveSession) : Prop where
  controller : restarted.controllerDeviceId = a'.controllerDeviceId
  sessionId : restarted.sessionId = a'.sessionId
  generation : restarted.authentication.reconnectGeneration = a'.reconnectGeneration
  answer : validAnswer restarted.answer = true
  authentication : (Protobuf.encodeFields restarted.authentication.fields).length ≤ 1000

theorem restartActive_spec (pending : PendingSession) (now : UInt64)
    (c : RemoteSessionCoordinator) :
    wp (restartActive crypto env pending now) (fun r c' =>
      (r.isOk = false ∧ Goes c c') ∨ ∃ restarted a a', r = .ok restarted ∧ c.active = some a ∧
        c'.active = some a' ∧ Restarts a a' ∧ RestartedAs restarted a' ∧
        ∃ authentication verified,
          Admits crypto env now c.verifier c'.verifier authentication verified ∧
          binding (.reconnect restarted.authentication) = binding (.offer authentication)) c := by
  have hsame : Goes c c := Std.Refl.refl c
  unfold restartActive
  rw [wp_bind, wp_orThrow]
  refine ⟨fun authentication _ => ?_, fun _ => .inl ⟨rfl, hsame⟩⟩
  rw [andThen_ok, wp_bind, wp_orThrow]
  refine ⟨fun description _ => ?_, fun _ => .inl ⟨rfl, hsame⟩⟩
  rw [andThen_ok, wp_bind]
  refine wp_mono (wp_and (verifyRemoteOffer_admits authentication description now c)
    (verifyRemoteOffer_sized authentication description now c)) ?_
  rintro (error | verified) _ ⟨⟨verifier, rfl, hadmits⟩, hsized⟩
  · exact .inl ⟨rfl, .of_active rfl⟩
  have hoffer := hsized verified rfl
  rw [andThen_ok, wp_get_bind, wp_bind, wp_orThrow]
  refine ⟨fun a ha => ?_, fun _ => .inl ⟨rfl, .of_active rfl⟩⟩
  rw [andThen_ok, wp_bind, wp_require]
  refine ⟨fun _ => ?_, fun _ => .inl ⟨rfl, .of_active rfl⟩⟩
  rw [andThen_ok, wp_bind, wp_require]
  refine ⟨fun hroom => ?_, fun _ => .inl ⟨rfl, .of_active rfl⟩⟩
  rw [andThen_ok, wp_bind, wp_onActive]
  refine ⟨fun hnone => ?_, fun b hb => ?_⟩
  · exact absurd (ha.symm.trans hnone) (by simp)
  obtain rfl : a = b := some.inj (ha.symm.trans hb)
  have hgoes : ∀ {b : ActiveSession}, Holds a b →
      Goes c { c with verifier, active := some b } :=
    fun hholds => .inr ⟨a, _, ha, rfl, hholds⟩
  refine wp_mono (acceptReconnectOffer_holds _ description.sdp a) ?_
  rintro (error | answer) a₁ ⟨hholds₁, hanswer⟩
  · exact .inl ⟨rfl, hgoes hholds₁⟩
  have hvalid := hanswer answer rfl
  rw [andThen_ok, wp_bind, wp_ofResult]
  cases hsigned : signRemoteReconnect crypto env authentication answer.sdp
      answer.dtlsFingerprintSha256 (a.reconnectGeneration + 1) with
  | error error => exact .inl ⟨rfl, hgoes hholds₁⟩
  | ok reconnect => ?_
  obtain ⟨hlength, hgeneration, hbinding⟩ := length_signRemoteReconnect_le hsigned hoffer
    (length_validAnswer hvalid).2
  rw [Except.mapError, andThen_ok, wp_bind, wp_onActive]
  refine ⟨nofun, ?_⟩
  rintro _ ⟨⟩
  refine wp_mono (addCandidates_holds pending.candidates a₁) ?_
  rintro (error | _) a₂ hholds₂
  · exact .inl ⟨rfl, hgoes (Trans.trans hholds₁ hholds₂)⟩
  have hholds : Holds a a₂ := Trans.trans hholds₁ hholds₂
  rw [andThen_ok, wp_bind, wp_onActive]
  refine ⟨nofun, ?_⟩
  rintro _ ⟨⟩
  rw [wp_modify, andThen_ok, wp_pure]
  have hnext : (a₂.reconnectGeneration + 1).toNat = a.reconnectGeneration.toNat + 1 := by
    rw [hholds.generation, UInt32.toNat_add]
    exact Nat.mod_eq_of_lt hroom
  refine .inr ⟨_, a, _, rfl, ha, rfl, ⟨hholds.same, hnext, hholds.inputAllowed, fun hb => ?_⟩,
    ⟨hholds.same.2.symm, hholds.same.1.symm, ?_, hvalid, hlength⟩, authentication, verified,
    hadmits verified rfl, hbinding⟩
  · have hb₂ := hholds.buffered hb
    exact ⟨hb₂.controller, hb₂.messages⟩
  · rw [hgeneration, hholds.generation]

/-! ## Responses -/

/-- The message of the Host that answers an offer. -/
def authentication? (sent : RemoteSessionOutbound) : Option SessionAuthentication :=
  match sent.envelope.payload with
  | some (.sessionAuthentication authentication) => authentication
  | _ => none

/-- The messages of an operation that answer offers. -/
def authentications (sent : List RemoteSessionOutbound) : List SessionAuthentication :=
  sent.filterMap authentication?

/-- The generation of a message that answers a renegotiation. -/
def generation? : SessionAuthentication → Option Nat
  | .reconnect reconnect => some reconnect.reconnectGeneration.toNat
  | _ => none

/-- What is sent by an operation with a result. -/
def sent : Output → List RemoteSessionOutbound
  | .ok outbound => outbound
  | .error _ => []

variable (recipientDeviceId : Bytes) (requestId : String)

theorem outbound_payload (payload : SignalingPayload) (c : RemoteSessionCoordinator) :
    wp (outbound recipientDeviceId requestId now payload) (fun r c' => c' = c ∧
      ∀ sent, r = .ok sent → sent.envelope.payload = some payload) c := by
  unfold outbound
  simp only [wp_bind, wp_get, andThen_ok, wp_require, wp_pure, andThen_error]
  refine ⟨fun _ => ⟨trivial, ?_⟩, fun _ => ⟨trivial, (by intros; contradiction)⟩⟩
  rintro _ ⟨⟩
  rfl

/-- An error can always be sent. -/
theorem errorOutbound_fits {recipientDeviceId : Bytes} {requestId : String} (code : ErrorCode)
    (hc : Coherent c) (hrecipient : recipientDeviceId.length = deviceIdBytes)
    (hrequest : (utf8 requestId).length ≤ maxRequestIdUtf8Bytes) :
    wp (errorOutbound recipientDeviceId requestId code now) (fun r c' => c' = c ∧
      ∃ sent, r = .ok sent ∧ authentication? sent = none) c := by
  have hkey : (utf8 (messageKey code)).length ≤ 100 := by
    rw [length_utf8]
    cases code <;> decide
  have hlength : (Protobuf.encodeFields (SignalingPayload.error
      { code
        messageKey := messageKey code
        retryable := code = .deviceBusy ∨ code = .serverUnavailable
        requestId }).fields).length ≤ 200000 := by
    refine le_trans (length_encode_error_le _) ?_
    simp only [maxRequestIdUtf8Bytes] at hrequest
    dsimp only
    omega
  refine wp_mono (wp_and (outbound_fits hc hrecipient hrequest hlength now)
    (outbound_payload recipientDeviceId requestId _ c)) ?_
  rintro (error | sent) _ ⟨⟨hok, hsame⟩, _, hpayload⟩
  · cases hok
  · refine ⟨hsame, sent, rfl, ?_⟩
    rw [authentication?, hpayload sent rfl]

/-- The response to a renegotiation can always be sent. -/
theorem reconnectOutbound_fits {restarted : RestartedSession} {requestId : String}
    {a : ActiveSession} (hc : Coherent c) (ha : c.active = some a)
    (hcontroller : a.controllerDeviceId.length = deviceIdBytes)
    (hrestarted : RestartedAs restarted a)
    (hrequest : (utf8 requestId).length ≤ maxRequestIdUtf8Bytes) :
    wp (reconnectOutbound restarted requestId now) (fun r c' => c' = c ∧
      ∃ outbound, r = .ok outbound ∧
        authentications outbound = [.reconnect restarted.authentication]) c := by
  have hrecipient : restarted.controllerDeviceId.length = deviceIdBytes := by
    rw [hrestarted.controller, hcontroller]
  have hauthentication : (Protobuf.encodeFields (SignalingPayload.sessionAuthentication
      (some (.reconnect restarted.authentication))).fields).length ≤ 200000 := by
    have hinner := Protobuf.length_messageField_le 3 restarted.authentication.fields
    have houter := Protobuf.length_messageField_le 12
      (SessionAuthentication.reconnect restarted.authentication).fields
    have hreconnect := hrestarted.authentication
    simp only [SignalingPayload.fields, map_some, getD_some,
      SessionAuthentication.fields] at *
    omega
  obtain ⟨hsdp, hfingerprint⟩ := length_validAnswer hrestarted.answer
  have hdescription : (Protobuf.encodeFields (SignalingPayload.webrtcNegotiation
      { sessionId := restarted.sessionId
        payload := some (.description
          { type := sessionDescriptionTypeAnswer
            sdp := restarted.answer.sdp
            dtlsFingerprintSha256 := restarted.answer.dtlsFingerprintSha256 }) }).fields).length ≤
      200000 := by
    refine le_trans length_encode_description_le ?_
    have hsession := hc.sized a ha
    rw [← hrestarted.sessionId] at hsession
    simp only [maximumSdpBytes, nonceOrHashBytes, sessionIdBytes] at *
    omega
  unfold reconnectOutbound
  rw [wp_bind]
  refine wp_mono (wp_and (outbound_fits hc hrecipient hrequest hauthentication now)
    (outbound_payload _ _ _ c)) ?_
  rintro (error | authentication) _ ⟨⟨hok, rfl⟩, _, hpayload⟩
  · cases hok
  rw [andThen_ok, wp_bind]
  refine wp_mono (wp_and (outbound_fits hc hrecipient hrequest hdescription now)
    (outbound_payload _ _ _ _)) ?_
  rintro (error | description) _ ⟨⟨hok, rfl⟩, _, hpayload'⟩
  · cases hok
  refine ⟨rfl, _, rfl, ?_⟩
  simp [authentications, authentication?, hpayload authentication rfl, hpayload' description rfl]

/-! ## What an operation does to the session -/

/-- A session that has just been started for an offer.  It has the permissions of the
offer, and an answer to the offer is sent for it. -/
structure Begun (crypto : Crypto) (env : Environment) (now : UInt64) (v v' : OfferVerifier)
    (a : ActiveSession) (messages : List SessionAuthentication) : Prop where
  generation : a.reconnectGeneration = 0
  buffered : Buffered a
  verified : ∃ authentication verified, Admits crypto env now v v' authentication verified ∧
    a.controllerDeviceId = verified.controller.deviceId ∧ a.sessionId = verified.sessionId ∧
    (a.session.inputAllowed = true ↔ .controlInput ∈ verified.permissions) ∧
    ∃ answer, messages = [.answer answer] ∧
      binding (.answer answer) = binding (.offer authentication)

/-- The response to a renegotiation carries the generation of the session, and it answers
an offer that has just been verified. -/
structure Responds (crypto : Crypto) (env : Environment) (now : UInt64) (v v' : OfferVerifier)
    (a : ActiveSession) (reconnect : SessionReconnectAuthentication) : Prop where
  generation : reconnect.reconnectGeneration = a.reconnectGeneration
  verified : ∃ authentication verified, Admits crypto env now v v' authentication verified ∧
    binding (.reconnect reconnect) = binding (.offer authentication)

/-- What one operation does to the active session, and what it sends for it. -/
inductive SessionStep (crypto : Crypto) (env : Environment) (now : UInt64)
    (c c' : RemoteSessionCoordinator) (sent : List RemoteSessionOutbound) : Prop
  /-- There is no session afterwards. -/
  | ends (active : c'.active = none) (silent : authentications sent = [])
  /-- A session has been started. -/
  | starts (a' : ActiveSession) (before : c.active = none) (after : c'.active = some a')
      (begun : Begun crypto env now c.verifier c'.verifier a' (authentications sent))
  /-- The session goes on with its generation. -/
  | goes (goes : Goes c c') (silent : authentications sent = [])
  /-- The session has been negotiated again, and this is what its controller is told. -/
  | restarts (a a' : ActiveSession) (reconnect : SessionReconnectAuthentication)
      (before : c.active = some a) (after : c'.active = some a') (restarts : Restarts a a')
      (emits : authentications sent = [.reconnect reconnect])
      (responds : Responds crypto env now c.verifier c'.verifier a' reconnect)

/-- The messages that are kept for a renegotiation name the active session. -/
def Buffers (c : RemoteSessionCoordinator) : Prop := ∀ a, c.active = some a → Buffered a

theorem Goes.buffers (h : Goes c c') (hb : Buffers c) : Buffers c' := by
  intro b hb'
  rcases h with ⟨_, hnone⟩ | ⟨a, a', ha, ha', hholds⟩
  · rw [hnone] at hb'
    cases hb'
  · rw [ha'] at hb'
    cases hb'
    exact hholds.buffered (hb a ha)

theorem SessionStep.buffers {sent : List RemoteSessionOutbound}
    (h : SessionStep crypto env now c c' sent)
    (hb : Buffers c) : Buffers c' := by
  cases h with
  | ends hnone _ =>
    intro b hb'
    rw [hnone] at hb'
    cases hb'
  | starts a' _ ha' hbegun =>
    intro b hb'
    rw [ha'] at hb'
    cases hb'
    exact hbegun.buffered
  | goes hgoes _ => exact hgoes.buffers hb
  | restarts a a' _ ha ha' hrestarts _ _ =>
    intro b hb'
    rw [ha'] at hb'
    cases hb'
    exact hrestarts.buffered (hb a ha)

/-- Something has happened before that leaves the session alone. -/
theorem SessionStep.after_goes {sent : List RemoteSessionOutbound} (h : Goes c c')
    (hverifier : c'.verifier = c.verifier) (hactive : c.active.isSome)
    (h' : SessionStep crypto env now c' c'' sent) : SessionStep crypto env now c c'' sent := by
  cases h' with
  | ends hnone hsilent => exact .ends hnone hsilent
  | starts a' hnone ha' hbegun =>
    rcases h with ⟨hbefore, _⟩ | ⟨_, b, _, hb, _⟩
    · rw [hbefore] at hactive
      cases hactive
    · rw [hnone] at hb
      cases hb
  | goes hgoes hsilent => exact .goes (Trans.trans h hgoes) hsilent
  | restarts a a' reconnect ha ha' hrestarts hemits hresponds =>
    rw [hverifier] at hresponds
    rcases h with ⟨_, hnone⟩ | ⟨b, b', hb, hb', hholds⟩
    · rw [hnone] at ha
      cases ha
    · obtain rfl : b' = a := some.inj (hb'.symm.trans ha)
      refine .restarts b a' reconnect hb ha' ⟨Trans.trans hholds.same hrestarts.same, ?_, ?_, ?_⟩
        hemits hresponds
      · rw [hrestarts.generation, hholds.generation]
      · exact hrestarts.inputAllowed.trans hholds.inputAllowed
      · exact fun hbuffered => hrestarts.buffered (hholds.buffered hbuffered)

/-- A renegotiation always has a result that can be sent: the next generation, or an
error after which the generation is the same. -/
theorem tryRestartActive_spec (hc : Coherent c) (hb : Buffers c) :
    wp (tryRestartActive crypto env now)
      (fun r c' => r.isOk ∧ SessionStep crypto env now c c' (sent r)) c := by
  have hidle : SessionStep crypto env now c c [] := .goes (Std.Refl.refl c) rfl
  unfold tryRestartActive
  rw [wp_get_bind]
  cases hactive : c.active with
  | none => exact ⟨rfl, hidle⟩
  | some a => ?_
  cases hbuffer : a.reconnect with
  | none =>
    simp only [bind_some, hbuffer]
    exact ⟨rfl, hidle⟩
  | some pending => ?_
  obtain ⟨hcontroller, _, hrequest⟩ := (hb a hactive).messages pending hbuffer
  have hlength := (hb a hactive).controller
  simp only [bind_some, hbuffer, wp_ite, wp_pure]
  refine ⟨fun _ => ?_, fun _ => ⟨rfl, hidle⟩⟩
  have hholds : Holds a { a with reconnect := none } :=
    ⟨⟨rfl, rfl⟩, rfl, rfl,
      fun hbuffered => ⟨hbuffered.controller, by intros; contradiction⟩⟩
  have hgoes : Goes c { c with active := some { a with reconnect := none } } :=
    .inr ⟨a, _, hactive, rfl, hholds⟩
  have hstays₁ : Stays c { c with active := some { a with reconnect := none } } :=
    ⟨rfl, rfl, rfl, rfl, rfl, .inr ⟨a, _, hactive, rfl, rfl, rfl⟩⟩
  have hc₁ := hstays₁.coherent hc
  rw [wp_bind, wp_onActive]
  refine ⟨fun hnone => absurd (hactive.symm.trans hnone) (by simp), fun b hb' => ?_⟩
  obtain rfl : a = b := some.inj (hactive.symm.trans hb')
  rw [wp_modify, andThen_ok, wp_bind, wp_outcome]
  refine wp_mono (wp_and (restartActive_spec pending now _) (restartActive_stays pending now _)) ?_
  rintro r c₂ ⟨hspec, hstays⟩
  have hc₂ := hstays.coherent hc₁
  rw [andThen_ok]
  rcases hspec with ⟨hfailed, hgoes₂⟩ |
    ⟨restarted, b, a', rfl, hb₁, ha', hrestarts, hrestarted, hverified⟩
  · cases r with
    | ok restarted => cases hfailed
    | error error =>
      rw [wp_bind]
      refine wp_mono (errorOutbound_fits _ hc₂ (by rw [hcontroller, hlength]) hrequest) ?_
      rintro _ _ ⟨rfl, message, rfl, hsilent⟩
      rw [andThen_ok, wp_pure]
      refine ⟨rfl, .goes (Trans.trans hgoes hgoes₂) ?_⟩
      simp [sent, authentications, hsilent]
  · cases hb₁
    have hcontroller' : a'.controllerDeviceId.length = deviceIdBytes := by
      rw [hrestarts.same.2]
      exact hlength
    refine wp_mono (reconnectOutbound_fits hc₂ ha' hcontroller' hrestarted hrequest) ?_
    rintro _ _ ⟨rfl, outbound, rfl, hemits⟩
    refine ⟨rfl, .after_goes hgoes rfl (by rw [hactive]; rfl) ?_⟩
    exact .restarts _ a' _ rfl ha' hrestarts hemits ⟨hrestarted.generation, hverified⟩

/-- The messages for a renegotiation are taken out, changed and put back. -/
theorem prepareReconnect_bind {requestId : String}
    {m : PendingSession → CoordinatorM α} {Q : Except RemoteSessionError α →
      RemoteSessionCoordinator → Prop}
    (hrequest : (utf8 requestId).length ≤ maxRequestIdUtf8Bytes)
    (hnone : c.active = none → Q (.error .peer) c)
    (hm : ∀ c' a pending, Continues c c' → c'.active = some a → a.reconnect = some pending →
      wp (m pending) Q c') :
    wp (onActive .peer (prepareReconnect requestId now) >>= m) Q c := by
  rw [wp_bind, wp_onActive]
  refine ⟨hnone, fun a ha => ?_⟩
  refine wp_mono (prepareReconnect_spec now hrequest a) ?_
  rintro _ a' ⟨hholds, pending, rfl, hpending⟩
  rw [andThen_ok]
  exact hm _ a' pending (.of_holds ha hholds) rfl hpending

theorem setReconnect_continues {a : ActiveSession} {pending : PendingSession}
    (pending' : PendingSession) (ha : c.active = some a) (hpending : a.reconnect = some pending)
    (hcontroller : pending'.controllerDeviceId = pending.controllerDeviceId)
    (hsession : pending'.sessionId = pending.sessionId)
    (hrequest : pending'.requestId = pending.requestId) :
    wp (onActive .peer (setReconnect pending')) (fun r c' => r = .ok () ∧ Continues c c') c := by
  rw [wp_onActive]
  refine ⟨fun hnone => absurd (ha.symm.trans hnone) (by simp), fun b hb => ?_⟩
  obtain rfl : a = b := some.inj (ha.symm.trans hb)
  exact ⟨rfl, .of_holds ha (.setReconnect hpending hcontroller hsession hrequest)⟩

theorem pushCandidate_names {pending pending' : PendingSession} {candidate : PeerIceCandidate}
    (h : pending.pushCandidate candidate = .ok pending') :
    pending'.controllerDeviceId = pending.controllerDeviceId ∧
      pending'.sessionId = pending.sessionId ∧ pending'.requestId = pending.requestId := by
  unfold PendingSession.pushCandidate at h
  dsimp only at h
  split at h
  · cases h
  · cases h
    exact ⟨rfl, rfl, rfl⟩

theorem handleActiveNegotiation_continues {requestId : String} (negotiation : WebRtcNegotiation)
    (now : UInt64) (hrequest : (utf8 requestId).length ≤ maxRequestIdUtf8Bytes) :
    Keeps Continues (handleActiveNegotiation env negotiation requestId now) := by
  refine .bind .get fun c => .bind .orThrow fun a => .bind .require fun _ =>
    .bind .orThrow fun payload => ?_
  cases payload with
  | iceCandidate candidate =>
    refine .ite (onActive_continues (addRemoteIceCandidate_holds _ _)) fun c => ?_
    refine prepareReconnect_bind hrequest (fun _ => Std.Refl.refl c) ?_
    intro c₁ a pending hcontinues ha hpending
    rw [wp_bind, wp_ofResult]
    cases hpush : pending.pushCandidate (peerIceCandidate candidate) with
    | error error => exact hcontinues
    | ok pending' =>
      obtain ⟨hcontroller, hsession, hid⟩ := pushCandidate_names hpush
      rw [andThen_ok]
      refine wp_mono (setReconnect_continues _ ha hpending hcontroller hsession hid) ?_
      rintro _ c₂ ⟨_, hcontinues₂⟩
      exact Trans.trans hcontinues hcontinues₂
  | description description =>
    refine .bind .require fun _ => .bind (beginActiveReconnect_continues now) fun _ c => ?_
    refine prepareReconnect_bind hrequest (fun _ => Std.Refl.refl c) ?_
    intro c₁ a pending hcontinues ha hpending
    rw [wp_bind]
    refine wp_mono (setReconnect_continues { pending with description := some description } ha
      hpending rfl rfl rfl) ?_
    rintro _ c₂ ⟨rfl, hcontinues₂⟩
    rw [andThen_ok, wp_require]
    exact ⟨fun _ => Trans.trans hcontinues hcontinues₂, fun _ => Trans.trans hcontinues hcontinues₂⟩
  | endOfCandidates => exact .pure _

/-- A renegotiation after something that leaves the session alone. -/
theorem tryRestartActive_after (hactive : c.active.isSome) (h : Continues c c') (hc : Coherent c)
    (hb : Buffers c) :
    wp (tryRestartActive crypto env now)
      (fun r c'' => SessionStep crypto env now c c'' (sent r)) c' :=
  wp_mono (tryRestartActive_spec (h.stays.coherent hc) (h.goes.buffers hb))
    fun _ _ hstep => .after_goes h.goes h.verifier hactive hstep.2

theorem handleActiveReconnectEnvelope_step
    (hvalid : validateEnvelopeFields envelope = .ok ()) (hactive : c.active.isSome)
    (hc : Coherent c) (hb : Buffers c) :
    wp (handleActiveReconnectEnvelope crypto env envelope now)
      (fun r c' => SessionStep crypto env now c c' (sent r)) c := by
  obtain ⟨-, -, hrequest⟩ := validateEnvelopeFields_eq_ok.mp hvalid
  have hsame : SessionStep crypto env now c c [] := .goes (Std.Refl.refl c) rfl
  unfold handleActiveReconnectEnvelope
  rw [wp_bind, wp_orThrow]
  refine ⟨fun payload _ => ?_, fun _ => hsame⟩
  rw [andThen_ok]
  split
  · next offer _ =>
      rw [wp_bind]
      refine wp_mono (beginActiveReconnect_continues now c) ?_
      rintro (error | _) c₁ hbegin
      · exact .goes hbegin.goes rfl
      rw [andThen_ok]
      refine prepareReconnect_bind hrequest (fun _ => .goes hbegin.goes rfl) ?_
      intro c₂ a pending hprepare ha hpending
      have hprepared : Continues c c₂ := Trans.trans hbegin hprepare
      rw [wp_bind, wp_require]
      refine ⟨fun _ => ?_, fun _ => .goes hprepared.goes rfl⟩
      rw [andThen_ok, wp_bind]
      refine wp_mono (setReconnect_continues { pending with authentication := some offer } ha
        hpending rfl rfl rfl) ?_
      rintro _ c₃ ⟨rfl, hset⟩
      have hcontinues : Continues c c₃ := Trans.trans hprepared hset
      rw [andThen_ok, wp_bind, wp_require]
      refine ⟨fun _ => ?_, fun _ => .goes hcontinues.goes rfl⟩
      exact tryRestartActive_after hactive hcontinues hc hb
  · rw [wp_bind]
    refine wp_mono (handleActiveNegotiation_continues _ now hrequest c) ?_
    rintro (error | _) c₁ hcontinues
    · exact .goes hcontinues.goes rfl
    · exact tryRestartActive_after hactive hcontinues hc hb
  · exact hsame

/-! ### Starting and ending -/

/-- The end of the session with a result that answers no renegotiation. -/
theorem closeActive_bind_step {finalError : Option ErrorCode}
    {m : CoordinatorM (List RemoteSessionOutbound)} (hc : Coherent c)
    (hm : ∀ c, wp m (fun r c' => c' = c ∧ authentications (sent r) = []) c) :
    wp (closeActive env finalError >>= fun _ => m)
      (fun r c' => SessionStep crypto env now c c' (sent r)) c := by
  rw [wp_bind]
  refine wp_mono (closeActive_idles finalError hc) ?_
  rintro (error | _) c' hidles
  · exact .ends hidles.active rfl
  · rw [andThen_ok]
    refine wp_mono (hm c') ?_
    rintro r _ ⟨rfl, hsilent⟩
    exact .ends hidles.active hsilent

theorem handleActiveEnvelope_step
    (hvalid : validateEnvelopeFields envelope = .ok ()) (hactive : c.active.isSome)
    (hc : Coherent c) (hb : Buffers c) :
    wp (handleActiveEnvelope crypto env envelope now)
      (fun r c' => SessionStep crypto env now c c' (sent r)) c := by
  have hsame : SessionStep crypto env now c c [] := .goes (Std.Refl.refl c) rfl
  unfold handleActiveEnvelope
  split
  · exact handleActiveReconnectEnvelope_step hvalid hactive hc hb
  · exact handleActiveReconnectEnvelope_step hvalid hactive hc hb
  · simp only [wp_bind, wp_require, andThen_ok, andThen_error, wp_get, wp_orThrow]
    refine ⟨fun _ => ⟨fun a _ => ⟨fun _ => ?_, fun _ => hsame⟩, fun _ => hsame⟩, fun _ => hsame⟩
    rw [← wp_bind]
    exact closeActive_bind_step hc fun _ => ⟨rfl, rfl⟩
  · exact hsame

/-- A session of a verified offer before any renegotiation. -/
structure First (verified : VerifiedSessionOffer) (a : ActiveSession) : Prop where
  generation : a.reconnectGeneration = 0
  reconnect : a.reconnect = none
  controller : a.controllerDeviceId = verified.controller.deviceId
  sessionId : a.sessionId = verified.sessionId
  inputAllowed : a.session.inputAllowed = true ↔ .controlInput ∈ verified.permissions

/-- A session has been started for a verified offer, with an answer to it. -/
structure Activates (authentication : SessionOfferAuthentication)
    (verified : VerifiedSessionOffer) (started : StartedSession) (v : OfferVerifier)
    (c' : RemoteSessionCoordinator) : Prop where
  active : ∃ a, c'.active = some a ∧ First verified a
  verifier : c'.verifier = v
  answer : binding (.answer started.answerAuthentication) = binding (.offer authentication)

/-- Nothing has become of a session that was being started. -/
structure Abandons (c c' : RemoteSessionCoordinator) : Prop where
  active : c'.active = c.active
  verifier : c'.verifier = c.verifier

instance : IsPreorder RemoteSessionCoordinator Abandons where
  refl _ := ⟨rfl, rfl⟩
  trans _ _ _ h h' := ⟨h'.active.trans h.active, h'.verifier.trans h.verifier⟩

theorem abandon_abandons (session : HostPeerSession) (error : RemoteSessionError)
    (c : RemoteSessionCoordinator) :
    wp (abandon session error : CoordinatorM α) (fun r c' => r.isOk = false ∧ Abandons c c') c :=
  ⟨rfl, rfl, rfl⟩

theorem unregisterAndAbandon_abandons (sessionId : Bytes) (session : HostPeerSession)
    (error : RemoteSessionError) (c : RemoteSessionCoordinator) :
    wp (unregisterAndAbandon sessionId session error : CoordinatorM α)
      (fun r c' => r.isOk = false ∧ Abandons c c') c :=
  ⟨rfl, rfl, rfl⟩

theorem activateVerifiedSession_first (authentication : SessionOfferAuthentication)
    (description : WebRtcSessionDescription) (candidates : List PeerIceCandidate)
    (verified : VerifiedSessionOffer) (c : RemoteSessionCoordinator) :
    wp (activateVerifiedSession crypto env authentication description candidates verified)
      (fun r c' => (r.isOk = false ∧ Abandons c c') ∨
        ∃ started, r = .ok started ∧ Activates authentication verified started c.verifier c')
      c := by
  have hsame : Abandons c c := Std.Refl.refl c
  unfold activateVerifiedSession
  rw [wp_bind, wp_ofResult]
  cases env.parts with
  | error error => exact .inl ⟨rfl, hsame⟩
  | ok parts => ?_
  rw [andThen_ok, wp_bind, wp_ofResult]
  cases hnew : HostPeerSession.new verified.sessionId verified.permissions
      { negotiate := parts.negotiate, acknowledge := parts.acknowledge, calls := [] }
      { respond := parts.respond, calls := [] } with
  | error error => exact .inl ⟨rfl, hsame⟩
  | ok session => ?_
  rw [Except.mapError, andThen_ok]
  obtain ⟨-, -, -, hallowed⟩ := new_inputAllowed hnew
  have hoffer := acceptOffer_spec description.sdp session
  unfold wp at hoffer
  rcases hresult : acceptOffer description.sdp session with
    ⟨error | answer, offered⟩
  all_goals rw [hresult] at hoffer
  · exact .inl (abandon_abandons _ _ c)
  dsimp only
  split
  · exact .inl (abandon_abandons _ _ c)
  next answerAuthentication hsigned =>
  rw [wp_get_bind]
  split
  · exact .inl (abandon_abandons _ _ c)
  next sessions _ =>
  have habandon : ∀ (session : HostPeerSession) (error : RemoteSessionError),
      wp (unregisterAndAbandon verified.sessionId session error)
        (fun (r : Except RemoteSessionError StartedSession) c' =>
          (r.isOk = false ∧ Abandons c c') ∨
            ∃ started, r = .ok started ∧ Activates authentication verified started c.verifier c')
        { c with sessions } :=
    fun session error => wp_mono (unregisterAndAbandon_abandons _ session error _)
      fun _ _ h => .inl ⟨h.1, h.2.active, h.2.verifier⟩
  rw [wp_modify_bind, wp_ite]
  refine ⟨fun _ => ?_, fun _ => habandon _ _⟩
  have hadded := addPendingCandidates_spec candidates offered
  unfold wp at hadded
  rcases hresult' : addPendingCandidates candidates offered with ⟨error | _, added⟩
  all_goals rw [hresult'] at hadded
  · exact habandon _ _
  dsimp only
  rw [wp_ite]
  refine ⟨fun _ => ?_, fun _ => habandon _ _⟩
  rw [wp_modify_bind, wp_pure]
  have hkept : added.inputAllowed = session.inputAllowed :=
    hadded.1.inputAllowed.trans hoffer.1.inputAllowed
  refine .inr ⟨_, rfl, ⟨_, rfl, rfl, rfl, rfl, rfl, ?_⟩, rfl, ?_⟩
  · dsimp only
    rw [hkept]
    exact hallowed
  · simp only [signRemoteAnswer, bind_eq_ok, okOr_eq_ok] at hsigned
    obtain ⟨_, -, signature, -, hanswer⟩ := hsigned
    cases hanswer
    rfl

/-- A start leaves no session, and then it answers no offer, or it leaves one of the first
generation and answers the offer for it. -/
structure Started (crypto : Crypto) (env : Environment) (now : UInt64)
    (c c' : RemoteSessionCoordinator) (messages : List SessionAuthentication) : Prop where
  idle : c'.active = none → messages = []
  begun : ∀ a, c'.active = some a → Begun crypto env now c.verifier c'.verifier a messages

/-- A start that returns no error. -/
theorem startPending_started {pending : PendingSession}
    (hcontroller : pending.controllerDeviceId.length = deviceIdBytes) :
    wp (startPending crypto env pending now) (fun r c' =>
      r.isOk = true → Started crypto env now c c' (authentications (sent r))) c := by
  have hrefused : ∀ (error : RemoteSessionError) (c' : RemoteSessionCoordinator),
      Except.isOk (.error error : Output) = true →
        Started crypto env now c c' (authentications (sent (.error error))) :=
    fun _ _ hok => absurd hok Bool.false_ne_true
  unfold startPending updateRemoteStatus
  simp only [wp_bind, wp_orThrow, andThen_ok, andThen_error, wp_require]
  refine ⟨fun authentication _ => ⟨fun description _ => ⟨fun _ => ?_, fun _ => hrefused _ c⟩,
    fun _ => hrefused _ c⟩, fun _ => hrefused _ c⟩
  refine wp_mono (verifyRemoteOffer_admits authentication description now c) ?_
  rintro (error | verified) _ ⟨verifier, rfl, hadmits⟩
  · exact hrefused _ _
  simp only [andThen_ok, andThen_error, wp_bind, wp_require]
  refine ⟨fun hids => ?_, fun _ => hrefused _ _⟩
  refine wp_mono (activateVerifiedSession_first authentication description pending.candidates
    verified _) ?_
  rintro r c₂ (⟨hfailed, -⟩ | ⟨started, rfl, hactivates⟩)
  · cases r with
    | ok started => cases hfailed
    | error error => exact hrefused _ _
  obtain ⟨a, ha, hfirst⟩ := hactivates.active
  rw [andThen_ok, wp_bind]
  refine wp_mono (outbound_payload _ _ _ c₂) ?_
  rintro (error | first) _ ⟨rfl, hfirstPayload⟩
  · exact hrefused _ _
  rw [andThen_ok, wp_bind]
  refine wp_mono (outbound_payload _ _ _ _) ?_
  rintro (error | second) _ ⟨rfl, hsecondPayload⟩
  · exact hrefused _ _
  rw [andThen_ok, wp_pure]
  refine fun _ => ⟨fun hnone => absurd (ha.symm.trans hnone) (by simp), fun b hb => ?_⟩
  obtain rfl : a = b := some.inj (ha.symm.trans hb)
  rw [hactivates.verifier]
  refine ⟨hfirst.generation, ⟨?_, ?_⟩, authentication, verified, hadmits verified rfl,
    hfirst.controller, hfirst.sessionId, hfirst.inputAllowed, _, ?_, hactivates.answer⟩
  · rw [hfirst.controller, hids.1, hcontroller]
  · rw [hfirst.reconnect]
    intros
    contradiction
  · simp [sent, authentications, authentication?, hfirstPayload first rfl,
      hsecondPayload second rfl]

/-- There was no session, and there is none or one that has just been started. -/
theorem SessionStep.of_started {sent : List RemoteSessionOutbound} (hnone : c.active = none)
    (hstarted : Started crypto env now c c' (authentications sent)) :
    SessionStep crypto env now c c' sent := by
  cases ha : c'.active with
  | none => exact .ends ha (hstarted.idle ha)
  | some a => exact .starts a hnone ha (hstarted.begun a ha)

variable (code : ErrorCode)

theorem errorOutbound_silent (c : RemoteSessionCoordinator) :
    wp (errorOutbound recipientDeviceId requestId code now) (fun r c' => c' = c ∧
      ∀ message, r = .ok message → authentication? message = none) c := by
  refine wp_mono (outbound_payload _ _ _ c) ?_
  rintro r _ ⟨rfl, hpayload⟩
  refine ⟨rfl, fun message hr => ?_⟩
  rw [authentication?, hpayload message hr]

theorem errorOutbound_bind (c : RemoteSessionCoordinator) :
    wp (do
      let error ← errorOutbound recipientDeviceId requestId code now
      return [error]) (fun r c' => c' = c ∧ authentications (sent r) = []) c := by
  rw [wp_bind]
  refine wp_mono (errorOutbound_silent recipientDeviceId requestId code c) ?_
  rintro (error | message) _ ⟨rfl, hsilent⟩
  · exact ⟨rfl, rfl⟩
  · rw [andThen_ok, wp_pure]
    refine ⟨rfl, ?_⟩
    simp [sent, authentications, hsilent message rfl]

/-- A start that returns an error leaves no session, and the error answers no offer. -/
theorem tryStartPending_step {sessionId : Bytes} {pending : PendingSession} (hc : Coherent c)
    (hnone : c.active = none) (hnames : Names pending envelope sessionId)
    (hvalid : validateEnvelopeFields envelope = .ok ())
    (hother : NotFailed c envelope.senderDeviceId sessionId) :
    wp (tryStartPending crypto env now) (fun r c' => SessionStep crypto env now c c' (sent r))
      { c with pending := some pending } := by
  obtain ⟨hsender, -, hrequest⟩ := validateEnvelopeFields_eq_ok.mp hvalid
  have hcontroller : pending.controllerDeviceId.length = deviceIdBytes := by
    rw [hnames.controller, hsender]
  unfold tryStartPending
  rw [wp_get_bind]
  dsimp only
  rw [wp_ite]
  refine ⟨fun _ => ?_, fun _ => .ends hnone rfl⟩
  rw [wp_modify_bind, wp_bind, wp_outcome]
  refine wp_mono (wp_and (startPending_started hcontroller) (startPending_spec now
    (hc.setPending hnone none) hnone rfl hcontroller (by rw [hnames.request]; exact hrequest)
    (by rw [hnames.controller, hnames.sessionId]; exact hother))) ?_
  rintro (error | outbound) c' ⟨hstarted, ⟨hfailed, hidle, -⟩ | ⟨hok, -⟩⟩
  · rw [andThen_ok, wp_modify_bind]
    refine wp_mono (errorOutbound_bind _ _ _ _) ?_
    rintro r _ ⟨rfl, hsilent⟩
    exact .ends hidle.active hsilent
  · cases hok
  · cases hfailed
  · rw [andThen_ok, wp_pure]
    exact .of_started hnone ⟨(hstarted rfl).idle, (hstarted rfl).begun⟩

theorem handlePendingEnvelope_step
    (hvalid : validateEnvelopeFields envelope = .ok ()) (hc : Coherent c)
    (hnone : c.active = none) (hmatches : ¬ c.matchesFailedAttempt envelope = true) :
    wp (handlePendingEnvelope crypto env envelope now)
      (fun r c' => SessionStep crypto env now c c' (sent r)) c := by
  have hsame : SessionStep crypto env now c c [] := .ends hnone rfl
  unfold handlePendingEnvelope
  rw [wp_bind, wp_orThrow]
  refine ⟨fun payload hpayload => ?_, fun _ => hsame⟩
  rw [andThen_ok]
  split
  · rw [wp_bind, wp_require]
    refine ⟨fun _ => ?_, fun _ => hsame⟩
    rw [andThen_ok, wp_modify_bind, wp_pure]
    exact .ends hnone rfl
  · rw [wp_bind, wp_orThrow]
    refine ⟨fun sessionId hsession => ?_, fun _ => hsame⟩
    rw [andThen_ok, wp_bind]
    refine wp_mono (preparePending_spec envelope sessionId now c) ?_
    rintro _ _ (⟨rfl, rfl⟩ | ⟨pending, rfl, hnames, rfl⟩)
    · rw [andThen_ok]
      refine wp_mono (errorOutbound_bind _ _ _ _) ?_
      rintro r _ ⟨rfl, hsilent⟩
      exact .ends hnone hsilent
    · rw [andThen_ok, wp_bind]
      refine wp_mono (collectPending_spec hnames _ c) ?_
      rintro (error | _) _ ⟨pending', hnames', rfl⟩
      · exact .ends hnone rfl
      · exact tryStartPending_step hc hnone hnames' hvalid
          (notFailed_of_matches hpayload hsession hmatches)

theorem dispatchRouted_step
    (hvalid : validateEnvelopeFields envelope = .ok ()) (hc : Coherent c) (hb : Buffers c) :
    wp (dispatchRouted crypto env envelope now)
      (fun r c' => SessionStep crypto env now c c' (sent r)) c := by
  unfold dispatchRouted
  rw [wp_get_bind, wp_ite]
  refine ⟨fun _ => .goes (Std.Refl.refl c) rfl, fun hmatches => ?_⟩
  split
  · next hnone => exact handlePendingEnvelope_step hvalid hc hnone hmatches
  · next a ha =>
      rw [wp_ite]
      refine ⟨fun _ => handleActiveEnvelope_step hvalid (by rw [ha]; rfl) hc hb, fun _ => ?_⟩
      refine wp_mono (errorOutbound_bind _ _ _ _) ?_
      rintro r _ ⟨rfl, hsilent⟩
      exact .goes (Std.Refl.refl _) hsilent

/-- Nothing but the age of a pending session and of a failed attempt has been looked at. -/
theorem SessionStep.of_freshened {sent : List RemoteSessionOutbound}
    (h : SessionStep crypto env now (c.freshened now) c' sent) :
    SessionStep crypto env now c c' sent := by
  cases h with
  | ends hnone hsilent => exact .ends hnone hsilent
  | starts a' hnone ha' hbegun => exact .starts a' hnone ha' hbegun
  | goes hgoes hsilent => exact .goes hgoes hsilent
  | restarts a a' reconnect ha ha' hrestarts hemits hresponds =>
    exact .restarts a a' reconnect ha ha' hrestarts hemits hresponds

/-- An expiry ends the session, or it leaves everything as it is. -/
theorem expireActiveReconnect_bind {m : Bool → CoordinatorM α}
    {Q : Except RemoteSessionError α → RemoteSessionCoordinator → Prop} (hc : Coherent c)
    (hearly : wp (m false) Q c)
    (hfailed : ∀ error c', c'.active = none → Q (.error error) c')
    (hdue : ∀ c', Coherent c' → c.active.isSome → c'.active = none → c'.pending = c.pending →
      wp (m true) Q c') :
    wp (expireActiveReconnect env now >>= m) Q c := by
  rw [wp_bind]
  by_cases hexpired : Expired now c
  · obtain ⟨a, deadline, ha, hdeadline, hle⟩ := hexpired
    unfold expireActiveReconnect
    rw [wp_get_bind, wp_bind, wp_onlyIf]
    have hany : (c.reconnectDeadlineUnixMs.any fun deadline => deadline ≤ now) = true := by
      rw [reconnectDeadlineUnixMs, ha, bind_some, hdeadline]
      simpa using hle
    refine ⟨fun _ => ?_, fun h => absurd hany h⟩
    refine wp_mono (closeActive_idles _ hc) ?_
    rintro (error | _) c' hidles
    · exact hfailed error c' hidles.active
    · rw [andThen_ok, wp_pure, hany, andThen_ok]
      exact hdue c' hidles.coherent (by rw [ha]; rfl) hidles.active hidles.pending
  · unfold wp
    rw [expireActiveReconnect_early hexpired, andThen_ok]
    exact hearly

theorem handleRouted_step (senderDeviceId : Bytes) (decoded : Option SignalingEnvelope)
    (hc : Coherent c) (hb : Buffers c) :
    wp (handleRouted crypto env senderDeviceId decoded now)
      (fun r c' => SessionStep crypto env now c c' (sent r)) c := by
  have hsame : SessionStep crypto env now c c [] := .goes (Std.Refl.refl c) rfl
  by_cases hopen : c.closed = false
  · by_cases haddressed : ∃ envelope, Addressed c senderDeviceId decoded envelope
    · obtain ⟨envelope, henvelope⟩ := haddressed
      refine handleRouted_addressed hopen henvelope ?_
      have hfresh : Coherent (c.freshened now) := (expirePending_forgets now hc).2.coherent
      rw [← wp_bind]
      refine expireActiveReconnect_bind hfresh ?_ (fun _ _ hnone => .ends hnone rfl) ?_
      · refine wp_mono (dispatchRouted_step henvelope.valid hfresh hb) ?_
        exact fun _ _ h => h.of_freshened
      · intro c' hc' hactive hnone hpending
        have hnothing : c'.pending = none := hpending.trans (hfresh.pending hactive)
        unfold dispatchRouted
        rw [wp_get_bind, wp_ite]
        refine ⟨fun _ => .ends hnone rfl, fun hmatches => ?_⟩
        split
        · refine wp_mono (wp_and (handlePendingEnvelope_first hnothing)
            (handlePendingEnvelope_step henvelope.valid hc' hnone hmatches)) ?_
          rintro r _ ⟨⟨_, pending, rfl⟩, hstep⟩
          cases hstep with
          | ends hnone' hsilent => exact .ends hnone' hsilent
          | starts a' _ ha' _ => exact absurd (hnone.symm.trans ha') (by simp)
          | goes _ hsilent => exact .ends hnone hsilent
          | restarts a a' _ ha _ _ _ _ => exact absurd (hnone.symm.trans ha) (by simp)
        · next a ha => exact absurd (hnone.symm.trans ha) (by simp)
    · unfold wp
      rw [handleRouted_refused hopen fun envelope h => haddressed ⟨envelope, h⟩]
      exact hsame
  · unfold handleRouted
    rw [wp_get_bind, wp_bind, wp_require]
    exact ⟨fun h => absurd h hopen, fun _ => hsame⟩

/-! ### Everything else -/

/-- The session goes on, and no renegotiation is answered. -/
def Silent (m : CoordinatorM (List RemoteSessionOutbound)) : Prop :=
  ∀ c, wp m (fun r c' => Continues c c' ∧ authentications (sent r) = []) c

variable {m : CoordinatorM α}

theorem Silent.bind {f : α → CoordinatorM (List RemoteSessionOutbound)} (hm : Keeps Continues m)
    (hf : ∀ x, Silent (f x)) : Silent (m >>= f) := by
  intro c
  rw [wp_bind]
  refine wp_mono (hm c) ?_
  rintro (error | x) c' hcontinues
  · exact ⟨hcontinues, rfl⟩
  · rw [andThen_ok]
    refine wp_mono (hf x c') ?_
    rintro r c'' ⟨hcontinues', hsilent⟩
    exact ⟨Trans.trans hcontinues hcontinues', hsilent⟩

theorem silent_nil : Silent (pure []) := fun c => ⟨Std.Refl.refl c, rfl⟩

theorem Silent.step {m : CoordinatorM (List RemoteSessionOutbound)} (h : Silent m) :
    wp m (fun r c' => SessionStep crypto env now c c' (sent r)) c :=
  wp_mono (h c) fun _ _ hc => .goes hc.1.goes hc.2

theorem closeActiveWithRemoteNotification_step (finalError : Option ErrorCode) (hc : Coherent c) :
    wp (closeActiveWithRemoteNotification env now finalError)
      (fun r c' => SessionStep crypto env now c c' (sent r)) c := by
  unfold closeActiveWithRemoteNotification
  rw [wp_get_bind]
  split
  · exact .goes (Std.Refl.refl c) rfl
  · rw [wp_bind]
    refine wp_mono (outbound_payload _ _ _ c) ?_
    rintro (error | message) _ ⟨rfl, hpayload⟩
    · exact .goes (Std.Refl.refl _) rfl
    · rw [andThen_ok]
      refine closeActive_bind_step hc fun _ => ?_
      rw [wp_pure]
      refine ⟨rfl, ?_⟩
      simp [sent, authentications, authentication?, hpayload message rfl]

theorem handleInput_step {handle : SessionM α} {finish : CoordinatorM Unit}
    (hhandle : ∀ s, wp handle (fun _ s' => s'.inputAllowed = s.inputAllowed) s)
    (hfinish : ∀ {c}, Coherent c → wp finish (fun _ c' => c'.active = none ∨ c' = c) c)
    (hc : Coherent c) :
    wp (handleInput env handle finish) (fun r c' => SessionStep crypto env now c c' (sent r))
      c := by
  unfold handleInput
  rw [wp_get_bind, wp_ite]
  refine ⟨fun _ => .goes (Std.Refl.refl c) rfl, fun _ => ?_⟩
  rw [wp_bind]
  refine wp_mono (onActive_continues (.outcome (onSession_holds hhandle)) c) ?_
  rintro (error | result) c' ⟨hgoes, hstays, _⟩
  · exact .goes hgoes rfl
  have hc' := hstays.coherent hc
  rw [andThen_ok]
  cases result with
  | ok _ =>
    rw [wp_bind]
    refine wp_mono (hfinish hc') ?_
    rintro (error | _) c'' (hnone | rfl)
    · exact .ends hnone rfl
    · exact .goes hgoes rfl
    · exact .ends hnone rfl
    · exact .goes hgoes rfl
  | error error =>
    rw [wp_bind]
    refine wp_mono (closeActive_idles _ hc') ?_
    rintro (error | _) c'' hidles
    · exact .ends hidles.active rfl
    · exact .ends hidles.active rfl

theorem closeEnded_ends (hc : Coherent c) :
    wp (closeEnded env) (fun _ c' => c'.active = none ∨ c' = c) c := by
  unfold closeEnded
  rw [wp_get_bind, wp_onlyIf]
  refine ⟨fun _ => ?_, fun _ => .inr rfl⟩
  exact wp_mono (closeActive_idles _ hc) fun _ _ h => .inl h.active

theorem markConnected_continues : Keeps Continues
    (onActive .peer (onSession (fun _ => .peer) markConnected)) := by
  refine onActive_continues (onSession_holds fun s => ?_)
  refine wp_mono (markConnected_spec s) ?_
  rintro r s' (⟨_, rfl⟩ | ⟨_, rfl⟩)
  · rfl
  · rfl

theorem handlePeerEvent_step (event : RemotePeerEvent) (hc : Coherent c) :
    wp (handlePeerEvent env event now) (fun r c' => SessionStep crypto env now c c' (sent r))
      c := by
  unfold handlePeerEvent
  rw [wp_get_bind, wp_bind, wp_require]
  refine ⟨fun _ => ?_, fun _ => .goes (Std.Refl.refl c) rfl⟩
  rw [andThen_ok]
  refine expireActiveReconnect_bind hc ?_ (fun _ _ hnone => .ends hnone rfl)
    fun _ _ _ hnone _ => .ends hnone rfl
  simp only [Bool.false_eq_true, if_false]
  cases event with
  | connected =>
    refine Silent.step (.bind markConnected_continues fun _ =>
      .bind (onActive_continues ?_) fun _ =>
      .bind .require fun _ => silent_nil)
    exact .modify fun a => ⟨⟨rfl, rfl⟩, rfl, rfl, fun hb => ⟨hb.controller, nofun⟩⟩
  | localIceCandidate candidate =>
    refine Silent.step (.bind .get fun _ => .bind .orThrow fun a => fun c => ?_)
    rw [wp_bind]
    refine wp_mono (outbound_payload _ _ _ c) ?_
    rintro (error | message) _ ⟨rfl, hpayload⟩
    · exact ⟨Std.Refl.refl _, rfl⟩
    · rw [andThen_ok, wp_pure]
      refine ⟨Std.Refl.refl _, ?_⟩
      simp [sent, authentications, authentication?, hpayload message rfl]
  | reliableInput decoded =>
    refine handleInput_step (fun s => ?_) (fun h => closeEnded_ends h) hc
    exact wp_mono (handleReliable_spec decoded s) fun _ _ h => h.1.inputAllowed
  | fastPointer decoded =>
    refine handleInput_step (fun s => ?_) (fun _ => .inr rfl) hc
    exact wp_mono (handlePointerFast_spec decoded s) fun _ _ h => h.1.inputAllowed
  | disconnected =>
    exact Silent.step (.bind (beginActiveReconnect_continues now) fun _ => silent_nil)
  | failed => exact Silent.step (.bind (beginActiveReconnect_continues now) fun _ => silent_nil)
  | localStop => exact closeActiveWithRemoteNotification_step none hc

theorem receivePeerEvent_step (received : Received) (hc : Coherent c) :
    wp (receivePeerEvent env received now)
      (fun r c' => SessionStep crypto env now c c' (sent r)) c := by
  have hsame : SessionStep crypto env now c c [] := .goes (Std.Refl.refl c) rfl
  unfold receivePeerEvent
  rw [wp_get_bind]
  split
  · exact hsame
  · exact hsame
  · exact handlePeerEvent_step _ hc
  · exact closeActive_bind_step hc fun _ => ⟨rfl, rfl⟩

theorem handleTermination_step (event : SessionTerminatedEvent) (hc : Coherent c) :
    wp (handleTermination env event now)
      (fun r c' => SessionStep crypto env now c c' (sent r)) c := by
  unfold handleTermination
  rw [wp_get_bind, wp_ite]
  exact ⟨fun _ => closeActiveWithRemoteNotification_step _ hc, fun _ => .goes (Std.Refl.refl c) rfl⟩

/-- An operation without a result ends the session or lets it go on. -/
theorem silently_step (h : wp m (fun _ c' => c'.active = none ∨ Goes c c') c) :
    wp (silently m) (fun r c' => SessionStep crypto env now c c' (sent r)) c := by
  unfold silently
  rw [wp_bind]
  refine wp_mono h ?_
  rintro (error | _) c' (hnone | hgoes)
  · exact .ends hnone rfl
  · exact .goes hgoes rfl
  · exact .ends hnone rfl
  · exact .goes hgoes rfl

theorem signalingLost_ends (hc : Coherent c) :
    wp (signalingLost env now) (fun _ c' => c'.active = none ∨ Goes c c') c := by
  unfold signalingLost
  rw [wp_modify_bind, wp_get_bind]
  have hdropped : Goes c { c with pending := none } := .of_active rfl
  split
  · exact .inr hdropped
  · rw [wp_bind, wp_outcome]
    refine wp_mono (beginActiveReconnect_continues now _) ?_
    rintro r c' ⟨hgoes, hstays, _⟩
    rw [andThen_ok]
    cases r with
    | ok _ => exact .inr (Trans.trans hdropped hgoes)
    | error error =>
      have hcleared : Coherent { c with pending := none } :=
        ⟨hc.host, hc.sized, hc.registered, fun _ => rfl, hc.failed, hc.retired⟩
      rw [wp_bind]
      refine wp_mono (closeActive_idles _ (hstays.coherent hcleared)) ?_
      rintro (error | _) c'' hidles
      · exact .inl hidles.active
      · exact .inl hidles.active

theorem shutdown_ends (hc : Coherent c) : wp (shutdown env) (fun _ c' => c'.active = none) c := by
  have hcleared : Coherent { c with pending := none, failedAttempt := none } := by
    refine ⟨hc.host, hc.sized, hc.registered, fun _ => rfl, fun _ _ _ h => ?_, hc.retired⟩
    cases h
  unfold shutdown
  rw [wp_modify_bind, wp_bind]
  refine wp_mono (closeActive_idles none hcleared) ?_
  rintro (error | _) c' hidles
  · exact hidles.active
  · exact hidles.active

/-- Every operation ends the session, starts one, leaves its generation as it is or
answers one renegotiation with the next generation. -/
theorem perform_step (input : Input) (hc : Coherent c) (hb : Buffers c) :
    wp (perform crypto input)
      (fun r c' => SessionStep crypto input.env input.action.time c c' (sent r)) c := by
  obtain ⟨env, action⟩ := input
  cases action with
  | routed senderDeviceId decoded now => exact handleRouted_step senderDeviceId decoded hc hb
  | peerEvent event now => exact handlePeerEvent_step event hc
  | tick now =>
    exact expireActiveReconnect_bind hc (.goes (Std.Refl.refl c) rfl)
      (fun _ _ hnone => .ends hnone rfl) fun _ _ _ hnone _ => .ends hnone rfl
  | receive received now => exact receivePeerEvent_step received hc
  | termination event now => exact handleTermination_step event hc
  | signalingLost now => exact silently_step (signalingLost_ends hc)
  | privilegedRouteChanged now =>
    refine silently_step ?_
    unfold RemoteSessionCoordinator.privilegedRouteChanged
    rw [wp_get_bind, wp_onlyIf]
    exact ⟨fun _ => wp_mono (beginActiveReconnect_continues _ c) fun _ _ h => .inr h.goes,
      fun _ => .inr (Std.Refl.refl c)⟩
  | shutdown => exact silently_step (wp_mono (shutdown_ends hc) fun _ _ h => .inl h)

/-! ## Whole runs -/

theorem serviceMachine_buffers (input : ServiceInput) (hc : Coherent c) (hb : Buffers c) :
    Buffers ((serviceMachine crypto).step c input).1 := by
  cases input with
  | coordinator input => exact (perform_step input hc hb).buffers hb
  | terminateController controllerDeviceId => exact hb
  | terminateAll reason => exact hb

theorem run_buffers (crypto : Crypto) {hostDeviceId : Bytes}
    (hnew : withConfig hostDeviceId = .ok c)
    (inputs : List ServiceInput) : Buffers ((serviceMachine crypto).run c inputs) := by
  have hinitial : Buffers c := by
    intro a ha
    unfold withConfig at hnew
    obtain ⟨verifier, _, hc⟩ := bind_eq_ok.mp hnew
    cases hc
    cases ha
  have hstep : ∀ c input, Coherent c ∧ Buffers c → True →
      Coherent ((serviceMachine crypto).step c input).1 ∧
        Buffers ((serviceMachine crypto).step c input).1 :=
    fun c input h _ => ⟨(serviceMachine_settles crypto input h.1).coherent,
      serviceMachine_buffers input h.1 h.2⟩
  exact (Machine.run_invariant (fun c => Coherent c ∧ Buffers c) hstep
    ⟨withConfig_coherent hnew, hinitial⟩ (Machine.guarded_true c inputs)).2

end RemoteSessionCoordinator

end Host

end Roammand
