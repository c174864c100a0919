import Roammand.Host.ReconnectGenerations

/-!
# Envelopes that are refused

The coordinator looks at an envelope piece by piece, and it writes what it has
seen before it has seen everything.  An envelope that it refuses in the end should
leave the pending session and the active one as they were.

It does unless it carries a message that is not expected: a second offer or a
second description, a description that is not an offer, or an offer for another
session than the active one.

Main results:

- Definition `Expected`: which messages the coordinator waits for.
- Theorem `envelope_error_atomicity`: a refused envelope with an expected message leaves
  nothing behind but what has expired.
- Theorem `refused_offer_kept`: any other one may.
-/

namespace Roammand

namespace Host

namespace RemoteSessionCoordinator

open Library Protocol Fallible ActiveSession OfferVerifier RemoteSessionError

variable {c c' : RemoteSessionCoordinator} {crypto : Crypto} {env : Environment} {now : UInt64}
  {envelope : SignalingEnvelope}

/-! ## What is expected -/

/-- The messages that have been collected have room for one more. -/
def Fits (buffer : Option PendingSession) : SignalingPayload → Prop
  | .sessionAuthentication (some (.offer _)) =>
    ∀ pending, buffer = some pending → pending.authentication = none
  | .webrtcNegotiation negotiation =>
    match negotiation.payload with
    | none => False
    | some (.description description) => description.type = sessionDescriptionTypeOffer ∧
        ∀ pending, buffer = some pending → pending.description = none
    | some _ => True
  | _ => True

/-- No other session is pending. -/
def Admissible (c : RemoteSessionCoordinator) (controllerDeviceId sessionId : Bytes) : Prop :=
  ∀ pending, c.pending = some pending →
    pending.controllerDeviceId = controllerDeviceId ∧ pending.sessionId = sessionId

/-- The message is about the active session, and it is not a second one of its kind. -/
def FitsActive (a : ActiveSession) : SignalingPayload → Prop
  | .sessionAuthentication (some (.offer offer)) =>
    offer.controllerDeviceId = a.controllerDeviceId ∧ offer.sessionId = a.sessionId ∧
      ∀ pending, a.reconnect = some pending → pending.authentication = none
  | .webrtcNegotiation negotiation =>
    ∀ description, negotiation.sessionId = a.sessionId →
      negotiation.payload = some (.description description) →
      description.type = sessionDescriptionTypeOffer →
      ∀ pending, a.reconnect = some pending → pending.description = none
  | _ => True

/-- The coordinator waits for the message in the envelope. -/
def Expected (c : RemoteSessionCoordinator) (envelope : SignalingEnvelope) : Prop :=
  ∀ payload, envelope.payload = some payload →
    match c.active with
    | none => ∀ sessionId, payloadSessionId payload = some sessionId →
        c.Admissible envelope.senderDeviceId sessionId → Fits c.pending payload
    | some a => a.controllerDeviceId = envelope.senderDeviceId → FitsActive a payload

/-- The pending session and the active one are as they were. -/
structure Untouched (c c' : RemoteSessionCoordinator) : Prop where
  pending : c'.pending = c.pending
  active : c'.active = c.active

/-- An operation that refuses an envelope leaves the sessions untouched. -/
def Atomic (c : RemoteSessionCoordinator) (r : Output) (c' : RemoteSessionCoordinator) : Prop :=
  r = .error .invalidEnvelope → Untouched c c'

theorem atomic_same (r : Output) : Atomic c r c := fun _ => ⟨rfl, rfl⟩

variable {r : Output}

theorem Atomic.of_ne (h : r ≠ .error .invalidEnvelope) : Atomic c r c' :=
  fun hr => absurd hr h

theorem Atomic.of_isOk (h : r.isOk) : Atomic c r c' := by
  rintro rfl
  cases h

/-! ## What does not refuse an envelope -/

theorem mapPeerError_ne (error : HostWebRtcError) : mapPeerError error ≠ .invalidEnvelope := by
  cases error <;> decide

variable {a : ActiveSession} {α : Type}

theorem onSession_avoids {f : HostWebRtcError → RemoteSessionError} {m : SessionM α}
    (h : ∀ error, f error ≠ .invalidEnvelope) :
    Avoids invalidEnvelope (onSession f m) :=
  .zoom (.mapError h)

variable {pending : PendingSession} {e : RemoteSessionError}

variable {m : ActiveM α}

theorem onActive_avoids (he : e ≠ .invalidEnvelope) (hm : Avoids invalidEnvelope m) :
    Avoids invalidEnvelope (onActive e m) := by
  intro c
  rw [wp_onActive]
  exact ⟨fun _ heq => he (Except.error.inj heq), fun a _ => hm a⟩

theorem beginActiveReconnect_avoids (now : UInt64) :
    Avoids invalidEnvelope (beginActiveReconnect env now) :=
  .bind (onActive_avoids nofun (onSession_avoids mapPeerError_ne)) fun _ =>
    .bind (onActive_avoids nofun (.modify _)) fun _ => .require nofun

theorem closeActive_avoids (finalError : Option ErrorCode) :
    Avoids invalidEnvelope (closeActive env finalError) := by
  refine .bind .get fun c => ?_
  split
  · exact .onlyIf (.require nofun)
  · exact .bind (.modify _) fun _ => .bind (.ofResult (mapError_ne_error mapPeerError_ne)) fun _ =>
      .bind (.ofResult (mapError_ne_error nofun)) fun _ => .require nofun

theorem expireActiveReconnect_avoids (now : UInt64) :
    Avoids invalidEnvelope (expireActiveReconnect env now) :=
  .bind .get fun _ => .bind (.onlyIf (closeActive_avoids _)) fun _ => .pure _

/-! ## Without an active session -/

theorem errorOutbound_isOk {recipientDeviceId : Bytes} {requestId : String} (code : ErrorCode)
    (hc : Coherent c) (hrecipient : recipientDeviceId.length = deviceIdBytes)
    (hrequest : (utf8 requestId).length ≤ maxRequestIdUtf8Bytes) :
    wp (do
      let error ← errorOutbound recipientDeviceId requestId code now
      return [error]) (fun r _ => r.isOk) c := by
  rw [wp_bind]
  refine wp_mono (errorOutbound_fits code hc hrecipient hrequest) ?_
  rintro _ _ ⟨rfl, message, rfl, _⟩
  rfl

/-- A start that fails is reported to the controller. -/
theorem tryStartPending_isOk {sessionId : Bytes} (hc : Coherent c)
    (hnone : c.active = none) (hnames : Names pending envelope sessionId)
    (hvalid : validateEnvelopeFields envelope = .ok ())
    (hother : NotFailed c envelope.senderDeviceId sessionId) :
    wp (tryStartPending crypto env now) (fun r _ => r.isOk) { c with pending := some pending } := by
  obtain ⟨hsender, -, hrequest⟩ := validateEnvelopeFields_eq_ok.mp hvalid
  have hcontroller : pending.controllerDeviceId.length = deviceIdBytes := by
    rw [hnames.controller, hsender]
  have hid : (utf8 pending.requestId).length ≤ maxRequestIdUtf8Bytes := by
    rw [hnames.request]
    exact hrequest
  unfold tryStartPending
  rw [wp_get_bind]
  dsimp only
  rw [wp_ite]
  refine ⟨fun _ => ?_, fun _ => rfl⟩
  rw [wp_modify_bind, wp_bind, wp_outcome]
  refine wp_mono (startPending_spec now (hc.setPending hnone none) hnone rfl hcontroller hid
    (by rw [hnames.controller, hnames.sessionId]; exact hother)) ?_
  rintro (error | outbound) c' (⟨hfailed, hidle, -⟩ | ⟨hok, -, -⟩)
  · rw [andThen_ok, wp_modify_bind]
    refine errorOutbound_isOk _ ?_ hcontroller hid
    exact .of_none hidle.coherent.host hidle.active (hidle.coherent.unregistered hidle.active)
      hidle.coherent.retired
  · cases hok
  · cases hfailed
  · rfl

/-- There is as much room in a buffer that holds nothing new. -/
theorem Fits.mono {buffer : Option PendingSession} {pending : PendingSession}
    {payload : SignalingPayload} (h : Fits buffer payload)
    (hoffer : (∀ p, buffer = some p → p.authentication = none) → pending.authentication = none)
    (hdescription : (∀ p, buffer = some p → p.description = none) → pending.description = none) :
    Fits (some pending) payload := by
  unfold Fits at *
  split at h
  · rintro _ ⟨⟩
    exact hoffer h
  · split at h
    · cases h
    · refine ⟨h.1, ?_⟩
      rintro _ ⟨⟩
      exact hdescription h.2
    · trivial
  · trivial

/-- The pending session for a message, and what it was before. -/
theorem preparePending_found (envelope : SignalingEnvelope) (sessionId : Bytes) (now : UInt64)
    (c : RemoteSessionCoordinator) :
    wp (preparePending envelope.senderDeviceId sessionId envelope.requestId now) (fun r _ =>
      ∀ pending, r = .ok (some pending) → c.Admissible envelope.senderDeviceId sessionId ∧
        ∀ payload, Fits c.pending payload → Fits (some pending) payload) c := by
  unfold preparePending
  rw [wp_get_bind]
  split
  · next hnone =>
      rw [wp_modify_bind, wp_pure]
      rintro _ ⟨⟩
      refine ⟨fun pending hpending => ?_, fun payload hfits => ?_⟩
      · rw [hnone] at hpending
        cases hpending
      · exact hfits.mono (fun _ => rfl) fun _ => rfl
  · next pending hpending =>
      rw [wp_ite]
      refine ⟨fun hsame => ?_, fun _ => nofun⟩
      rw [wp_modify_bind, wp_pure]
      rintro _ ⟨⟩
      refine ⟨fun found hfound => ?_, fun payload hfits => ?_⟩
      · rw [hpending] at hfound
        cases hfound
        exact hsame
      · exact hfits.mono (fun h => h pending hpending) fun h => h pending hpending

/-- A message that fits is not refused. -/
theorem collectPending_avoids {payload : SignalingPayload}
    {sessionId : Bytes} (hsession : payloadSessionId payload = some sessionId)
    (hfits : Fits (some pending) payload) :
    Avoids invalidEnvelope (collectPending pending payload) := by
  intro c
  unfold collectPending
  split
  · simp only [setPending, wp_bind, wp_modify, andThen_ok, wp_require]
    exact ⟨fun _ => by rintro ⟨⟩, fun h => absurd (hfits pending rfl) h⟩
  · next negotiation =>
      rw [wp_bind, wp_orThrow]
      unfold Fits at hfits
      refine ⟨fun payload hpayload => ?_, fun hnone => ?_⟩
      · dsimp only at hfits
        rw [hpayload] at hfits
        rw [andThen_ok]
        split
        · dsimp only at hfits
          simp only [setPending, wp_bind, wp_modify, andThen_ok, wp_require, andThen_error]
          refine ⟨fun _ => ⟨fun _ => by rintro ⟨⟩,
            fun h => absurd (hfits.2 pending rfl) h⟩, fun h => ?_⟩
          exact absurd hfits.1 h
        · refine Avoids.bind (.ofResult ?_) (fun _ => .modify _) c
          unfold PendingSession.pushCandidate
          dsimp only
          split
          · rintro ⟨⟩
          · rintro ⟨⟩
        · exact fun h => by cases h
      · dsimp only at hfits
        rw [hnone] at hfits
        exact hfits.elim
  · next hoffer hnegotiation =>
      unfold payloadSessionId at hsession
      split at hsession
      · exact absurd rfl (hoffer _)
      · exact absurd rfl (hnegotiation _)
      · cases hsession

theorem handlePendingEnvelope_atomic (hc : Coherent c) (hnone : c.active = none)
    (hvalid : validateEnvelopeFields envelope = .ok ())
    (hmatches : ¬ c.matchesFailedAttempt envelope = true) (hexpected : Expected c envelope) :
    wp (handlePendingEnvelope crypto env envelope now) (fun r c' => Atomic c r c') c := by
  obtain ⟨hsender, -, hrequest⟩ := validateEnvelopeFields_eq_ok.mp hvalid
  unfold handlePendingEnvelope
  rw [wp_bind, wp_orThrow]
  refine ⟨fun payload hpayload => ?_, fun _ => atomic_same _⟩
  have hfits := hexpected payload hpayload
  rw [hnone] at hfits
  dsimp only at hfits
  rw [andThen_ok]
  split
  · rw [wp_bind, wp_require]
    refine ⟨fun _ => ?_, fun _ => atomic_same _⟩
    rw [andThen_ok, wp_modify_bind, wp_pure]
    exact .of_isOk rfl
  · rw [wp_bind, wp_orThrow]
    refine ⟨fun sessionId hsession => ?_, fun _ => atomic_same _⟩
    have hother := notFailed_of_matches hpayload hsession hmatches
    rw [andThen_ok, wp_bind]
    refine wp_mono (wp_and (preparePending_spec envelope sessionId now c)
      (preparePending_found envelope sessionId now c)) ?_
    rintro _ _ ⟨⟨rfl, rfl⟩ | ⟨pending, rfl, hnames, rfl⟩, hfound⟩
    · rw [andThen_ok]
      exact wp_mono (errorOutbound_isOk _ hc hsender hrequest) fun _ _ h => .of_isOk h
    · obtain ⟨hadmissible, hroom⟩ := hfound pending rfl
      have hpending := hroom _ (hfits sessionId hsession hadmissible)
      rw [andThen_ok, wp_bind]
      refine wp_mono (wp_and (collectPending_spec hnames _ c)
        (collectPending_avoids hsession hpending _)) ?_
      rintro (error | _) _ ⟨⟨pending', hnames', rfl⟩, hne⟩
      · exact .of_ne fun heq => hne (congrArg Except.error (Except.error.inj heq))
      · rw [andThen_ok]
        exact wp_mono (tryStartPending_isOk hc hnone hnames' hvalid hother) fun _ _ h => .of_isOk h

/-! ## With an active session -/

/-- The session goes on, with the messages that have been collected for it. -/
structure Collects (a a' : ActiveSession) : Prop where
  same : SameSession a a'
  reconnect : a'.reconnect = a.reconnect

instance : IsPreorder ActiveSession Collects where
  refl _ := ⟨Std.Refl.refl _, rfl⟩
  trans _ _ _ h h' := ⟨Trans.trans h.same h'.same, h'.reconnect.trans h.reconnect⟩

theorem onActive_collects {a : ActiveSession} (hm : Keeps Collects m) :
    Keeps (Carried fun c => ∃ a', c.active = some a' ∧ Collects a a') (onActive e m) := by
  refine .of_carried fun c hc => ?_
  obtain ⟨b, hb, hcollects⟩ := hc
  rw [wp_onActive]
  refine ⟨fun _ => ⟨b, hb, hcollects⟩, fun b' hb' => ?_⟩
  obtain rfl : b = b' := Option.some.inj (hb.symm.trans hb')
  exact wp_mono (hm b) fun _ b' h => ⟨b', rfl, Trans.trans hcollects h⟩

theorem beginActiveReconnect_collects (now : UInt64) {a : ActiveSession} :
    Keeps (Carried fun c => ∃ a', c.active = some a' ∧ Collects a a')
      (beginActiveReconnect env now) :=
  .bind (onActive_collects fun _ => ⟨⟨rfl, rfl⟩, rfl⟩) fun _ =>
    .bind (onActive_collects (.modify fun _ => ⟨⟨rfl, rfl⟩, rfl⟩)) fun _ => .require

/-- The messages for a renegotiation hold nothing that was not there before. -/
theorem prepareReconnect_collected {requestId : String} (now : UInt64) (a : ActiveSession) :
    wp (prepareReconnect requestId now) (fun r a' => ∃ pending, r = .ok pending ∧
      a'.reconnect = some pending ∧
      ((∀ p, a.reconnect = some p → p.authentication = none) → pending.authentication = none) ∧
      ((∀ p, a.reconnect = some p → p.description = none) → pending.description = none)) a := by
  unfold prepareReconnect
  rw [wp_get_bind, wp_modify_bind, wp_pure]
  refine ⟨_, rfl, rfl, ?_⟩
  cases hbuffer : a.reconnect with
  | none => exact ⟨fun _ => rfl, fun _ => rfl⟩
  | some pending => exact ⟨fun h => h pending rfl, fun h => h pending rfl⟩

/-- Preparing a renegotiation of the active session refuses nothing. -/
theorem prepare_bind {a : ActiveSession} {requestId : String}
    {m : PendingSession → CoordinatorM α} {Q : Except RemoteSessionError α →
      RemoteSessionCoordinator → Prop} (ha : c.active = some a)
    (hrequest : (utf8 requestId).length ≤ maxRequestIdUtf8Bytes) (hb : Buffered a)
    (herror : ∀ error c', error ≠ .invalidEnvelope → Q (.error error) c')
    (hm : ∀ c' a' pending, Continues c c' → c'.active = some a' → a'.reconnect = some pending →
      pending.controllerDeviceId = a.controllerDeviceId → pending.sessionId = a.sessionId →
      ((∀ p, a.reconnect = some p → p.authentication = none) → pending.authentication = none) →
      ((∀ p, a.reconnect = some p → p.description = none) → pending.description = none) →
      wp (m pending) Q c') :
    wp (do
      beginActiveReconnect env now
      let pending ← onActive .peer (prepareReconnect requestId now)
      m pending) Q c := by
  have hcollects : wp (beginActiveReconnect env now)
      (fun _ c' => ∃ a', c'.active = some a' ∧ Collects a a') c :=
    beginActiveReconnect_collects now c ⟨a, ha, Std.Refl.refl a⟩
  rw [wp_bind]
  refine wp_mono (wp_and (beginActiveReconnect_continues now c)
    (wp_and (beginActiveReconnect_avoids now c) hcollects)) ?_
  rintro (error | _) c₁ ⟨hcontinues, havoids, a₁, ha₁, hcollects⟩
  · exact herror error c₁ fun heq => havoids (congrArg Except.error heq)
  rw [andThen_ok, wp_bind, wp_onActive]
  refine ⟨fun hnone => absurd (ha₁.symm.trans hnone) (by simp), fun b hb₁ => ?_⟩
  obtain rfl : a₁ = b := Option.some.inj (ha₁.symm.trans hb₁)
  refine wp_mono (wp_and (prepareReconnect_spec now hrequest a₁)
    (prepareReconnect_collected now a₁)) ?_
  rintro _ a₂ ⟨⟨hholds, _⟩, pending, rfl, hpending, hoffer, hdescription⟩
  rw [hcollects.reconnect] at hoffer hdescription
  rw [andThen_ok]
  have hprepared : Continues c₁ { c₁ with active := some a₂ } := .of_holds ha₁ hholds
  have hsame : SameSession a a₂ := Trans.trans hcollects.same hholds.same
  have hbuffered : Buffered a₂ := by
    refine (Trans.trans hcontinues hprepared : Continues c _).goes.buffers ?_ a₂ rfl
    intro b hb₂
    obtain rfl : a = b := Option.some.inj (ha.symm.trans hb₂)
    exact hb
  obtain ⟨hcontroller, hsession, _⟩ := hbuffered.messages pending hpending
  refine hm _ a₂ pending (Trans.trans hcontinues hprepared) rfl hpending ?_ ?_ hoffer hdescription
  · rw [hcontroller, hsame.2]
  · rw [hsession, hsame.1]

theorem handleActiveNegotiation_atomic {negotiation : WebRtcNegotiation}
    {requestId : String} (ha : c.active = some a)
    (hrequest : (utf8 requestId).length ≤ maxRequestIdUtf8Bytes) (hb : Buffers c)
    (hfits : FitsActive a (.webrtcNegotiation negotiation)) :
    wp (handleActiveNegotiation env negotiation requestId now) (fun r c' =>
      r = .error .invalidEnvelope → Untouched c c') c := by
  have hsame : Untouched c c := ⟨rfl, rfl⟩
  unfold handleActiveNegotiation
  rw [wp_get_bind, wp_bind, wp_orThrow]
  refine ⟨fun b hb' => ?_, fun _ _ => hsame⟩
  obtain rfl : a = b := Option.some.inj (ha.symm.trans hb')
  rw [andThen_ok, wp_bind, wp_require]
  refine ⟨fun hsession => ?_, fun _ _ => hsame⟩
  rw [andThen_ok, wp_bind, wp_orThrow]
  refine ⟨fun payload hpayload => ?_, fun _ _ => hsame⟩
  rw [andThen_ok]
  cases payload with
  | iceCandidate candidate =>
    have hpush : ∀ pending : PendingSession,
        pending.pushCandidate (peerIceCandidate candidate) ≠ .error .invalidEnvelope := by
      intro pending
      unfold PendingSession.pushCandidate
      dsimp only
      split
      · exact nofun
      · exact nofun
    rw [wp_ite]
    refine ⟨fun _ => ?_, fun _ => ?_⟩
    · have havoids : Avoids invalidEnvelope (onActive .peer (onSession
          (fun _ => .peer) (HostPeerSession.addRemoteIceCandidate (peerIceCandidate candidate)))) :=
        onActive_avoids nofun (onSession_avoids nofun)
      exact wp_mono (havoids c) fun _ _ hne heq => absurd heq hne
    · have havoids : Avoids invalidEnvelope (do
          let pending ← onActive .peer (prepareReconnect requestId now)
          let pending ← ofResult (pending.pushCandidate (peerIceCandidate candidate))
          onActive .peer (setReconnect pending)) :=
        .bind (onActive_avoids nofun (.bind .get fun _ => .bind (.modify _) fun _ => .pure _))
          fun pending => .bind (.ofResult (hpush pending)) fun _ =>
            onActive_avoids nofun (.modify _)
      exact wp_mono (havoids c) fun _ _ hne heq => absurd heq hne
  | description description =>
    rw [wp_bind, wp_require]
    refine ⟨fun htype => ?_, fun _ _ => hsame⟩
    rw [andThen_ok]
    refine prepare_bind ha hrequest (hb a ha) (fun error c' hne heq => ?_) ?_
    · exact absurd (Except.error.inj heq) hne
    intro c₁ a₁ pending _ ha₁ hpending _ _ _ hdescription
    have hroom := hdescription (hfits description hsession hpayload htype)
    rw [wp_bind]
    refine wp_mono (setReconnect_continues { pending with description := some description } ha₁
      hpending rfl rfl rfl) ?_
    rintro _ c₂ ⟨rfl, _⟩
    rw [andThen_ok, wp_require]
    exact ⟨fun _ => nofun, fun h => absurd hroom h⟩
  | endOfCandidates => exact nofun

theorem handleActiveReconnectEnvelope_atomic
    (hvalid : validateEnvelopeFields envelope = .ok ()) (hc : Coherent c) (hb : Buffers c)
    (ha : c.active = some a)
    (hfits : ∀ payload, envelope.payload = some payload → FitsActive a payload) :
    wp (handleActiveReconnectEnvelope crypto env envelope now) (fun r c' => Atomic c r c') c := by
  obtain ⟨-, -, hrequest⟩ := validateEnvelopeFields_eq_ok.mp hvalid
  unfold handleActiveReconnectEnvelope
  rw [wp_bind, wp_orThrow]
  refine ⟨fun payload hpayload => ?_, fun _ => atomic_same _⟩
  have hfits := hfits payload hpayload
  rw [andThen_ok]
  split
  · next offer =>
      obtain ⟨hcontroller, hsession, hroom⟩ := hfits
      refine prepare_bind ha hrequest (hb a ha) (fun error c' hne => ?_) ?_
      · exact .of_ne fun heq => hne (Except.error.inj heq)
      intro c₁ a₁ pending hcontinues ha₁ hpending hids hid hoffer _
      rw [wp_bind, wp_require]
      refine ⟨fun _ => ?_, fun h => absurd ⟨?_, ?_⟩ h⟩
      · rw [andThen_ok, wp_bind]
        refine wp_mono (setReconnect_continues { pending with authentication := some offer } ha₁
          hpending rfl rfl rfl) ?_
        rintro _ c₂ ⟨rfl, hset⟩
        have hready : Continues c c₂ := Trans.trans hcontinues hset
        rw [andThen_ok, wp_bind, wp_require]
        refine ⟨fun _ => ?_, fun h => absurd (hoffer hroom) h⟩
        rw [andThen_ok]
        exact wp_mono (tryRestartActive_spec (hready.stays.coherent hc) (hready.goes.buffers hb))
          fun _ _ h => .of_isOk h.1
      · rw [hcontroller, hids]
      · rw [hsession, hid]
  · next negotiation =>
      rw [wp_bind]
      refine wp_mono (wp_and (handleActiveNegotiation_atomic ha hrequest hb hfits)
        (handleActiveNegotiation_continues _ now hrequest c)) ?_
      rintro (error | _) c₁ ⟨hatomic, hcontinues⟩
      · exact fun heq => hatomic (congrArg Except.error (Except.error.inj heq))
      · rw [andThen_ok]
        exact wp_mono (tryRestartActive_spec (hcontinues.stays.coherent hc)
          (hcontinues.goes.buffers hb)) fun _ _ h => .of_isOk h.1
  · exact atomic_same _

theorem handleActiveEnvelope_atomic
    (hvalid : validateEnvelopeFields envelope = .ok ()) (hc : Coherent c) (hb : Buffers c)
    (ha : c.active = some a)
    (hfits : ∀ payload, envelope.payload = some payload → FitsActive a payload) :
    wp (handleActiveEnvelope crypto env envelope now) (fun r c' => Atomic c r c') c := by
  unfold handleActiveEnvelope
  split
  · exact handleActiveReconnectEnvelope_atomic hvalid hc hb ha hfits
  · exact handleActiveReconnectEnvelope_atomic hvalid hc hb ha hfits
  · simp only [wp_bind, wp_require, andThen_ok, andThen_error, wp_get, wp_orThrow]
    refine ⟨fun _ => ⟨fun b _ => ⟨fun _ => ?_, fun _ => atomic_same _⟩, fun _ => atomic_same _⟩,
      fun _ => atomic_same _⟩
    rw [← wp_bind]
    exact wp_mono (Avoids.bind (closeActive_avoids none) (fun _ => .pure _) c)
      fun _ _ hne => .of_ne hne
  · exact atomic_same _

/-! ## The whole way -/

/-- The coordinator when everything too old has expired. -/
def expired (env : Environment) (now : UInt64) (c : RemoteSessionCoordinator) :
    RemoteSessionCoordinator :=
  (expireActiveReconnect env now (c.freshened now)).2

theorem dispatchRouted_atomic (hvalid : validateEnvelopeFields envelope = .ok ())
    (hc : Coherent c) (hb : Buffers c) (hexpected : Expected c envelope) :
    wp (dispatchRouted crypto env envelope now) (fun r c' => Atomic c r c') c := by
  obtain ⟨hsender, -, hrequest⟩ := validateEnvelopeFields_eq_ok.mp hvalid
  unfold dispatchRouted
  rw [wp_get_bind, wp_ite]
  refine ⟨fun _ => atomic_same _, fun hmatches => ?_⟩
  split
  · next hnone => exact handlePendingEnvelope_atomic hc hnone hvalid hmatches hexpected
  · next a ha =>
      rw [wp_ite]
      refine ⟨fun hcontroller => ?_, fun _ => ?_⟩
      · refine handleActiveEnvelope_atomic hvalid hc hb ha fun payload hpayload => ?_
        have hfits := hexpected payload hpayload
        rw [ha] at hfits
        exact hfits hcontroller
      · exact wp_mono (errorOutbound_isOk _ hc hsender hrequest) fun _ _ h => .of_isOk h

/-- If the envelope is refused, the sessions are as they were, or as the expiry of what is
too old has left them. -/
def EnvelopeAtomic (crypto : Crypto) (env : Environment) (senderDeviceId : Bytes)
    (decoded : Option SignalingEnvelope) (now : UInt64) (c : RemoteSessionCoordinator) : Prop :=
  wp (handleRouted crypto env senderDeviceId decoded now) (fun r c' =>
    r = .error .invalidEnvelope → Untouched c c' ∨ Untouched (c.expired env now) c') c

theorem expired_buffers (hb : Buffers c) : Buffers (c.expired env now) := by
  have hwp : wp (expireActiveReconnect env now) (fun _ c' => Buffers c') (c.freshened now) := by
    refine wp_mono (expireActiveReconnect_spec _) ?_
    rintro _ c' (⟨_, hends, _⟩ | ⟨_, rfl, _⟩)
    · intro a ha
      rw [hends.active] at ha
      cases ha
    · exact hb
  exact hwp

/-- In every state that a run reaches, an envelope with an expected message that is refused
leaves the sessions alone. -/
theorem envelope_error_atomicity (crypto : Crypto) {hostDeviceId : Bytes}
    (hnew : withConfig hostDeviceId = .ok c) (inputs : List ServiceInput) (env : Environment)
    (senderDeviceId : Bytes) (decoded : Option SignalingEnvelope) (now : UInt64)
    (hexpected : ∀ envelope,
      Addressed ((serviceMachine crypto).run c inputs) senderDeviceId decoded envelope →
      Expected (((serviceMachine crypto).run c inputs).expired env now) envelope) :
    EnvelopeAtomic crypto env senderDeviceId decoded now
      ((serviceMachine crypto).run c inputs) := by
  have hc := (run_reached crypto hnew inputs).coherent
  have hb := run_buffers crypto hnew inputs
  generalize (serviceMachine crypto).run c inputs = c at hc hb hexpected ⊢
  unfold EnvelopeAtomic
  by_cases hopen : c.closed = false
  · by_cases haddressed : ∃ envelope, Addressed c senderDeviceId decoded envelope
    · obtain ⟨envelope, henvelope⟩ := haddressed
      refine handleRouted_addressed hopen henvelope ?_
      have hfresh : Coherent (c.freshened now) := (expirePending_forgets now hc).2.coherent
      have hstate : wp (expireActiveReconnect env now) (fun _ c' => c' = c.expired env now)
          (c.freshened now) := rfl
      refine wp_mono (wp_and (wp_and (expireActiveReconnect_forgets now hfresh)
        (expireActiveReconnect_avoids now _)) hstate) ?_
      rintro (error | _) _ ⟨⟨hforgets, hne⟩, rfl⟩
      · exact fun heq => absurd (congrArg Except.error (Except.error.inj heq)) hne
      · rw [andThen_ok]
        refine wp_mono (dispatchRouted_atomic henvelope.valid hforgets.coherent
          (expired_buffers hb) (hexpected envelope henvelope)) ?_
        exact fun _ _ hatomic hr => .inr (hatomic hr)
    · unfold wp
      rw [handleRouted_refused hopen fun envelope h => haddressed ⟨envelope, h⟩]
      exact fun _ => .inl ⟨rfl, rfl⟩
  · unfold handleRouted
    rw [wp_get_bind, wp_bind, wp_require]
    exact ⟨fun h => absurd h hopen, fun _ => nofun⟩

/-- The offer of the sample session has arrived. -/
def offeredCoordinator : RemoteSessionCoordinator :=
  (serviceMachine sampleOfferCrypto).run sampleCoordinator ((sampleStart.take 1).map .coordinator)

/-- A second offer for a session. -/
def secondOffer (sessionId : Bytes) : SignalingEnvelope :=
  sampleEnvelope (.sessionAuthentication (some (.offer
    { sampleOffer with sessionId, nonce := List.replicate 32 77 })))

/-- A status that does not end a session. -/
def idleStatus : SignalingEnvelope :=
  sampleEnvelope (.sessionStatus { sessionId := sampleOffer.sessionId, state := 1 })

/-- The status is refused, and the offer that has arrived is still there. -/
theorem envelope_error_atomicity_sample :
    (handleRouted sampleOfferCrypto sampleEnvironment
      sampleOffer.controllerDeviceId (some idleStatus) 1700000000600
      offeredCoordinator).1 = .error .invalidEnvelope ∧
    EnvelopeAtomic sampleOfferCrypto sampleEnvironment
      sampleOffer.controllerDeviceId (some idleStatus) 1700000000600
      offeredCoordinator := by
  refine ⟨by decide +kernel, ?_⟩
  refine envelope_error_atomicity sampleOfferCrypto
    (rfl : withConfig AuthorizationRegistry.sampleHostId = .ok sampleCoordinator)
    ((sampleStart.take 1).map .coordinator) sampleEnvironment _ (some idleStatus) 1700000000600 ?_
  intro envelope haddressed payload hpayload
  cases haddressed.decoded
  cases hpayload
  split
  · exact nofun
  · exact fun _ => trivial

/-- The sample session has been started and connected. -/
def connectedCoordinator : RemoteSessionCoordinator :=
  (serviceMachine sampleOfferCrypto).run sampleCoordinator
    (sampleStart.map fun input => .coordinator { input with env := unclosableEnvironment })

/-- A second offer is refused, but it takes the place of the first one; and an offer for
another session is refused, but the active session waits for its peer afterwards. -/
theorem refused_offer_kept :
    withConfig AuthorizationRegistry.sampleHostId = .ok sampleCoordinator ∧
    ¬ EnvelopeAtomic sampleOfferCrypto sampleEnvironment
      sampleOffer.controllerDeviceId
      (some (secondOffer sampleOffer.sessionId)) 1700000000600
      offeredCoordinator ∧
    ¬ EnvelopeAtomic sampleOfferCrypto unclosableEnvironment
      sampleOffer.controllerDeviceId
      (some (secondOffer (List.replicate 16 9))) 1700000000700 connectedCoordinator := by
  refine ⟨rfl, fun h => ?_, fun h => ?_⟩
  · have herror : (handleRouted sampleOfferCrypto sampleEnvironment
        sampleOffer.controllerDeviceId
        (some (secondOffer sampleOffer.sessionId)) 1700000000600
        offeredCoordinator).1 = .error .invalidEnvelope := by decide +kernel
    rcases h herror with hsame | hsame
    · have hpending := hsame.pending
      revert hpending
      decide +kernel
    · have hpending := hsame.pending
      revert hpending
      decide +kernel
  · have herror : (handleRouted sampleOfferCrypto unclosableEnvironment
        sampleOffer.controllerDeviceId
        (some (secondOffer (List.replicate 16 9))) 1700000000700
        connectedCoordinator).1 = .error .invalidEnvelope := by decide +kernel
    rcases h herror with hsame | hsame
    · have hdeadline := congrArg (Option.bind · (·.reconnectDeadlineUnixMs)) hsame.active
      revert hdeadline
      decide +kernel
    · have hdeadline := congrArg (Option.bind · (·.reconnectDeadlineUnixMs)) hsame.active
      revert hdeadline
      decide +kernel

end RemoteSessionCoordinator

end Host

end Roammand
