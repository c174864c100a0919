import Roammand.Host.RemoteSession
import Roammand.Library.Run

/-!
# Input over whole sessions

Input of a controller is let through by two guards: the peer session checks that
it is connected and that the controller may control the Host, and the coordinator
checks that no window for a renegotiation is open.  This module follows both
guards through every run of the coordinator, with a sink, a peer and a service
that may fail at any call.

The guards agree as long as a loss of the peer is followed by a successful release
of what is pressed: a release that fails leaves the session connected and without
a window, so that input still gets through and nothing ends the session.

Main results:

- Theorem `perform_effect`: what one operation can do.
- Theorem `perform_live`: a connected session has no window and a waiting one has.
- Theorem `loss_spec`: a loss opens a window exactly if the release succeeds.
- Theorem `input_gating`: input, windows and their deadlines in every run.
-/

namespace Roammand

namespace Host

open Library Protocol Fallible HostPeerSession OfferVerifier Machine

namespace ActiveSession

/-! ## The active session -/

/-- A session that goes on: no input has passed, it has not become connected, and
its window, if there is one, ends when it did. -/
structure Continues (nowUnixMs : UInt64) (a a' : ActiveSession) : Prop where
  quiet : Quiet a.session a'.session
  connected : a'.session.state = .connected → a.session.state = .connected
  deadline : a'.reconnectDeadlineUnixMs = a.reconnectDeadlineUnixMs ∨
    a.reconnectDeadlineUnixMs = none ∧
      a'.reconnectDeadlineUnixMs = some (reconnectDeadline nowUnixMs)

/-- The guards agree: a connected session has no window, a session that waits for
its peer has one, and so has a session with messages for a renegotiation. -/
structure Live (a : ActiveSession) : Prop where
  state : a.session.state = .negotiating ∨ a.session.state = .connected ∨
    a.session.state = .reconnecting
  connected : a.session.state = .connected → a.reconnectDeadlineUnixMs = none
  reconnecting : a.session.state = .reconnecting → a.reconnectDeadlineUnixMs.isSome
  messages : ∀ pending, a.reconnect = some pending →
    pending.authentication.isSome ∨ pending.description.isSome → a.reconnectDeadlineUnixMs.isSome

/-- A session with an open window. -/
structure Waiting (a : ActiveSession) : Prop extends Live a where
  window : a.reconnectDeadlineUnixMs.isSome

variable {nowUnixMs : UInt64} {a a' : ActiveSession}

instance : IsPreorder ActiveSession (Continues nowUnixMs) where
  refl _ := ⟨.refl _, id, .inl rfl⟩
  trans a b c h h' := by
    refine ⟨h.quiet.trans h'.quiet, fun hc => h.connected (h'.connected hc), ?_⟩
    rcases h'.deadline with hsame | ⟨hnone, hsome⟩
    · rw [hsame]
      exact h.deadline
    · rcases h.deadline with hsame | ⟨_, hopen⟩
      · exact .inr ⟨hsame ▸ hnone, hsome⟩
      · rw [hnone] at hopen
        cases hopen

theorem Waiting.not_connected (h : Waiting a) : a.session.state ≠ .connected := by
  intro hconnected
  have hwindow := h.window
  rw [h.connected hconnected] at hwindow
  cases hwindow

/-- What keeps the session in its state and the window as it is. -/
theorem Live.of_state (h : Live a) (hstate : a'.session.state = a.session.state)
    (hdeadline : a'.reconnectDeadlineUnixMs = a.reconnectDeadlineUnixMs)
    (hmessages : ∀ pending, a'.reconnect = some pending →
      pending.authentication.isSome ∨ pending.description.isSome →
      a.reconnectDeadlineUnixMs.isSome) : Live a' where
  state := by
    rw [hstate]
    exact h.state
  connected hconnected := by
    rw [hdeadline]
    exact h.connected (hstate ▸ hconnected)
  reconnecting hreconnecting := by
    rw [hdeadline]
    exact h.reconnecting (hstate ▸ hreconnecting)
  messages pending hpending hfilled := by
    rw [hdeadline]
    exact hmessages pending hpending hfilled

/-- A method of the peer session that lets no input through and does not connect
it goes on with the active session. -/
theorem onSession_continues {α : Type} {f : HostWebRtcError → RemoteSessionError} {m : SessionM α}
    (h : ∀ s, wp m (fun _ s' => Quiet s s' ∧
      (s'.state = .connected → s.state = .connected)) s) :
    Keeps (Continues nowUnixMs) (onSession f m) := by
  intro a
  unfold onSession
  rw [wp_zoom, wp_mapError]
  refine wp_mono (h a.session) ?_
  rintro _ s' ⟨hquiet, hconnected⟩
  exact ⟨hquiet, hconnected, .inl rfl⟩

variable (f : HostWebRtcError → RemoteSessionError)

theorem addRemoteIceCandidate_continues (candidate : PeerIceCandidate) :
    Keeps (Continues nowUnixMs) (onSession f (addRemoteIceCandidate candidate)) :=
  onSession_continues fun s => wp_mono (addRemoteIceCandidate_spec candidate s)
    fun _ _ h => ⟨h.1, fun hconnected => h.2 ▸ hconnected⟩

variable (candidates : List PeerIceCandidate)

theorem addCandidates_continues :
    Keeps (Continues nowUnixMs) (addCandidates candidates) := by
  induction candidates with
  | nil => exact .pure ()
  | cons candidate candidates ih =>
    exact .bind (addRemoteIceCandidate_continues _ candidate) fun _ => ih

variable (offerSdp : String)

theorem acceptReconnectOffer_continues :
    Keeps (Continues nowUnixMs) (onSession f (acceptReconnectOffer offerSdp)) := by
  refine onSession_continues fun s =>
    wp_mono (acceptReconnectOffer_spec offerSdp s) ?_
  rintro _ s' ⟨hquiet, hsame | ⟨_, hstate⟩⟩
  · exact ⟨hquiet, fun hconnected => hsame ▸ hconnected⟩
  · refine ⟨hquiet, fun hconnected => ?_⟩
    rcases hstate with h | h <;> rw [h] at hconnected <;> cases hconnected

theorem prepareReconnect_continues (requestId : String) (now : UInt64) :
    Keeps (Continues nowUnixMs) (prepareReconnect requestId now) :=
  .bind .get fun _ => .bind (.modify fun _ => ⟨.refl _, id, .inl rfl⟩) fun _ => .pure _

theorem setReconnect_continues (pending : PendingSession) :
    Keeps (Continues nowUnixMs) (setReconnect pending) :=
  .modify fun _ => ⟨.refl _, id, .inl rfl⟩

/-! ### Sessions with an open window -/

theorem Waiting.of_state (h : Waiting a)
    (hstate : a'.session.state = .negotiating ∨ a'.session.state = .reconnecting)
    (hdeadline : a'.reconnectDeadlineUnixMs = a.reconnectDeadlineUnixMs) : Waiting a' := by
  have hwindow : a'.reconnectDeadlineUnixMs.isSome := by
    rw [hdeadline]
    exact h.window
  refine { state := ?_, connected := ?_, reconnecting := ?_, messages := ?_, window := hwindow }
  · rcases hstate with hstate | hstate
    · exact .inl hstate
    · exact .inr (.inr hstate)
  · intro hconnected
    rcases hstate with hstate | hstate <;> rw [hstate] at hconnected <;> cases hconnected
  · exact fun _ => hwindow
  · exact fun _ _ _ => hwindow

/-- The state of a session with an open window. -/
theorem Waiting.state_cases (h : Waiting a) :
    a.session.state = .negotiating ∨ a.session.state = .reconnecting := by
  rcases h.state with hstate | hstate | hstate
  · exact .inl hstate
  · exact absurd hstate h.not_connected
  · exact .inr hstate

theorem addCandidates_waiting :
    Keeps (Carried Waiting) (addCandidates candidates) := by
  induction candidates with
  | nil => exact .pure ()
  | cons candidate candidates ih =>
    refine .bind (fun a => ?_) fun _ => ih
    unfold onSession
    rw [wp_zoom, wp_mapError]
    refine wp_mono (addRemoteIceCandidate_spec candidate a.session) ?_
    rintro _ s' ⟨_, hstate⟩ hwaiting
    refine hwaiting.of_state ?_ rfl
    have hcases := hwaiting.state_cases
    rwa [← hstate] at hcases

theorem acceptReconnectOffer_waiting :
    Keeps (Carried Waiting) (onSession f (acceptReconnectOffer offerSdp)) := by
  intro a
  unfold onSession
  rw [wp_zoom, wp_mapError]
  refine wp_mono (acceptReconnectOffer_spec offerSdp a.session) ?_
  rintro _ s' ⟨_, hstate⟩ hwaiting
  refine hwaiting.of_state ?_ rfl
  rcases hstate with hsame | ⟨_, hstate⟩
  · have hcases := hwaiting.state_cases
    rwa [← hsame] at hcases
  · exact hstate.symm

end ActiveSession

namespace RemoteSessionCoordinator

open ActiveSession

/-! ## The coordinator -/

/-- The input that has reached the sinks of the sessions. -/
def delivered (c : RemoteSessionCoordinator) : List SinkCall :=
  c.retired.flatMap inputs ++ (c.active.map (·.session.inputs)).getD []

/-- The active session is ready, and no window is open. -/
def InputOpen (c : RemoteSessionCoordinator) : Prop :=
  ∃ a, c.active = some a ∧ a.session.state = .connected ∧ a.session.inputAllowed = true ∧
    a.reconnectDeadlineUnixMs = none

/-- The guards agree on the active session, and there is none in a closed
coordinator. -/
structure Consistent (c : RemoteSessionCoordinator) : Prop where
  live : ∀ a, c.active = some a → a.Live
  closed : c.closed = true → c.active = none

/-- The active session goes on. -/
structure Retains (nowUnixMs : UInt64) (c c' : RemoteSessionCoordinator) : Prop where
  retired : c'.retired = c.retired
  closed : c'.closed = c.closed
  active : (c.active = none ∧ c'.active = none) ∨
    ∃ a a', c.active = some a ∧ c'.active = some a' ∧ Continues nowUnixMs a a'

/-- Whatever is active has an open window. -/
structure Waits (c : RemoteSessionCoordinator) : Prop where
  waiting : ∀ a, c.active = some a → a.Waiting
  closed : c.closed = true → c.active = none

variable {nowUnixMs : UInt64} {c c' : RemoteSessionCoordinator} {crypto : Crypto}
  {env : Environment}

theorem Waits.consistent (h : Waits c) : Consistent c :=
  ⟨fun a ha => (h.waiting a ha).toLive, h.closed⟩

/-- An active session is replaced by one that is consistent. -/
theorem Consistent.set (h : Consistent c) {a a' : ActiveSession} (ha : c.active = some a)
    (hlive : a'.Live) : Consistent { c with active := some a' } := by
  refine ⟨?_, fun hclosed => ?_⟩
  · rintro _ ⟨⟩
    exact hlive
  · rw [h.closed hclosed] at ha
    cases ha

instance : IsPreorder RemoteSessionCoordinator (Retains nowUnixMs) where
  refl c := by
    refine ⟨rfl, rfl, ?_⟩
    cases hactive : c.active with
    | none => exact .inl ⟨rfl, rfl⟩
    | some a => exact .inr ⟨a, a, rfl, rfl, Std.Refl.refl a⟩
  trans c₁ c₂ c₃ h h' := by
    refine ⟨h'.retired.trans h.retired, h'.closed.trans h.closed, ?_⟩
    rcases h.active with ⟨h₁, h₂⟩ | ⟨a₁, a₂, h₁, h₂, hcont⟩
    · rcases h'.active with ⟨_, h₃⟩ | ⟨a₂, _, h₂', _⟩
      · exact .inl ⟨h₁, h₃⟩
      · rw [h₂] at h₂'
        cases h₂'
    · rcases h'.active with ⟨h₂', _⟩ | ⟨a₂', a₃, h₂', h₃, hcont'⟩
      · rw [h₂] at h₂'
        cases h₂'
      · rw [h₂] at h₂'
        cases h₂'
        exact .inr ⟨a₁, a₃, h₁, h₃, IsTrans.trans _ _ _ hcont hcont'⟩

theorem Retains.of_eq (hretired : c'.retired = c.retired) (hclosed : c'.closed = c.closed)
    (hactive : c'.active = c.active) : Retains nowUnixMs c c' := by
  refine ⟨hretired, hclosed, ?_⟩
  rw [hactive]
  exact (Std.Refl.refl (r := Retains nowUnixMs) c).active

theorem Retains.delivered (h : Retains nowUnixMs c c') : c'.delivered = c.delivered := by
  unfold RemoteSessionCoordinator.delivered
  rw [h.retired]
  rcases h.active with ⟨h₁, h₂⟩ | ⟨a, a', h₁, h₂, hcont⟩
  · rw [h₁, h₂]
  · rw [h₁, h₂]
    simp only [Option.map_some, Option.getD_some, hcont.quiet.inputs]

variable {R : RemoteSessionCoordinator → RemoteSessionCoordinator → Prop}
  (authentication : SessionOfferAuthentication) (pending : PendingSession)
  (envelope : SignalingEnvelope) {α : Type} (now : UInt64)
  (description : WebRtcSessionDescription) {e : RemoteSessionError}

variable (candidates : List PeerIceCandidate) {m : ActiveM α}

@[simp]
theorem wp_onActive {Q : Except RemoteSessionError α → RemoteSessionCoordinator → Prop} :
    wp (onActive e m) Q c ↔ (c.active = none → Q (.error e) c) ∧
      ∀ a, c.active = some a → wp m (fun r a' => Q r { c with active := some a' }) a := by
  unfold wp onActive
  cases hactive : c.active with
  | none => simp
  | some a => simp

/-- A method of the active session that goes on with it. -/
theorem onActive_retains
    (h : Keeps (Continues nowUnixMs) m) : Keeps (Retains nowUnixMs) (onActive e m) := by
  intro c
  rw [wp_onActive]
  refine ⟨fun _ => Std.Refl.refl c, fun a ha => wp_mono (h a) ?_⟩
  intro _ a' hcont
  exact ⟨rfl, rfl, .inr ⟨a, a', ha, rfl, hcont⟩⟩

/-- A method of the active session that leaves its window open. -/
theorem onActive_waits (h : Keeps (Carried Waiting) m) : Keeps (Carried Waits) (onActive e m) := by
  intro c
  rw [wp_onActive]
  refine ⟨fun _ => Std.Refl.refl c, fun a ha => wp_mono (h a) ?_⟩
  intro _ a' hcarried hwaits
  refine ⟨?_, fun hclosed => ?_⟩
  · rintro _ ⟨⟩
    exact hcarried (hwaits.waiting a ha)
  · rw [hwaits.closed hclosed] at ha
    cases ha

theorem outbound_still (recipientDeviceId : Bytes) (requestId : String) (now : UInt64)
    (payload : SignalingPayload) (c : RemoteSessionCoordinator) :
    wp (outbound recipientDeviceId requestId now payload) (fun _ c' => c' = c) c := by
  unfold outbound
  simp only [wp_bind, wp_get, andThen_ok, wp_require, wp_pure, andThen_error]
  exact ⟨fun _ => trivial, fun _ => trivial⟩

theorem outbound_keeps
    [IsPreorder RemoteSessionCoordinator R] (recipientDeviceId : Bytes) (requestId : String)
    (now : UInt64) (payload : SignalingPayload) :
    Keeps R (outbound recipientDeviceId requestId now payload) :=
  .of_still (outbound_still recipientDeviceId requestId now payload)

theorem verifyRemoteOffer_spec (now : UInt64) (c : RemoteSessionCoordinator) :
    wp (verifyRemoteOffer crypto env authentication description now)
      (fun _ c' => ∃ verifier, c' = { c with verifier }) c :=
  ⟨_, rfl⟩

theorem verifyRemoteOffer_retains (now : UInt64) :
    Keeps (Retains nowUnixMs) (verifyRemoteOffer crypto env authentication description now) := by
  intro c
  refine wp_mono (verifyRemoteOffer_spec authentication description now c) ?_
  rintro _ _ ⟨verifier, rfl⟩
  exact .of_eq rfl rfl rfl

theorem verifyRemoteOffer_waits (now : UInt64) :
    Keeps (Carried Waits) (verifyRemoteOffer crypto env authentication description now) := by
  intro c
  refine wp_mono (verifyRemoteOffer_spec authentication description now c) ?_
  rintro _ _ ⟨verifier, rfl⟩ h
  exact ⟨h.waiting, h.closed⟩

/-! ### Opening the window -/

theorem beginActiveReconnect_retains :
    Keeps (Retains nowUnixMs) (beginActiveReconnect env nowUnixMs) := by
  refine .bind (onActive_retains (onSession_continues fun s => ?_)) fun _ =>
    .bind (onActive_retains (.modify fun a => ⟨.refl _, id, ?_⟩)) fun _ => .require
  · refine wp_mono (beginReconnect_spec s) ?_
    rintro _ s' ⟨hquiet, ⟨_, hstate⟩ | ⟨_, hstate⟩, _⟩
    · refine ⟨hquiet, fun hconnected => ?_⟩
      rw [hstate] at hconnected
      cases hconnected
    · exact ⟨hquiet, fun hconnected => hstate ▸ hconnected⟩
  · cases hdeadline : a.reconnectDeadlineUnixMs with
    | none => exact .inr ⟨rfl, rfl⟩
    | some deadline => exact .inl rfl

/-- The sink releases what is pressed, if it is asked now. -/
def Releases (a : ActiveSession) : Prop :=
  a.session.input.respond (a.session.input.calls ++ [.releaseAll]) = .ok ()

/-- Without a window, one is opened exactly if the release succeeds.  In a failure
without a window the session stays as it was. -/
theorem beginActiveReconnect_spec (h : Consistent c) :
    wp (beginActiveReconnect env nowUnixMs) (fun r c' =>
      (Waits c' ∧ ∀ a, c.active = some a → a.reconnectDeadlineUnixMs = none → Releases a) ∨
      (r.isOk = false ∧ Consistent c' ∧ ∃ a a', c.active = some a ∧ c'.active = some a' ∧
        a'.reconnectDeadlineUnixMs = a.reconnectDeadlineUnixMs ∧
        (a.reconnectDeadlineUnixMs = none → ¬ Releases a))) c := by
  unfold beginActiveReconnect
  rw [wp_bind, wp_onActive]
  refine ⟨fun hnone => .inl ⟨⟨?_, h.closed⟩, ?_⟩, fun a ha => ?_⟩
  · intro a ha
    rw [hnone] at ha
    cases ha
  · intro a ha
    rw [hnone] at ha
    cases ha
  have hopen : c.closed = true → False := fun hclosed => by
    rw [h.closed hclosed] at ha
    cases ha
  have hlive := h.live a ha
  have hready : a.reconnectDeadlineUnixMs = none →
      a.session.state = .connected ∨ a.session.state = .negotiating := by
    intro hnone
    rcases hlive.state with hstate | hstate | hstate
    · exact .inr hstate
    · exact .inl hstate
    · have hsome := hlive.reconnecting hstate
      rw [hnone] at hsome
      cases hsome
  unfold onSession
  rw [wp_zoom, wp_mapError]
  refine wp_mono (beginReconnect_spec a.session) ?_
  rintro r s' ⟨_, ⟨rfl, hstate⟩ | ⟨hfailed, hstate⟩, hrelease⟩
  · have hwaits : Waits { c with active := some { a with
        session := s'
        reconnectDeadlineUnixMs :=
          some (a.reconnectDeadlineUnixMs.getD (reconnectDeadline nowUnixMs)) } } := by
      refine ⟨?_, fun hclosed => (hopen hclosed).elim⟩
      rintro _ ⟨⟩
      refine ⟨⟨.inr (.inr hstate), fun hconnected => ?_, fun _ => rfl, fun _ _ _ => rfl⟩, rfl⟩
      rw [show s'.state = .reconnecting from hstate] at hconnected
      cases hconnected
    have hreleases : ∀ b, c.active = some b → b.reconnectDeadlineUnixMs = none → Releases b := by
      intro b hb hnone
      rw [ha] at hb
      cases hb
      exact (hrelease (hready hnone)).mp rfl
    simp only [Except.mapError, andThen_ok, wp_bind, wp_onActive]
    refine ⟨(by intros; contradiction), ?_⟩
    rintro _ ⟨⟩
    rw [wp_modify, andThen_ok]
    exact .inl ⟨hwaits, hreleases⟩
  · cases r with
    | ok _ => cases hfailed
    | error e =>
      refine .inr ⟨rfl, ⟨?_, fun hclosed => (hopen hclosed).elim⟩, a, _, ha, rfl, rfl, ?_⟩
      · rintro _ ⟨⟩
        exact hlive.of_state hstate rfl hlive.messages
      · intro hnone hreleases
        exact absurd ((hrelease (hready hnone)).mpr hreleases) (by simp [hfailed])

/-! ### Renegotiating -/

theorem prepareReconnect_waits (requestId : String) (now : UInt64) :
    Keeps (Carried Waiting) (prepareReconnect requestId now) :=
  .bind .get fun _ => .bind (.modify fun _ h => h.of_state h.state_cases rfl) fun _ => .pure _

theorem setReconnect_waits :
    Keeps (Carried Waiting) (setReconnect pending) :=
  .modify fun _ h => h.of_state h.state_cases rfl

theorem restartActive_retains :
    Keeps (Retains nowUnixMs) (restartActive crypto env pending now) :=
  .bind .orThrow fun _ => .bind .orThrow fun _ =>
    .bind (verifyRemoteOffer_retains _ _ _) fun _ => .bind .get fun _ => .bind .orThrow fun _ =>
    .bind .require fun _ => .bind .require fun _ =>
    .bind (onActive_retains (acceptReconnectOffer_continues _ _)) fun _ =>
    .bind .ofResult fun _ => .bind (onActive_retains (addCandidates_continues _)) fun _ =>
    .bind (onActive_retains (.modify fun _ => ⟨.refl _, id, .inl rfl⟩)) fun _ => .pure _

theorem restartActive_waits :
    Keeps (Carried Waits) (restartActive crypto env pending now) :=
  .bind .orThrow fun _ => .bind .orThrow fun _ =>
    .bind (verifyRemoteOffer_waits _ _ _) fun _ => .bind .get fun _ => .bind .orThrow fun _ =>
    .bind .require fun _ => .bind .require fun _ =>
    .bind (onActive_waits (acceptReconnectOffer_waiting _ _)) fun _ =>
    .bind .ofResult fun _ => .bind (onActive_waits (addCandidates_waiting _)) fun _ =>
    .bind (onActive_waits (.modify fun _ h => h.of_state h.state_cases rfl)) fun _ => .pure _

theorem reconnectOutbound_keeps
    [IsPreorder RemoteSessionCoordinator R] (restarted : RestartedSession) (requestId : String)
    (now : UInt64) : Keeps R (reconnectOutbound restarted requestId now) :=
  .bind (outbound_keeps _ _ _ _) fun _ => .bind (outbound_keeps _ _ _ _) fun _ => .pure _

/-- A renegotiation keeps what its parts keep. -/
theorem tryRestartActive_keeps
    [IsPreorder RemoteSessionCoordinator R] {pending : PendingSession} {now : UInt64}
    (htake : Keeps R (onActive .service (modify fun a => { a with reconnect := none })))
    (hrestart : Keeps R (restartActive crypto env pending now)) :
    Keeps R (do
      onActive .service (modify fun a => { a with reconnect := none })
      let result ← outcome (restartActive crypto env pending now)
      match result with
      | .ok restarted => reconnectOutbound restarted pending.requestId now
      | .error error => do
        let code := if error = .peer then .iceFailed else protocolErrorFor error
        let error ← errorOutbound pending.controllerDeviceId pending.requestId code now
        return [error]) := by
  refine .bind htake fun _ => .bind (.outcome hrestart) fun result => ?_
  cases result with
  | ok restarted => exact reconnectOutbound_keeps _ _ _
  | error error => exact .bind (outbound_keeps _ _ _ _) fun _ => .pure _

theorem tryRestartActive_retains :
    Keeps (Retains nowUnixMs) (tryRestartActive crypto env now) := by
  refine .bind .get fun c => ?_
  split
  · exact .pure _
  · refine .ite (tryRestartActive_keeps ?_ (restartActive_retains _ _)) (.pure _)
    exact onActive_retains (.modify fun _ => ⟨.refl _, id, .inl rfl⟩)

theorem tryRestartActive_waits :
    Keeps (Carried Waits) (tryRestartActive crypto env now) := by
  refine .bind .get fun c => ?_
  split
  · exact .pure _
  · refine .ite (tryRestartActive_keeps ?_ (restartActive_waits _ _)) (.pure _)
    exact onActive_waits (.modify fun _ h => h.of_state h.state_cases rfl)

/-- A renegotiation starts only in a window. -/
theorem tryRestartActive_consistent :
    Keeps (Carried Consistent) (tryRestartActive crypto env now) := by
  refine .of_carried fun c hc => ?_
  unfold tryRestartActive
  rw [wp_get_bind]
  split
  · exact hc
  · next pending hpending =>
      rw [wp_ite]
      refine ⟨fun hready => ?_, fun _ => hc⟩
      obtain ⟨a, ha, hreconnect⟩ := Option.bind_eq_some_iff.mp hpending
      have hlive := hc.live a ha
      have hwindow : a.reconnectDeadlineUnixMs.isSome := by
        refine hlive.messages pending hreconnect (.inl ?_)
        simp only [PendingSession.isReady, Bool.and_eq_true] at hready
        exact hready.1
      have hwaits : Waits c := by
        refine ⟨fun b hb => ?_, hc.closed⟩
        rw [ha] at hb
        cases hb
        exact ⟨hlive, hwindow⟩
      have hkeeps := @tryRestartActive_keeps crypto env (Carried Waits) _ pending now
        (onActive_waits (.modify fun _ h => h.of_state h.state_cases rfl))
        (restartActive_waits _ _)
      exact (hkeeps c hwaits).consistent

variable (negotiation : WebRtcNegotiation)

theorem handleActiveNegotiation_retains (requestId : String) :
    Keeps (Retains nowUnixMs)
      (handleActiveNegotiation env negotiation requestId nowUnixMs) := by
  refine .bind .get fun c => .bind .orThrow fun a => .bind .require fun _ =>
    .bind .orThrow fun payload => ?_
  cases payload with
  | iceCandidate candidate =>
    exact .ite (onActive_retains (addRemoteIceCandidate_continues _ _))
      (.bind (onActive_retains (prepareReconnect_continues _ _)) fun _ =>
        .bind .ofResult fun _ => onActive_retains (setReconnect_continues _))
  | description description =>
    exact .bind .require fun _ => .bind beginActiveReconnect_retains fun _ =>
      .bind (onActive_retains (prepareReconnect_continues _ _)) fun _ =>
      .bind (onActive_retains (setReconnect_continues _)) fun _ => .require
  | endOfCandidates => exact .pure _

theorem pushCandidate_messages {pending pending' : PendingSession} {candidate : PeerIceCandidate}
    (h : pending.pushCandidate candidate = .ok pending') :
    pending'.authentication = pending.authentication ∧
      pending'.description = pending.description := by
  unfold PendingSession.pushCandidate at h
  dsimp only at h
  split at h
  · cases h
  · cases h
    exact ⟨rfl, rfl⟩

/-- The messages that are kept are those that were there. -/
theorem prepareReconnect_live (requestId : String) (now : UInt64) {a : ActiveSession} (h : a.Live) :
    wp (prepareReconnect requestId now) (fun r a' => a'.Live ∧ a'.reconnect = r.toOption ∧
      a'.session = a.session ∧ a'.reconnectDeadlineUnixMs = a.reconnectDeadlineUnixMs) a := by
  unfold prepareReconnect
  simp only [wp_bind, wp_get, andThen_ok, wp_modify, wp_pure]
  refine ⟨h.of_state rfl rfl ?_, rfl, trivial, trivial⟩
  rintro _ ⟨⟩ hfilled
  cases hreconnect : a.reconnect with
  | none =>
    rw [hreconnect] at hfilled
    rcases hfilled with hfilled | hfilled <;> cases hfilled
  | some pending =>
    rw [hreconnect] at hfilled
    exact h.messages pending hreconnect hfilled

/-- What runs once the window is open may rely on it. -/
theorem beginActiveReconnect_bind {m : Unit → CoordinatorM α} {now : UInt64}
    (hm : Keeps (Carried Waits) (m ())) :
    Keeps (Carried Consistent) (beginActiveReconnect env now >>= m) := by
  refine .of_carried fun c hc => ?_
  rw [wp_bind]
  refine wp_mono (beginActiveReconnect_spec hc) ?_
  rintro (error | ⟨⟨⟩⟩) c' (⟨hwaits, _⟩ | ⟨hfailed, hconsistent, _⟩)
  · exact hwaits.consistent
  · exact hconsistent
  · exact (hm c' hwaits).consistent
  · cases hfailed

theorem handleActiveNegotiation_consistent (requestId : String) (now : UInt64) :
    Keeps (Carried Consistent) (handleActiveNegotiation env negotiation requestId now) := by
  refine .bind .get fun _ => .bind .orThrow fun _ => .bind .require fun _ =>
    .bind .orThrow fun payload => ?_
  cases payload with
  | endOfCandidates => exact .pure _
  | description description =>
    exact .bind .require fun _ => beginActiveReconnect_bind
      (.bind (onActive_waits (prepareReconnect_waits _ _)) fun _ =>
        .bind (onActive_waits (setReconnect_waits _)) fun _ => .require)
  | iceCandidate candidate =>
    refine .ite (.of_carried fun c hc => ?_) (.of_carried fun c hc => ?_)
    · rw [wp_onActive]
      refine ⟨fun _ => hc, fun a ha => ?_⟩
      unfold onSession
      rw [wp_zoom, wp_mapError]
      refine wp_mono (addRemoteIceCandidate_spec _ a.session) ?_
      rintro _ s' ⟨_, hstate⟩
      exact hc.set ha ((hc.live a ha).of_state hstate rfl (hc.live a ha).messages)
    · rw [wp_bind, wp_onActive]
      refine ⟨fun _ => hc, fun a ha => wp_mono (prepareReconnect_live requestId now
        (hc.live a ha)) ?_⟩
      rintro (error | pending) a' ⟨hlive, hreconnect, _, _⟩
      · exact hc.set ha hlive
      rw [andThen_ok, wp_bind, wp_ofResult]
      cases hpush : pending.pushCandidate (peerIceCandidate candidate) with
      | error error => exact hc.set ha hlive
      | ok pending' =>
        rw [andThen_ok, wp_onActive]
        refine ⟨nofun, ?_⟩
        rintro _ ⟨⟩
        refine hc.set ha (hlive.of_state rfl rfl ?_)
        rintro _ ⟨⟩ hfilled
        obtain ⟨hauthentication, hdescription⟩ := pushCandidate_messages hpush
        rw [hauthentication, hdescription] at hfilled
        exact hlive.messages pending hreconnect hfilled

theorem handleActiveReconnectEnvelope_retains :
    Keeps (Retains nowUnixMs)
      (handleActiveReconnectEnvelope crypto env envelope nowUnixMs) := by
  refine .bind .orThrow fun payload => ?_
  split
  · exact .bind beginActiveReconnect_retains fun _ =>
      .bind (onActive_retains (prepareReconnect_continues _ _)) fun _ => .bind .require fun _ =>
      .bind (onActive_retains (setReconnect_continues _)) fun _ => .bind .require fun _ =>
      tryRestartActive_retains _
  · exact .bind (handleActiveNegotiation_retains _ _) fun _ => tryRestartActive_retains _
  · exact .throw _

theorem handleActiveReconnectEnvelope_consistent :
    Keeps (Carried Consistent) (handleActiveReconnectEnvelope crypto env envelope now) := by
  refine .bind .orThrow fun payload => ?_
  split
  · exact beginActiveReconnect_bind
      (.bind (onActive_waits (prepareReconnect_waits _ _)) fun _ => .bind .require fun _ =>
        .bind (onActive_waits (setReconnect_waits _)) fun _ => .bind .require fun _ =>
        tryRestartActive_waits _)
  · exact .bind (handleActiveNegotiation_consistent _ _ _) fun _ => tryRestartActive_consistent _
  · exact .throw _

/-! ### Ending a session -/

/-- The active session, if there is one, is closed and dropped. -/
structure Ends (c c' : RemoteSessionCoordinator) : Prop where
  active : c'.active = none
  closed : c'.closed = c.closed
  retired : (c.active = none ∧ c'.retired = c.retired) ∨
    ∃ a ended, c.active = some a ∧ c'.retired = c.retired ++ [ended] ∧
      Quiet a.session ended ∧ ended.state = .closed

theorem Ends.delivered (h : Ends c c') : c'.delivered = c.delivered := by
  unfold RemoteSessionCoordinator.delivered
  rw [h.active]
  rcases h.retired with ⟨hnone, hretired⟩ | ⟨a, ended, ha, hretired, hquiet, _⟩
  · rw [hnone, hretired]
  · rw [ha, hretired]
    simp [hquiet.inputs]

variable (s : HostPeerSession)

theorem dropped_spec :
    Quiet s s.dropped ∧ s.dropped.state = .closed :=
  close_spec s

theorem closeActive_spec (finalError : Option ErrorCode) (c : RemoteSessionCoordinator) :
    wp (closeActive env finalError) (fun _ c' => Ends c c') c := by
  unfold closeActive
  rw [wp_get_bind]
  split
  · next hnone =>
      rw [wp_onlyIf]
      have hends : Ends c c := ⟨hnone, rfl, .inl ⟨hnone, rfl⟩⟩
      exact ⟨fun _ => hends, fun _ => hends⟩
  · next a ha =>
      obtain ⟨hclosed, _⟩ := close_spec a.session
      obtain ⟨hdropped, hstate⟩ := dropped_spec (close a.session).2
      have hends : Ends c { c with
          active := none
          sessions := (c.sessions.unregister a.sessionId).1
          retired := c.retired ++ [(close a.session).2.dropped] } :=
        ⟨rfl, rfl, .inr ⟨a, _, ha, rfl, hclosed.trans hdropped, hstate⟩⟩
      rw [wp_modify_bind]
      have hstill : Keeps Eq (do
          ofResult ((close a.session).1.mapError mapPeerError)
          ofResult (((c.sessions.unregister a.sessionId).2.map fun _ => ()).mapError
            fun _ => RemoteSessionError.service)
          updateRemoteStatus env (if finalError = none then .idle else .failed)) :=
        .bind .ofResult fun _ => .bind .ofResult fun _ => .require
      refine wp_mono (hstill _) ?_
      rintro _ _ rfl
      exact hends

/-- The window of the active session has passed. -/
def Expired (nowUnixMs : UInt64) (c : RemoteSessionCoordinator) : Prop :=
  ∃ a deadline, c.active = some a ∧ a.reconnectDeadlineUnixMs = some deadline ∧
    deadline ≤ nowUnixMs

/-- The session ends with its window, and only then. -/
theorem expireActiveReconnect_spec (c : RemoteSessionCoordinator) :
    wp (expireActiveReconnect env nowUnixMs) (fun r c' =>
      (Expired nowUnixMs c ∧ Ends c c' ∧ r ≠ .ok false) ∨
      (¬ Expired nowUnixMs c ∧ c' = c ∧ r = .ok false)) c := by
  have hexpired : (c.reconnectDeadlineUnixMs.any fun deadline => deadline ≤ nowUnixMs) = true ↔
      Expired nowUnixMs c := by
    simp only [Option.any_eq_true, decide_eq_true_eq, reconnectDeadlineUnixMs,
      Option.bind_eq_some_iff, Expired]
    constructor
    · rintro ⟨deadline, ⟨a, ha, hdeadline⟩, hle⟩
      exact ⟨a, deadline, ha, hdeadline, hle⟩
    · rintro ⟨a, deadline, ha, hdeadline, hle⟩
      exact ⟨deadline, ⟨a, ha, hdeadline⟩, hle⟩
  unfold expireActiveReconnect
  simp only [wp_bind, wp_get, andThen_ok, wp_onlyIf, wp_pure]
  refine ⟨fun h => ?_, fun h => .inr ⟨fun hexp => h (hexpired.mpr hexp), trivial, ?_⟩⟩
  · refine wp_mono (closeActive_spec _ c) ?_
    rintro (error | _) c' hends
    · exact .inl ⟨hexpired.mp h, hends, by rintro ⟨⟩⟩
    · refine .inl ⟨hexpired.mp h, hends, ?_⟩
      rw [h]
      rintro ⟨⟩
  · rw [Bool.not_eq_true] at h
    rw [h]

/-! ### Starting a session -/

/-- A session that has just been started. -/
structure Fresh (a : ActiveSession) : Prop where
  state : a.session.state = .negotiating
  deadline : a.reconnectDeadlineUnixMs = none
  reconnect : a.reconnect = none
  inputs : a.session.inputs = []

/-- From no active session to none or one that has just been started. -/
def Starts (c c' : RemoteSessionCoordinator) : Prop :=
  (∀ a, c.active = some a → Fresh a) → (∀ a, c'.active = some a → Fresh a) ∧
    c'.delivered = c.delivered ∧ c'.closed = c.closed

theorem Fresh.live {a : ActiveSession} (h : Fresh a) : a.Live where
  state := .inl h.state
  connected hconnected := by
    rw [h.state] at hconnected
    cases hconnected
  reconnecting hreconnecting := by
    rw [h.state] at hreconnecting
    cases hreconnecting
  messages pending hpending := by
    rw [h.reconnect] at hpending
    cases hpending

instance : IsPreorder RemoteSessionCoordinator Starts where
  refl _ h := ⟨h, rfl, rfl⟩
  trans c₁ c₂ c₃ h h' hfresh := by
    obtain ⟨hactive, hdelivered, hclosed⟩ := h hfresh
    obtain ⟨hactive', hdelivered', hclosed'⟩ := h' hactive
    exact ⟨hactive', hdelivered'.trans hdelivered, hclosed'.trans hclosed⟩

theorem Starts.of_eq (hactive : c'.active = c.active) (hretired : c'.retired = c.retired)
    (hclosed : c'.closed = c.closed) : Starts c c' := by
  intro hfresh
  refine ⟨fun a ha => hfresh a (hactive ▸ ha), ?_, hclosed⟩
  unfold delivered
  rw [hactive, hretired]

/-- A dropped session that nothing has reached adds no input. -/
theorem abandon_starts {session : HostPeerSession} {error : RemoteSessionError}
    (h : session.inputs = []) : Keeps Starts (abandon session error : CoordinatorM α) := by
  refine .bind (.modify fun c hfresh => ⟨hfresh, ?_, rfl⟩) fun _ => .throw _
  have hinputs : ((close session).2.dropped).inputs = [] := by
    rw [(dropped_spec _).1.inputs, (close_spec session).1.inputs, h]
  simp [delivered, hinputs]

theorem unregisterAndAbandon_starts {sessionId : Bytes} {session : HostPeerSession}
    {error : RemoteSessionError} (h : session.inputs = []) :
    Keeps Starts (unregisterAndAbandon sessionId session error : CoordinatorM α) :=
  .bind (.modify fun _ => .of_eq rfl rfl rfl) fun _ => abandon_starts h

theorem addPendingCandidates_spec :
    wp (addPendingCandidates candidates) (fun _ s' => Quiet s s' ∧
      s'.state = s.state) s := by
  induction candidates generalizing s with
  | nil => exact ⟨.refl s, rfl⟩
  | cons candidate candidates ih =>
    unfold addPendingCandidates
    rw [wp_bind]
    refine wp_mono (addRemoteIceCandidate_spec candidate s) ?_
    rintro (error | _) s' ⟨hquiet, hstate⟩
    · exact ⟨hquiet, hstate⟩
    · rw [andThen_ok]
      refine wp_mono (ih s') ?_
      rintro _ s'' ⟨hquiet', hstate'⟩
      exact ⟨hquiet.trans hquiet', hstate'.trans hstate⟩

theorem activateVerifiedSession_starts (verified : VerifiedSessionOffer) : Keeps Starts
      (activateVerifiedSession crypto env authentication description candidates verified) := by
  refine .bind .ofResult fun parts => fun c => ?_
  rw [wp_bind, wp_ofResult]
  cases hnew : HostPeerSession.new verified.sessionId verified.permissions
      { negotiate := parts.negotiate, acknowledge := parts.acknowledge, calls := [] }
      { respond := parts.respond, calls := [] } with
  | error error => exact Starts.of_eq rfl rfl rfl
  | ok session =>
    rw [Except.mapError, andThen_ok]
    have hinput : session.inputs = [] := by
      unfold inputs
      rw [(new_inputAllowed hnew).2.2.1]
      rfl
    have hoffer := acceptOffer_spec description.sdp session
    unfold wp at hoffer
    rcases hresult : acceptOffer description.sdp session with
      ⟨error | answer, offered⟩
    all_goals rw [hresult] at hoffer
    · exact abandon_starts (hoffer.1.inputs.trans hinput) c
    have hoffered : offered.inputs = [] := hoffer.1.inputs.trans hinput
    dsimp only
    split
    · exact abandon_starts hoffered c
    refine Keeps.bind .get (fun _ => ?_) c
    split
    · exact abandon_starts hoffered
    refine .bind (.modify fun _ => .of_eq rfl rfl rfl) fun _ => .ite ?_
      (unregisterAndAbandon_starts hoffered)
    have hadded := addPendingCandidates_spec candidates offered
    unfold wp at hadded
    rcases hresult' : addPendingCandidates candidates offered with ⟨error | _, added⟩
    all_goals rw [hresult'] at hadded
    · exact unregisterAndAbandon_starts (hadded.1.inputs.trans hoffered)
    refine .ite (.bind (.modify fun c hfresh => ?_) fun _ => .pure _)
      (unregisterAndAbandon_starts (hadded.1.inputs.trans hoffered))
    have hinputs : added.inputs = [] := hadded.1.inputs.trans hoffered
    refine ⟨?_, ?_, rfl⟩
    · rintro _ ⟨⟩
      exact ⟨hadded.2.trans (hoffer.2 answer rfl).1, rfl, rfl, hinputs⟩
    · unfold delivered
      cases hactive : c.active with
      | none => simp [hinputs]
      | some a => simp [hinputs, (hfresh a hactive).inputs]

theorem startPending_starts :
    Keeps Starts (startPending crypto env pending now) := by
  refine .bind .orThrow fun _ => .bind .orThrow fun _ => .bind .require fun _ =>
    .bind (fun c => ?_) fun _ => .bind .require fun _ =>
    .bind (activateVerifiedSession_starts _ _ _ _) fun _ => .bind (outbound_keeps _ _ _ _) fun _ =>
    .bind (outbound_keeps _ _ _ _) fun _ => .pure _
  refine wp_mono (verifyRemoteOffer_spec _ _ _ c) ?_
  rintro _ _ ⟨verifier, rfl⟩
  exact .of_eq rfl rfl rfl

theorem tryStartPending_starts :
    Keeps Starts (tryStartPending crypto env now) := by
  refine .bind .get fun c => ?_
  split
  · exact .pure _
  · refine .ite (.bind (.modify fun _ => .of_eq rfl rfl rfl) fun _ =>
      .bind (.outcome (startPending_starts _ _)) fun result => ?_) (.pure _)
    cases result with
    | ok outbound => exact .pure _
    | error error =>
      exact .bind (.modify fun _ => .of_eq rfl rfl rfl) fun _ =>
        .bind (outbound_keeps _ _ _ _) fun _ => .pure _

theorem preparePending_starts (controllerDeviceId sessionId : Bytes) (requestId : String)
    (now : UInt64) :
    Keeps Starts (preparePending controllerDeviceId sessionId requestId now) := by
  refine .bind .get fun c => ?_
  split
  · exact .bind (.modify fun _ => .of_eq rfl rfl rfl) fun _ => .pure _
  · exact .ite (.bind (.modify fun _ => .of_eq rfl rfl rfl) fun _ => .pure _) (.pure _)

theorem collectPending_starts (payload : SignalingPayload) :
    Keeps Starts (collectPending pending payload) := by
  unfold collectPending
  split
  · exact .bind (.modify fun _ => .of_eq rfl rfl rfl) fun _ => .require
  · refine .bind .orThrow fun payload => ?_
    cases payload with
    | description description =>
      exact .bind .require fun _ => .bind (.modify fun _ => .of_eq rfl rfl rfl) fun _ => .require
    | iceCandidate candidate =>
      exact .bind .ofResult fun _ => .modify fun _ => .of_eq rfl rfl rfl
    | endOfCandidates => exact .pure _
  · exact .throw _

theorem handlePendingEnvelope_starts :
    Keeps Starts (handlePendingEnvelope crypto env envelope now) := by
  refine .bind .orThrow fun payload => ?_
  split
  · exact .bind .require fun _ => .bind (.modify fun _ => .of_eq rfl rfl rfl) fun _ => .pure _
  · refine .bind .orThrow fun sessionId => .bind (preparePending_starts _ _ _ _) fun prepared => ?_
    cases prepared with
    | none => exact .bind (outbound_keeps _ _ _ _) fun _ => .pure _
    | some pending => exact .bind (collectPending_starts _ _) fun _ => tryStartPending_starts _

/-! ## What one operation can do -/

/-- The time at which an action happens. -/
def Action.time : Action → UInt64
  | .routed _ _ now | .peerEvent _ now | .tick now | .receive _ now | .termination _ now
  | .signalingLost now | .privilegedRouteChanged now => now
  | .shutdown => 0

/-- The peer event that an action hands to the coordinator. -/
def Action.event? : Action → Option RemotePeerEvent
  | .peerEvent event _ => some event
  | .receive (.ok event) _ => event
  | _ => none

/-- What one operation does to the active session and to the input delivered. -/
inductive Effect (action : Action) (c c' : RemoteSessionCoordinator) : Prop
  /-- The session goes on. -/
  | retains (retains : Retains action.time c c') (consistent : Consistent c → Consistent c')
  /-- There is no session any more. -/
  | ends (active : c'.active = none) (delivered : c'.delivered = c.delivered)
  /-- A session has been started. -/
  | starts (a : ActiveSession) (active : c'.active = some a) (fresh : Fresh a)
      (delivered : c'.delivered = c.delivered) (closed : c'.closed = false)
  /-- The peer is connected. -/
  | connects (event : action.event? = some .connected) (a a' : ActiveSession)
      (before : c.active = some a) (after : c'.active = some a')
      (state : a'.session.state = .connected) (deadline : a'.reconnectDeadlineUnixMs = none)
      (reconnect : a'.reconnect = none) (delivered : c'.delivered = c.delivered)
      (closed : c'.closed = false)
  /-- Input may have passed. -/
  | passes (a a' : ActiveSession) (before : c.active = some a)
      (ready : a.session.Ready) (window : a.reconnectDeadlineUnixMs = none)
      (after : c'.active = some a') (state : a'.session.state = .connected)
      (deadline : a'.reconnectDeadlineUnixMs = none) (reconnect : a'.reconnect = a.reconnect)
      (closed : c'.closed = false)
  /-- Input may have passed, and has ended the session. -/
  | passesAndEnds (a : ActiveSession) (before : c.active = some a)
      (ready : a.session.Ready) (window : a.reconnectDeadlineUnixMs = none)
      (active : c'.active = none)

variable {action : Action}

theorem Effect.of_ends (h : Ends c c') : Effect action c c' := .ends h.active h.delivered

theorem Effect.of_eq (hactive : c'.active = c.active) (hretired : c'.retired = c.retired)
    (hclosed : c'.closed = c.closed) : Effect action c c' := by
  refine .retains (.of_eq hretired hclosed hactive) fun h => ⟨?_, ?_⟩
  · rw [hactive]
    exact h.live
  · rw [hactive, hclosed]
    exact h.closed

/-- Input passes a session that is ready, and ends one that is not. -/
theorem handleInput_effect {α : Type} {handle : SessionM α} {finish : CoordinatorM Unit}
    {P : HostPeerSession → Prop} (hclosed : c.closed = false)
    (hhandle : ∀ s, wp handle (fun r s' => Passed s s' ∧
      (¬ s.Ready → s' = s ∧ r.isOk = false)) s)
    (hok : ∀ s, s.Ready → wp handle (fun r s' => r.isOk → P s') s)
    (hfinish : ∀ c a, c.active = some a → P a.session →
      wp finish (fun _ c' => (a.session.state ≠ .closed ∧ c' = c) ∨ c'.active = none) c) :
    wp (handleInput env handle finish) (fun _ c' => Effect action c c') c := by
  unfold handleInput
  simp only [wp_bind, wp_get, andThen_ok, wp_ite, wp_pure]
  refine ⟨fun _ => .of_eq rfl rfl rfl, fun hwindow => ?_⟩
  rw [wp_onActive]
  refine ⟨fun _ => .of_eq rfl rfl rfl, fun a ha => ?_⟩
  have hdeadline : a.reconnectDeadlineUnixMs = none := by
    simpa [reconnectDeadlineUnixMs, ha] using hwindow
  unfold onSession
  simp only [wp_outcome, wp_zoom, wp_mapError]
  by_cases hready : a.session.Ready
  · refine wp_mono (wp_and (hhandle a.session) (hok a.session hready)) ?_
    rintro r s' ⟨⟨hpassed, _⟩, hok⟩
    cases r with
    | error error =>
      simp only [Except.mapError, andThen_ok, wp_bind]
      refine wp_mono (closeActive_spec _ _) ?_
      rintro (error | _) c' hends
      · exact .passesAndEnds a ha hready hdeadline hends.active
      · exact .passesAndEnds a ha hready hdeadline hends.active
    | ok _ =>
      simp only [Except.mapError, andThen_ok, wp_bind]
      refine wp_mono (hfinish _ { a with session := s' } rfl (hok rfl)) ?_
      rintro r c' hc'
      have heffect : Effect action c c' := by
        rcases hc' with ⟨hopen, rfl⟩ | hended
        · have hstate : s'.state = .connected :=
            (hpassed.state.resolve_right hopen).trans hready.connected
          exact .passes a { a with session := s' } ha hready hdeadline rfl hstate hdeadline rfl
            hclosed
        · exact .passesAndEnds a ha hready hdeadline hended
      cases r with
      | error error => exact heffect
      | ok _ => exact heffect
  · refine wp_mono (hhandle a.session) ?_
    rintro r s' ⟨_, hrefused⟩
    obtain ⟨rfl, hfailed⟩ := hrefused hready
    cases r with
    | ok _ => cases hfailed
    | error error =>
      simp only [Except.mapError, andThen_ok, wp_bind]
      have hsame : { c with active := some { a with session := a.session } } = c := by
        cases c
        cases ha
        rfl
      rw [hsame]
      refine wp_mono (closeActive_spec _ c) ?_
      rintro (error | _) c' hends
      · exact .of_ends hends
      · exact .of_ends hends

theorem closeEnded_spec {a : ActiveSession} (ha : c.active = some a) :
    wp (closeEnded env) (fun _ c' => (a.session.state ≠ .closed ∧ c' = c) ∨ c'.active = none)
      c := by
  unfold closeEnded
  simp only [wp_bind, wp_get, andThen_ok, wp_onlyIf, ha, Option.any_some, decide_eq_true_eq]
  refine ⟨fun _ => wp_mono (closeActive_spec _ c) fun _ _ h => .inr h.active, fun h => ?_⟩
  exact .inl ⟨h, trivial⟩

theorem beginActiveReconnect_consistent (now : UInt64) :
    Keeps (Carried Consistent) (beginActiveReconnect env now) := by
  refine .of_carried fun c hc => wp_mono (beginActiveReconnect_spec hc) ?_
  rintro _ c' (⟨hwaits, _⟩ | ⟨_, hconsistent, _⟩)
  · exact hwaits.consistent
  · exact hconsistent

/-- An operation that goes on with the session. -/
theorem Effect.of_keeps {α : Type} {m : CoordinatorM α} (hretains : Keeps (Retains action.time) m)
    (hconsistent : Keeps (Carried Consistent) m) (c : RemoteSessionCoordinator) :
    wp m (fun _ c' => Effect action c c') c :=
  wp_mono (wp_and (hretains c) (hconsistent c)) fun _ _ h => .retains h.1 h.2

theorem closeActiveWithRemoteNotification_effect (now : UInt64) (finalError : Option ErrorCode)
    (c : RemoteSessionCoordinator) :
    wp (closeActiveWithRemoteNotification env now finalError)
      (fun _ c' => Effect action c c') c := by
  unfold closeActiveWithRemoteNotification
  rw [wp_get_bind]
  split
  · exact .of_eq rfl rfl rfl
  · rw [wp_bind]
    refine wp_mono (outbound_still _ _ _ _ c) ?_
    rintro (error | status) _ rfl
    · exact .of_eq rfl rfl rfl
    · rw [andThen_ok, wp_bind]
      refine wp_mono (closeActive_spec _ _) ?_
      rintro (error | _) c' hends
      · exact .of_ends hends
      · exact .of_ends hends

/-- A connected peer ends the renegotiation. -/
theorem handleConnected_effect (hevent : action.event? = some .connected)
    (hclosed : c.closed = false) :
    wp (do
      onActive .peer (onSession (fun _ => .peer) markConnected)
      onActive .peer (modify fun active => { active with
        reconnect := none
        reconnectDeadlineUnixMs := none })
      updateRemoteStatus env .connected
      return ([] : List RemoteSessionOutbound)) (fun _ c' => Effect action c c') c := by
  rw [wp_bind, wp_onActive]
  refine ⟨fun _ => .of_eq rfl rfl rfl, fun a ha => ?_⟩
  unfold onSession
  rw [wp_zoom, wp_mapError]
  refine wp_mono (markConnected_spec a.session) ?_
  rintro r s' (⟨rfl, rfl⟩ | ⟨hfailed, rfl⟩)
  · have heffect : Effect action c { c with active := some { a with
        session := { a.session with state := .connected }
        reconnect := none
        reconnectDeadlineUnixMs := none } } := by
      refine .connects hevent a _ ha rfl rfl rfl rfl ?_ hclosed
      unfold delivered
      rw [ha]
      rfl
    simp only [Except.mapError, andThen_ok, wp_bind, wp_onActive]
    refine ⟨(by intros; contradiction), ?_⟩
    rintro _ ⟨⟩
    rw [wp_modify, andThen_ok, wp_bind]
    unfold updateRemoteStatus
    rw [wp_require]
    exact ⟨fun _ => heffect, fun _ => heffect⟩
  · cases r with
    | ok _ => cases hfailed
    | error error => exact .of_eq ha.symm rfl rfl

theorem handlePeerEvent_effect {event : RemotePeerEvent} (hevent : action.event? = some event)
    (htime : action.time = nowUnixMs) :
    wp (handlePeerEvent env event nowUnixMs) (fun _ c' => Effect action c c') c := by
  subst htime
  unfold handlePeerEvent
  simp only [wp_bind, wp_get, andThen_ok, wp_require, andThen_error]
  refine ⟨fun hclosed => ?_, fun _ => .of_eq rfl rfl rfl⟩
  refine wp_mono (expireActiveReconnect_spec c) ?_
  rintro r c' (⟨_, hends, hexpired⟩ | ⟨_, rfl, rfl⟩)
  · cases r with
    | error error => exact .of_ends hends
    | ok expired =>
      cases expired with
      | false => exact absurd rfl hexpired
      | true => exact .of_ends hends
  simp only [andThen_ok, wp_ite]
  refine ⟨(by intros; contradiction), fun _ => ?_⟩
  cases event with
  | connected => exact handleConnected_effect hevent hclosed
  | localIceCandidate candidate =>
    exact Effect.of_keeps
      (.bind .get fun _ => .bind .orThrow fun _ => .bind (outbound_keeps _ _ _ _) fun _ => .pure _)
      (.bind .get fun _ => .bind .orThrow fun _ => .bind (outbound_keeps _ _ _ _) fun _ => .pure _)
      _
  | reliableInput decoded =>
    exact handleInput_effect (P := fun _ => True) hclosed (handleReliable_spec decoded)
      (fun _ _ => fun _ => trivial) (fun c a ha _ => closeEnded_spec ha)
  | fastPointer decoded =>
    refine handleInput_effect (P := fun s => s.state = .connected) hclosed
      (handlePointerFast_spec decoded) (fun s hready => ?_) (fun c a ha hP => ?_)
    · refine wp_mono (handlePointerFast_ok decoded s) ?_
      exact fun _ _ h hr => (h hr).trans hready.connected
    · refine .inl ⟨?_, rfl⟩
      rw [hP]
      rintro ⟨⟩
  | disconnected =>
    exact Effect.of_keeps (.bind beginActiveReconnect_retains fun _ => .pure _)
      (.bind (beginActiveReconnect_consistent _) fun _ => .pure _) _
  | failed =>
    exact Effect.of_keeps (.bind beginActiveReconnect_retains fun _ => .pure _)
      (.bind (beginActiveReconnect_consistent _) fun _ => .pure _) _
  | localStop => exact closeActiveWithRemoteNotification_effect _ _ _

theorem handleActiveEnvelope_effect (envelope : SignalingEnvelope) (c : RemoteSessionCoordinator) :
    wp (handleActiveEnvelope crypto env envelope action.time) (fun _ c' => Effect action c c')
      c := by
  unfold handleActiveEnvelope
  split
  · exact Effect.of_keeps (handleActiveReconnectEnvelope_retains _)
      (handleActiveReconnectEnvelope_consistent _ _) c
  · exact Effect.of_keeps (handleActiveReconnectEnvelope_retains _)
      (handleActiveReconnectEnvelope_consistent _ _) c
  · simp only [wp_bind, wp_get, andThen_ok, wp_require, wp_orThrow, andThen_error]
    refine ⟨fun _ => ⟨fun a _ => ⟨fun _ => ?_, fun _ => .of_eq rfl rfl rfl⟩,
      fun _ => .of_eq rfl rfl rfl⟩, fun _ => .of_eq rfl rfl rfl⟩
    refine wp_mono (closeActive_spec _ c) ?_
    rintro (error | _) c' hends
    · exact .of_ends hends
    · exact .of_ends hends
  · exact .of_eq rfl rfl rfl

/-- The pending part of the coordinator plays no role for the session. -/
theorem Effect.of_before {c₁ : RemoteSessionCoordinator} (h : Effect action c₁ c')
    (hactive : c₁.active = c.active) (hretired : c₁.retired = c.retired)
    (hclosed : c₁.closed = c.closed) : Effect action c c' := by
  have hdelivered : c₁.delivered = c.delivered := by
    unfold delivered
    rw [hactive, hretired]
  cases h with
  | retains hretains hconsistent =>
    refine .retains (IsTrans.trans _ _ _ (.of_eq hretired hclosed hactive) hretains)
      fun h => hconsistent ⟨?_, ?_⟩
    · rw [hactive]
      exact h.live
    · rw [hactive, hclosed]
      exact h.closed
  | ends hended hsame => exact .ends hended (hsame.trans hdelivered)
  | starts a hafter hfresh hsame hopen =>
    exact .starts a hafter hfresh (hsame.trans hdelivered) hopen
  | connects hevent a a' hbefore hafter hstate hdeadline hreconnect hsame hopen =>
    exact .connects hevent a a' (hactive ▸ hbefore) hafter hstate hdeadline hreconnect
      (hsame.trans hdelivered) hopen
  | passes a a' hbefore hready hwindow hafter hstate hdeadline hreconnect hopen =>
    exact .passes a a' (hactive ▸ hbefore) hready hwindow hafter hstate hdeadline hreconnect
      hopen
  | passesAndEnds a hbefore hready hwindow hended =>
    exact .passesAndEnds a (hactive ▸ hbefore) hready hwindow hended

/-- From no active session. -/
theorem handlePendingEnvelope_effect (envelope : SignalingEnvelope) (now : UInt64)
    {c₁ : RemoteSessionCoordinator} (hactive : c₁.active = none) (hclosed : c₁.closed = false)
    (hdelivered : c₁.delivered = c.delivered) :
    wp (handlePendingEnvelope crypto env envelope now) (fun _ c' => Effect action c c') c₁ := by
  refine wp_mono (handlePendingEnvelope_starts envelope now c₁) ?_
  intro _ c' hstarts
  have hnone : ∀ a, c₁.active = some a → Fresh a := by
    intro a ha
    rw [hactive] at ha
    cases ha
  obtain ⟨hfresh, hdelivered', hclosed'⟩ := hstarts hnone
  cases hafter : c'.active with
  | none => exact .ends hafter (hdelivered'.trans hdelivered)
  | some a =>
    exact .starts a hafter (hfresh a hafter) (hdelivered'.trans hdelivered) (hclosed'.trans hclosed)

theorem handleRouted_effect (htime : action.time = nowUnixMs) (senderDeviceId : Bytes)
    (decoded : Option SignalingEnvelope) (c : RemoteSessionCoordinator) :
    wp (handleRouted crypto env senderDeviceId decoded nowUnixMs)
      (fun _ c' => Effect action c c') c := by
  subst htime
  unfold handleRouted expirePending
  simp only [wp_bind, wp_get, andThen_ok, wp_require, wp_orThrow, andThen_error, wp_ofResult]
  refine ⟨fun hclosed => ⟨fun envelope _ => ?_, fun _ => .of_eq rfl rfl rfl⟩,
    fun _ => .of_eq rfl rfl rfl⟩
  cases validateEnvelopeFields envelope with
  | error error => exact .of_eq rfl rfl rfl
  | ok _ => ?_
  simp only [Except.mapError, andThen_ok, wp_bind, wp_require, andThen_error, wp_modify]
  refine ⟨fun _ => ?_, fun _ => .of_eq rfl rfl rfl⟩
  refine wp_mono (expireActiveReconnect_spec _) ?_
  rintro r c' (⟨_, hends, _⟩ | ⟨_, rfl, rfl⟩)
  · have hended : Effect action c c' := .ends hends.active hends.delivered
    cases r with
    | error error => exact hended
    | ok expired =>
      simp only [andThen_ok, wp_bind, wp_get, wp_ite, wp_pure]
      refine ⟨fun _ => hended, fun _ => ?_⟩
      rw [hends.active]
      exact handlePendingEnvelope_effect _ _ hends.active (hends.closed.trans hclosed)
        hends.delivered
  · simp only [andThen_ok, wp_bind, wp_get, wp_ite, wp_pure]
    refine ⟨fun _ => .of_eq rfl rfl rfl, fun _ => ?_⟩
    split
    · next hactive => exact handlePendingEnvelope_effect _ _ hactive hclosed rfl
    · rw [wp_ite]
      refine ⟨fun _ => ?_, fun _ => ?_⟩
      · refine wp_mono (handleActiveEnvelope_effect envelope _) ?_
        exact fun _ _ h => h.of_before rfl rfl rfl
      · rw [wp_bind]
        refine wp_mono (outbound_still _ _ _ _ _) ?_
        rintro (error | _) _ rfl
        · exact .of_eq rfl rfl rfl
        · exact .of_eq rfl rfl rfl

theorem receivePeerEvent_effect {received : Received} {now : UInt64}
    (haction : action = .receive received now) :
    wp (receivePeerEvent env received now) (fun _ c' => Effect action c c') c := by
  unfold receivePeerEvent
  rw [wp_get_bind]
  split
  · exact .of_eq rfl rfl rfl
  · exact .of_eq rfl rfl rfl
  · next event _ =>
      subst haction
      apply handlePeerEvent_effect
      · rfl
      · rfl
  · rw [wp_bind]
    refine wp_mono (closeActive_spec _ c) ?_
    rintro (error | _) c' hends
    · exact .of_ends hends
    · exact .of_ends hends

theorem signalingLost_effect (htime : action.time = nowUnixMs) (c : RemoteSessionCoordinator) :
    wp (signalingLost env nowUnixMs) (fun _ c' => Effect action c c') c := by
  subst htime
  unfold signalingLost
  simp only [wp_bind, wp_modify, andThen_ok, wp_get]
  split
  · exact .of_eq rfl rfl rfl
  · rw [wp_bind, wp_outcome]
    refine wp_mono (wp_and (beginActiveReconnect_retains _) (beginActiveReconnect_consistent _ _))
      ?_
    rintro (error | _) c' ⟨hretains, hconsistent⟩
    · simp only [andThen_ok, wp_bind]
      refine wp_mono (closeActive_spec _ c') ?_
      have hdelivered := hretains.delivered
      rintro (error | _) c'' hends
      · exact .ends hends.active (hends.delivered.trans hdelivered)
      · exact .ends hends.active (hends.delivered.trans hdelivered)
    · exact (Effect.retains hretains hconsistent).of_before rfl rfl rfl

theorem shutdown_effect (c : RemoteSessionCoordinator) :
    wp (shutdown env) (fun _ c' => Effect action c c') c := by
  unfold shutdown
  simp only [wp_bind, wp_modify, andThen_ok]
  refine wp_mono (closeActive_spec _ _) ?_
  rintro (error | _) c' hends
  · exact .ends hends.active hends.delivered
  · exact .ends hends.active hends.delivered

/-- An operation whose result is not used. -/
theorem silently_effect {α : Type} {m : CoordinatorM α}
    (h : wp m (fun _ c' => Effect action c c') c) :
    wp (silently m) (fun _ c' => Effect action c c') c := by
  unfold silently
  rw [wp_bind]
  refine wp_mono h ?_
  rintro (error | _) c' heffect
  · exact heffect
  · exact heffect

/-- What one operation can do, whichever it is. -/
theorem perform_effect (input : Input) (c : RemoteSessionCoordinator) :
    wp (perform crypto input) (fun _ c' => Effect input.action c c') c := by
  obtain ⟨env, action⟩ := input
  unfold perform
  cases action with
  | routed senderDeviceId decoded now =>
    dsimp only
    refine handleRouted_effect ?_ senderDeviceId decoded c
    rfl
  | peerEvent event now =>
    dsimp only
    apply handlePeerEvent_effect
    · rfl
    · rfl
  | tick now =>
    refine silently_effect (wp_mono (expireActiveReconnect_spec c) ?_)
    rintro r c' (⟨_, hends, _⟩ | ⟨_, rfl, _⟩)
    · exact .of_ends hends
    · exact .of_eq rfl rfl rfl
  | receive received now =>
    dsimp only
    apply receivePeerEvent_effect
    rfl
  | termination event now =>
    dsimp only
    unfold handleTermination
    rw [wp_get_bind, wp_ite]
    exact ⟨fun _ => closeActiveWithRemoteNotification_effect _ _ c, fun _ => .of_eq rfl rfl rfl⟩
  | signalingLost now =>
    refine silently_effect (signalingLost_effect ?_ c)
    rfl
  | privilegedRouteChanged now =>
    refine silently_effect (Effect.of_keeps ?_ ?_ c)
    · exact .bind .get fun _ => .onlyIf beginActiveReconnect_retains
    · exact .bind .get fun _ => .onlyIf (beginActiveReconnect_consistent _)
  | shutdown => exact silently_effect (shutdown_effect c)

/-! ## What follows for one step -/

/-- Every operation keeps the guards in agreement. -/
theorem Effect.consistent (h : Effect action c c') (hc : Consistent c) : Consistent c' := by
  cases h with
  | retains _ hconsistent => exact hconsistent hc
  | ends hended _ =>
    refine ⟨fun a ha => ?_, fun _ => hended⟩
    rw [hended] at ha
    cases ha
  | starts a hafter hfresh _ hopen =>
    refine ⟨fun b hb => ?_, fun hclosed => ?_⟩
    · rw [hafter] at hb
      cases hb
      exact hfresh.live
    · rw [hopen] at hclosed
      cases hclosed
  | connects _ a a' _ hafter hstate hdeadline hreconnect _ hopen =>
    refine ⟨fun b hb => ?_, fun hclosed => ?_⟩
    · rw [hafter] at hb
      cases hb
      refine ⟨.inr (.inl hstate), fun _ => hdeadline, fun h => ?_, fun pending h => ?_⟩
      · rw [hstate] at h
        cases h
      · rw [hreconnect] at h
        cases h
    · rw [hopen] at hclosed
      cases hclosed
  | passes a a' hbefore _ hwindow hafter hstate hdeadline hreconnect hopen =>
    refine ⟨fun b hb => ?_, fun hclosed => ?_⟩
    · rw [hafter] at hb
      cases hb
      refine ⟨.inr (.inl hstate), fun _ => hdeadline, fun h => ?_, fun pending h hfilled => ?_⟩
      · rw [hstate] at h
        cases h
      · have hsome := (hc.live a hbefore).messages pending (hreconnect ▸ h) hfilled
        rw [hwindow] at hsome
        cases hsome
    · rw [hopen] at hclosed
      cases hclosed
  | passesAndEnds a _ _ _ hended =>
    refine ⟨fun b hb => ?_, fun _ => hended⟩
    rw [hended] at hb
    cases hb

/-- Input is delivered only while both guards let it through. -/
theorem Effect.gated (h : Effect action c c') (hdelivered : c'.delivered ≠ c.delivered) :
    c.InputOpen := by
  cases h with
  | retains hretains _ => exact absurd hretains.delivered hdelivered
  | ends _ hsame => exact absurd hsame hdelivered
  | starts _ _ _ hsame _ => exact absurd hsame hdelivered
  | connects _ _ _ _ _ _ _ _ hsame _ => exact absurd hsame hdelivered
  | passes a _ hbefore hready hwindow _ _ _ _ _ =>
    exact ⟨a, hbefore, hready.connected, hready.allowed, hwindow⟩
  | passesAndEnds a hbefore hready hwindow _ =>
    exact ⟨a, hbefore, hready.connected, hready.allowed, hwindow⟩

/-- There is a connected session. -/
def Connected (c : RemoteSessionCoordinator) : Prop :=
  ∃ a, c.active = some a ∧ a.session.state = .connected

/-- A session becomes connected by the notice of its peer alone. -/
theorem Effect.connected (h : Effect action c c') (hafter : c'.Connected) :
    c.Connected ∨ action.event? = some .connected := by
  obtain ⟨a', ha', hstate'⟩ := hafter
  cases h with
  | retains hretains _ =>
    rcases hretains.active with ⟨_, hnone⟩ | ⟨a, a'', ha, ha'', hcontinues⟩
    · rw [hnone] at ha'
      cases ha'
    · rw [ha''] at ha'
      cases ha'
      exact .inl ⟨a, ha, hcontinues.connected hstate'⟩
  | ends hended _ =>
    rw [hended] at ha'
    cases ha'
  | starts a hafter hfresh _ _ =>
    rw [hafter] at ha'
    cases ha'
    rw [hfresh.state] at hstate'
    cases hstate'
  | connects hevent => exact .inr hevent
  | passes a _ hbefore hready => exact .inl ⟨a, hbefore, hready.connected⟩
  | passesAndEnds a hbefore hready => exact .inl ⟨a, hbefore, hready.connected⟩

/-- A window is the one that was there, or it is opened now. -/
theorem Effect.deadline (h : Effect action c c') {deadline : UInt64}
    (hafter : c'.reconnectDeadlineUnixMs = some deadline) :
    c.reconnectDeadlineUnixMs = some deadline ∨
      c.reconnectDeadlineUnixMs = none ∧ deadline = reconnectDeadline action.time := by
  unfold reconnectDeadlineUnixMs at hafter ⊢
  obtain ⟨a', ha', hdeadline'⟩ := Option.bind_eq_some_iff.mp hafter
  cases h with
  | retains hretains _ =>
    rcases hretains.active with ⟨_, hnone⟩ | ⟨a, a'', ha, ha'', hcontinues⟩
    · rw [hnone] at ha'
      cases ha'
    · rw [ha''] at ha'
      cases ha'
      rw [ha]
      rcases hcontinues.deadline with hsame | ⟨hnone, hopened⟩
      · exact .inl (hsame.symm.trans hdeadline')
      · rw [hopened] at hdeadline'
        exact .inr ⟨hnone, (Option.some.inj hdeadline').symm⟩
  | ends hended _ =>
    rw [hended] at ha'
    cases ha'
  | starts a hactive hfresh _ _ =>
    rw [hactive] at ha'
    cases ha'
    rw [hfresh.deadline] at hdeadline'
    cases hdeadline'
  | connects _ _ a hbefore hactive _ hnone _ _ _ =>
    rw [hactive] at ha'
    cases ha'
    rw [hnone] at hdeadline'
    cases hdeadline'
  | passes _ a hbefore _ _ hactive _ hnone _ _ =>
    rw [hactive] at ha'
    cases ha'
    rw [hnone] at hdeadline'
    cases hdeadline'
  | passesAndEnds _ _ _ _ hended =>
    rw [hended] at ha'
    cases ha'

/-- The action hands a loss of the peer to the coordinator. -/
def Action.Loses (action : Action) : Prop :=
  action.event? = some .disconnected ∨ action.event? = some .failed

/-- A loss of the peer while no window is open is followed by a release that
succeeds. -/
def ReleasesOnLoss (c : RemoteSessionCoordinator) (input : Input) : Prop :=
  input.action.Loses → ∀ a, c.active = some a → a.reconnectDeadlineUnixMs = none → Releases a

/-- A loss opens a window, unless the release fails: then there is none. -/
structure LossHandled (c c' : RemoteSessionCoordinator) : Prop where
  opens : (∀ a, c.active = some a → a.reconnectDeadlineUnixMs = none → Releases a) →
    ∀ a', c'.active = some a' → a'.reconnectDeadlineUnixMs.isSome
  fails : ∀ a, c.active = some a → a.reconnectDeadlineUnixMs = none → ¬ Releases a →
    ∃ a', c'.active = some a' ∧ a'.reconnectDeadlineUnixMs = none

/-- Without a session that has no window there is nothing to open. -/
theorem LossHandled.of_none (hafter : c'.active = none)
    (hbefore : ∀ a, c.active = some a → a.reconnectDeadlineUnixMs ≠ none) : LossHandled c c' where
  opens _ a' ha' := by
    rw [hafter] at ha'
    cases ha'
  fails a ha hnone _ := absurd hnone (hbefore a ha)

theorem beginActiveReconnect_loss (hc : Consistent c) :
    wp (do
      beginActiveReconnect env nowUnixMs
      return ([] : List RemoteSessionOutbound)) (fun _ c' => LossHandled c c') c := by
  rw [wp_bind]
  refine wp_mono (beginActiveReconnect_spec hc) ?_
  intro r c' h
  have hloss : LossHandled c c' := by
    rcases h with ⟨hwaits, hreleases⟩ | ⟨_, _, a, a', ha, ha', hsame, hfails⟩
    · refine ⟨fun _ a' ha' => (hwaits.waiting a' ha').window, fun a ha hnone hfails => ?_⟩
      exact absurd (hreleases a ha hnone) hfails
    · refine ⟨fun hreleases b hb => ?_, fun b hb hnone _ => ?_⟩
      · rw [ha'] at hb
        cases hb
        rw [hsame]
        by_contra hnone
        rw [Option.not_isSome_iff_eq_none] at hnone
        exact hfails hnone (hreleases a ha hnone)
      · rw [ha] at hb
        cases hb
        exact ⟨a', ha', hsame.trans hnone⟩
  cases r with
  | error error => exact hloss
  | ok _ => exact hloss

theorem handlePeerEvent_loss {event : RemotePeerEvent}
    (hevent : event = .disconnected ∨ event = .failed) (hc : Consistent c) :
    wp (handlePeerEvent env event nowUnixMs) (fun _ c' => LossHandled c c') c := by
  unfold handlePeerEvent
  simp only [wp_bind, wp_get, andThen_ok, wp_require, andThen_error]
  refine ⟨fun _ => ?_, fun hclosed => ?_⟩
  · refine wp_mono (expireActiveReconnect_spec c) ?_
    rintro r c' (⟨⟨a, deadline, ha, hdeadline, _⟩, hends, hexpired⟩ | ⟨_, rfl, rfl⟩)
    · have hloss : LossHandled c c' := by
        refine .of_none hends.active fun b hb hnone => ?_
        rw [ha] at hb
        cases hb
        rw [hdeadline] at hnone
        cases hnone
      cases r with
      | error error => exact hloss
      | ok expired =>
        cases expired with
        | false => exact absurd rfl hexpired
        | true => exact hloss
    · simp only [andThen_ok, wp_ite]
      refine ⟨(by intros; contradiction), fun _ => ?_⟩
      rcases hevent with rfl | rfl
      · exact beginActiveReconnect_loss hc
      · exact beginActiveReconnect_loss hc
  · have hnone : c.active = none := hc.closed (by simpa using hclosed)
    refine .of_none hnone fun a ha => ?_
    rw [hnone] at ha
    cases ha

theorem perform_loss {input : Input} (h : input.action.Loses) (hc : Consistent c) :
    wp (perform crypto input) (fun _ c' => LossHandled c c') c := by
  obtain ⟨env, action⟩ := input
  obtain ⟨event, hevent, hloss⟩ : ∃ event, action.event? = some event ∧
      (event = .disconnected ∨ event = .failed) := by
    rcases h with h | h
    · exact ⟨_, h, .inl rfl⟩
    · exact ⟨_, h, .inr rfl⟩
  unfold perform
  cases action with
  | peerEvent event' now =>
    cases hevent
    exact handlePeerEvent_loss hloss hc
  | receive received now =>
    cases received with
    | error error => cases hevent
    | ok event' =>
      cases hevent
      dsimp only
      unfold receivePeerEvent
      rw [wp_get_bind]
      cases hactive : c.active with
      | none =>
        refine .of_none hactive fun a ha => ?_
        rw [hactive] at ha
        cases ha
      | some a => exact handlePeerEvent_loss hloss hc
  | routed _ _ _ => cases hevent
  | tick _ => cases hevent
  | termination _ _ => cases hevent
  | signalingLost _ => cases hevent
  | privilegedRouteChanged _ => cases hevent
  | shutdown => cases hevent

/-! ## Whole runs -/

/-- A step of a run of the coordinator. -/
abbrev Event := Occurrence RemoteSessionCoordinator Input Output

/-- The peer has come back: its notice has made the session a connected one. -/
def Connects (e : Event) : Prop :=
  e.input.action.event? = some .connected ∧ e.after.Connected

/-- The window was opened when there was none, for a fixed time, and has not been
moved since. -/
def OpenedBy (past : List Event) (deadline : UInt64) : Prop :=
  ∃ pre e mid, past = pre ++ e :: mid ∧ e.before.reconnectDeadlineUnixMs = none ∧
    deadline = reconnectDeadline e.input.action.time ∧
    ∀ f ∈ e :: mid, f.after.reconnectDeadlineUnixMs = some deadline

/-- What input and windows are to satisfy in a run. -/
structure InputGating (events : List Event) : Prop where
  /-- Input is delivered only to a connected session whose controller may control,
  while no window is open. -/
  gated : ∀ e ∈ events, e.after.delivered ≠ e.before.delivered → e.before.InputOpen
  /-- After a loss nothing is delivered until the peer has come back. -/
  blocked : ∀ pre e mid f post, events = pre ++ e :: (mid ++ f :: post) → e.input.action.Loses →
    f.after.delivered ≠ f.before.delivered → ∃ g ∈ mid, Connects g
  /-- A loss leaves a window open for the session that is retained. -/
  window : ∀ e ∈ events, e.input.action.Loses → ∀ a, e.after.active = some a →
    a.reconnectDeadlineUnixMs.isSome
  /-- The deadline of a window is fixed when it is opened. -/
  deadline : ∀ pre e post, events = pre ++ e :: post → ∀ deadline,
    e.after.reconnectDeadlineUnixMs = some deadline → OpenedBy (pre ++ [e]) deadline
  /-- A tick after the deadline closes the session. -/
  expiry : ∀ e ∈ events, ∀ nowUnixMs, e.input.action = .tick nowUnixMs →
    Expired nowUnixMs e.before → Ends e.before e.after

theorem machine_effect (crypto : Crypto) (c : RemoteSessionCoordinator) (input : Input) :
    Effect input.action c ((machine crypto).step c input).1 :=
  perform_effect input c

theorem new_consistent (hostDeviceId : Bytes) (verifier : OfferVerifier) :
    Consistent (new hostDeviceId verifier) := by
  refine ⟨fun a ha => ?_, fun _ => rfl⟩
  cases ha

variable {inputs : List Input}

/-- The guards agree at every step of a run. -/
theorem trace_consistent (hc : Consistent c) {e : Event}
    (he : e ∈ (machine crypto).trace c inputs) :
    Consistent e.before ∧ Effect e.input.action e.before e.after ∧
      e = (machine crypto).occurrence e.before e.input := by
  obtain ⟨hbefore, _, _, heq⟩ := trace_invariant (G := fun _ _ => True) Consistent
    (fun c input hc _ => (machine_effect crypto c input).consistent hc) hc
    (guarded_true _ _) he
  refine ⟨hbefore, ?_, heq⟩
  rw [heq]
  exact machine_effect crypto _ _

/-- No session becomes connected while no peer comes back. -/
theorem run_not_connected (hc : ¬ c.Connected)
    (h : ∀ g ∈ (machine crypto).trace c inputs, ¬ Connects g) :
    ¬ ((machine crypto).run c inputs).Connected := by
  induction inputs generalizing c with
  | nil => exact hc
  | cons input inputs ih =>
    refine ih ?_ fun g hg => h g (List.mem_cons_of_mem _ hg)
    intro hafter
    rcases (machine_effect crypto c input).connected hafter with hbefore | hevent
    · exact hc hbefore
    · exact h _ List.mem_cons_self ⟨hevent, hafter⟩

/-- The window that is open has been opened in the past. -/
theorem run_openedBy (hostDeviceId : Bytes) (verifier : OfferVerifier) (inputs : List Input) :
    ∀ deadline, ((machine crypto).run (new hostDeviceId verifier) inputs).reconnectDeadlineUnixMs =
      some deadline →
      OpenedBy ((machine crypto).trace (new hostDeviceId verifier) inputs) deadline := by
  refine history_invariant (M := machine crypto) (G := fun _ _ => True)
    (fun past c => ∀ deadline, c.reconnectDeadlineUnixMs = some deadline → OpenedBy past deadline)
    ?_ [] ?_ (guarded_true _ _)
  · intro past c input hpast _ deadline hafter
    rcases (machine_effect crypto c input).deadline hafter with hbefore | ⟨hnone, hdeadline⟩
    · obtain ⟨pre, e, mid, rfl, hopened, hfixed, hkept⟩ := hpast deadline hbefore
      refine ⟨pre, e, mid ++ [(machine crypto).occurrence c input], by simp, hopened, hfixed, ?_⟩
      intro f hf
      rw [← List.cons_append, List.mem_append, List.mem_singleton] at hf
      rcases hf with hf | rfl
      · exact hkept f hf
      · exact hafter
    · refine ⟨past, _, [], rfl, hnone, hdeadline, ?_⟩
      intro f hf
      rw [List.mem_singleton] at hf
      rw [hf]
      exact hafter
  · intro deadline hnone
    cases hnone

/-- In every run of the coordinator, with any events, messages, sinks, peers and
failures, input and windows are as they should be exactly if every release that
follows a loss without an open window succeeds. -/
theorem input_gating (crypto : Crypto) (hostDeviceId : Bytes) (verifier : OfferVerifier)
    (inputs : List Input) :
    InputGating ((machine crypto).trace (new hostDeviceId verifier) inputs) ↔
      (machine crypto).Guarded ReleasesOnLoss (new hostDeviceId verifier) inputs := by
  have hnew := new_consistent hostDeviceId verifier
  rw [guarded_iff_trace]
  constructor
  · intro hgating e he hloses a ha hnone
    obtain ⟨hconsistent, _, heq⟩ := trace_consistent hnew he
    by_contra hfails
    have hloss : LossHandled e.before e.after := by
      rw [heq]
      exact perform_loss hloses hconsistent
    obtain ⟨a', ha', hnone'⟩ := hloss.fails a ha hnone hfails
    have hwindow := hgating.window e he hloses a' ha'
    rw [hnone'] at hwindow
    cases hwindow
  · intro hguarded
    have hwindow : ∀ e ∈ (machine crypto).trace (new hostDeviceId verifier) inputs,
        e.input.action.Loses → ∀ a, e.after.active = some a →
        a.reconnectDeadlineUnixMs.isSome := by
      intro e he hloses
      obtain ⟨hconsistent, _, heq⟩ := trace_consistent hnew he
      have hloss : LossHandled e.before e.after := by
        rw [heq]
        exact perform_loss hloses hconsistent
      exact hloss.opens (hguarded e he hloses)
    refine { gated := ?_, blocked := ?_, window := hwindow, deadline := ?_, expiry := ?_ }
    · intro e he
      exact (trace_consistent hnew he).2.1.gated
    · intro pre e mid f post hsplit hloses hdelivered
      have he : e ∈ (machine crypto).trace (new hostDeviceId verifier) inputs := by simp [hsplit]
      have hf : f ∈ (machine crypto).trace (new hostDeviceId verifier) inputs := by simp [hsplit]
      obtain ⟨hconsistent, heffect, heq⟩ := trace_consistent hnew he
      have hlost : ¬ e.after.Connected := by
        rintro ⟨a, ha, hstate⟩
        have hopen := hwindow e he hloses a ha
        rw [((heffect.consistent hconsistent).live a ha).connected hstate] at hopen
        cases hopen
      by_contra hnone
      obtain ⟨_, _, _, _, _, _, hrest⟩ := trace_split hsplit
      obtain ⟨inputs₁, _, _, _, rfl, hbefore, _⟩ := trace_split hrest.symm
      obtain ⟨a, ha, hstate, _⟩ := (trace_consistent hnew hf).2.1.gated hdelivered
      refine run_not_connected hlost (fun g hg hconnects => hnone ⟨g, hg, hconnects⟩)
        ⟨a, ?_, hstate⟩
      rw [← ha, hbefore]
      rfl
    · intro pre e post hsplit deadline hdeadline
      obtain ⟨inputs₁, input, _, _, rfl, rfl, _⟩ := trace_split hsplit
      rw [← trace_snoc]
      refine run_openedBy hostDeviceId verifier _ deadline ?_
      rw [run_snoc]
      exact hdeadline
    · intro e he now htick hexpired
      obtain ⟨_, _, heq⟩ := trace_consistent hnew he
      obtain ⟨before, ⟨env, action⟩, output, after⟩ := e
      cases htick
      have htick : wp (perform crypto ⟨env, .tick now⟩) (fun _ c' => Ends before c') before := by
        unfold perform silently
        rw [wp_bind]
        refine wp_mono (expireActiveReconnect_spec before) ?_
        rintro r c' (⟨_, hends, _⟩ | ⟨hnot, _⟩)
        · cases r with
          | error error => exact hends
          | ok _ => exact hends
        · exact absurd hexpired hnot
      rw [heq]
      exact htick

/-! ## A release that fails -/

/-- The Host's signature over its answer to the sample offer. -/
def sampleAnswerSignature : Vector UInt8 64 :=
  #v[3, 20, 226, 0, 128, 85, 161, 153, 125, 225, 196, 162, 251, 244, 187, 139,
     49, 73, 114, 208, 105, 74, 232, 251, 15, 122, 132, 10, 176, 210, 168, 180,
     232, 221, 175, 54, 174, 109, 225, 37, 244, 245, 150, 26, 167, 12, 231, 49,
     244, 171, 18, 202, 87, 232, 55, 9, 99, 160, 199, 97, 124, 244, 242, 1]

/-- A Host on which everything succeeds but the release of what is pressed. -/
def sampleEnvironment : Environment where
  registry := (sampleCall 1700000000500).authorization
  parts := .ok {
    negotiate := fun _ => .ok ⟨"v=0\r\n", List.replicate 32 6⟩
    acknowledge := fun _ => .ok ()
    respond := fun calls =>
      if calls.getLast? = some .releaseAll then .error .inputFailure else .ok () }
  recorded := true
  sign := fun _ => some sampleAnswerSignature
  published := fun _ => true

/-- A message of the sample controller. -/
def sampleEnvelope (payload : SignalingPayload) : SignalingEnvelope where
  senderDeviceId := sampleOffer.controllerDeviceId
  recipientDeviceId := sampleOffer.hostDeviceId
  requestId := "request-1"
  sentAtUnixMs := 1700000000500
  payload := some payload

/-- The sample controller presses a key. -/
def sampleKeyDown : ReliableInputEnvelope where
  sessionId := sampleOffer.sessionId
  sequence := 1
  event := some (.keyboard 1 0x04 0)

/-- The sample session is started and connected. -/
def sampleStart : List Input :=
  [.routed sampleOffer.controllerDeviceId
      (some (sampleEnvelope (.sessionAuthentication (some (.offer sampleOffer)))))
      1700000000500,
    .routed sampleOffer.controllerDeviceId
      (some (sampleEnvelope (.webrtcNegotiation
        { sessionId := sampleOffer.sessionId
          payload := some (.description ⟨1, "v=0\r\n", List.replicate 32 7⟩) })))
      1700000000500,
    .peerEvent .connected 1700000000600].map fun action => ⟨sampleEnvironment, action⟩

/-- The peer of the sample session is lost. -/
def sampleLoss : Input := ⟨sampleEnvironment, .peerEvent .disconnected 1700000000700⟩

/-- A key press arrives. -/
def sampleKeyPress : Input :=
  ⟨sampleEnvironment, .peerEvent (.reliableInput (some sampleKeyDown)) 1700000000800⟩

/-- A coordinator of the sample Host. -/
def sampleCoordinator : RemoteSessionCoordinator :=
  new AuthorizationRegistry.sampleHostId ⟨AuthorizationRegistry.sampleHostId, ∅⟩

/-- After a loss whose release fails the next key press still reaches the sink. -/
theorem late_input :
    ¬ InputGating ((machine sampleOfferCrypto).trace sampleCoordinator
      (sampleStart ++ [sampleLoss, sampleKeyPress])) := by
  intro h
  have hsplit := trace_append (M := machine sampleOfferCrypto)
    sampleCoordinator sampleStart [sampleLoss, sampleKeyPress]
  simp only [trace_cons, trace_nil] at hsplit
  obtain ⟨g, hg, _⟩ := h.blocked _ _ [] _ [] hsplit (.inl rfl) (by decide +kernel)
  cases hg

end RemoteSessionCoordinator

end Host

end Roammand
