import Roammand.Host.SessionAuth
import Roammand.Host.Sessions

/-!
# Revoking a grant while a session is being activated

The session coordinator activates a verified session in steps: it verifies the
offer against the grants, registers the session, records the connection with the
grants and only then makes the session active.  A revocation comes from another
thread, also in steps: it removes the grant, takes the controller's sessions out
of the session registry and announces each of them to the coordinator.  Each step
holds one lock for its own duration, so the steps interleave freely.

Between the check of the grant and the registration of the session a revocation
finds nothing to end.  The record of the connection, which looks the grant up
again after the session is registered, closes that window.

Main results:

- Definition `HostState.machine`: the coordinator and the local operations, one
  input for each step.
- Theorem `step_invariant`: registered sessions are backed by a grant or by a
  step that will end them, and a session that is not registered is announced.
- Theorem `revocation_complete`: once every announcement has been handled, no
  session is left of a controller without a grant.
-/

namespace Roammand

namespace Host

open Library Protocol AuthorizationRegistry SessionRegistry

/-- How far the coordinator has come with the session it works on.  In `closing`
what is left to do is to unregister the session. -/
inductive ActivationStage where
  | idle
  | verified (session : RemoteSession)
  | registered (session : RemoteSession)
  | recorded (session : RemoteSession)
  | closing (session : RemoteSession)
  deriving DecidableEq

/-- A local operation under way: a revocation that has removed the grant of a
controller, or announcements that have not been sent. -/
inductive LocalOperation where
  | terminating (controllerDeviceId : Bytes)
  | sending (events : List SessionTerminatedEvent)

/-- The shared state of the Host service with the coordinator's own. -/
structure HostState where
  authorization : AuthorizationState
  sessions : SessionRegistry
  terminations : TerminationChannel
  operations : List LocalOperation
  verifier : OfferVerifier
  stage : ActivationStage
  active : Option RemoteSession

/-- The steps of the coordinator and of the local operations. -/
inductive HostInput where
  /-- The coordinator verifies the offer of a pending session. -/
  | verify (pending : RemoteSession) (authentication : SessionOfferAuthentication)
      (offerSdp : String) (controllerDtlsFingerprintSha256 : Bytes) (nowUnixMs : UInt64)
  /-- The coordinator registers the verified session, if its peer is `prepared`. -/
  | register (prepared : Bool)
  /-- The coordinator records the connection with the grants. -/
  | record (nowUnixMs : UInt64) (faults : FileFaults)
  /-- The coordinator makes the session active, if its candidates and the status
  are `accepted`. -/
  | activate (accepted : Bool)
  /-- The coordinator unregisters a session it has given up. -/
  | unregister
  /-- The active session ends for a reason of its own. -/
  | close
  /-- The coordinator handles the next announcement. -/
  | receive
  /-- A local client grants a controller access. -/
  | grant (controller : DeviceIdentity) (permissions : List SessionPermission)
      (createdAtUnixMs : UInt64) (random : Nat → Option (Vector UInt8 16)) (faults : FileFaults)
  /-- A local client revokes a grant: the grant is removed. -/
  | revoke (grantId : Bytes) (faults : FileFaults)
  /-- A revocation takes the sessions of its controller out of the registry. -/
  | terminate (operation : Nat)
  /-- A local operation sends its next announcement, or ends. -/
  | send (operation : Nat)
  /-- A local client ends all sessions. -/
  | emergencyStop

namespace HostState

section Steps

variable (crypto : Crypto) (s : HostState)

/-- `HostService::verify_remote_offer`, with the check that the offer is about the
pending session.  Nothing is verified while a session is active. -/
def verify (pending : RemoteSession) (authentication : SessionOfferAuthentication)
    (offerSdp : String) (controllerDtlsFingerprintSha256 : Bytes) (nowUnixMs : UInt64) :
    HostState :=
  match s.stage, s.active with
  | .idle, none =>
    match s.verifier.verify crypto authentication offerSdp controllerDtlsFingerprintSha256
        s.authorization.registry nowUnixMs with
    | (verifier, .error _) => { s with verifier }
    | (verifier, .ok offer) =>
      if offer.controller.deviceId ≠ pending.controllerDeviceId ∨
          offer.sessionId ≠ pending.sessionId then
        { s with verifier }
      else
        { s with verifier, stage := .verified pending }
  | _, _ => s

/-- `HostService::register_active_session`. -/
def register (prepared : Bool) : HostState :=
  match s.stage with
  | .verified session =>
    if prepared then
      match s.sessions.register session with
      | .error _ => { s with stage := .idle }
      | .ok sessions => { s with sessions, stage := .registered session }
    else
      { s with stage := .idle }
  | _ => s

/-- `HostService::record_authenticated_remote_session`. -/
def record (nowUnixMs : UInt64) (faults : FileFaults) : HostState :=
  match s.stage with
  | .registered session =>
    match s.authorization.registry.recordAuthenticatedSession crypto faults
        s.authorization.file session.controllerDeviceId nowUnixMs with
    | ((registry, file), .ok _) =>
      { s with authorization := ⟨registry, file⟩, stage := .recorded session }
    | ((registry, file), .error _) =>
      { s with authorization := ⟨registry, file⟩, stage := .closing session }
  | _ => s

/-- The last steps of an activation. -/
def activate (accepted : Bool) : HostState :=
  match s.stage with
  | .recorded session =>
    if accepted then { s with stage := .idle, active := some session }
    else { s with stage := .closing session }
  | _ => s

/-- `HostService::unregister_active_session`. -/
def unregister : HostState :=
  match s.stage with
  | .closing session =>
    { s with sessions := (s.sessions.unregister session.sessionId).1, stage := .idle }
  | _ => s

/-- Close the active session: it is dropped first and unregistered after that. -/
def close : HostState :=
  match s.stage, s.active with
  | .idle, some session => { s with active := none, stage := .closing session }
  | _, _ => s

/-- `RemoteSessionCoordinator::handle_termination` on the next announcement. -/
def receive : HostState :=
  match s.stage, s.terminations.waiting with
  | .idle, event :: waiting =>
    let s := { s with terminations := { s.terminations with waiting } }
    if s.active = some event.session then s.close else s
  | _, _ => s

/-- `HostService::create_controller_grant_for_maintenance`. -/
def grant (controller : DeviceIdentity) (permissions : List SessionPermission)
    (createdAtUnixMs : UInt64) (random : Nat → Option (Vector UInt8 16)) (faults : FileFaults) :
    HostState :=
  let result := s.authorization.registry.createControllerGrant crypto faults s.authorization.file
    controller permissions createdAtUnixMs random
  { s with authorization := ⟨result.1.1, result.1.2⟩ }

/-- The first step of `HostService::revoke`. -/
def revoke (grantId : Bytes) (faults : FileFaults) : HostState :=
  match s.authorization.registry.revokeControllerGrant crypto faults s.authorization.file
      grantId with
  | ((registry, file), .error _) => { s with authorization := ⟨registry, file⟩ }
  | ((registry, file), .ok revoked) =>
    match controllerDeviceIdFor revoked with
    | none => { s with authorization := ⟨registry, file⟩ }
    | some controllerDeviceId =>
      { s with
        authorization := ⟨registry, file⟩
        operations := s.operations ++ [.terminating controllerDeviceId] }

/-- The second step of `HostService::revoke`: the registry part of
`SessionRegistry::terminate_controller`. -/
def terminate (operation : Nat) : HostState :=
  match s.operations[operation]? with
  | some (.terminating controllerDeviceId) =>
    { s with
      sessions := (s.sessions.terminateController controllerDeviceId).1
      operations := s.operations.set operation
        (.sending (s.sessions.terminateController controllerDeviceId).2) }
  | _ => s

/-- One turn of the sending loop of a local operation. -/
def send (operation : Nat) : HostState :=
  match s.operations[operation]? with
  | some (.sending (event :: events)) =>
    { s with
      terminations := s.terminations.send event
      operations := s.operations.set operation (.sending events) }
  | some (.sending []) => { s with operations := s.operations.eraseIdx operation }
  | _ => s

/-- The registry part of `HostService::emergency_stop`. -/
def emergencyStop : HostState :=
  { s with
    sessions := (s.sessions.terminateAll .localEmergencyStop).1
    operations :=
      s.operations ++ [.sending (s.sessions.terminateAll .localEmergencyStop).2] }

/-- One step. -/
def step : HostInput → HostState
  | .verify pending authentication offerSdp fingerprint nowUnixMs =>
    s.verify crypto pending authentication offerSdp fingerprint nowUnixMs
  | .register prepared => s.register prepared
  | .record nowUnixMs faults => s.record crypto nowUnixMs faults
  | .activate accepted => s.activate accepted
  | .unregister => s.unregister
  | .close => s.close
  | .receive => s.receive
  | .grant controller permissions createdAtUnixMs random faults =>
    s.grant crypto controller permissions createdAtUnixMs random faults
  | .revoke grantId faults => s.revoke crypto grantId faults
  | .terminate operation => s.terminate operation
  | .send operation => s.send operation
  | .emergencyStop => s.emergencyStop

end Steps

/-- The Host as a machine. -/
def machine (crypto : Crypto) : Machine HostState HostInput Unit where
  step s input := (s.step crypto input, ())

/-- A Host that has loaded its grants and has no session. -/
def started (authorization : AuthorizationState) (verifier : OfferVerifier) : HostState :=
  { authorization
    sessions := ∅
    terminations := .new
    operations := []
    verifier
    stage := .idle
    active := none }

/-- The controller has a grant. -/
def Granted (s : HostState) (controllerDeviceId : Bytes) : Prop :=
  (s.authorization.registry.controllerGrant controllerDeviceId).isSome

/-- Every local operation has ended, and every announcement has been received and
handled. -/
structure Settled (s : HostState) : Prop where
  operations : s.operations = []
  waiting : s.terminations.waiting = []
  missed : s.terminations.missed = false

/-! ## The invariant -/

/-- The coordinator holds on to a session that is, or is about to be, active. -/
def Holds (s : HostState) (session : RemoteSession) : Prop :=
  s.stage = .registered session ∨ s.stage = .recorded session ∨ s.active = some session

/-- The end of a session has been announced, or is about to be. -/
def Announced (s : HostState) (session : RemoteSession) : Prop :=
  (∃ event ∈ s.terminations.waiting, event.session = session) ∨
    ∃ events, LocalOperation.sending events ∈ s.operations ∧
      ∃ event ∈ events, event.session = session

/-- A registered session is backed by a grant, or something under way will end it. -/
def Backed (s : HostState) (session : RemoteSession) : Prop :=
  s.Granted session.controllerDeviceId ∨
    LocalOperation.terminating session.controllerDeviceId ∈ s.operations ∨
    s.stage = .registered session ∨ s.stage = .closing session

/-- What every reachable state satisfies. -/
structure Invariant (crypto : Crypto) (s : HostState) : Prop where
  wellFormed : s.authorization.registry.WellFormed crypto
  sized : ∀ (sessionId : Bytes) controller, s.sessions[sessionId]? = some controller →
    sessionId.length = sessionIdBytes
  exclusive : s.stage ≠ .idle → s.active = none
  backed : ∀ (sessionId : Bytes) controller, s.sessions[sessionId]? = some controller →
    s.Backed ⟨sessionId, controller⟩
  announced : s.terminations.missed = false → ∀ session, s.Holds session →
    s.sessions[session.sessionId]? = some session.controllerDeviceId ∨ s.Announced session

end HostState

/-! ## What the registry's operations keep -/

namespace AuthorizationRegistry

variable {crypto : Crypto} {r r' : AuthorizationRegistry} {faults : FileFaults}
  {file file' : Option Bytes} {result : Except AuthorizationError ControllerGrantView}

theorem persistThen_cases (next : List ControllerGrantView) (grants : GrantMap)
    (answer : ControllerGrantView) :
    (∃ file' error, r.persistThen crypto faults file next grants answer =
        ((r, file'), .error error)) ∨
      ∃ file', r.persistThen crypto faults file next grants answer =
        (({ r with grantsByController := grants }, file'), .ok answer) := by
  unfold persistThen
  split
  · exact .inl ⟨_, _, rfl⟩
  · exact .inr ⟨_, rfl⟩

theorem isSome_controllerGrant_insert {k c : Bytes} {view : ControllerGrantView}
    (h : (r.controllerGrant c).isSome) :
    ({ r with grantsByController := r.grantsByController.insert k view } :
      AuthorizationRegistry).controllerGrant c |>.isSome := by
  unfold controllerGrant at h ⊢
  by_cases heq : k = c
  · subst heq
    simp
  · rwa [getElem?_insert_of_ne heq]

/-- A new grant takes nothing from the controllers that have one. -/
theorem createControllerGrant_keeps {controller : DeviceIdentity}
    {permissions : List SessionPermission} {createdAtUnixMs : UInt64}
    {random : Nat → Option (Vector UInt8 16)} {c : Bytes} (h : (r.controllerGrant c).isSome) :
    ((r.createControllerGrant crypto faults file controller permissions createdAtUnixMs
      random).1.1.controllerGrant c).isSome := by
  unfold createControllerGrant
  repeat' split
  all_goals try exact h
  next normalized _ _ _ _ grantId _ =>
    dsimp only
    rcases @persistThen_cases crypto r faults file _ _ _ with ⟨_, _, hkept⟩ | ⟨_, hkept⟩
    all_goals rw [hkept]
    · exact h
    · exact isSome_controllerGrant_insert h

/-- Recording a connection needs a grant, and takes none. -/
theorem recordAuthenticatedSession_spec {controllerDeviceId : Bytes} {nowUnixMs : UInt64}
    (h : r.recordAuthenticatedSession crypto faults file controllerDeviceId nowUnixMs =
      ((r', file'), result)) :
    (∀ c, (r.controllerGrant c).isSome → (r'.controllerGrant c).isSome) ∧
      (∀ view, result = .ok view → (r.controllerGrant controllerDeviceId).isSome) := by
  unfold recordAuthenticatedSession at h
  split at h
  · cases h
    exact ⟨fun _ hc => hc, fun _ hok => by cases hok⟩
  · next existing hget =>
      have hgranted : (r.controllerGrant controllerDeviceId).isSome := by
        rw [controllerGrant, hget]
        rfl
      refine ⟨?_, fun _ _ => hgranted⟩
      intro c hc
      split at h
      · cases h
        exact hc
      dsimp only at h
      split at h
      · cases h
        exact hc
      · next next _ =>
          rcases @persistThen_cases crypto r faults file next
            (r.grantsByController.insert controllerDeviceId
              { existing with lastSuccessfulConnectionAtUnixMs := nowUnixMs })
            { existing with lastSuccessfulConnectionAtUnixMs := nowUnixMs } with
            ⟨_, _, hkept⟩ | ⟨_, hkept⟩
          all_goals
            rw [hkept] at h
            cases h
          · exact hc
          · exact isSome_controllerGrant_insert hc

/-- A revocation removes the grant of one controller, whom its answer names. -/
theorem revokeControllerGrant_spec (hwf : r.WellFormed crypto) {grantId : Bytes}
    (h : r.revokeControllerGrant crypto faults file grantId = ((r', file'), result)) :
    (∃ error, result = .error error ∧ r' = r) ∨
      ∃ view controllerDeviceId, result = .ok view ∧
        controllerDeviceIdFor view = some controllerDeviceId ∧
        ∀ c, c ≠ controllerDeviceId → (r.controllerGrant c).isSome →
          (r'.controllerGrant c).isSome := by
  unfold revokeControllerGrant at h
  split at h
  · cases h
    exact .inl ⟨_, rfl, rfl⟩
  · next controllerId removed hfind =>
      dsimp only at h
      have hget : r.grantsByController[controllerId]? = some removed :=
        Std.ExtTreeMap.mem_toList_iff_getElem?_eq_some.mp (List.mem_of_find?_eq_some hfind)
      rcases @persistThen_cases crypto r faults file
        (r.listControllerGrants.filter fun view => controllerDeviceIdFor view ≠ some controllerId)
        (r.grantsByController.erase controllerId) removed with ⟨_, error, hkept⟩ | ⟨_, hkept⟩
      all_goals
        rw [hkept] at h
        cases h
      · exact .inl ⟨error, rfl, rfl⟩
      · refine .inr ⟨removed, controllerId, rfl, ?_, ?_⟩
        · exact controllerDeviceIdFor_of_valid (hwf.valid controllerId removed hget)
        · intro c hne hc
          unfold controllerGrant at hc ⊢
          rwa [getElem?_erase_of_ne (Ne.symm hne)]

end AuthorizationRegistry

namespace HostState

variable {crypto : Crypto} {s : HostState}

/-! ## The coordinator's steps -/

/-- The coordinator moves on with its session: a session that was to be ended by it
still is, and it holds on to no other session than before. -/
theorem Invariant.restage (h : s.Invariant crypto) {stage : ActivationStage}
    {active : Option RemoteSession} (hexclusive : stage ≠ .idle → active = none)
    (hending : ∀ session, s.stage = .registered session ∨ s.stage = .closing session →
      stage = .registered session ∨ stage = .closing session)
    (hholds : ∀ session, ({ s with stage, active } : HostState).Holds session →
      s.Holds session) :
    ({ s with stage, active } : HostState).Invariant crypto where
  wellFormed := h.wellFormed
  sized := h.sized
  exclusive := hexclusive
  backed := by
    intro sessionId controller hget
    rcases h.backed sessionId controller hget with hgranted | hop | hend
    · exact .inl hgranted
    · exact .inr (.inl hop)
    · exact .inr (.inr (hending _ hend))
  announced := fun hmissed session hsession => h.announced hmissed session (hholds session hsession)

theorem Invariant.verify (h : s.Invariant crypto) (pending : RemoteSession)
    (authentication : SessionOfferAuthentication) (offerSdp : String) (fingerprint : Bytes)
    (nowUnixMs : UInt64) :
    (s.verify crypto pending authentication offerSdp fingerprint nowUnixMs).Invariant crypto := by
  unfold HostState.verify
  split
  · next hstage hactive =>
      split
      · exact { h with }
      · next verifier offer hverify =>
          split
          · exact { h with }
          · have hverifier : ({ s with verifier } : HostState).Invariant crypto := { h with }
            apply hverifier.restage
            · exact fun _ => hactive
            · simp [hstage]
            · simp [Holds, hactive]
  · exact h

theorem Invariant.register (h : s.Invariant crypto) (prepared : Bool) :
    (s.register prepared).Invariant crypto := by
  unfold HostState.register
  split
  · next session hstage =>
      have hactive := h.exclusive (by simp [hstage])
      have hidle : ({ s with stage := .idle } : HostState).Invariant crypto := by
        apply h.restage
        · exact fun hne => absurd rfl hne
        · simp [hstage]
        · simp [Holds, hactive]
      split
      · split
        · exact hidle
        · next sessions hregister =>
            obtain ⟨hlength, hfresh, rfl⟩ := register_ok hregister
            exact {
              wellFormed := h.wellFormed
              sized := by
                intro sessionId controller hget
                rcases getElem?_insert_cases hget with ⟨rfl, -⟩ | hold
                · exact hlength
                · exact h.sized sessionId controller hold
              exclusive := fun _ => hactive
              backed := by
                intro sessionId controller hget
                rcases getElem?_insert_cases hget with ⟨rfl, rfl⟩ | hold
                · exact .inr (.inr (.inl rfl))
                · rcases h.backed sessionId controller hold with hgranted | hop | hreg | hend
                  · exact .inl hgranted
                  · exact .inr (.inl hop)
                  · cases hstage.symm.trans hreg
                  · cases hstage.symm.trans hend
              announced := by
                intro _ other hother
                obtain rfl : other = session := by
                  simpa [Holds, hactive, eq_comm] using hother
                exact .inl (by simp) }
      · exact hidle
  · exact h

/-- A change of the grants that takes no grant away. -/
theorem Invariant.reauthorize (h : s.Invariant crypto) {registry : AuthorizationRegistry}
    {file : Option Bytes} (hwf : registry.WellFormed crypto)
    (hkeeps : ∀ c, (s.authorization.registry.controllerGrant c).isSome →
      (registry.controllerGrant c).isSome) :
    ({ s with authorization := ⟨registry, file⟩ } : HostState).Invariant crypto :=
  { h with
    wellFormed := hwf
    backed := by
      intro sessionId controller hget
      rcases h.backed sessionId controller hget with hgranted | hother
      · exact .inl (hkeeps _ hgranted)
      · exact .inr hother }

theorem Invariant.record (h : s.Invariant crypto) (nowUnixMs : UInt64) (faults : FileFaults) :
    (s.record crypto nowUnixMs faults).Invariant crypto := by
  unfold HostState.record
  split
  · next session hstage =>
      have hactive := h.exclusive (by simp [hstage])
      have hwrites := recordAuthenticatedSession_writes h.wellFormed faults
        s.authorization.file session.controllerDeviceId nowUnixMs
      split
      · next registry file view hrecord =>
          rw [hrecord] at hwrites
          obtain ⟨hkeeps, hgranted⟩ :=
            recordAuthenticatedSession_spec hrecord
          exact {
            h with
            wellFormed := hwrites.wellFormed h.wellFormed
            exclusive := fun _ => hactive
            backed := by
              intro sessionId controller hget
              rcases h.backed sessionId controller hget with hbacked | hop | hreg | hend
              · exact .inl (hkeeps _ hbacked)
              · exact .inr (.inl hop)
              · cases hstage.symm.trans hreg
                exact .inl (hkeeps _ (hgranted view rfl))
              · cases hstage.symm.trans hend
            announced := by
              intro hmissed other hother
              apply h.announced hmissed
              have heq : session = other := by simpa [Holds, hactive] using hother
              exact .inl (heq ▸ hstage) }
      · next registry file error hrecord =>
          rw [hrecord] at hwrites
          have hregistry := @Invariant.reauthorize crypto s h registry file
            (hwrites.wellFormed h.wellFormed)
            (recordAuthenticatedSession_spec hrecord).1
          apply hregistry.restage
          · exact fun _ => hactive
          · intro other hother
            rcases hother with hreg | hend
            · cases hstage.symm.trans hreg
              exact .inr rfl
            · cases hstage.symm.trans hend
          · simp [Holds, hactive]
  · exact h

theorem Invariant.activate (h : s.Invariant crypto) (accepted : Bool) :
    (s.activate accepted).Invariant crypto := by
  unfold HostState.activate
  split
  · next session hstage =>
      have hactive := h.exclusive (by simp [hstage])
      split
      · apply h.restage
        · exact fun hne => absurd rfl hne
        · simp [hstage]
        · intro other hother
          have heq : session = other := by simpa [Holds] using hother
          exact .inr (.inl (heq ▸ hstage))
      · apply h.restage
        · exact fun _ => hactive
        · simp [hstage]
        · simp [Holds, hactive]
  · exact h

theorem Invariant.unregister (h : s.Invariant crypto) : s.unregister.Invariant crypto := by
  unfold HostState.unregister
  split
  · next session hstage =>
      have hactive := h.exclusive (by simp [hstage])
      exact {
        wellFormed := h.wellFormed
        sized := by
          intro sessionId controller hget
          exact h.sized sessionId controller (getElem?_unregister hget).1
        exclusive := fun hne => absurd rfl hne
        backed := by
          intro sessionId controller hget
          obtain ⟨hold, hother⟩ := getElem?_unregister hget
          rcases h.backed sessionId controller hold with hgranted | hop | hreg | hend
          · exact .inl hgranted
          · exact .inr (.inl hop)
          · cases hstage.symm.trans hreg
          · cases hstage.symm.trans hend
            exact absurd rfl (hother (h.sized _ _ hold))
        announced := by simp [Holds, hactive] }
  · exact h

theorem Invariant.close (h : s.Invariant crypto) : s.close.Invariant crypto := by
  unfold HostState.close
  split
  · next session hstage hactive =>
      apply h.restage
      · exact fun _ => rfl
      · simp [hstage]
      · simp [Holds]
  · exact h

/-- A handled announcement of another session leaves the active one announced. -/
theorem Invariant.receive (h : s.Invariant crypto) : s.receive.Invariant crypto := by
  unfold HostState.receive
  split
  · next event waiting hstage hwaiting =>
      dsimp only
      by_cases hmatch : s.active = some event.session
      · rw [if_pos hmatch]
        unfold HostState.close
        simp only [hstage, hmatch]
        exact {
          wellFormed := h.wellFormed
          sized := h.sized
          exclusive := fun _ => rfl
          backed := by
            intro sessionId controller hget
            rcases h.backed sessionId controller hget with hgranted | hop | hreg | hend
            · exact .inl hgranted
            · exact .inr (.inl hop)
            · cases hstage.symm.trans hreg
            · cases hstage.symm.trans hend
          announced := by simp [Holds] }
      · rw [if_neg hmatch]
        refine { h with announced := ?_ }
        intro hmissed session hsession
        rcases h.announced hmissed session hsession with hget | ⟨other, hmem, heq⟩ | hsending
        · exact .inl hget
        · rw [hwaiting] at hmem
          rcases List.mem_cons.mp hmem with rfl | hlater
          · have hidle : s.active = some session := by
              simpa [Holds, hstage] using hsession
            exact absurd (heq ▸ hidle) hmatch
          · exact .inr (.inl ⟨other, hlater, heq⟩)
        · exact .inr (.inr hsending)
  · exact h

/-! ## The local operations -/

theorem Invariant.grant (h : s.Invariant crypto) (controller : DeviceIdentity)
    (permissions : List SessionPermission) (createdAtUnixMs : UInt64)
    (random : Nat → Option (Vector UInt8 16)) (faults : FileFaults) :
    (s.grant crypto controller permissions createdAtUnixMs random faults).Invariant crypto := by
  have hwrites := createControllerGrant_writes h.wellFormed faults
    s.authorization.file controller permissions createdAtUnixMs random
  apply h.reauthorize
  · exact hwrites.wellFormed h.wellFormed
  · exact fun c hc => createControllerGrant_keeps hc

theorem Invariant.revoke (h : s.Invariant crypto) (grantId : Bytes) (faults : FileFaults) :
    (s.revoke crypto grantId faults).Invariant crypto := by
  have hwrites := revokeControllerGrant_writes h.wellFormed faults
    s.authorization.file grantId
  unfold HostState.revoke
  split
  · next registry file error hrevoke =>
      rcases revokeControllerGrant_spec h.wellFormed hrevoke with
        ⟨_, _, rfl⟩ | ⟨_, _, hok, _⟩
      · exact { h with }
      · cases hok
  · next registry file revoked hrevoke =>
      rcases revokeControllerGrant_spec h.wellFormed hrevoke with
        ⟨_, herr, _⟩ | ⟨view, controllerDeviceId, hok, hview, hkeeps⟩
      · cases herr
      · cases hok
        rw [hrevoke] at hwrites
        simp only [hview]
        exact {
          wellFormed := hwrites.wellFormed h.wellFormed
          sized := h.sized
          exclusive := h.exclusive
          backed := by
            intro sessionId controller hget
            by_cases heq : controller = controllerDeviceId
            · exact .inr (.inl (by simp [heq]))
            · rcases h.backed sessionId controller hget with hgranted | hop | hother
              · exact .inl (hkeeps controller heq hgranted)
              · exact .inr (.inl (List.mem_append_left _ hop))
              · exact .inr (.inr hother)
          announced := by
            intro hmissed session hsession
            rcases h.announced hmissed session hsession with hget | hwaiting | ⟨events, hop, hmem⟩
            · exact .inl hget
            · exact .inr (.inl hwaiting)
            · exact .inr (.inr ⟨events, List.mem_append_left _ hop, hmem⟩) }

variable {operations : List LocalOperation}

/-- Changing one operation keeps the others. -/
theorem mem_set_of_ne {i : Nat} {old new op : LocalOperation}
    (hold : operations[i]? = some old) (hop : op ∈ operations) (hne : op ≠ old) :
    op ∈ operations.set i new := by
  obtain ⟨j, hj, heq⟩ := List.getElem_of_mem hop
  have hij : i ≠ j := by
    rintro rfl
    rw [List.getElem?_eq_getElem hj, heq] at hold
    exact hne (Option.some.inj hold)
  rw [List.mem_iff_getElem?]
  exact ⟨j, by rw [List.getElem?_set_ne hij, List.getElem?_eq_getElem hj, heq]⟩

theorem mem_set_self {i : Nat} {old new : LocalOperation}
    (hold : operations[i]? = some old) : new ∈ operations.set i new := by
  rw [List.mem_iff_getElem?]
  obtain ⟨hi, _⟩ := List.getElem?_eq_some_iff.mp hold
  exact ⟨i, by simp [hi]⟩

theorem Invariant.terminate (h : s.Invariant crypto) (operation : Nat) :
    (s.terminate operation).Invariant crypto := by
  unfold HostState.terminate
  split
  · next controllerDeviceId hop =>
      exact {
        wellFormed := h.wellFormed
        sized := by
          intro sessionId controller hget
          exact h.sized sessionId controller (getElem?_terminateController.mp hget).1
        exclusive := h.exclusive
        backed := by
          intro sessionId controller hget
          obtain ⟨hold, hne⟩ := getElem?_terminateController.mp hget
          rcases h.backed sessionId controller hold with hgranted | hterminating | hother
          · exact .inl hgranted
          · refine .inr (.inl (mem_set_of_ne hop hterminating ?_))
            simpa using hne
          · exact .inr (.inr hother)
        announced := by
          intro hmissed session hsession
          rcases h.announced hmissed session hsession with hget | hwaiting | ⟨events, hmem, hevent⟩
          · by_cases heq : session.controllerDeviceId = controllerDeviceId
            · rw [heq] at hget
              obtain ⟨event, hevent, hfor⟩ := mem_terminateController hget
              refine .inr (.inr ⟨_, mem_set_self hop, event, hevent, ?_⟩)
              rw [hfor, ← heq]
            · exact .inl (getElem?_terminateController.mpr ⟨hget, heq⟩)
          · exact .inr (.inl hwaiting)
          · exact .inr (.inr ⟨events, mem_set_of_ne hop hmem (by simp), hevent⟩) }
  · exact h

theorem Invariant.send (h : s.Invariant crypto) (operation : Nat) :
    (s.send operation).Invariant crypto := by
  unfold HostState.send
  split
  · next event events hop =>
      exact {
        wellFormed := h.wellFormed
        sized := h.sized
        exclusive := h.exclusive
        backed := by
          intro sessionId controller hget
          rcases h.backed sessionId controller hget with hgranted | hterminating | hother
          · exact .inl hgranted
          · exact .inr (.inl (mem_set_of_ne hop hterminating (by simp)))
          · exact .inr (.inr hother)
        announced := by
          intro hmissed session hsession
          obtain ⟨hnone, hsent⟩ := TerminationChannel.waiting_send hmissed
          rcases h.announced hnone session hsession with
            hget | ⟨other, hmem, hfor⟩ | ⟨others, hmem, other, hother, hfor⟩
          · exact .inl hget
          · refine .inr (.inl ⟨other, ?_, hfor⟩)
            rw [hsent]
            exact List.mem_append_left _ hmem
          · by_cases hsame : others = event :: events
            · subst hsame
              rcases List.mem_cons.mp hother with rfl | hlater
              · refine .inr (.inl ⟨other, ?_, hfor⟩)
                rw [hsent]
                exact List.mem_append_right _ List.mem_cons_self
              · exact .inr (.inr ⟨events, mem_set_self hop, other, hlater, hfor⟩)
            · refine .inr (.inr ⟨others, mem_set_of_ne hop hmem ?_, other, hother, hfor⟩)
              simpa using hsame }
  · next hop =>
      have hkeeps : ∀ op ∈ s.operations, op ≠ .sending [] →
        op ∈ s.operations.eraseIdx operation := by
        intro op hmem hne
        obtain ⟨j, hj, heq⟩ := List.getElem_of_mem hmem
        rw [List.mem_eraseIdx_iff_getElem]
        refine ⟨j, hj, ?_, heq⟩
        rintro rfl
        rw [List.getElem?_eq_getElem hj, heq] at hop
        exact hne (Option.some.inj hop)
      exact {
        wellFormed := h.wellFormed
        sized := h.sized
        exclusive := h.exclusive
        backed := by
          intro sessionId controller hget
          rcases h.backed sessionId controller hget with hgranted | hterminating | hother
          · exact .inl hgranted
          · exact .inr (.inl (hkeeps _ hterminating (by simp)))
          · exact .inr (.inr hother)
        announced := by
          intro hmissed session hsession
          rcases h.announced hmissed session hsession with
            hget | hwaiting | ⟨events, hmem, event, hevent, hfor⟩
          · exact .inl hget
          · exact .inr (.inl hwaiting)
          · refine .inr (.inr ⟨events, hkeeps _ hmem ?_, event, hevent, hfor⟩)
            rintro heq
            cases heq
            cases hevent }
  · exact h

theorem Invariant.emergencyStop (h : s.Invariant crypto) :
    s.emergencyStop.Invariant crypto where
  wellFormed := h.wellFormed
  sized := by
    intro sessionId controller hget
    simp [HostState.emergencyStop, terminateAll] at hget
  exclusive := h.exclusive
  backed := by
    intro sessionId controller hget
    simp [HostState.emergencyStop, terminateAll] at hget
  announced := by
    intro hmissed session hsession
    rcases h.announced hmissed session hsession with hget | hwaiting | ⟨events, hmem, hevent⟩
    · obtain ⟨event, hevent, hfor⟩ := mem_terminateAll hget
      exact .inr (.inr ⟨_, List.mem_append_right _ List.mem_cons_self, event, hevent, hfor⟩)
    · exact .inr (.inl hwaiting)
    · exact .inr (.inr ⟨events, List.mem_append_left _ hmem, hevent⟩)

/-- Every step keeps the invariant. -/
theorem step_invariant (h : s.Invariant crypto) (input : HostInput) :
    (s.step crypto input).Invariant crypto := by
  cases input with
  | verify pending authentication offerSdp fingerprint nowUnixMs =>
    exact h.verify pending authentication offerSdp fingerprint nowUnixMs
  | register prepared => exact h.register prepared
  | record nowUnixMs faults => exact h.record nowUnixMs faults
  | activate accepted => exact h.activate accepted
  | unregister => exact h.unregister
  | close => exact h.close
  | receive => exact h.receive
  | grant controller permissions createdAtUnixMs random faults =>
    exact h.grant controller permissions createdAtUnixMs random faults
  | revoke grantId faults => exact h.revoke grantId faults
  | terminate operation => exact h.terminate operation
  | send operation => exact h.send operation
  | emergencyStop => exact h.emergencyStop

theorem invariant_started {authorization : AuthorizationState} {verifier : OfferVerifier}
    (h : authorization.registry.WellFormed crypto) :
    (started authorization verifier).Invariant crypto where
  wellFormed := h
  sized := by simp [started]
  exclusive := fun _ => rfl
  backed := by simp [started]
  announced := by simp [started, Holds]

/-- In a settled state every active session belongs to a controller with a grant, and
so does every registered session the coordinator is not working on. -/
theorem Invariant.granted_of_settled (h : s.Invariant crypto) (hsettled : s.Settled) :
    (∀ session, s.active = some session → s.Granted session.controllerDeviceId) ∧
      (s.stage = .idle → ∀ (sessionId : Bytes) controller,
        s.sessions[sessionId]? = some controller → s.Granted controller) := by
  have hregistered : s.stage = .idle → ∀ (sessionId : Bytes) controller,
      s.sessions[sessionId]? = some controller → s.Granted controller := by
    intro hidle sessionId controller hget
    rcases h.backed sessionId controller hget with hgranted | hop | hreg | hend
    · exact hgranted
    · simp [hsettled.operations] at hop
    · cases hidle.symm.trans hreg
    · cases hidle.symm.trans hend
  refine ⟨?_, hregistered⟩
  intro session hactive
  have hidle : s.stage = .idle := by
    by_contra hbusy
    cases (h.exclusive hbusy).symm.trans hactive
  rcases h.announced hsettled.missed session (.inr (.inr hactive)) with
    hget | ⟨event, hmem, _⟩ | ⟨events, hmem, _⟩
  · exact hregistered hidle session.sessionId session.controllerDeviceId hget
  · simp [hsettled.waiting] at hmem
  · simp [hsettled.operations] at hmem

/-- Whatever the order of the steps: once every local operation has ended and every
announcement has been handled, no session of a controller without a grant is active,
and none is registered unless the coordinator is still working on it. -/
theorem revocation_complete {decode : Bytes → Option HostAuthorizationSnapshot}
    {faults : FileFaults} {file : Option Bytes} {hostDeviceId : Bytes}
    {registry : AuthorizationRegistry} {verifier : OfferVerifier}
    (hload : load crypto decode faults file hostDeviceId = .ok registry)
    (inputs : List HostInput)
    (hsettled : ((machine crypto).run (started ⟨registry, file⟩ verifier) inputs).Settled)
    {controllerDeviceId : Bytes}
    (hrevoked : ((machine crypto).run (started ⟨registry, file⟩ verifier)
      inputs).authorization.registry.controllerGrant controllerDeviceId = none) :
    (∀ session, ((machine crypto).run (started ⟨registry, file⟩ verifier) inputs).active =
      some session → session.controllerDeviceId ≠ controllerDeviceId) ∧
    (((machine crypto).run (started ⟨registry, file⟩ verifier) inputs).stage = .idle →
      ∀ sessionId : Bytes, ((machine crypto).run (started ⟨registry, file⟩ verifier)
        inputs).sessions[sessionId]? ≠ some controllerDeviceId) := by
  have hinvariant := Machine.run_invariant (Invariant crypto)
    (fun s input hs _ => step_invariant hs input)
    (@invariant_started crypto ⟨registry, file⟩ verifier (load_wellFormed hload))
    (Machine.guarded_true (M := machine crypto) (started ⟨registry, file⟩ verifier) inputs)
  obtain ⟨hactive, hregistered⟩ := hinvariant.granted_of_settled hsettled
  have hnone : ¬ ((machine crypto).run (started ⟨registry, file⟩ verifier) inputs).Granted
      controllerDeviceId := by
    simp [Granted, hrevoked]
  refine ⟨?_, ?_⟩
  · rintro session hsession rfl
    exact hnone (hactive session hsession)
  · intro hidle sessionId hget
    exact hnone (hregistered hidle sessionId controllerDeviceId hget)

open AuthorizationRegistry OfferVerifier

/-- The primitives on the snapshots of the sample run: without a grant, and with the
grant after the recorded connection. -/
def sampleRevocationCrypto : Crypto where
  sha256 input :=
    if input = HostAuthorizationSnapshot.encode { hostDeviceId := sampleHostId, grants := [] }
    then #v[193, 73, 7, 99, 78, 115, 167, 4, 59, 217, 148, 1, 115, 109, 29, 106,
            203, 54, 105, 82, 67, 108, 38, 185, 104, 109, 157, 111, 99, 13, 143, 145]
    else if input = HostAuthorizationSnapshot.encode
        { hostDeviceId := sampleHostId
          grants :=
            [{ sampleGrantView with lastSuccessfulConnectionAtUnixMs := 1700000000500 }] }
    then #v[171, 131, 194, 254, 174, 24, 179, 12, 189, 63, 147, 108, 204, 52, 84, 135,
            31, 69, 174, 130, 252, 79, 41, 137, 183, 107, 124, 214, 71, 184, 117, 209]
    else sampleOfferCrypto.sha256 input
  validKey := sampleOfferCrypto.validKey
  verifies := sampleOfferCrypto.verifies

/-- The sample controller is granted access and revoked while its session is activated:
after the connection is recorded and before the session is active. -/
def sampleRevocation : List HostInput :=
  [.grant sampleController [.viewScreen, .controlInput] 1700000000000
      (fun _ => some (Vector.replicate 16 5)) noFaults,
    .verify ⟨sampleOffer.sessionId, sampleController.deviceId⟩ sampleOffer "v=0\r\n"
      (List.replicate 32 7) 1700000000500,
    .register true, .record 1700000000500 noFaults, .revoke (List.replicate 16 5) noFaults,
    .terminate 0, .activate true, .send 0, .receive, .unregister, .send 0]

/-- The verifier of the sample Host. -/
def sampleVerifier : OfferVerifier := { hostDeviceId := sampleHostId, usedNonces := ∅ }

theorem revocation_complete_sample :
    ((machine sampleRevocationCrypto).run (started ⟨sampleRegistry, none⟩ sampleVerifier)
      (sampleRevocation.take 7)).active =
      some ⟨sampleOffer.sessionId, sampleController.deviceId⟩ ∧
    (∀ session, ((machine sampleRevocationCrypto).run
      (started ⟨sampleRegistry, none⟩ sampleVerifier) sampleRevocation).active =
      some session → session.controllerDeviceId ≠ sampleController.deviceId) ∧
    ∀ sessionId : Bytes, ((machine sampleRevocationCrypto).run
      (started ⟨sampleRegistry, none⟩ sampleVerifier)
      sampleRevocation).sessions[sessionId]? ≠ some sampleController.deviceId := by
  have hload : load sampleRevocationCrypto HostAuthorizationSnapshot.decode noFaults none
      sampleHostId = .ok sampleRegistry := by
    decide +kernel
  have hsettled : ((machine sampleRevocationCrypto).run
      (started ⟨sampleRegistry, none⟩ sampleVerifier) sampleRevocation).Settled := by
    constructor <;> decide +kernel
  have hrevoked : ((machine sampleRevocationCrypto).run
      (started ⟨sampleRegistry, none⟩ sampleVerifier)
      sampleRevocation).authorization.registry.controllerGrant sampleController.deviceId =
      none := by
    decide +kernel
  have hcomplete := revocation_complete hload sampleRevocation hsettled hrevoked
  refine ⟨by decide +kernel, hcomplete.1, hcomplete.2 ?_⟩
  decide +kernel

end HostState

end Host

end Roammand
