import Roammand.Bridge.BrokerMediation
import Roammand.Bridge.PeerProxy
import Roammand.Host.PressedInput

/-!
# Privileged bridge: what a session may do to its own desktop

A Host session releases what is pressed before it reconnects or closes, whatever its
controller may do.  Over the bridge that release is an input command like any other,
and the broker lets input commands through only under a lease that may control input.

Main results:

- Theorem `HostBrokerSession.handle_forwards_iff`: the broker forwards a request of the proxies
  under a live lease, except an input command without the permission for it.
- Theorem `PeerProxy.step_rests`: the proxies and the broker stay in step, whatever happens on
  the bridge.
- Theorem `PeerProxy.permission_agreement`: over every run of a session and its bridge, all requests
  of the session are accepted exactly if it may control input or never releases any.
-/

namespace Roammand

namespace Bridge

open Library Protocol Fallible HostBrokerSession LeaseManager

/-! ## The broker's session in step with the proxies -/

variable {m : LeaseManager} {id : Bytes16}

/-- A lease that is still there after a renewal has only got new times. -/
theorem LeaseManager.renew_same {generation now : Nat}
    {lease' : Lease} (h : (m.renew id generation now).1.active = some lease') :
    ∃ lease, m.active = some lease ∧ lease'.id = lease.id ∧
      lease'.generation = lease.generation ∧
      lease'.controllerDisplayName = lease.controllerDisplayName ∧
      lease'.lastCommandSequence = lease.lastCommandSequence := by
  have heffect := m.renew_effect id generation now
  generalize (m.renew id generation now).1 = m' at h heffect
  generalize (m.renew id generation now).2 = r at heffect
  cases heffect with
  | idle => exact ⟨lease', h, rfl, rfl, rfl, rfl⟩
  | finish _ _ _ _ hactive => rw [hactive] at h; cases h
  | renew hactive => cases h; exact ⟨_, hactive, rfl, rfl, rfl, rfl⟩
  | overflow hactive => cases h; exact ⟨_, hactive, rfl, rfl, rfl, rfl⟩

/-- A refused release changes nothing. -/
theorem LeaseManager.releaseOrClose_error {generation : Nat}
    {e : LeaseError} (h : (m.releaseOrClose id generation).2 = .error e) :
    (m.releaseOrClose id generation).1.active = m.active := by
  unfold releaseOrClose at h ⊢
  split at h
  · split at h
    · rfl
    · cases h
  · split <;> rfl

/-- A request of the proxies: it names their route, the controller it may name is theirs,
and it is no secure attention. -/
structure Routed (route : ProxyRoute) (name : String) (request : PrivilegedBridgeClientFrame) :
    Prop where
  ref : ∃ payload, request.payload = some payload ∧
    payload.leaseRef = some (route.leaseId.toList, route.generation)
  name : ∀ name', requestControllerDisplayName request = some name' →
    name' = name
  plain : ∀ leaseId generation, request.payload ≠ some (.sendSecureAttention leaseId generation)

namespace HostBrokerSession

/-- Whatever lease is active is the one of the proxies, its commands are counted as the
session counts them, and its permissions are those it was acquired with. -/
def InStep (route : ProxyRoute) (name : String) (permissions : List Int32)
    (s : HostBrokerSession) : Prop :=
  ∀ lease, s.active = some lease → lease.id = route.leaseId ∧
    lease.generation = route.generation ∧ lease.controllerDisplayName = name ∧
    lease.lastCommandSequence = s.operationSequence ∧ s.permissions = permissions

/-- The lease is active and has not expired. -/
def Live (now : Nat) (s : HostBrokerSession) : Prop :=
  ∃ lease, s.active = some lease ∧ now < lease.expiresAtMs

variable {route : ProxyRoute} {name : String} {permissions : List Int32}
  {s s' : HostBrokerSession}

theorem InStep.of_none (h : s.active = none) : InStep route name permissions s := by
  intro lease hactive
  rw [h] at hactive
  cases hactive

/-- Nothing that `InStep` speaks about has changed. -/
theorem InStep.congr (h : InStep route name permissions s) (hactive : s'.active = s.active)
    (hcount : s'.operationSequence = s.operationSequence)
    (hpermissions : s'.permissions = s.permissions) : InStep route name permissions s' := by
  intro lease hlease
  rw [hactive] at hlease
  rw [hcount, hpermissions]
  exact h lease hlease

/-- The next command of the proxies is authorised under a live lease, and the counts stay
in step. -/
theorem authorizeCommand_inStep {sequence : Nat} (hstep : InStep route name permissions s)
    (hsequence : checkedAdd s.operationSequence 1 = some sequence) (now : Nat) :
    wp (callBroker (·.authorizeCommand route.leaseId route.generation sequence now))
      (fun r s' => InStep route name permissions s' ∧ s'.operationSequence = sequence ∧
        s'.helper = s.helper ∧ (Live now s → r = .ok ()))
      { s with operationSequence := sequence } := by
  change InStep _ _ _ { s with
      operationSequence := sequence
      broker := { s.broker with leases := (s.broker.leases.authorizeCommand route.leaseId
        route.generation sequence now).1 } } ∧ _ ∧ _ ∧ (_ →
    (s.broker.leases.authorizeCommand route.leaseId route.generation sequence now).2.mapError
      (fun _ => BrokerProtocolError.lease) = .ok ())
  cases hactive : s.broker.leases.active with
  | none =>
    have hrefused : s.broker.leases.authorizeCommand route.leaseId route.generation sequence now =
        (s.broker.leases, .error .leaseNotActive) := by
      simp only [authorizeCommand, hactive]
    rw [hrefused]
    refine ⟨.of_none hactive, rfl, rfl, ?_⟩
    rintro ⟨lease, hlease, -⟩
    cases hlease.symm.trans hactive
  | some lease =>
    obtain ⟨hid, hgeneration, hname, hcount, hpermissions⟩ := hstep lease hactive
    by_cases hexpired : lease.expiresAtMs ≤ now
    · have hrefused : s.broker.leases.authorizeCommand route.leaseId route.generation sequence
          now = (s.broker.leases.freezeActive.1, .error .leaseExpired) := by
        simp [authorizeCommand, hactive, validateActiveRef, hid, hgeneration, hexpired]
      rw [hrefused]
      refine ⟨.of_none (freezeActive_active _), rfl, rfl, ?_⟩
      rintro ⟨lease', hlease', hbefore⟩
      cases hlease'.symm.trans hactive
      omega
    · have hauthorised : s.broker.leases.authorizeCommand route.leaseId route.generation sequence
          now = ({ s.broker.leases with
            active := some { lease with lastCommandSequence := sequence } }, .ok ()) := by
        simp [authorizeCommand, hactive, validateActiveRef, hid, hgeneration,
          hexpired, hcount, hsequence]
      rw [hauthorised]
      refine ⟨?_, rfl, rfl, fun _ => rfl⟩
      rintro _ ⟨⟩
      exact ⟨hid, hgeneration, hname, rfl, hpermissions⟩

/-- The controller named by a request of the proxies is the one of the lease. -/
theorem checkControllerDisplayName_inStep {request : PrivilegedBridgeClientFrame}
    (hstep : InStep route name permissions s) (hrouted : Routed route name request) (now : Nat) :
    wp (checkControllerDisplayName request)
      (fun r s' => s' = s ∧ (Live now s → r = .ok ())) s := by
  have hname := hrouted.name
  unfold checkControllerDisplayName
  cases hnamed : requestControllerDisplayName request with
  | none => exact ⟨rfl, fun _ => rfl⟩
  | some name' =>
    simp only [wp_bind, wp_get, andThen_ok, wp_orThrow, wp_require]
    refine ⟨fun lease hlease => ⟨fun _ => ⟨trivial, fun _ => trivial⟩, fun hother => ?_⟩,
      fun hnone => ?_⟩
    · refine absurd ?_ hother
      rw [(hstep lease hlease).2.2.1]
      exact hname name' hnamed
    · refine ⟨rfl, ?_⟩
      rintro ⟨lease, hlease, -⟩
      cases hlease.symm.trans hnone

theorem forward_inStep {request : PrivilegedBridgeClientFrame} {answered : ProxyRoute}
    (hstep : InStep route name permissions s) :
    wp (forward request answered) (fun _ s' => InStep route name permissions s' ∧
      s'.operationSequence = s.operationSequence ∧ Sends [request] s s') s := by
  refine wp_mono (forward_spec request answered s) ?_
  rintro r s' ⟨hexchanged, -⟩
  refine ⟨hstep.congr ?_ hexchanged.operationSequence hexchanged.permissions,
    hexchanged.operationSequence, hexchanged.sends⟩
  unfold active
  rw [hexchanged.broker]

/-- The proxies' request is forwarded under a live lease, and the counts stay in step. -/
theorem forwardAuthorized_inStep {request : PrivilegedBridgeClientFrame}
    (hstep : InStep route name permissions s) (hrouted : Routed route name request)
    (hroute : requestRoute request = .ok route) (now : Nat) :
    wp (forwardAuthorized request now) (fun _ s' => InStep route name permissions s' ∧
      s'.operationSequence ≤ s.operationSequence + 1 ∧
      (Live now s → s.operationSequence < u64Max → Sends [request] s s')) s := by
  unfold forwardAuthorized
  rw [wp_bind]
  refine wp_mono (checkControllerDisplayName_inStep hstep hrouted now) ?_
  rintro (error | _) s₁ ⟨hs₁, hchecked⟩
  · subst hs₁
    exact ⟨hstep, Nat.le_succ _, fun hlive => by cases hchecked hlive⟩
  subst hs₁
  rw [andThen_ok, wp_bind, wp_ofResult, hroute]
  simp only [andThen_ok, wp_bind, wp_get, wp_orThrow, wp_modify]
  refine ⟨fun sequence hsequence => ?_, fun hfull => ⟨hstep, Nat.le_succ _, fun _ hroom => ?_⟩⟩
  · have hnext : sequence = s₁.operationSequence + 1 := (checkedAdd_eq_some.mp hsequence).2
    refine wp_mono (authorizeCommand_inStep hstep hsequence now) ?_
    rintro (error | _) s₂ ⟨hstep₂, hcount, hhelper, hauthorised⟩
    · exact ⟨hstep₂, by rw [hcount]; omega, fun hlive => by cases hauthorised hlive⟩
    rw [andThen_ok]
    refine wp_mono (forward_inStep hstep₂) ?_
    rintro r s₃ ⟨hstep₃, hcount₃, hsends⟩
    refine ⟨hstep₃, by rw [hcount₃, hcount]; omega, fun _ _ => ?_⟩
    obtain ⟨calls, hcalls, hrequests⟩ := hsends
    exact ⟨calls, by rw [hcalls, hhelper], hrequests⟩
  · rw [checkedAdd_eq_none] at hfull
    omega

/-- The lease is renewed or it is not, and the counts stay in step. -/
theorem renewLease_inStep {request : PrivilegedBridgeClientFrame} {leaseId : Bytes}
    {generation : Nat} (hstep : InStep route name permissions s) (now : Nat) :
    wp (renewLease request leaseId generation now) (fun _ s' => InStep route name permissions s' ∧
      s'.operationSequence = s.operationSequence) s := by
  unfold renewLease
  simp only [wp_bind, wp_ofResult]
  cases parseRoute leaseId generation with
  | error e => exact ⟨hstep, rfl⟩
  | ok parsed =>
    rw [andThen_ok, wp_bind]
    have hcall : wp (callBroker (·.renew parsed.leaseId parsed.generation now))
        (fun _ s' => InStep route name permissions s' ∧
          s'.operationSequence = s.operationSequence) s := by
      refine ⟨fun lease hlease => ?_, rfl⟩
      change (s.broker.leases.renew parsed.leaseId parsed.generation now).1.active = some lease
        at hlease
      obtain ⟨before, hbefore, hid, hgeneration, hname, hsequence⟩ :=
        renew_same hlease
      obtain ⟨hid', hgeneration', hname', hcount, hpermissions⟩ := hstep before hbefore
      exact ⟨hid.trans hid', hgeneration.trans hgeneration', hname.trans hname',
        hsequence.trans hcount, hpermissions⟩
    refine wp_mono hcall ?_
    rintro (error | lease) s₁ hs₁
    · exact hs₁
    · rw [andThen_ok]
      exact hs₁

/-- A release is forwarded whatever the lease. -/
theorem releaseLease_inStep {request : PrivilegedBridgeClientFrame} {leaseId : Bytes}
    {generation : Nat} (hstep : InStep route name permissions s) {parsed : ProxyRoute}
    (hparsed : parseRoute leaseId generation = .ok parsed) :
    wp (releaseLease request leaseId generation) (fun _ s' => InStep route name permissions s' ∧
      s'.operationSequence = s.operationSequence ∧ Sends [request] s s') s := by
  unfold releaseLease
  simp only [wp_bind, wp_ofResult, hparsed, andThen_ok]
  refine wp_mono (forward_inStep hstep) ?_
  rintro (error | response) s₁ ⟨hstep₁, hcount, hsends⟩
  · exact ⟨hstep₁, hcount, hsends⟩
  rw [andThen_ok, wp_bind]
  unfold wp
  rcases callBroker_cases (·.release parsed.leaseId parsed.generation) s₁ with
    ⟨e, hreleased, hresult⟩ | ⟨ended, hreleased, hresult⟩
  · rw [hresult, andThen_error]
    refine ⟨?_, hcount, hsends⟩
    refine hstep₁.congr ?_ rfl rfl
    change (s₁.broker.leases.releaseOrClose parsed.leaseId parsed.generation).1.active = _
    exact releaseOrClose_error hreleased
  · rw [hresult, andThen_ok]
    exact ⟨.of_none (releaseOrClose_active hreleased), hcount, hsends⟩

/-- The request is one of the session's calls and not the renewal of the lease. -/
def OfSession (request : PrivilegedBridgeClientFrame) : Prop :=
  ∀ leaseId generation, request.payload ≠ some (.renewLease leaseId generation)

/-- The request is an input command. -/
def IsInput (request : PrivilegedBridgeClientFrame) : Prop :=
  ∃ leaseId generation input, request.payload = some (.inputCommand leaseId generation input)

/-- The lease reference of a routed request reads as its route. -/
theorem parseRoute_of_routed {request : PrivilegedBridgeClientFrame}
    {payload : PrivilegedClientPayload}
    (hrouted : Routed route name request) (hgeneration : route.generation ≠ 0)
    (hpayload : request.payload = some payload) {leaseId : Bytes} {generation : Nat}
    (href : payload.leaseRef = some (leaseId, generation)) :
    parseRoute leaseId generation = .ok route := by
  obtain ⟨payload', hpayload', href'⟩ := hrouted.ref
  cases hpayload.symm.trans hpayload'
  cases href.symm.trans href'
  unfold parseRoute
  rw [bytes16?_eq_some.mpr rfl]
  exact if_neg hgeneration

/-- How the broker answers a request of the proxies: its counts stay in step, and under a
live lease it forwards all but input commands without the permission for them. -/
structure Judges (route : ProxyRoute) (name : String) (permissions : List Int32)
    (request : PrivilegedBridgeClientFrame) (now : Nat) (s s' : HostBrokerSession) : Prop where
  inStep : InStep route name permissions s'
  counted : s'.operationSequence ≤ s.operationSequence + 1
  renewed : ¬ OfSession request → s'.operationSequence = s.operationSequence
  forwards : OfSession request → Live now s → s.operationSequence < u64Max →
    (Sends [request] s s' ↔
      (IsInput request → SessionPermission.controlInput.toInt32 ∈ permissions))

theorem handle_forwards_iff {request : PrivilegedBridgeClientFrame}
    (hstep : InStep route name permissions s) (hrouted : Routed route name request)
    (hgeneration : route.generation ≠ 0) (now : Nat) (ids : Except LeaseError Bytes16) :
    wp (handle request now ids) (fun _ s' => Judges route name permissions request now s s') s := by
  obtain ⟨payload, hpayload, href⟩ := hrouted.ref
  have hforwarded : OfSession request → requestRoute request = .ok route →
      (Live now s → IsInput request → SessionPermission.controlInput.toInt32 ∈ permissions) →
      wp (forwardAuthorized request now)
        (fun _ s' => Judges route name permissions request now s s') s := by
    intro hof hroute hpermitted
    refine wp_mono (forwardAuthorized_inStep hstep hrouted hroute now) ?_
    rintro r s' ⟨hstep', hcount, hsends⟩
    exact ⟨hstep', hcount, fun h => absurd hof h,
      fun _ hlive hroom => ⟨fun _ => hpermitted hlive, fun _ => hsends hlive hroom⟩⟩
  have hplain : (∀ leaseId generation, payload ≠ .renewLease leaseId generation) →
      (∀ leaseId generation input, payload ≠ .inputCommand leaseId generation input) →
      requestRoute request = .ok route → wp (forwardAuthorized request now)
        (fun _ s' => Judges route name permissions request now s s') s := by
    intro hrenew hinput hroute
    refine hforwarded (fun leaseId generation h => ?_) hroute ?_
    · exact hrenew leaseId generation (Option.some.inj (hpayload.symm.trans h))
    · rintro - ⟨leaseId, generation, input, h⟩
      exact absurd (Option.some.inj (hpayload.symm.trans h)) (hinput leaseId generation input)
  unfold handle
  rw [hpayload]
  cases payload with
  | authenticate _ | registerHelper _ | acquireLease _ => cases href
  | renewLease leaseId generation =>
    refine wp_mono (renewLease_inStep hstep now) ?_
    rintro r s' ⟨hstep', hcount⟩
    exact ⟨hstep', by omega, fun _ => hcount, fun h => absurd hpayload (h _ _)⟩
  | releaseLease leaseId generation =>
    have hof : OfSession request := fun _ _ h => by cases hpayload.symm.trans h
    refine wp_mono (releaseLease_inStep hstep
      (parseRoute_of_routed hrouted hgeneration hpayload rfl)) ?_
    rintro r s' ⟨hstep', hcount, hsends⟩
    refine ⟨hstep', by omega, fun _ => hcount, fun _ _ _ => ⟨fun _ hinput => ?_, fun _ => hsends⟩⟩
    obtain ⟨_, _, _, hinput⟩ := hinput
    cases hpayload.symm.trans hinput
  | sendSecureAttention leaseId generation => exact absurd hpayload (hrouted.plain _ _)
  | inputCommand leaseId generation input =>
    have hof : OfSession request := fun _ _ h => by cases hpayload.symm.trans h
    have hinput : IsInput request := ⟨leaseId, generation, input, hpayload⟩
    have hpermissions : Live now s → s.permissions = permissions := by
      rintro ⟨lease, hlease, -⟩
      exact (hstep lease hlease).2.2.2.2
    simp only [wp_bind, wp_get, andThen_ok, wp_require]
    refine ⟨fun hcontrol => hforwarded hof ?_ fun hlive _ => ?_, fun hdenied => ?_⟩
    · simp only [requestRoute, hpayload]
      exact parseRoute_of_routed hrouted hgeneration hpayload rfl
    · rw [← hpermissions hlive]
      exact hcontrol
    · refine ⟨hstep, Nat.le_succ _, fun _ => rfl, fun _ hlive _ => ⟨fun hsends => ?_, fun h => ?_⟩⟩
      · obtain ⟨calls, hcalls, hrequests⟩ := hsends
        rw [List.self_eq_append_right.mp hcalls] at hrequests
        cases hrequests
      · rw [← hpermissions hlive] at h
        exact absurd (h hinput) hdenied
  | startPeer value | restartPeer value | addIceCandidate leaseId generation candidate
  | closePeer leaseId generation =>
    refine hplain (fun _ _ h => by cases h) (fun _ _ _ h => by cases h) ?_
    simp only [requestRoute, hpayload]
    exact parseRoute_of_routed hrouted hgeneration hpayload rfl

end HostBrokerSession

/-! ## The proxies -/

namespace Handled

/-- The lease was live when the request reached the broker. -/
def Live (h : Handled) : Prop := HostBrokerSession.Live h.nowMs h.session

/-- The broker has forwarded the request. -/
def Forwarded (h : Handled) : Prop :=
  Sends [h.request] h.session (handle h.request h.nowMs (.error .randomUnavailable) h.session).2

/-- Under a live lease the request of a session was forwarded, except an input command
without the permission for it. -/
def Judged (permissions : List Int32) (h : Handled) : Prop :=
  OfSession h.request → h.Live → (h.Forwarded ↔
    (IsInput h.request →
      SessionPermission.controlInput.toInt32 ∈ permissions))

end Handled

/-- What a lease was acquired for: its route, its controller and its permissions, and the
calls of the sink that are made under it. -/
structure LeaseTerms where
  route : ProxyRoute
  name : String
  permissions : List Int32
  sinkCalls : Host.SinkCall → Prop

/-- A request of the proxies, and if it is an input command, of one of these calls. -/
structure Sent (t : LeaseTerms) (request : PrivilegedBridgeClientFrame) : Prop where
  routed : Routed t.route t.name request
  input : ∀ leaseId generation input,
    request.payload = some (.inputCommand leaseId generation input) →
    ∃ call, t.sinkCalls call ∧ input = some (toInput call)

namespace PeerProxy

variable {t : LeaseTerms} {n n' k : Nat} {p p' : PeerProxy}

/-- The proxies and the broker are in step: the broker has counted at most `n` commands, the
next call of the proxies is number `k`, and every request has been judged. -/
structure Synced (t : LeaseTerms) (n k : Nat) (p : PeerProxy) : Prop where
  route : p.route = t.route
  name : p.wire.controllerDisplayName = t.name
  bound : p.wire.route = some t.route
  sequence : p.nextRequestSequence = k
  inStep : InStep t.route t.name t.permissions p.broker
  counted : p.broker.operationSequence ≤ n
  judged : ∀ h ∈ p.handled, h.Judged t.permissions ∧ Sent t h.request

theorem Synced.mono (h : Synced t n k p) (hle : n ≤ n') :
    Synced t n' k p :=
  ⟨h.route, h.name, h.bound, h.sequence, h.inStep, h.counted.trans hle, h.judged⟩

/-- Shutting the broker down ends the lease. -/
theorem Synced.hangUp (h : Synced t n k p) :
    Synced t n k { p with broker := p.broker.failClosed, served := false } :=
  ⟨h.route, h.name, h.bound, h.sequence, .of_none (freezeActive_active _), h.counted,
    h.judged⟩

/-- The wire may fail at any time. -/
theorem Synced.reject {α : Type} (h : Synced t n k p) (error : ProxyError) :
    wp (reject error : ProxyM α) (fun _ p' => Synced t n k p') p :=
  ⟨h.route, h.name, h.bound, h.sequence, h.inStep, h.counted, h.judged⟩

theorem serve_synced (h : Synced t n k p) (hgeneration : t.route.generation ≠ 0)
    {request : PrivilegedBridgeClientFrame} (hsent : Sent t request)
    (hroom : HostBrokerSession.OfSession request → n < u64Max ∧ n + 1 ≤ n') (hle : n ≤ n')
    (now : Nat) :
    wp (serve request now) (fun _ p' => Synced t n' k p') p := by
  unfold serve
  simp only [wp_bind, wp_get, andThen_ok]
  cases validatePrivilegedBridgeClientFrame request with
  | error e => exact (h.mono hle).hangUp
  | ok _ =>
    have hjudges := HostBrokerSession.handle_forwards_iff h.inStep hsent.routed hgeneration now
      (.error .randomUnavailable)
    unfold wp at hjudges
    simp only [wp_bind, wp_modify, andThen_ok]
    set r := HostBrokerSession.handle request now (.error .randomUnavailable) p.broker with hr
    have hsynced : Synced t n' k { p with
        broker := r.2
        handled := p.handled ++ [{ session := p.broker, request, nowMs := now }] } := by
      refine ⟨h.route, h.name, h.bound, h.sequence, hjudges.inStep, ?_, ?_⟩
      · have hcounted := h.counted
        by_cases hof : HostBrokerSession.OfSession request
        · have hone := hjudges.counted
          have hnext := (hroom hof).2
          change r.2.operationSequence ≤ n'
          omega
        · have hsame := hjudges.renewed hof
          change r.2.operationSequence ≤ n'
          omega
      · intro entry hentry
        rcases List.mem_append.mp hentry with hentry | hentry
        · exact h.judged entry hentry
        · obtain rfl := List.mem_singleton.mp hentry
          refine ⟨fun hof hlive => ?_, hsent⟩
          exact hjudges.forwards hof hlive (h.counted.trans_lt (hroom hof).1)
    cases r.1 with
    | ok response => exact hsynced
    | error e => exact hsynced.hangUp

theorem rpcCall_synced (h : Synced t n k p) (hgeneration : t.route.generation ≠ 0)
    {request : PrivilegedBridgeClientFrame} (hsent : Sent t request)
    (hroom : OfSession request → n < u64Max ∧ n + 1 ≤ n') (hle : n ≤ n')
    (now : Nat) (delivery : Delivery) :
    wp (rpcCall request now delivery) (fun _ p' => Synced t n' k p') p := by
  have hserve := serve_synced h hgeneration hsent hroom hle now
  unfold rpcCall
  simp only [wp_bind, wp_get, andThen_ok, wp_require]
  refine ⟨fun _ => ?_, fun _ => h.mono hle⟩
  cases delivery with
  | lost => exact h.mono hle
  | answered => exact hserve
  | unanswered =>
    rw [wp_bind]
    refine wp_mono hserve ?_
    rintro (error | response) p' hp'
    · exact hp'
    · exact hp'

/-- The payload of a request of the proxies. -/
def Carries (t : LeaseTerms) (payload : PrivilegedClientPayload) : Prop :=
  ∀ frame : PrivilegedBridgeClientFrame, frame.payload = some payload → Sent t frame

/-- The room that a request needs in the count of commands; a renewal needs none. -/
def Room (n n' : Nat) (payload : PrivilegedClientPayload) : Prop :=
  n ≤ n' ∧ ((∀ leaseId generation, payload ≠ .renewLease leaseId generation) →
    n < u64Max ∧ n + 1 ≤ n')

theorem call_synced (h : Synced t n k p) (hgeneration : t.route.generation ≠ 0)
    {request : BridgeRequest} (hroute : request.route = t.route)
    {payload : PrivilegedClientPayload} (hcarries : Carries t payload)
    (hroom : Room n n' payload) (now : Nat) (delivery : Delivery) :
    wp (call request payload now delivery) (fun _ p' => Synced t n' k p') p := by
  unfold call
  simp only [wp_bind, wp_get, andThen_ok, wp_require, wp_ite]
  refine ⟨fun _ => ⟨fun _ => (h.mono hroom.1).reject _, fun _ => ?_⟩, fun _ => h.mono hroom.1⟩
  simp only [wp_modify, andThen_ok]
  have hbound : Synced t n k { p with wire.route := some request.route } :=
    ⟨h.route, h.name, by rw [hroute], h.sequence, h.inStep, h.counted, h.judged⟩
  cases checkedAdd p.wire.nextFrameSequence 1 with
  | none => exact (hbound.mono hroom.1).reject _
  | some next =>
    simp only [wp_bind, wp_modify, andThen_ok, wp_outcome]
    have hnumbered : Synced t n k { p with
        wire.route := some request.route, wire.nextFrameSequence := next } :=
      ⟨h.route, h.name, by rw [hroute], h.sequence, h.inStep, h.counted, h.judged⟩
    refine wp_mono (rpcCall_synced hnumbered hgeneration (hcarries _ rfl) ?_ hroom.1 now
      delivery) ?_
    · intro hof
      refine hroom.2 fun leaseId generation hrenew => ?_
      exact hof leaseId generation (congrArg some hrenew)
    · rintro (error | response) p' hp'
      · exact hp'.reject error
      · rw [andThen_ok]
        simp only [wp_ite]
        exact ⟨fun _ => hp', fun _ => hp'.reject _⟩

theorem accepted_synced (h : Synced t n k p) (hgeneration : t.route.generation ≠ 0)
    {request : BridgeRequest} (hroute : request.route = t.route)
    {payload : PrivilegedClientPayload} (hcarries : Carries t payload)
    (hroom : Room n n' payload) (now : Nat) (delivery : Delivery) :
    wp (accepted request payload now delivery) (fun _ p' => Synced t n' k p') p := by
  unfold accepted
  rw [wp_bind]
  refine wp_mono (call_synced h hgeneration hroute hcarries hroom now delivery) ?_
  rintro (error | response) p' hp'
  · exact hp'
  rw [andThen_ok]
  split
  · rw [wp_bind, wp_ofResult]
    cases clientRoute _ _ with
    | error e => exact hp'
    | ok r => exact hp'
  · exact hp'.reject _
  · exact hp'.reject _

theorem peerAnswer_synced (h : Synced t n k p) (response : PrivilegedBridgeServerFrame)
    (proxySequence : Nat) :
    wp (peerAnswer response proxySequence) (fun _ p' => Synced t n k p') p := by
  unfold peerAnswer
  split
  · simp only [wp_bind, wp_orThrow]
    refine ⟨fun answer _ => ?_, fun _ => h⟩
    rw [andThen_ok, wp_ite]
    refine ⟨fun _ => ?_, fun _ => h.reject _⟩
    rw [wp_bind, wp_ofResult]
    cases clientRoute _ _ with
    | error e => exact h
    | ok r => exact h
  · exact h.reject _
  · exact h.reject _

/-- The requests that the proxies make. -/
def Made (t : LeaseTerms) : PrivilegedClientPayload → Prop
  | .startPeer value | .restartPeer value =>
    value.leaseId = t.route.leaseId.toList ∧ value.generation = t.route.generation ∧
      value.controllerDisplayName = t.name
  | .inputCommand leaseId generation input =>
    leaseId = t.route.leaseId.toList ∧ generation = t.route.generation ∧
      ∃ call, t.sinkCalls call ∧ input = some (toInput call)
  | .renewLease leaseId generation | .releaseLease leaseId generation
  | .addIceCandidate leaseId generation _ | .closePeer leaseId generation =>
    leaseId = t.route.leaseId.toList ∧ generation = t.route.generation
  | .authenticate _ | .registerHelper _ | .acquireLease _ | .sendSecureAttention .. => False

variable {payload : PrivilegedClientPayload}

theorem Made.carries (h : Made t payload) :
    Carries t payload := by
  intro frame hframe
  have hplain : ∀ leaseId generation,
      frame.payload ≠ some (.sendSecureAttention leaseId generation) := by
    intro leaseId generation hattention
    cases hframe.symm.trans hattention
    exact h
  cases payload with
  | authenticate _ | registerHelper _ | acquireLease _ | sendSecureAttention _ _ => exact h.elim
  | startPeer value | restartPeer value =>
    obtain ⟨hid, hgeneration, hvalue⟩ := h
    refine ⟨⟨⟨_, hframe, by rw [← hid, ← hgeneration]; rfl⟩, ?_, hplain⟩, ?_⟩
    · intro name' hname'
      simp only [requestControllerDisplayName, hframe] at hname'
      cases hname'
      exact hvalue
    · intro _ _ _ hinput
      cases hframe.symm.trans hinput
  | inputCommand leaseId generation input =>
    obtain ⟨rfl, rfl, hcall⟩ := h
    refine ⟨⟨⟨_, hframe, rfl⟩, ?_, hplain⟩, ?_⟩
    · intro name' hname'
      simp only [requestControllerDisplayName, hframe] at hname'
      cases hname'
    · intro _ _ _ hinput
      cases hframe.symm.trans hinput
      exact hcall
  | renewLease _ _ | releaseLease _ _ | addIceCandidate _ _ _ | closePeer _ _ =>
    obtain ⟨rfl, rfl⟩ := h
    refine ⟨⟨⟨_, hframe, rfl⟩, ?_, hplain⟩, ?_⟩
    · intro name' hname'
      simp only [requestControllerDisplayName, hframe] at hname'
      cases hname'
    · intro _ _ _ hinput
      cases hframe.symm.trans hinput

theorem renewIfDue_synced (hgeneration : t.route.generation ≠ 0) (env : CallEnvironment) :
    Keeps (Carried (Synced t n k)) (renewIfDue env) := by
  refine .of_carried fun p h => ?_
  unfold renewIfDue
  simp only [wp_bind, wp_get, andThen_ok, wp_onlyIf, wp_orThrow]
  refine ⟨fun _ => ⟨fun route hbound => ?_, fun _ => h⟩, fun _ => h⟩
  obtain rfl : route = t.route := Option.some.inj (hbound.symm.trans h.bound)
  have hmade : Made t (.renewLease t.route.leaseId.toList t.route.generation) := ⟨rfl, rfl⟩
  refine wp_mono (call_synced h hgeneration rfl hmade.carries
    ⟨le_rfl, fun hrenew => absurd rfl (hrenew _ _)⟩ _ _) ?_
  rintro (error | response) p' hp'
  · exact hp'
  rw [andThen_ok]
  split
  · simp only [wp_bind, wp_ofResult]
    cases clientRoute _ _ with
    | error e => exact hp'
    | ok renewed =>
      simp only [andThen_ok, wp_ite, wp_modify]
      refine ⟨fun _ => hp'.reject _, fun _ => ?_⟩
      exact ⟨hp'.route, hp'.name, hp'.bound, hp'.sequence, hp'.inStep, hp'.counted, hp'.judged⟩
  · exact hp'.reject _

/-! ## The calls of the session -/

/-- A request of a session that is counted once. -/
theorem Room.one (hroom : n < u64Max) :
    Room n (n + 1) payload :=
  ⟨Nat.le_succ n, fun _ => ⟨hroom, le_rfl⟩⟩

/-- A call that keeps the proxies in step and is counted at most once. -/
def Counts {α : Type} (t : LeaseTerms) (call : BridgeRequest → ProxyM (BridgeResponse α)) : Prop :=
  ∀ n k p request, Synced t n k p → n < u64Max → request.route = t.route →
    wp (call request) (fun _ p' => Synced t (n + 1) k p') p

theorem negotiate_counts (hgeneration : t.route.generation ≠ 0)
    {payload : PrivilegedPeerRequest → PrivilegedClientPayload}
    (hpayload : payload = .startPeer ∨ payload = .restartPeer) (offerSdp : String)
    (env : CallEnvironment) : Counts t (negotiate payload offerSdp env) := by
  intro n k p request h hroom hroute
  unfold negotiate
  rw [wp_bind]
  have hrenewed : wp (renewIfDue env) (fun _ p' => Synced t n k p') p :=
    renewIfDue_synced hgeneration env p h
  refine wp_mono hrenewed ?_
  rintro (error | _) p₁ hp₁
  · exact hp₁.mono (Nat.le_succ n)
  rw [andThen_ok, wp_bind]
  unfold peerRequest
  simp only [wp_bind, wp_get, andThen_ok, wp_orThrow, wp_pure]
  refine ⟨fun fingerprint _ => ?_, fun _ => hp₁.mono (Nat.le_succ n)⟩
  have hmade : ∀ offer, Made t (payload
      { leaseId := request.route.leaseId.toList
        generation := request.route.generation
        configuration := some p₁.wire.configuration
        offer
        controllerDisplayName := p₁.wire.controllerDisplayName }) := by
    intro offer
    rcases hpayload with rfl | rfl
    · exact ⟨by rw [hroute], by rw [hroute], hp₁.name⟩
    · exact ⟨by rw [hroute], by rw [hroute], hp₁.name⟩
  refine wp_mono (call_synced hp₁ hgeneration hroute (hmade _).carries (.one hroom) _ _) ?_
  rintro (error | response) p₂ hp₂
  · exact hp₂
  · rw [andThen_ok]
    exact peerAnswer_synced hp₂ response request.sequence

/-- A request that is only acknowledged. -/
theorem accepted_counts (hgeneration : t.route.generation ≠ 0)
    {payload : BridgeRequest → PrivilegedClientPayload}
    (hmade : ∀ request, request.route = t.route → Made t (payload request)) (now : Nat)
    (delivery : Delivery) :
    Counts t (fun request => accepted request (payload request) now delivery) := by
  intro n k p request h hroom hroute
  exact accepted_synced h hgeneration hroute (hmade request hroute).carries (.one hroom) now
    delivery

/-- A renewal may come first. -/
theorem Counts.after_renewal {call : BridgeRequest → ProxyM (BridgeResponse Unit)}
    (hcall : Counts t call) (hgeneration : t.route.generation ≠ 0) (env : CallEnvironment) :
    Counts t (fun request => do renewIfDue env; call request) := by
  intro n k p request h hroom hroute
  rw [wp_bind]
  have hrenewed : wp (renewIfDue env) (fun _ p' => Synced t n k p') p :=
    renewIfDue_synced hgeneration env p h
  refine wp_mono hrenewed ?_
  rintro (error | _) p₁ hp₁
  · exact hp₁.mono (Nat.le_succ n)
  · rw [andThen_ok]
    exact hcall n k p₁ request hp₁ hroom hroute

theorem addCandidate_counts (hgeneration : t.route.generation ≠ 0)
    (candidate : Host.PeerIceCandidate) (env : CallEnvironment) :
    Counts t (addCandidate candidate env) := by
  refine Counts.after_renewal (accepted_counts hgeneration (fun request hroute => ?_) _ _)
    hgeneration env
  rw [hroute]
  exact ⟨rfl, rfl⟩

theorem input_counts (hgeneration : t.route.generation ≠ 0) {call : Host.SinkCall}
    (hcall : t.sinkCalls call) (env : CallEnvironment) : Counts t (input call env) := by
  refine Counts.after_renewal (accepted_counts hgeneration (fun request hroute => ?_) _ _)
    hgeneration env
  rw [hroute]
  exact ⟨rfl, rfl, call, hcall, rfl⟩

theorem closePeer_counts (hgeneration : t.route.generation ≠ 0) (env : CallEnvironment) :
    Counts t (closePeer env) := by
  refine accepted_counts hgeneration (fun request hroute => ?_) _ _
  rw [hroute]
  exact ⟨rfl, rfl⟩

theorem release_counts (hgeneration : t.route.generation ≠ 0) (env : CallEnvironment) :
    Counts t (release env) := by
  refine accepted_counts hgeneration (fun request hroute => ?_) _ _
  rw [hroute]
  exact ⟨rfl, rfl⟩

/-- The proxies are in step, and the broker has counted no more commands than they have
made calls. -/
def Rests (t : LeaseTerms) (p : PeerProxy) : Prop :=
  ∃ n, Synced t n p.nextRequestSequence p ∧ n < p.nextRequestSequence

theorem Rests.failClosed (h : Rests t p) : wp failClosed (fun _ p' => Rests t p') p := by
  obtain ⟨n, h, hn⟩ := h
  exact ⟨n, ⟨h.route, h.name, h.bound, rfl, h.inStep, h.counted, h.judged⟩, hn⟩

theorem perform_rests {α : Type} {call : BridgeRequest → ProxyM (BridgeResponse α)}
    (hcall : Counts t call) : Keeps (Carried (Rests t)) (perform call) := by
  refine .of_carried fun p h => ?_
  have hfailed : ∀ {α : Type} (error : ProxyError) {p' : PeerProxy}, Rests t p' →
      wp (do failClosed; throw error : ProxyM α) (fun _ p'' => Rests t p'') p' := by
    intro α error p' hp'
    rw [wp_bind]
    refine wp_mono hp'.failClosed ?_
    rintro (error | _) p'' hp''
    · exact hp''
    · exact hp''
  obtain ⟨n, hsynced, hn⟩ := h
  unfold perform
  simp only [wp_bind, wp_get, andThen_ok, wp_require, wp_orThrow, wp_modify, wp_outcome]
  refine ⟨fun _ => ⟨fun next hnext => ?_, fun _ => ⟨n, hsynced, hn⟩⟩, fun _ => ⟨n, hsynced, hn⟩⟩
  obtain ⟨hmax, rfl⟩ := checkedAdd_eq_some.mp hnext
  have hnumbered : Synced t n (p.nextRequestSequence + 1)
      { p with nextRequestSequence := p.nextRequestSequence + 1 } :=
    ⟨hsynced.route, hsynced.name, hsynced.bound, rfl, hsynced.inStep, hsynced.counted,
      hsynced.judged⟩
  refine wp_mono (hcall n _ _ _ hnumbered (by omega) hsynced.route) ?_
  rintro (error | response) p₁ hp₁
  · exact hfailed error ⟨n + 1, hp₁.sequence.symm ▸ hp₁, by rw [hp₁.sequence]; omega⟩
  have hrests : Rests t p₁ := ⟨n + 1, hp₁.sequence.symm ▸ hp₁, by rw [hp₁.sequence]; omega⟩
  rw [andThen_ok, wp_ite]
  refine ⟨fun _ => hfailed _ hrests, fun _ => ?_⟩
  rw [wp_ite]
  exact ⟨fun _ => hfailed _ hrests, fun _ => hrests⟩

theorem close_rests (hgeneration : t.route.generation ≠ 0) (env env' : CallEnvironment) :
    Keeps (Carried (Rests t)) (close env env') := by
  unfold close
  refine .bind .get fun p => .ite (.pure _) (.bind (.outcome ?_) fun _ => .bind (.outcome ?_)
    fun _ => .bind (.modify ?_) fun _ => .bind .ofResult fun _ => .ofResult)
  · exact perform_rests (closePeer_counts hgeneration env)
  · exact perform_rests (release_counts hgeneration env')
  · rintro p ⟨n, h, hn⟩
    exact ⟨n, ⟨h.route, h.name, h.bound, rfl, h.inStep, h.counted, h.judged⟩, hn⟩

theorem poll_rests (hgeneration : t.route.generation ≠ 0) (env : CallEnvironment)
    (healthy : Bool) : Keeps (Carried (Rests t)) (poll env healthy) := by
  have hrenew : Keeps (Carried (Rests t)) (renewIfDue env) := by
    refine .of_carried fun p h => ?_
    obtain ⟨n, hsynced, hn⟩ := h
    have hrenewed : wp (renewIfDue env) (fun _ p' => Synced t n p.nextRequestSequence p') p :=
      renewIfDue_synced hgeneration env p hsynced
    refine wp_mono hrenewed ?_
    intro r p' hp'
    exact ⟨n, hp'.sequence.symm ▸ hp', by rw [hp'.sequence]; exact hn⟩
  have hfail : Keeps (Carried (Rests t)) failClosed := .of_carried fun p h => h.failClosed
  unfold poll
  refine .bind .get fun p => .bind .require fun _ => .bind (.outcome (.bind .require fun _ =>
    .bind hrenew fun _ => .require)) fun result => ?_
  cases result with
  | ok _ => exact .pure _
  | error error => exact .bind hfail fun _ => .throw _

/-- The broker changes its lease but not its counts, or ends it. -/
theorem Rests.broker (h : Rests t p) {broker : HostBrokerSession} {served : Bool}
    (hinStep : InStep t.route t.name t.permissions broker)
    (hcount : broker.operationSequence = p.broker.operationSequence) :
    Rests t { p with broker, served } := by
  obtain ⟨n, h, hn⟩ := h
  exact ⟨n, ⟨h.route, h.name, h.bound, rfl, hinStep, hcount.trans_le h.counted, h.judged⟩, hn⟩

end PeerProxy

namespace HostBrokerSession

/-- Lease, counts and permissions are as they were. -/
structure Unmoved (s s' : HostBrokerSession) : Prop where
  broker : s'.broker = s.broker
  permissions : s'.permissions = s.permissions
  operationSequence : s'.operationSequence = s.operationSequence

instance : IsPreorder HostBrokerSession Unmoved where
  refl _ := ⟨rfl, rfl, rfl⟩
  trans _ _ _ h h' := ⟨h'.broker.trans h.broker, h'.permissions.trans h.permissions,
    h'.operationSequence.trans h.operationSequence⟩

theorem tryEvent_unmoved : Keeps Unmoved tryEvent := by
  have hpoll : Keeps Unmoved pollHelper := fun _ => ⟨rfl, rfl, rfl⟩
  have hfail : Keeps Unmoved failHelper := fun _ => ⟨rfl, rfl, rfl⟩
  unfold tryEvent
  refine .bind hpoll fun event => ?_
  cases event with
  | none => exact .pure _
  | some response =>
    exact .bind .get fun _ => .bind .orThrow fun _ => .bind .ofResult fun _ =>
      .ite (.bind hfail fun _ => .throw _) (.pure _)

theorem Unmoved.inStep {route : ProxyRoute} {name : String} {permissions : List Int32}
    {s s' : HostBrokerSession} (h : Unmoved s s') (hstep : InStep route name permissions s) :
    InStep route name permissions s' :=
  hstep.congr (by unfold active; rw [h.broker]) h.operationSequence h.permissions

theorem expire_inStep {route : ProxyRoute} {name : String} {permissions : List Int32}
    {s : HostBrokerSession} (hstep : InStep route name permissions s) (now : Nat) :
    InStep route name permissions (s.expire now).1 ∧
      (s.expire now).1.operationSequence = s.operationSequence := by
  by_cases hexpired : (s.expire now).2 = true
  · refine ⟨.of_none (expire_active hexpired), ?_⟩
    unfold expire
    dsimp only
    split <;> rfl
  · have hstill : (s.expire now).1.active = s.active ∧
        (s.expire now).1.permissions = s.permissions ∧
        (s.expire now).1.operationSequence = s.operationSequence := by
      unfold expire at hexpired ⊢
      dsimp only at hexpired ⊢
      split at hexpired
      · next hnone =>
        refine ⟨?_, rfl, rfl⟩
        change (s.broker.leases.expire now).2 = none at hnone
        change (s.broker.leases.expire now).1.active = s.broker.leases.active
        unfold LeaseManager.expire at hnone ⊢
        split at hnone
        · rfl
        · split at hnone
          · cases hnone
          · next hlate => rw [if_neg hlate]
      · exact absurd rfl hexpired
    exact ⟨hstep.congr hstill.1 hstill.2.2 hstill.2.1, hstill.2.2⟩

end HostBrokerSession

namespace PeerProxy

variable {t : LeaseTerms} {p : PeerProxy}

theorem step_rests (hgeneration : t.route.generation ≠ 0) {op : ProxyOp}
    (hop : ∀ call, op.sinkCall? = some call → t.sinkCalls call) (h : Rests t p) :
    Rests t (machine.step p op).1 := by
  cases op with
  | call call env env' =>
    cases call with
    | sink call => exact perform_rests (input_counts hgeneration (hop call rfl) env) p h
    | peer call =>
      cases call with
      | start offerSdp =>
        exact perform_rests (negotiate_counts hgeneration (.inl rfl) offerSdp env) p h
      | restart offerSdp =>
        exact perform_rests (negotiate_counts hgeneration (.inr rfl) offerSdp env) p h
      | addRemoteIceCandidate candidate =>
        exact perform_rests (addCandidate_counts hgeneration candidate env) p h
      | close => exact close_rests hgeneration env env' p h
  | poll env healthy => exact poll_rests hgeneration env healthy p h
  | expire now =>
    obtain ⟨n, hsynced, -⟩ := id h
    obtain ⟨hinStep, hcount⟩ := expire_inStep hsynced.inStep now
    unfold machine
    dsimp only
    split
    · exact h.broker (.of_none (freezeActive_active _)) hcount
    · exact h.broker hinStep hcount
  | pollHelper =>
    obtain ⟨n, hsynced, -⟩ := id h
    have hunmoved : Unmoved p.broker (p.broker.tryEvent).2 :=
      tryEvent_unmoved p.broker
    unfold machine
    dsimp only
    split
    · next event broker hevent =>
      rw [hevent] at hunmoved
      exact h.broker (hunmoved.inStep hsynced.inStep) hunmoved.operationSequence
    · next error broker hevent =>
      rw [hevent] at hunmoved
      exact h.broker (.of_none (freezeActive_active _)) hunmoved.operationSequence
  | disconnect => exact h.broker (.of_none (freezeActive_active _)) rfl

end PeerProxy

namespace HostBrokerSession

/-- The granted lease is active and nothing is counted under it. -/
theorem callAcquire_fresh (asked : AcquireLease) (now : Nat) (ids : Except LeaseError Bytes16)
    (s : HostBrokerSession) :
    wp (callBroker (·.acquire asked now ids)) (fun r s' => ∀ lease, r = .ok lease →
      s'.active = some lease ∧ lease.controllerDisplayName = asked.controllerDisplayName ∧
        lease.lastCommandSequence = 0) s := by
  unfold wp
  rcases callBroker_cases (·.acquire asked now ids) s with
    ⟨e, hacquired, hresult⟩ | ⟨lease, hacquired, hresult⟩
  · rw [hresult]
    intro lease h
    cases h
  · have hacquired' : (s.broker.leases.acquire asked now ids).2 = .ok lease := hacquired
    have heffect := s.broker.leases.acquire_effect asked now ids
    rw [hacquired'] at heffect
    rw [hresult]
    rintro _ ⟨⟩
    refine ⟨heffect.active_of_granted rfl, ?_⟩
    obtain ⟨-, -, -, id, -, -, -, rfl⟩ := acquire_eq_ok.mp hacquired'
    exact ⟨rfl, rfl⟩

/-- A request for a lease that succeeds starts with nothing counted. -/
theorem acquire_fresh {request : PrivilegedBridgeClientFrame}
    {value : AcquirePrivilegedLeaseRequest} (now : Nat) (ids : Except LeaseError Bytes16)
    (s : HostBrokerSession) :
    wp (acquire request value now ids) (fun r s' => ∀ response, r = .ok response →
      ∃ lease, s'.active = some lease ∧
        response = leaseResponse request lease value.permissions ∧
        lease.controllerDisplayName = value.controllerDisplayName ∧
        lease.lastCommandSequence = 0 ∧ s'.operationSequence = 0 ∧
        s'.permissions = value.permissions) s := by
  unfold acquire
  simp only [wp_bind, wp_orThrow]
  refine ⟨fun sessionId _ => ?_, fun _ _ h => by cases h⟩
  rw [andThen_ok, wp_bind]
  refine wp_mono (callAcquire_fresh _ now ids s) ?_
  rintro (error | lease) s₁ hgranted
  · intro _ h
    cases h
  obtain ⟨hactive, hname, hcount⟩ := hgranted lease rfl
  rw [andThen_ok, wp_bind]
  change andThen _ _ ((s₁.broker.routes.beginControl lease.generation).2.mapError _)
    { s₁ with broker := { s₁.broker with
      routes := (s₁.broker.routes.beginControl lease.generation).1 } }
  rw [SessionStateMachine.beginControl_eq]
  by_cases hserves : s₁.broker.routes.Serves lease.generation
  · rw [if_pos hserves]
    rintro _ ⟨⟩
    exact ⟨lease, hactive, rfl, hname, hcount, rfl, rfl⟩
  · rw [if_neg hserves]
    intro _ h
    cases h

end HostBrokerSession

namespace PeerProxy

/-- New proxies are in step with the broker, and nothing has been asked of it. -/
theorem connect_rests {configuration : PrivilegedPeerConfiguration}
    {parse : String → Option Bytes} {context : ProxySessionContext}
    {generation now clock : Nat} {ids : Except LeaseError Bytes16} {session : HostBrokerSession}
    {p : PeerProxy} (sinkCalls : Host.SinkCall → Prop)
    (h : connect configuration parse context generation now clock ids session = .ok p) :
    p.route.generation ≠ 0 ∧ Rests
      ⟨p.route, context.controllerDisplayName, context.wirePermissions, sinkCalls⟩ p := by
  unfold connect at h
  split at h
  · cases h
  have hfresh : ∀ response,
      (HostBrokerSession.handle (acquireRequest context generation) now ids session).1 =
        .ok response → _ :=
    HostBrokerSession.acquire_fresh now ids session
  dsimp only at h
  set r := HostBrokerSession.handle (acquireRequest context generation) now ids session
  split at h
  · cases h
  · next response hresponse =>
    obtain ⟨lease, hactive, rfl, hname, hlast, hcount, hpermissions⟩ := hfresh response hresponse
    have hid : bytes16? lease.id.toList = some lease.id := bytes16?_eq_some.mpr rfl
    simp only [HostBrokerSession.leaseResponse, HostBrokerSession.responseFrame, hid, okOr,
      create, bind_eq_ok, ensure_eq_ok, pure, Except.pure, Except.ok.injEq] at h
    obtain ⟨_, rfl, _, -, _, hgeneration, _, -, rfl⟩ := h
    refine ⟨hgeneration, 0, ⟨rfl, rfl, rfl, rfl, ?_, hcount.le, by simp⟩, Nat.one_pos⟩
    intro lease' hlease'
    cases hlease'.symm.trans hactive
    exact ⟨rfl, rfl, hname, hlast.trans hcount.symm, hpermissions⟩

/-! ## The session over the proxies -/

end PeerProxy

end Bridge

namespace Host.HostPeerSession

open Library Fallible

variable {s : HostPeerSession}

/-- A session that may not control sends no input, whatever it is called for. -/
theorem makeCall_quiet (hdenied : s.inputAllowed = false) (call : SessionCall) :
    Quiet s (makeCall s call).1 := by
  have hready : ¬ Ready s := fun h => by cases hdenied.symm.trans h.allowed
  cases call with
  | acceptOffer offerSdp => exact (acceptOffer_spec offerSdp s).1
  | markConnected =>
    change wp markConnected (fun _ s' => Quiet s s') s
    refine wp_mono (markConnected_spec s) ?_
    rintro r s' (⟨-, rfl⟩ | ⟨-, rfl⟩)
    · exact ⟨rfl, rfl, rfl⟩
    · exact .refl _
  | beginReconnect => exact (beginReconnect_spec s).1
  | acceptReconnectOffer offerSdp => exact (acceptReconnectOffer_spec offerSdp s).1
  | addRemoteIceCandidate candidate => exact (addRemoteIceCandidate_spec candidate s).1
  | handleReliable decoded =>
    have hsame : (handleReliable decoded s).2 = s := ((handleReliable_spec decoded s).2 hready).1
    change Quiet s (handleReliable decoded s).2
    rw [hsame]
    exact .refl s
  | handlePointerFast decoded =>
    have hsame : (handlePointerFast decoded s).2 = s :=
      ((handlePointerFast_spec decoded s).2 hready).1
    change Quiet s (handlePointerFast decoded s).2
    rw [hsame]
    exact .refl s
  | close => exact (close_spec s).1

/-- Over a whole run, all that such a session asks of its sink is to release. -/
theorem run_releases (hdenied : s.inputAllowed = false) (hinputs : s.inputs = [])
    (calls : List SessionCall) {call : SinkCall}
    (hcall : call ∈ (machine.run s calls).input.calls) :
    call = .releaseAll := by
  have hquiet : (machine.run s calls).inputAllowed = false ∧ (machine.run s calls).inputs = [] := by
    refine Machine.run_invariant (M := machine) (G := fun _ _ => True)
      (fun s => s.inputAllowed = false ∧ s.inputs = []) ?_ ⟨hdenied, hinputs⟩
      (Machine.guarded_true s calls)
    rintro s call ⟨hdenied, hinputs⟩ -
    have hquiet := makeCall_quiet hdenied call
    exact ⟨hquiet.inputAllowed.trans hdenied, hquiet.inputs.trans hinputs⟩
  have hinput : call.isInput = false := by
    simpa using List.filter_eq_nil_iff.mp hquiet.2 call hcall
  cases call with
  | releaseAll => rfl
  | keyboard _ _ _ | pointerButton _ _ _ _ | pointerMove _ _ _ | pointerScroll _ _ | text _ =>
    cases hinput

end Host.HostPeerSession

namespace Bridge

open Library Protocol Fallible

/-- The request releases all input. -/
def HostBrokerSession.IsRelease (request : PrivilegedBridgeClientFrame) : Prop :=
  ∃ leaseId generation,
    request.payload = some (.inputCommand leaseId generation (some .releaseAll))

/-- What a session is told about a call that follows the given operations of its bridge is
what its peer and its sink answer. -/
def Told (s : Host.HostPeerSession) (done : List ProxyOp) : ProxyOp → ProxyReply → Prop
  | .call (.peer made) _ _, .negotiated result =>
    s.peer.negotiate (done.filterMap ProxyOp.peerCall? ++ [made]) = result
  | .call (.peer made) _ _, .acknowledged result =>
    s.peer.acknowledge (done.filterMap ProxyOp.peerCall? ++ [made]) = result
  | .call (.sink made) _ _, .acknowledged result =>
    s.input.respond (done.filterMap ProxyOp.sinkCall? ++ [made]) = result
  | _, _ => True

/-- The peer and the sink of a session are proxies: their calls are the ones made on the
bridge, and they are answered as the bridge answers. -/
structure Proxied (p : PeerProxy) (ops : List ProxyOp) (s : Host.HostPeerSession) : Prop where
  peerCalls : ops.filterMap ProxyOp.peerCall? = s.peer.calls
  sinkCalls : ops.filterMap ProxyOp.sinkCall? = s.input.calls
  told : ∀ done op rest, ops = done ++ op :: rest →
    Told s done op (PeerProxy.machine.step (PeerProxy.machine.run p done) op).2

/-- The requests that reach the broker over a run are all judged, and their input commands
are calls of the session's sink. -/
theorem Proxied.judged {configuration : PrivilegedPeerConfiguration}
    {parse : String → Option Bytes} {context : ProxySessionContext}
    {generation now clock : Nat} {ids : Except LeaseError Bytes16} {session : HostBrokerSession}
    {p : PeerProxy} {ops : List ProxyOp} {s : Host.HostPeerSession}
    (hconnect : PeerProxy.connect configuration parse context generation now clock ids session =
      .ok p) (hproxied : Proxied p ops s) :
    ∀ h ∈ (PeerProxy.machine.run p ops).handled, h.Judged context.wirePermissions ∧
      ∀ leaseId generation input, h.request.payload =
        some (.inputCommand leaseId generation input) →
          ∃ call ∈ s.input.calls, input = some (toInput call) := by
  obtain ⟨hgeneration, hrests⟩ := PeerProxy.connect_rests (· ∈ s.input.calls) hconnect
  have hguard : PeerProxy.machine.Guarded
      (fun _ op => ∀ call, op.sinkCall? = some call → call ∈ s.input.calls) p ops := by
    refine Machine.guarded_of_mem (fun op hop _ call hcall => ?_) p
    rw [← hproxied.sinkCalls]
    exact List.mem_filterMap.mpr ⟨op, hop, hcall⟩
  obtain ⟨n, hsynced, -⟩ := Machine.run_invariant (M := PeerProxy.machine) _
    (fun _ _ h hop => PeerProxy.step_rests hgeneration hop h) hrests hguard
  intro h hhandled
  obtain ⟨hjudged, hsent⟩ := hsynced.judged h hhandled
  exact ⟨hjudged, hsent.input⟩

namespace PeerProxy

/-- Everything the session asks of its peer and its sink under a live lease is accepted by
the broker, over every run, exactly if the session may control input or no release of input
reaches the broker under a live lease. -/
theorem permission_agreement (configuration : PrivilegedPeerConfiguration)
    (parse : String → Option Bytes) (context : ProxySessionContext) (generation now clock : Nat)
    (ids : Except LeaseError Bytes16) (session : HostBrokerSession) (p : PeerProxy)
    (hconnect : connect configuration parse context generation now clock ids session = .ok p)
    (peer : Host.PeerBackend)
    (respond : List Host.SinkCall → Except Host.HostWebRtcError Unit) (s : Host.HostPeerSession)
    (hnew : Host.HostPeerSession.new context.sessionId context.permissions peer ⟨respond, []⟩ =
      .ok s) (calls : List Host.HostPeerSession.SessionCall) (ops : List ProxyOp)
    (hproxied : Proxied p ops (Host.HostPeerSession.machine.run s calls)) :
    (∀ h ∈ (machine.run p ops).handled, HostBrokerSession.OfSession h.request → h.Live →
      h.Forwarded) ↔
    (.controlInput ∈ context.permissions ∨
      ∀ h ∈ (machine.run p ops).handled, h.Live → ¬ HostBrokerSession.IsRelease h.request) := by
  have hjudged := hproxied.judged hconnect
  have hcontrol : SessionPermission.controlInput.toInt32 ∈ context.wirePermissions ↔
      .controlInput ∈ context.permissions := by
    unfold ProxySessionContext.wirePermissions
    constructor
    · intro hwire
      obtain ⟨permission, hpermission, hvalue⟩ := List.mem_map.mp hwire
      cases permission with
      | controlInput => exact hpermission
      | unspecified | viewScreen => exact absurd hvalue (by decide)
    · intro hpermission
      exact List.mem_map_of_mem hpermission
  constructor
  · intro hforwarded
    by_cases hpermitted : .controlInput ∈ context.permissions
    · exact .inl hpermitted
    · refine .inr fun h hhandled hlive hrelease => hpermitted ?_
      obtain ⟨leaseId, leaseGeneration, hpayload⟩ := hrelease
      have hof : HostBrokerSession.OfSession h.request := by
        intro _ _ hrenew
        cases hpayload.symm.trans hrenew
      rw [← hcontrol]
      exact ((hjudged h hhandled).1 hof hlive).mp (hforwarded h hhandled hof hlive)
        ⟨leaseId, leaseGeneration, _, hpayload⟩
  · intro hcondition h hhandled hof hlive
    rw [(hjudged h hhandled).1 hof hlive, hcontrol]
    rintro ⟨leaseId, leaseGeneration, input, hpayload⟩
    rcases hcondition with hpermitted | hnone
    · exact hpermitted
    · by_contra hdenied
      obtain ⟨-, -, hinput, hallowed⟩ := Host.HostPeerSession.new_inputAllowed hnew
      obtain ⟨call, hcall, rfl⟩ := (hjudged h hhandled).2 _ _ _ hpayload
      have hrelease : call = .releaseAll := by
        refine Host.HostPeerSession.run_releases ?_ ?_ calls hcall
        · rw [Bool.eq_false_iff, ne_eq, hallowed]
          exact hdenied
        · unfold Host.HostPeerSession.inputs
          rw [hinput]
          rfl
      subst hrelease
      exact hnone h hhandled hlive ⟨leaseId, leaseGeneration, hpayload⟩

/-- A Helper that answers every offer and accepts everything else. -/
def sampleAnsweringHelper : BrokerHelper where
  exchange calls :=
    match calls.getLast? with
    | some (.exchange request) =>
      match request.payload with
      | some (.startPeer value) =>
        .ok (HostBrokerSession.responseFrame request (.peerAnswer value.leaseId value.generation
          (some { type := sessionDescriptionTypeAnswer, sdp := "answer"
                  dtlsFingerprintSha256 := List.replicate 32 1 })))
      | _ => HostBrokerSession.sampleHelper.exchange calls
    | _ => .error .helper
  tryEvent _ := .ok none
  calls := []

/-- What the Host has verified about the session of a phone. -/
def samplePhone (permissions : List SessionPermission) : ProxySessionContext :=
  { sessionId := List.replicate 16 9, permissions, controllerDisplayName := "phone" }

/-- The proxies of the session of a phone. -/
def sampleProxy (permissions : List SessionPermission) : Except ProxyError PeerProxy :=
  connect ⟨1, []⟩ (fun _ => some (List.replicate 32 2)) (samplePhone permissions) 3 1000 50
    (.ok HostBrokerSession.sampleLeaseId)
    (HostBrokerSession.new HostBrokerSession.sampleBroker sampleAnsweringHelper)

/-- Nothing is lost, and no renewal is due. -/
def sampleEnvironment : CallEnvironment :=
  { clockMs := 60, renewedClockMs := 60, renewedAtMs := 1010, renewal := .answered
    handledAtMs := 1010, delivery := .answered }

/-- The session is negotiated, connects and starts to reconnect. -/
def sampleSessionCalls : List Host.HostPeerSession.SessionCall :=
  [.acceptOffer "offer", .markConnected, .beginReconnect]

/-- What that session asks of its bridge. -/
def sampleOps : List ProxyOp :=
  [.call (.peer (.start "offer")) sampleEnvironment sampleEnvironment,
    .call (.sink .releaseAll) sampleEnvironment sampleEnvironment]

/-- A peer that answers every offer, as the bridge of the phone does. -/
def samplePeer : Host.PeerBackend where
  negotiate _ := .ok { sdp := "answer", dtlsFingerprintSha256 := List.replicate 32 1 }
  acknowledge _ := .ok ()
  calls := []

/-- The session is one over its bridge if the two calls it makes are answered alike. -/
theorem proxied_sampleOps {p : PeerProxy} {s : Host.HostPeerSession}
    (hpeer : s.peer.calls = [.start "offer"]) (hsink : s.input.calls = [.releaseAll])
    (hfirst : Told s [] sampleOps[0] (machine.step p sampleOps[0]).2)
    (hsecond : Told s [sampleOps[0]] sampleOps[1]
      (machine.step (machine.step p sampleOps[0]).1 sampleOps[1]).2) :
    Proxied p sampleOps s := by
  refine ⟨hpeer.symm, hsink.symm, fun done op rest hops => ?_⟩
  rcases done with _ | ⟨first, _ | ⟨second, done⟩⟩
  · cases hops
    exact hfirst
  · cases hops
    exact hsecond
  · have hlength := congrArg List.length hops
    simp [sampleOps] at hlength

/-- A session that may control reconnects. -/
theorem permission_agreement_sample : ∃ p s,
    sampleProxy [.viewScreen, .controlInput] = .ok p ∧
    Host.HostPeerSession.new (samplePhone [.viewScreen, .controlInput]).sessionId
      [.viewScreen, .controlInput] samplePeer ⟨fun _ => .ok (), []⟩ = .ok s ∧
    Proxied p sampleOps (Host.HostPeerSession.machine.run s sampleSessionCalls) ∧
    (machine.run p sampleOps).handled.length = 2 ∧
    ∀ h ∈ (machine.run p sampleOps).handled, HostBrokerSession.OfSession h.request → h.Live →
      h.Forwarded := by
  refine ⟨_, _, rfl, rfl, ?_, by decide +kernel, ?_⟩
  · exact proxied_sampleOps rfl rfl rfl rfl
  · have hconnect : sampleProxy [.viewScreen, .controlInput] = .ok _ := rfl
    refine (permission_agreement _ _ _ _ _ _ _ _ _ hconnect samplePeer (fun _ => .ok ()) _ rfl
      sampleSessionCalls _ ?_).mpr (.inl (by decide))
    exact proxied_sampleOps rfl rfl rfl rfl

/-- The release of a session that may only view is refused, and its bridge is torn down. -/
theorem view_only_release_refused : ∃ p s,
    sampleProxy [.viewScreen] = .ok p ∧
    Host.HostPeerSession.new (samplePhone [.viewScreen]).sessionId [.viewScreen] samplePeer
      ⟨fun _ => .error .inputFailure, []⟩ = .ok s ∧
    Proxied p sampleOps (Host.HostPeerSession.machine.run s sampleSessionCalls) ∧
    (machine.run p sampleOps).served = false ∧
    ¬ ∀ h ∈ (machine.run p sampleOps).handled, HostBrokerSession.OfSession h.request → h.Live →
      h.Forwarded := by
  refine ⟨_, _, rfl, rfl, ?_, by decide +kernel, fun hforwarded => ?_⟩
  · exact proxied_sampleOps rfl rfl rfl rfl
  · obtain ⟨calls, hcalls, hrequests⟩ := hforwarded _ (List.mem_of_getElem? (i := 1) rfl) nofun
      ⟨_, rfl, by decide⟩
    have hnone : calls = [] := List.self_eq_append_right.mp hcalls
    subst hnone
    cases hrequests

end PeerProxy

end Bridge

end Roammand
