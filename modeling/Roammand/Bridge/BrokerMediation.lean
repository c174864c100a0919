import Roammand.Bridge.Broker

/-!
# Privileged bridge: what reaches the Helper

The broker forwards a request to the Helper only under the lease of the Host.  Most
requests are authorised before they are forwarded; a release is forwarded first and
looked at afterwards, and a lease whose route turns out to be gone stays behind as
an active one.  `Mediated` excludes just these two.

Main results:

- Theorem `step_effect`: everything one operation of the Host session can do.
- Theorem `broker_mediation`: over every run that is `Mediated`, requests reach the
  Helper only under an active and unexpired lease, those that drive the desktop
  only under a lease acquired for it, none between the end of a lease and the next
  one, and every answer and event belongs to its request and its lease.
-/

namespace Roammand

namespace Bridge

open Library Protocol Fallible Machine SessionPermission

/-- The request of a call of the Helper, if it is one. -/
def HelperCall.request? : HelperCall → Option PrivilegedBridgeClientFrame
  | .exchange request => some request
  | .tryEvent | .failClosed => none

/-! ## Leases that are still the same -/

/-- Two records of one lease with the same expiry. -/
structure Lease.Same (lease lease' : Lease) : Prop where
  id : lease'.id = lease.id
  generation : lease'.generation = lease.generation
  mayControlInput : lease'.mayControlInput = lease.mayControlInput
  expiresAtMs : lease'.expiresAtMs = lease.expiresAtMs

/-- Whatever lease is active afterwards was active before, with the same expiry. -/
def LeaseManager.Lapses (m m' : LeaseManager) : Prop :=
  ∀ lease', m'.active = some lease' → ∃ lease, m.active = some lease ∧ lease.Same lease'

theorem LeaseManager.Lapses.refl (m : LeaseManager) : m.Lapses m :=
  fun lease h => ⟨lease, h, rfl, rfl, rfl, rfl⟩

variable {m m' : LeaseManager}

theorem LeaseManager.Lapses.of_none (h : m'.active = none) :
    m.Lapses m' := by
  intro lease' hactive
  rw [h] at hactive
  cases hactive

variable {op : LeaseOp} {reply : LeaseReply}

/-- An operation that grants and renews nothing at most ends the lease. -/
theorem LeaseManager.Effect.lapses (h : Effect m op reply m') (hgranted : reply.granted = none)
    (hrenewal : reply.renewal = none) : m.Lapses m' := by
  cases h with
  | idle => exact .refl m
  | connect => exact fun lease h => ⟨lease, h, rfl, rfl, rfl, rfl⟩
  | finish _ _ _ _ hactive => exact .of_none hactive
  | grant => cases hgranted
  | renew => cases hrenewal
  | overflow hactive _ =>
    rintro _ ⟨⟩
    exact ⟨_, hactive, rfl, rfl, rfl, rfl⟩
  | authorize hactive _ =>
    rintro _ ⟨⟩
    exact ⟨_, hactive, rfl, rfl, rfl, rfl⟩

/-- A granted lease is the active one. -/
theorem LeaseManager.Effect.active_of_granted {lease : Lease} (h : Effect m op reply m')
    (hgranted : reply.granted = some lease) : m'.active = some lease := by
  cases h with
  | idle hreply => rw [hreply.1] at hgranted; cases hgranted
  | finish _ hnone => rw [hnone] at hgranted; cases hgranted
  | grant => exact hgranted
  | connect | renew | overflow | authorize => cases hgranted

/-- A renewed lease is the active one, and it was before. -/
theorem LeaseManager.Effect.active_of_renewal {renewed : Lease} (h : Effect m op reply m')
    (hrenewal : reply.renewal = some renewed) :
    ∃ lease, m.active = some lease ∧ m'.active = some renewed ∧
      renewed.id = lease.id ∧ renewed.generation = lease.generation ∧
      renewed.mayControlInput = lease.mayControlInput := by
  cases h with
  | idle hreply => rw [hreply.2.1] at hrenewal; cases hrenewal
  | finish _ _ hnone => rw [hnone] at hrenewal; cases hrenewal
  | renew hactive _ _ =>
    cases hrenewal
    exact ⟨_, hactive, rfl, rfl, rfl, rfl⟩
  | connect | grant | overflow | authorize => cases hrenewal

/-- A successful release leaves no lease. -/
theorem LeaseManager.releaseOrClose_active {m : LeaseManager} {id : Bytes16} {generation : Nat}
    {ended : Bool} (h : (m.releaseOrClose id generation).2 = .ok ended) :
    (m.releaseOrClose id generation).1.active = none := by
  unfold releaseOrClose at h ⊢
  split at h
  · next lease hactive =>
    split at h
    · cases h
    · exact freezeActive_active m
  · next hactive =>
    split
    · exact hactive
    · exact hactive

namespace HostBrokerSession

/-! ## What the methods do -/

/-- Exactly `requests` have been sent to the Helper on the way from `s` to `s'`. -/
def Sends (requests : List PrivilegedBridgeClientFrame) (s s' : HostBrokerSession) : Prop :=
  ∃ calls, s'.helper.calls = s.helper.calls ++ calls ∧
    calls.filterMap HelperCall.request? = requests

theorem Sends.refl (s : HostBrokerSession) : Sends [] s s := ⟨[], by simp⟩

/-- The response belongs to the request and to the route. -/
structure Answered (request : PrivilegedBridgeClientFrame) (route : ProxyRoute)
    (response : PrivilegedBridgeServerFrame) : Prop where
  requestId : response.requestId = request.requestId
  sequence : response.sequence = request.sequence
  route : responseRoute response = .ok route

/-- Only the Helper has been called, and only with one request. -/
structure Exchanged (request : PrivilegedBridgeClientFrame) (s s' : HostBrokerSession) :
    Prop where
  broker : s'.broker = s.broker
  permissions : s'.permissions = s.permissions
  operationSequence : s'.operationSequence = s.operationSequence
  sends : Sends [request] s s'

theorem exchange_spec (request : PrivilegedBridgeClientFrame) (s : HostBrokerSession) :
    wp (exchange request) (fun _ s' => Exchanged request s s') s :=
  ⟨rfl, rfl, rfl, ⟨[.exchange request], rfl, rfl⟩⟩

/-- Shutting the Helper down sends it no request. -/
theorem Exchanged.failHelper {request : PrivilegedBridgeClientFrame} {s s' : HostBrokerSession}
    (h : Exchanged request s s') : wp failHelper (fun _ s'' => Exchanged request s s'') s' := by
  obtain ⟨calls, hcalls, hrequests⟩ := h.sends
  refine ⟨h.broker, h.permissions, h.operationSequence, ⟨calls ++ [.failClosed], ?_, ?_⟩⟩
  · change s'.helper.calls ++ [HelperCall.failClosed] = _
    rw [hcalls, List.append_assoc]
  · rw [List.filterMap_append, hrequests]
    rfl

/-- A failed exchange answers nothing. -/
theorem Exchanged.unanswered {request : PrivilegedBridgeClientFrame} {s s' : HostBrokerSession}
    (h : Exchanged request s s') (route : ProxyRoute) (error : BrokerProtocolError) :
    Exchanged request s s' ∧ ∀ response, Except.error error = .ok response →
      Answered request route response :=
  ⟨h, fun _ hok => by cases hok⟩

theorem forward_spec (request : PrivilegedBridgeClientFrame) (route : ProxyRoute)
    (s : HostBrokerSession) :
    wp (forward request route) (fun r s' => Exchanged request s s' ∧
      ∀ response, r = .ok response → Answered request route response) s := by
  unfold forward
  rw [wp_bind]
  refine wp_mono (exchange_spec request s) ?_
  rintro (error | response) s₁ hasked
  · exact hasked.unanswered route error
  have hfailed : wp (do failHelper; throw .staleResponse) (fun r s' => Exchanged request s s' ∧
      ∀ response, r = .ok response → Answered request route response) s₁ := by
    rw [wp_bind]
    refine wp_mono hasked.failHelper ?_
    rintro (error | _) s₂ hasked₂
    · exact hasked₂.unanswered route error
    · exact hasked₂.unanswered route .staleResponse
  rw [andThen_ok, wp_ite]
  refine ⟨fun _ => hfailed, fun hfresh => ?_⟩
  rw [wp_bind, wp_ofResult]
  push Not at hfresh
  cases hroute : responseRoute response with
  | error e => exact hasked.unanswered route e
  | ok answered =>
    rw [andThen_ok, wp_ite]
    refine ⟨fun _ => hfailed, fun hsame => ?_⟩
    rw [wp_pure]
    refine ⟨hasked, ?_⟩
    rintro _ ⟨⟩
    exact ⟨hfresh.1, hfresh.2, by rw [hroute, not_not.mp hsame]⟩

/-- A call of the broker fails exactly if the broker does. -/
theorem callBroker_cases {α ε : Type} (op : BrokerCore → BrokerCore × Except ε α)
    (s : HostBrokerSession) :
    (∃ e, (op s.broker).2 = .error e ∧ (callBroker op s).1 = .error .lease) ∨
      ∃ a, (op s.broker).2 = .ok a ∧ (callBroker op s).1 = .ok a := by
  unfold callBroker
  cases (op s.broker).2 with
  | error e => exact .inl ⟨e, rfl, rfl⟩
  | ok a => exact .inr ⟨a, rfl, rfl⟩

/-- The lease of `s'` is one of `s`, and so are its permissions, if it has any. -/
structure Lapses (s s' : HostBrokerSession) : Prop where
  lease : s.broker.leases.Lapses s'.broker.leases
  permissions : s'.permissions = s.permissions ∨ s'.permissions = []

theorem Lapses.refl (s : HostBrokerSession) : Lapses s s := ⟨.refl _, .inl rfl⟩

/-- Asking the Helper leaves lease and permissions alone. -/
theorem Exchanged.lapses {request : PrivilegedBridgeClientFrame} {s s' s'' : HostBrokerSession}
    (h : Exchanged request s' s'') (hlapses : Lapses s s') : Lapses s s'' :=
  ⟨by rw [h.broker]; exact hlapses.lease, by rw [h.permissions]; exact hlapses.permissions⟩

theorem parseRoute_eq_ok {leaseId : Bytes} {generation : Nat} {route : ProxyRoute}
    (h : parseRoute leaseId generation = .ok route) :
    leaseId = route.leaseId.toList ∧ generation = route.generation := by
  unfold parseRoute at h
  split at h
  · cases h
  · next id hid =>
    split at h
    · cases h
    · cases h
      exact ⟨bytes16?_eq_some.mp hid, rfl⟩

/-- A routed request names the lease of its route. -/
theorem requestRoute_eq_ok {request : PrivilegedBridgeClientFrame} {route : ProxyRoute}
    (h : requestRoute request = .ok route) :
    ∃ payload, request.payload = some payload ∧
      payload.leaseRef = some (route.leaseId.toList, route.generation) := by
  unfold requestRoute at h
  split at h
  case h_7 => cases h
  all_goals
    next hpayload =>
      obtain ⟨hid, hgeneration⟩ := parseRoute_eq_ok h
      refine ⟨_, hpayload, ?_⟩
      rw [← hid, ← hgeneration]
      rfl

/-- The request is refused without a word to the Helper. -/
structure Refused (s s' : HostBrokerSession) : Prop where
  lapses : Lapses s s'
  helper : s'.helper = s.helper

theorem Refused.refl (s : HostBrokerSession) : Refused s s := ⟨.refl s, rfl⟩

theorem Refused.sends {s s' : HostBrokerSession} (h : Refused s s') : Sends [] s s' :=
  ⟨[], by rw [h.helper]; simp, rfl⟩

theorem checkControllerDisplayName_spec (request : PrivilegedBridgeClientFrame)
    (s : HostBrokerSession) :
    wp (checkControllerDisplayName request) (fun _ s' => s' = s) s := by
  unfold checkControllerDisplayName
  cases requestControllerDisplayName request with
  | none => rfl
  | some name =>
    simp only [wp_bind, wp_get, andThen_ok, wp_orThrow, wp_require]
    exact ⟨fun _ _ => ⟨fun _ => trivial, fun _ => trivial⟩, fun _ => rfl⟩

/-- An authorised command belongs to the active lease, which has not expired. -/
theorem authorizeCommand_spec (id : Bytes16) (generation sequence now : Nat)
    (s : HostBrokerSession) :
    wp (callBroker (·.authorizeCommand id generation sequence now))
      (fun r s' => Refused s s' ∧ (r = .ok () → ∃ lease, s.active = some lease ∧
        id = lease.id ∧ generation = lease.generation ∧ now < lease.expiresAtMs)) s := by
  have heffect := s.broker.leases.authorizeCommand_effect id generation sequence now
  refine ⟨⟨⟨heffect.lapses rfl rfl, .inl rfl⟩, rfl⟩, fun hok => ?_⟩
  rcases callBroker_cases (·.authorizeCommand id generation sequence now) s with
    ⟨e, -, herror⟩ | ⟨_, hresult, -⟩
  · rw [herror] at hok
    cases hok
  · rw [show (s.broker.leases.authorizeCommand id generation sequence now).2 = _
      from hresult] at heffect
    obtain ⟨now', lease, hactive, hbefore, hop⟩ := heffect.of_authorizes rfl
    cases hop
    exact ⟨lease, hactive, rfl, rfl, hbefore⟩

/-- The request has been forwarded under the active lease. -/
structure Forwarded (request : PrivilegedBridgeClientFrame) (now : Nat) (lease : Lease)
    (r : Except BrokerProtocolError PrivilegedBridgeServerFrame) (s s' : HostBrokerSession) :
    Prop where
  route : requestRoute request = .ok { leaseId := lease.id, generation := lease.generation }
  active : s.active = some lease
  before : now < lease.expiresAtMs
  lapses : Lapses s s'
  sends : Sends [request] s s'
  answered : ∀ response, r = .ok response →
    Answered request { leaseId := lease.id, generation := lease.generation } response

theorem forwardAuthorized_spec (request : PrivilegedBridgeClientFrame) (now : Nat)
    (s : HostBrokerSession) :
    wp (forwardAuthorized request now) (fun r s' =>
      (Refused s s' ∧ r.isOk = false) ∨ ∃ lease, Forwarded request now lease r s s') s := by
  unfold forwardAuthorized
  rw [wp_bind]
  refine wp_mono (checkControllerDisplayName_spec request s) ?_
  rintro (error | _) _ rfl
  · exact .inl ⟨.refl _, rfl⟩
  rw [andThen_ok, wp_bind, wp_ofResult]
  cases hroute : requestRoute request with
  | error e => exact .inl ⟨.refl _, rfl⟩
  | ok route =>
    simp only [andThen_ok, wp_bind, wp_get, wp_orThrow, wp_modify]
    refine ⟨fun sequence _ => ?_, fun _ => .inl ⟨.refl _, rfl⟩⟩
    refine wp_mono (authorizeCommand_spec route.leaseId route.generation sequence now _) ?_
    rintro (error | _) s₁ ⟨hrefused, hauthorized⟩
    · exact .inl ⟨⟨⟨hrefused.lapses.lease, hrefused.lapses.permissions⟩, hrefused.helper⟩,
        rfl⟩
    obtain ⟨lease, hactive, hid, hgeneration, hbefore⟩ := hauthorized rfl
    rw [andThen_ok]
    refine wp_mono (forward_spec request route s₁) ?_
    rintro r s₂ ⟨hexchanged, hanswered⟩
    refine .inr ⟨lease, ?_, hactive, hbefore, ?_, ?_, ?_⟩
    · rw [← hid, ← hgeneration]
      exact hroute
    · exact hexchanged.lapses ⟨hrefused.lapses.lease, hrefused.lapses.permissions⟩
    · obtain ⟨calls, hcalls, hrequests⟩ := hexchanged.sends
      exact ⟨calls, by rw [hcalls, hrefused.helper], hrequests⟩
    · rw [← hid, ← hgeneration]
      exact hanswered

/-! ## Everything one operation can do -/

end HostBrokerSession

/-- The frame that an operation returns to the Host. -/
def BrokerOutput.frame? : BrokerOutput → Option PrivilegedBridgeServerFrame
  | .handled (.ok response) => some response
  | .event (.ok polled) => polled
  | .handled (.error _) | .event (.error _) | .expired _ | .failedClosed => none

namespace HostBrokerSession

/-- What one operation can do to the lease, to the permissions and to the Helper. -/
inductive Effect (s : HostBrokerSession) : BrokerInput → BrokerOutput → HostBrokerSession → Prop
  | quiet {input output s'} (hlapses : Lapses s s') (hsends : Sends [] s s')
      (hsilent : output.frame? = none) : Effect s input output s'
  | acquires {request value now ids lease s'}
      (hpayload : request.payload = some (.acquireLease value)) (hfree : s.active = none)
      (hactive : s'.active = some lease)
      (hcontrol : lease.mayControlInput =
        value.permissions.contains controlInput.toInt32)
      (hpermissions : s'.permissions = value.permissions) (hsends : Sends [] s s') :
      Effect s (.handle request now ids)
        (.handled (.ok (leaseResponse request lease value.permissions))) s'
  | strands {request value now ids s'}
      (hpayload : request.payload = some (.acquireLease value)) (hfree : s.active = none)
      (hhost : s.broker.leases.hostGeneration = some value.generation)
      (hroute : ¬ s.broker.routes.Serves value.generation)
      (hpermissions : s'.permissions = s.permissions) (hsends : Sends [] s s') :
      Effect s (.handle request now ids) (.handled (.error .lease)) s'
  | renews {request leaseId generation now ids lease renewed s'}
      (hpayload : request.payload = some (.renewLease leaseId generation))
      (hactive : s.active = some lease) (hbefore : now < lease.expiresAtMs)
      (hafter : s'.active = some renewed) (hid : renewed.id = lease.id)
      (hgeneration : renewed.generation = lease.generation)
      (hcontrol : renewed.mayControlInput = lease.mayControlInput)
      (hpermissions : s'.permissions = s.permissions) (hsends : Sends [] s s') :
      Effect s (.handle request now ids)
        (.handled (.ok (leaseResponse request renewed s.permissions))) s'
  | forwards {request now ids result lease s'}
      (hroute : requestRoute request =
        .ok { leaseId := lease.id, generation := lease.generation })
      (hdrives : ∀ payload, request.payload = some payload → payload.drives = true →
        controlInput.toInt32 ∈ s.permissions)
      (hactive : s.active = some lease) (hbefore : now < lease.expiresAtMs)
      (hlapses : Lapses s s') (hsends : Sends [request] s s')
      (hanswered : ∀ response, result = .ok response →
        Answered request { leaseId := lease.id, generation := lease.generation } response) :
      Effect s (.handle request now ids) (.handled result) s'
  | releases {request leaseId generation route now ids result s'}
      (hpayload : request.payload = some (.releaseLease leaseId generation))
      (hroute : parseRoute leaseId generation = .ok route)
      (hlapses : Lapses s s') (hsends : Sends [request] s s')
      (hanswered : ∀ response, result = .ok response →
        Answered request route response ∧ s'.active = none) :
      Effect s (.handle request now ids) (.handled result) s'
  | delivers {response lease s'} (hactive : s.active = some lease)
      (hroute : responseRoute response =
        .ok { leaseId := lease.id, generation := lease.generation })
      (hlapses : Lapses s s') (hsends : Sends [] s s') :
      Effect s .tryEvent (.event (.ok (some response))) s'

/-- A refusal has the quiet effect. -/
theorem Refused.effect {s s' : HostBrokerSession} (h : Refused s s') {input : BrokerInput}
    {r : Except BrokerProtocolError PrivilegedBridgeServerFrame} (herror : r.isOk = false) :
    Effect s input (.handled r) s' := by
  cases r with
  | ok _ => cases herror
  | error e => exact .quiet h.lapses h.sends rfl

/-- The effect of handling a request, as a postcondition of the method that does. -/
def Handles (request : PrivilegedBridgeClientFrame) (now : Nat) (ids : Except LeaseError Bytes16)
    (s : HostBrokerSession) (r : Except BrokerProtocolError PrivilegedBridgeServerFrame)
    (s' : HostBrokerSession) : Prop :=
  Effect s (.handle request now ids) (.handled r) s'

/-- The lease manager has granted the lease, and nothing else has changed. -/
structure Granted (asked : AcquireLease) (lease : Lease) (s s' : HostBrokerSession) : Prop where
  free : s.active = none
  host : s.broker.leases.hostGeneration = some asked.generation
  generation : lease.generation = asked.generation
  mayControlInput : lease.mayControlInput = asked.mayControlInput
  active : s'.active = some lease
  routes : s'.broker.routes = s.broker.routes
  permissions : s'.permissions = s.permissions
  helper : s'.helper = s.helper

theorem callAcquire_spec (asked : AcquireLease) (now : Nat) (ids : Except LeaseError Bytes16)
    (s : HostBrokerSession) :
    wp (callBroker (·.acquire asked now ids)) (fun r s' =>
      (r.isOk = false ∧ Refused s s') ∨ ∃ lease, r = .ok lease ∧ Granted asked lease s s') s := by
  have heffect := s.broker.leases.acquire_effect asked now ids
  rcases callBroker_cases (·.acquire asked now ids) s with
    ⟨e, hacquired, hresult⟩ | ⟨lease, hacquired, hresult⟩
  · rw [show (s.broker.leases.acquire asked now ids).2 = .error e from hacquired] at heffect
    exact .inl ⟨by rw [hresult]; rfl, ⟨heffect.lapses rfl rfl, .inl rfl⟩, rfl⟩
  · rw [show (s.broker.leases.acquire asked now ids).2 = .ok lease from hacquired] at heffect
    obtain ⟨hfree, hhost, _, _, _, hop, -, hgeneration, hcontrol, -⟩ := heffect.of_granted rfl
    cases hop
    exact .inr ⟨lease, hresult, hfree, hgeneration ▸ hhost, hgeneration, hcontrol,
      heffect.active_of_granted rfl, rfl, rfl, rfl⟩

theorem acquire_spec {request : PrivilegedBridgeClientFrame}
    {value : AcquirePrivilegedLeaseRequest} (now : Nat) (ids : Except LeaseError Bytes16)
    (hpayload : request.payload = some (.acquireLease value)) (s : HostBrokerSession) :
    wp (acquire request value now ids) (Handles request now ids s) s := by
  unfold acquire
  simp only [wp_bind, wp_orThrow]
  refine ⟨fun sessionId _ => ?_, fun _ => (Refused.refl s).effect rfl⟩
  rw [andThen_ok, wp_bind]
  refine wp_mono (callAcquire_spec _ now ids s) ?_
  rintro (error | lease) s₁ (⟨herror, hrefused⟩ | ⟨granted, hlease, hgranted⟩)
  · exact hrefused.effect rfl
  · cases hlease
  · cases herror
  cases hlease
  have hsends : Sends [] s s₁ := ⟨[], by rw [hgranted.helper]; simp, rfl⟩
  rw [andThen_ok, wp_bind]
  change andThen _ _ ((s₁.broker.routes.beginControl lease.generation).2.mapError _)
    { s₁ with broker := { s₁.broker with
      routes := (s₁.broker.routes.beginControl lease.generation).1 } }
  rw [SessionStateMachine.beginControl_eq]
  by_cases hserves : s₁.broker.routes.Serves lease.generation
  · rw [if_pos hserves]
    exact .acquires hpayload hgranted.free hgranted.active hgranted.mayControlInput rfl hsends
  · rw [if_neg hserves]
    refine .strands hpayload hgranted.free hgranted.host ?_ hgranted.permissions hsends
    rw [← hgranted.routes]
    rw [hgranted.generation] at hserves
    exact hserves

theorem renewLease_spec {request : PrivilegedBridgeClientFrame} {leaseId : Bytes}
    {generation : Nat} (now : Nat) (ids : Except LeaseError Bytes16)
    (hpayload : request.payload = some (.renewLease leaseId generation))
    (s : HostBrokerSession) :
    wp (renewLease request leaseId generation now) (Handles request now ids s) s := by
  unfold renewLease
  simp only [wp_bind, wp_ofResult]
  cases hroute : parseRoute leaseId generation with
  | error e => exact (Refused.refl s).effect rfl
  | ok route =>
    rw [andThen_ok, wp_bind]
    have heffect := s.broker.leases.renew_effect route.leaseId route.generation now
    unfold wp
    rcases callBroker_cases (·.renew route.leaseId route.generation now) s with
      ⟨e, hrenewed, hresult⟩ | ⟨renewed, hrenewed, hresult⟩
    · rw [hresult, andThen_error]
      rw [show (s.broker.leases.renew route.leaseId route.generation now).2 = .error e
        from hrenewed] at heffect
      exact .quiet ⟨heffect.lapses rfl rfl, .inl rfl⟩ ⟨[], by simp [callBroker]⟩ rfl
    · rw [hresult, andThen_ok]
      rw [show (s.broker.leases.renew route.leaseId route.generation now).2 = .ok renewed
        from hrenewed] at heffect
      obtain ⟨lease, hactive, hafter, hid, hgeneration, hcontrol⟩ :=
        heffect.active_of_renewal rfl
      obtain ⟨_, cur, hcur, hbefore, -, hop, -⟩ := heffect.of_renewal rfl
      simp only [LeaseOp.renew.injEq] at hop
      obtain ⟨-, -, rfl⟩ := hop
      cases hactive.symm.trans hcur
      exact .renews hpayload hactive hbefore hafter hid hgeneration hcontrol rfl
        ⟨[], (List.append_nil _).symm, rfl⟩

theorem releaseLease_spec {request : PrivilegedBridgeClientFrame} {leaseId : Bytes}
    {generation : Nat} (now : Nat) (ids : Except LeaseError Bytes16)
    (hpayload : request.payload = some (.releaseLease leaseId generation))
    (s : HostBrokerSession) :
    wp (releaseLease request leaseId generation) (Handles request now ids s) s := by
  unfold releaseLease
  simp only [wp_bind, wp_ofResult]
  cases hroute : parseRoute leaseId generation with
  | error e => exact (Refused.refl s).effect rfl
  | ok route =>
    rw [andThen_ok, wp_bind]
    refine wp_mono (forward_spec request route s) ?_
    rintro (error | response) s₁ ⟨hexchanged, hanswered⟩
    · exact .releases hpayload hroute (hexchanged.lapses (.refl s)) hexchanged.sends
        fun _ h => by cases h
    rw [andThen_ok, wp_bind]
    have hsame : s₁.broker.leases = s.broker.leases := by rw [hexchanged.broker]
    have hrelease := s₁.broker.leases.releaseOrClose_effect
      (.release route.leaseId route.generation) route.leaseId route.generation
    have hlapses : s.broker.leases.Lapses
        (s₁.broker.leases.releaseOrClose route.leaseId route.generation).1 :=
      hsame ▸ hrelease.lapses rfl rfl
    unfold wp
    rcases callBroker_cases (·.release route.leaseId route.generation) s₁ with
      ⟨e, hreleased, hresult⟩ | ⟨ended, hreleased, hresult⟩
    · rw [hresult, andThen_error]
      exact .releases hpayload hroute ⟨hlapses, .inl hexchanged.permissions⟩ hexchanged.sends
        fun _ h => by cases h
    · rw [hresult, andThen_ok]
      refine .releases hpayload hroute ⟨hlapses, .inr rfl⟩ hexchanged.sends ?_
      rintro _ ⟨⟩
      refine ⟨hanswered response rfl, ?_⟩
      exact LeaseManager.releaseOrClose_active hreleased

theorem tryEvent_spec (s : HostBrokerSession) :
    wp tryEvent (fun r s' => Effect s .tryEvent (.event r) s') s := by
  have hpolled : wp pollHelper (fun _ s' => Lapses s s' ∧ s'.active = s.active ∧
      Sends [] s s') s := ⟨⟨.refl _, .inl rfl⟩, rfl, ⟨[.tryEvent], rfl, rfl⟩⟩
  unfold tryEvent
  rw [wp_bind]
  refine wp_mono hpolled ?_
  rintro (error | _ | response) s₁ ⟨hlapses, hactive, hsends⟩
  · exact .quiet hlapses hsends rfl
  · exact .quiet hlapses hsends rfl
  rw [andThen_ok]
  simp only [wp_bind, wp_get, andThen_ok, wp_orThrow, wp_ofResult]
  refine ⟨fun lease hlease => ?_, fun _ => Effect.quiet hlapses hsends rfl⟩
  cases hroute : responseRoute response with
  | error e => exact Effect.quiet hlapses hsends rfl
  | ok answered =>
    rw [andThen_ok, wp_ite]
    refine ⟨fun _ => ?_, fun hsame => ?_⟩
    · rw [wp_bind]
      obtain ⟨calls, hcalls, hrequests⟩ := hsends
      refine .quiet ⟨hlapses.lease, hlapses.permissions⟩ ⟨calls ++ [.failClosed], ?_, ?_⟩ rfl
      · change s₁.helper.calls ++ [HelperCall.failClosed] = _
        rw [hcalls, List.append_assoc]
      · rw [List.filterMap_append, hrequests]
        rfl
    · rw [wp_pure]
      refine .delivers (hactive ▸ hlease) ?_ hlapses hsends
      rw [hroute, not_not.mp hsame]

/-- A forwarded request has the forwarding effect. -/
theorem Forwarded.effect {request : PrivilegedBridgeClientFrame} {now : Nat} {lease : Lease}
    {r : Except BrokerProtocolError PrivilegedBridgeServerFrame} {s s' : HostBrokerSession}
    (h : Forwarded request now lease r s s') (ids : Except LeaseError Bytes16)
    (hdrives : ∀ payload, request.payload = some payload → payload.drives = true →
      controlInput.toInt32 ∈ s.permissions) : Handles request now ids s r s' := by
  exact .forwards h.route hdrives h.active h.before h.lapses h.sends h.answered

theorem forwardAuthorized_handles {request : PrivilegedBridgeClientFrame} (now : Nat)
    (ids : Except LeaseError Bytes16) {s : HostBrokerSession}
    (hdrives : ∀ payload, request.payload = some payload → payload.drives = true →
      controlInput.toInt32 ∈ s.permissions) :
    wp (forwardAuthorized request now) (Handles request now ids s) s := by
  refine wp_mono (forwardAuthorized_spec request now s) ?_
  rintro r s' (⟨hrefused, herror⟩ | ⟨lease, hforwarded⟩)
  · exact hrefused.effect herror
  · exact hforwarded.effect ids hdrives

theorem handle_spec (request : PrivilegedBridgeClientFrame) (now : Nat)
    (ids : Except LeaseError Bytes16) (s : HostBrokerSession) :
    wp (handle request now ids) (Handles request now ids s) s := by
  have hrefused : ∀ error : BrokerProtocolError, Handles request now ids s (.error error) s :=
    fun error => (Refused.refl s).effect rfl
  unfold handle
  split
  · exact hrefused _
  · next value hpayload => exact acquire_spec now ids hpayload s
  · next leaseId generation hpayload => exact renewLease_spec now ids hpayload s
  · next leaseId generation hpayload => exact releaseLease_spec now ids hpayload s
  · simp only [wp_bind, wp_get, andThen_ok, wp_require]
    exact ⟨fun hcontrol => forwardAuthorized_handles now ids fun _ _ _ => hcontrol,
      fun _ => hrefused _⟩
  · simp only [wp_bind, wp_get, andThen_ok, wp_require]
    exact ⟨fun hcontrol => forwardAuthorized_handles now ids fun _ _ _ => hcontrol.2,
      fun _ => hrefused _⟩
  case h_11 => exact hrefused _
  case h_12 => exact hrefused _
  all_goals
    next hpayload =>
      refine forwardAuthorized_handles now ids fun payload hsome hdrives => ?_
      cases hpayload.symm.trans hsome
      cases hdrives

theorem expire_effect (s : HostBrokerSession) (now : Nat) :
    Effect s (.expire now) (.expired (s.expire now).2) (s.expire now).1 := by
  have heffect := s.broker.leases.expire_effect now
  unfold expire
  dsimp only
  split
  · exact .quiet ⟨heffect.lapses rfl rfl, .inl rfl⟩ (.refl s) rfl
  · exact .quiet ⟨heffect.lapses rfl rfl, .inr rfl⟩ ⟨[.failClosed], rfl, rfl⟩ rfl

/-- Every operation of the Host session has one of the listed effects. -/
theorem step_effect (s : HostBrokerSession) (input : BrokerInput) :
    Effect s input (machine.step s input).2 (machine.step s input).1 := by
  cases input with
  | handle request now ids => exact handle_spec request now ids s
  | tryEvent => exact tryEvent_spec s
  | expire now => exact expire_effect s now
  | failClosed =>
    exact .quiet ⟨.of_none (LeaseManager.freezeActive_active _), .inr rfl⟩
      ⟨[.failClosed], rfl, rfl⟩ rfl

/-! ## Whole runs -/

end HostBrokerSession

/-- One step of a Host session. -/
abbrev BrokerEvent := Occurrence HostBrokerSession BrokerInput BrokerOutput

/-- A request for the lease `value` asks for has been granted. -/
def Acquired (value : AcquirePrivilegedLeaseRequest) (input : BrokerInput)
    (output : BrokerOutput) : Prop :=
  ∃ request now ids response, input = .handle request now ids ∧
    request.payload = some (.acquireLease value) ∧ output = .handled (.ok response)

namespace BrokerEvent

/-- The requests that the operation has sent to the Helper. -/
def forwarded (e : BrokerEvent) : List PrivilegedBridgeClientFrame :=
  (e.after.helper.calls.drop e.before.helper.calls.length).filterMap HelperCall.request?

/-- The operation has acquired the lease that `value` asks for. -/
def Acquires (value : AcquirePrivilegedLeaseRequest) (e : BrokerEvent) : Prop :=
  Acquired value e.input e.output

/-- The lease has been released, was found expired, has passed its expiry, or everything
has been shut down. -/
def Ended (e : BrokerEvent) : Prop :=
  (∃ request now ids leaseId generation response, e.input = .handle request now ids ∧
    request.payload = some (.releaseLease leaseId generation) ∧
    e.output = .handled (.ok response)) ∨
  e.output = .expired true ∨ e.output = .failedClosed ∨
  ∃ lease now, e.before.active = some lease ∧ e.input.time = some now ∧
    lease.expiresAtMs ≤ now

/-- The lease under which the operation has been answered: the acquired one for a
request to acquire, the one that was active for every other. -/
def lease (e : BrokerEvent) : Option Lease :=
  match e.input with
  | .handle request _ _ =>
    match request.payload with
    | some (.acquireLease _) => e.after.active
    | _ => e.before.active
  | _ => e.before.active

end BrokerEvent

/-- The frame is about the lease. -/
def NamesLease (response : PrivilegedBridgeServerFrame) (lease : Lease) :
    Prop :=
  ∃ payload, response.payload = some payload ∧
    payload.leaseRef = some (lease.id.toList, lease.generation)

namespace HostBrokerSession

/-- A release names the active lease before its expiry, and a lease is asked for at the
generation of the Host only while the observed route serves that generation. -/
def Mediated (s : HostBrokerSession) : BrokerInput → Prop
  | .handle request now _ =>
    match request.payload with
    | some (.releaseLease leaseId generation) =>
      ∀ route, parseRoute leaseId generation = .ok route →
        ∃ lease, s.active = some lease ∧ route.leaseId = lease.id ∧
          route.generation = lease.generation ∧ now < lease.expiresAtMs
    | some (.acquireLease value) =>
      s.active = none → s.broker.leases.hostGeneration = some value.generation →
        s.broker.routes.Serves value.generation
    | _ => True
  | _ => True

variable {s s' : HostBrokerSession} {input : BrokerInput} {output : BrokerOutput}

variable (past : List BrokerEvent)

/-- The last lease that was acquired in `past` was acquired to control input. -/
def AcquiredToControl : Prop :=
  ∃ earlier a later value, past = earlier ++ a :: later ∧ BrokerEvent.Acquires value a ∧
    controlInput.toInt32 ∈ value.permissions ∧
    ∀ x ∈ later, ∀ value, ¬ BrokerEvent.Acquires value x

/-- A session that permits control holds a lease for it. -/
def Controlled (s : HostBrokerSession) : Prop :=
  ∀ lease, s.active = some lease → controlInput.toInt32 ∈ s.permissions →
    lease.mayControlInput = true ∧ AcquiredToControl past

/-- The lease, if there still is one, is the lease there was, and so are its
permissions. -/
structure Continues (s s' : HostBrokerSession) : Prop where
  lease : ∀ lease', s'.active = some lease' → ∃ lease, s.active = some lease ∧
    lease'.mayControlInput = lease.mayControlInput
  permissions : s'.permissions = s.permissions ∨ s'.permissions = []

theorem Lapses.continues (h : Lapses s s') : Continues s s' := by
  refine ⟨fun lease' hactive => ?_, h.permissions⟩
  obtain ⟨lease, hlease, hsame⟩ := h.lease lease' hactive
  exact ⟨lease, hlease, hsame.mayControlInput⟩

/-- A step that acquires no lease continues with the one there was. -/
theorem Effect.continues (h : Effect s input output s') (hmediated : Mediated s input)
    (hnone : ∀ value, ¬ Acquired value input output) : Continues s s' := by
  cases h with
  | quiet hlapses => exact hlapses.continues
  | acquires hpayload => exact absurd ⟨_, _, _, _, rfl, hpayload, rfl⟩ (hnone _)
  | strands hpayload hfree hhost hroute =>
    simp only [Mediated, hpayload] at hmediated
    exact absurd (hmediated hfree hhost) hroute
  | renews _ hactive _ hafter _ _ hcontrol hpermissions =>
    refine ⟨fun lease' hlease' => ⟨_, hactive, ?_⟩, .inl hpermissions⟩
    cases hafter.symm.trans hlease'
    exact hcontrol
  | forwards _ _ _ _ hlapses => exact hlapses.continues
  | releases _ _ hlapses => exact hlapses.continues
  | delivers _ _ hlapses => exact hlapses.continues

/-- A step that acquires a lease has just been asked for it. -/
theorem Effect.of_acquired {value : AcquirePrivilegedLeaseRequest}
    (h : Effect s input output s') (hacquired : Acquired value input output) :
    s.active = none ∧ ∃ lease, s'.active = some lease ∧ lease.mayControlInput =
      value.permissions.contains controlInput.toInt32 ∧
      s'.permissions = value.permissions := by
  obtain ⟨request, now, ids, response, rfl, hpayload, rfl⟩ := hacquired
  cases h with
  | quiet _ _ hsilent => cases hsilent
  | acquires hpayload' hfree hactive hcontrol hpermissions =>
    cases hpayload.symm.trans hpayload'
    exact ⟨hfree, _, hactive, hcontrol, hpermissions⟩
  | renews hpayload' => cases hpayload.symm.trans hpayload'
  | forwards hroute =>
    simp only [requestRoute, hpayload] at hroute
    cases hroute
  | releases hpayload' => cases hpayload.symm.trans hpayload'

theorem Controlled.snoc {past : List BrokerEvent} (h : Controlled past s)
    (hmediated : Mediated s input) :
    Controlled (past ++ [machine.occurrence s input]) (machine.step s input).1 := by
  intro lease hactive hcontrol
  have heffect := step_effect s input
  by_cases hacquired : ∃ value, Acquired value input (machine.step s input).2
  · obtain ⟨value, hacquired⟩ := hacquired
    obtain ⟨-, lease', hlease', hmay, hpermissions⟩ := heffect.of_acquired hacquired
    cases hactive.symm.trans hlease'
    rw [hpermissions] at hcontrol
    exact ⟨by rw [hmay]; simpa using hcontrol, past, _, [], value, rfl, hacquired, hcontrol,
      by simp⟩
  · push Not at hacquired
    have hcontinues := heffect.continues hmediated hacquired
    obtain ⟨before, hbefore, hmay⟩ := hcontinues.lease lease hactive
    have hpermitted : controlInput.toInt32 ∈ s.permissions := by
      rcases hcontinues.permissions with hsame | hempty
      · rw [← hsame]
        exact hcontrol
      · rw [hempty] at hcontrol
        cases hcontrol
    obtain ⟨hmay', earlier, a, later, value, rfl, ha, hvalue, hlater⟩ := h before hbefore hpermitted
    refine ⟨hmay.trans hmay', earlier, a, later ++ [machine.occurrence s input], value, by simp,
      ha, hvalue, ?_⟩
    intro x hx
    rcases List.mem_append.mp hx with hx | hx
    · exact hlater x hx
    · rw [List.mem_singleton.mp hx]
      exact hacquired

/-- Whatever lease is active has expired by the time `t`. -/
def Closed (t : Nat) (s : HostBrokerSession) : Prop :=
  ∀ lease, s.active = some lease → lease.expiresAtMs ≤ t

variable {t : Nat}

theorem Closed.of_none (h : s.active = none) : Closed t s := by
  intro lease hactive
  rw [h] at hactive
  cases hactive

theorem Lapses.closed (h : Lapses s s') (hclosed : Closed t s) : Closed t s' := by
  intro lease' hactive
  obtain ⟨lease, hlease, hsame⟩ := h.lease lease' hactive
  rw [hsame.expiresAtMs]
  exact hclosed lease hlease

/-- After its expiry a lease is not renewed, and no lease comes without being
acquired. -/
theorem Effect.closed {t : Nat} (h : Effect s input output s') (hclosed : Closed t s)
    (htime : ∀ now, input.time = some now → t ≤ now) (hmediated : Mediated s input)
    (hnone : ∀ value, ¬ Acquired value input output) : Closed t s' := by
  cases h with
  | quiet hlapses => exact hlapses.closed hclosed
  | acquires hpayload => exact absurd ⟨_, _, _, _, rfl, hpayload, rfl⟩ (hnone _)
  | strands hpayload hfree hhost hroute =>
    simp only [Mediated, hpayload] at hmediated
    exact absurd (hmediated hfree hhost) hroute
  | renews _ hactive hbefore =>
    have hexpired := hclosed _ hactive
    have hlate := htime _ rfl
    omega
  | forwards _ _ _ _ hlapses => exact hlapses.closed hclosed
  | releases _ _ hlapses => exact hlapses.closed hclosed
  | delivers _ _ hlapses => exact hlapses.closed hclosed

variable {requests : List PrivilegedBridgeClientFrame}

/-- A request that has been sent was sent under the active lease before its expiry. -/
theorem Effect.of_sends {request : PrivilegedBridgeClientFrame} (h : Effect s input output s')
    (hmediated : Mediated s input) (hsends : Sends requests s s') (hmem : request ∈ requests) :
    ∃ lease now payload, s.active = some lease ∧ input.time = some now ∧
      now < lease.expiresAtMs ∧ request.payload = some payload ∧
      payload.leaseRef = some (lease.id.toList, lease.generation) ∧
      (payload.drives = true → controlInput.toInt32 ∈ s.permissions) := by
  have hunique : ∀ {sent}, Sends sent s s' → request ∈ sent := by
    rintro sent ⟨calls, hcalls, rfl⟩
    obtain ⟨calls', hcalls', rfl⟩ := hsends
    rw [List.append_cancel_left (hcalls.symm.trans hcalls')]
    exact hmem
  cases h with
  | quiet _ hnone => cases hunique hnone
  | acquires _ _ _ _ _ hnone => cases hunique hnone
  | strands _ _ _ _ _ hnone => cases hunique hnone
  | renews _ _ _ _ _ _ _ _ hnone => cases hunique hnone
  | forwards hroute hdrives hactive hbefore _ hsent =>
    obtain rfl := List.mem_singleton.mp (hunique hsent)
    obtain ⟨payload, hpayload, href⟩ := requestRoute_eq_ok hroute
    exact ⟨_, _, payload, hactive, rfl, hbefore, hpayload, href, hdrives payload hpayload⟩
  | releases hpayload hroute _ hsent =>
    obtain rfl := List.mem_singleton.mp (hunique hsent)
    simp only [Mediated, hpayload] at hmediated
    obtain ⟨lease, hactive, hid, hgeneration, hbefore⟩ := hmediated _ hroute
    obtain ⟨hid', hgeneration'⟩ := parseRoute_eq_ok hroute
    refine ⟨lease, _, _, hactive, rfl, hbefore, hpayload, ?_, nofun⟩
    rw [← hid, ← hgeneration, ← hid', ← hgeneration']
    rfl
  | delivers _ _ _ hnone => cases hunique hnone

/-- Nothing is sent under a lease that has expired. -/
theorem Effect.sends_nil (h : Effect s input output s') (hclosed : Closed t s)
    (htime : ∀ now, input.time = some now → t ≤ now) (hmediated : Mediated s input)
    (hsends : Sends requests s s') : requests = [] := by
  rw [List.eq_nil_iff_forall_not_mem]
  intro request hmem
  obtain ⟨lease, now, -, hactive, hnow, hbefore, -⟩ := h.of_sends hmediated hsends hmem
  have hexpired := hclosed lease hactive
  have hlate := htime now hnow
  omega

/-- What an operation has sent is what its event records. -/
theorem Effect.sends_forwarded (h : Effect s input (machine.step s input).2
    (machine.step s input).1) :
    Sends (BrokerEvent.forwarded (machine.occurrence s input)) s (machine.step s input).1 := by
  have hsome : ∃ requests, Sends requests s (machine.step s input).1 := by
    generalize (machine.step s input).2 = output, (machine.step s input).1 = s' at h
    cases h with
    | quiet _ hsends => exact ⟨_, hsends⟩
    | acquires _ _ _ _ _ hsends => exact ⟨_, hsends⟩
    | strands _ _ _ _ _ hsends => exact ⟨_, hsends⟩
    | renews _ _ _ _ _ _ _ _ hsends => exact ⟨_, hsends⟩
    | forwards _ _ _ _ _ hsends => exact ⟨_, hsends⟩
    | releases _ _ _ hsends => exact ⟨_, hsends⟩
    | delivers _ _ _ hsends => exact ⟨_, hsends⟩
  obtain ⟨requests, calls, hcalls, hrequests⟩ := hsome
  refine ⟨calls, hcalls, ?_⟩
  simp [BrokerEvent.forwarded, hcalls]

theorem expire_active {now : Nat} (h : (s.expire now).2 = true) :
    (s.expire now).1.active = none := by
  unfold expire at h ⊢
  dsimp only at h ⊢
  split at h
  · cases h
  · next id hexpired =>
    change (s.broker.leases.expire now).2 = some id at hexpired
    change (s.broker.leases.expire now).1.active = none
    unfold LeaseManager.expire at hexpired ⊢
    split at hexpired
    · cases hexpired
    · split at hexpired
      · next hlate => rw [if_pos hlate]; exact LeaseManager.freezeActive_active _
      · cases hexpired

/-- Once a lease has ended, none is usable from then on. -/
theorem closed_of_ended (hmediated : Mediated s input)
    (hended : BrokerEvent.Ended (machine.occurrence s input)) :
    ∃ t, Closed t (machine.step s input).1 ∧ (t = 0 ∨ input.time = some t) := by
  have heffect := step_effect s input
  rcases hended with ⟨request, now, ids, leaseId, generation, response, hinput, hpayload, hok⟩ |
    hexpired | hfailed | ⟨lease, now, hactive, hnow, hlate⟩
  · refine ⟨0, .of_none ?_, .inl rfl⟩
    simp only [occurrence_input, occurrence_output] at hinput hok
    subst hinput
    rw [hok] at heffect
    generalize (machine.step s (.handle request now ids)).1 = s' at heffect
    cases heffect with
    | quiet _ _ hsilent => cases hsilent
    | acquires hpayload' => cases hpayload.symm.trans hpayload'
    | renews hpayload' => cases hpayload.symm.trans hpayload'
    | forwards hroute =>
      simp only [requestRoute, hpayload] at hroute
      cases hroute
    | releases _ _ _ _ hanswered => exact (hanswered response rfl).2
  · refine ⟨0, .of_none ?_, .inl rfl⟩
    simp only [occurrence_output] at hexpired
    cases input with
    | expire now => exact expire_active (BrokerOutput.expired.inj hexpired)
    | handle | tryEvent | failClosed => cases hexpired
  · refine ⟨0, .of_none ?_, .inl rfl⟩
    simp only [occurrence_output] at hfailed
    cases input with
    | failClosed => exact LeaseManager.freezeActive_active _
    | handle | tryEvent | expire => cases hfailed
  · simp only [occurrence_before, occurrence_input] at hactive hnow
    have htime : ∀ now', input.time = some now' → now ≤ now' := by
      intro now' hnow'
      exact le_of_eq (Option.some.inj (hnow.symm.trans hnow'))
    refine ⟨now, heffect.closed ?_ htime hmediated fun value hacquired => ?_, .inr hnow⟩
    · intro lease' hlease'
      cases hactive.symm.trans hlease'
      exact hlate
    · rw [(heffect.of_acquired hacquired).1] at hactive
      cases hactive

/-- The answer to a request carries its id and sequence, and answers and events are
about the active lease. -/
structure Answers (e : BrokerEvent) : Prop where
  response : ∀ request now ids response, e.input = .handle request now ids →
    e.output = .handled (.ok response) →
    response.requestId = request.requestId ∧ response.sequence = request.sequence ∧
      ∃ lease, e.lease = some lease ∧ NamesLease response lease
  event : ∀ response, e.output = .event (.ok (some response)) →
    ∃ lease, e.before.active = some lease ∧ NamesLease response lease

/-- A response on the route of a lease is about that lease. -/
theorem namesLease_of_route {response : PrivilegedBridgeServerFrame} {lease : Lease}
    (h : responseRoute response = .ok { leaseId := lease.id, generation := lease.generation }) :
    NamesLease response lease := by
  unfold responseRoute at h
  split at h
  case h_7 => cases h
  all_goals
    next hpayload =>
      obtain ⟨rfl, rfl⟩ := parseRoute_eq_ok h
      exact ⟨_, hpayload, rfl⟩

theorem lease_of_payload {request : PrivilegedBridgeClientFrame} {now : Nat}
    {ids : Except LeaseError Bytes16} {e : BrokerEvent} (hinput : e.input = .handle request now ids)
    (hpayload : ∀ value, request.payload ≠ some (.acquireLease value)) :
    e.lease = e.before.active := by
  unfold BrokerEvent.lease
  rw [hinput]
  dsimp only
  split
  · next value hvalue => exact absurd hvalue (hpayload value)
  · rfl

theorem answers_step (hmediated : Mediated s input) : Answers (machine.occurrence s input) := by
  have heffect := step_effect s input
  constructor
  · intro request now ids response hinput hok
    simp only [occurrence_output] at hok
    have hlease := lease_of_payload hinput
    obtain rfl : input = .handle request now ids := hinput
    rw [hok] at heffect
    generalize hafter : (machine.step s (.handle request now ids)).1 = s' at heffect
    cases heffect with
    | quiet _ _ hsilent => cases hsilent
    | acquires hpayload _ hactive =>
      refine ⟨rfl, rfl, _, ?_, _, rfl, rfl⟩
      unfold BrokerEvent.lease
      simp only [occurrence_input, hpayload, occurrence_after, hafter]
      exact hactive
    | renews hpayload hactive _ _ hid hgeneration =>
      have hsame := hlease fun value h => by cases hpayload.symm.trans h
      refine ⟨rfl, rfl, _, hsame.trans hactive, _, rfl, ?_⟩
      rw [← hid, ← hgeneration]
      rfl
    | forwards hroute _ hactive _ _ _ hanswered =>
      have hanswer := hanswered response rfl
      have hsame := hlease fun value h => by simp only [requestRoute, h] at hroute; cases hroute
      exact ⟨hanswer.requestId, hanswer.sequence, _, hsame.trans hactive,
        namesLease_of_route hanswer.route⟩
    | releases hpayload hroute _ _ hanswered =>
      obtain ⟨hanswer, -⟩ := hanswered response rfl
      simp only [Mediated, hpayload] at hmediated
      obtain ⟨lease, hactive, hid, hgeneration, -⟩ := hmediated _ hroute
      have hsame := hlease fun value h => by cases hpayload.symm.trans h
      refine ⟨hanswer.requestId, hanswer.sequence, lease, hsame.trans hactive,
        namesLease_of_route ?_⟩
      rw [hanswer.route, ← hid, ← hgeneration]
  · intro response hevent
    simp only [occurrence_output] at hevent
    rw [hevent] at heffect
    generalize (machine.step s input).1 = s' at heffect
    cases heffect with
    | quiet _ _ hsilent => cases hsilent
    | delivers hactive hroute => exact ⟨_, hactive, namesLease_of_route hroute⟩

/-- The request was sent under the active lease before its expiry, and if it drives the
desktop, under a lease that was acquired for that. -/
def Authorised (e : BrokerEvent) (request : PrivilegedBridgeClientFrame) : Prop :=
  ∃ lease now payload, e.before.active = some lease ∧ e.input.time = some now ∧
    now < lease.expiresAtMs ∧ request.payload = some payload ∧
    payload.leaseRef = some (lease.id.toList, lease.generation) ∧
    (payload.drives = true → lease.mayControlInput = true ∧ AcquiredToControl past)

/-- The broker mediates a run: whatever reaches the Helper is authorised, after the end
of a lease nothing does before another is acquired, and all answers and events belong to
their requests and leases. -/
structure Mediates (s : HostBrokerSession) (inputs : List BrokerInput) : Prop where
  authorised : ∀ past e later, machine.trace s inputs = past ++ e :: later →
    ∀ request ∈ BrokerEvent.forwarded e, Authorised past e request
  ended : ∀ past e between f later,
    machine.trace s inputs = past ++ e :: (between ++ f :: later) → BrokerEvent.Ended e →
    BrokerEvent.forwarded f ≠ [] → ∃ a ∈ between, ∃ value, BrokerEvent.Acquires value a
  answered : ∀ e ∈ machine.trace s inputs, Answers e

theorem controlled_of_guarded {s : HostBrokerSession} {inputs : List BrokerInput}
    (hstart : s.permissions = []) (hguarded : machine.Guarded Mediated s inputs) :
    Controlled (machine.trace s inputs) (machine.run s inputs) := by
  refine history_invariant (M := machine) (G := Mediated) Controlled ?_ [] ?_ hguarded
  · intro past s input h hmediated
    exact h.snoc hmediated
  · intro lease _ hcontrol
    rw [hstart] at hcontrol
    cases hcontrol

/-- A run that starts after the end of a lease and acquires none stays closed. -/
theorem closed_of_guarded {s : HostBrokerSession} {inputs : List BrokerInput}
    (hclosed : Closed t s) (hguarded : machine.Guarded Mediated s inputs)
    (htimes : ∀ input ∈ inputs, ∀ now, input.time = some now → t ≤ now)
    (hnone : ∀ e ∈ machine.trace s inputs, ∀ value, ¬ BrokerEvent.Acquires value e) :
    Closed t (machine.run s inputs) := by
  refine run_invariant (M := machine) (G := fun s input => Mediated s input ∧
    (∀ now, input.time = some now → t ≤ now) ∧
    ∀ value, ¬ Acquired value input (machine.step s input).2) (Closed t) ?_ hclosed ?_
  · rintro s input hclosed ⟨hmediated, htime, hfresh⟩
    exact (step_effect s input).closed hclosed htime hmediated hfresh
  · rw [guarded_iff_trace] at hguarded ⊢
    intro e he
    obtain ⟨-, -, -, heq⟩ := trace_invariant (M := machine) (G := fun _ _ => True)
      (fun _ => True) (fun _ _ _ _ => trivial) trivial (guarded_true s inputs) he
    refine ⟨hguarded e he, htimes e.input (input_mem_of_mem_trace he), ?_⟩
    have hfresh := hnone e he
    rw [heq] at hfresh
    exact hfresh

/-- Over every run with nondecreasing times in which releases name the active lease before
its expiry and leases are asked for only while the route of the Host is there, the broker
mediates. -/
theorem broker_mediation (broker : BrokerCore) (helper : BrokerHelper) (allowed : Bool)
    (inputs : List BrokerInput)
    (hmono : (inputs.filterMap BrokerInput.time).Pairwise (· ≤ ·))
    (hguarded : machine.Guarded Mediated ((new broker helper).withSecureAttention allowed) inputs) :
    Mediates ((new broker helper).withSecureAttention allowed) inputs := by
  set start := (new broker helper).withSecureAttention allowed with hstart
  refine ⟨?_, ?_, ?_⟩
  · intro past e later hsplit request hrequest
    obtain ⟨is, i, rest, rfl, rfl, rfl, -⟩ := trace_split hsplit
    rw [guarded_append] at hguarded
    have heffect := step_effect (machine.run start is) i
    obtain ⟨lease, now, payload, hactive, hnow, hbefore, hpayload, href, hdrives⟩ :=
      heffect.of_sends hguarded.2.1 heffect.sends_forwarded hrequest
    refine ⟨lease, now, payload, hactive, hnow, hbefore, hpayload, href, fun h => ?_⟩
    have hcontrolled : Controlled (machine.trace start is) (machine.run start is) :=
      controlled_of_guarded rfl hguarded.1
    exact hcontrolled lease hactive (hdrives h)
  · intro past e between f later hsplit hended hforwarded
    by_contra hnone
    push Not at hnone
    obtain ⟨is, i, rest, rfl, rfl, rfl, hrest⟩ := trace_split hsplit
    obtain ⟨js, j, rest', rfl, rfl, rfl, -⟩ := trace_split hrest.symm
    rw [guarded_append, guarded_cons, guarded_append] at hguarded
    obtain ⟨-, hi, hjs, hj, -⟩ := hguarded
    obtain ⟨t, hclosed, ht⟩ := closed_of_ended hi hended
    have htimes : ∀ k ∈ js ++ [j], ∀ now, k.time = some now → t ≤ now := by
      intro k hk now hnow
      rcases ht with rfl | ht
      · exact Nat.zero_le _
      rw [List.filterMap_append, List.pairwise_append, List.filterMap_cons, ht,
        List.pairwise_cons] at hmono
      refine hmono.2.1.1 now (List.mem_filterMap.mpr ⟨k, ?_, hnow⟩)
      simp only [List.mem_append, List.mem_cons] at hk ⊢
      tauto
    set ended := (machine.step (machine.run start is) i).1
    have hstill : Closed t (machine.run ended js) := closed_of_guarded hclosed hjs
      (fun k hk => htimes k (List.mem_append_left _ hk)) hnone
    have heffect := step_effect (machine.run ended js) j
    exact hforwarded (heffect.sends_nil hstill (htimes j (by simp)) hj heffect.sends_forwarded)
  · intro e he
    obtain ⟨-, hmediated, -, heq⟩ := trace_invariant (M := machine) (G := Mediated)
      (fun _ => True) (fun _ _ _ _ => trivial) trivial hguarded he
    rw [heq]
    exact answers_step hmediated

/-- A Helper that accepts every request and has no events. -/
def sampleHelper : BrokerHelper where
  exchange calls :=
    match calls.getLast? with
    | some (.exchange request) =>
      match request.payload.bind PrivilegedClientPayload.leaseRef with
      | some (leaseId, generation) =>
        .ok (responseFrame request (.commandAccepted leaseId generation))
      | none => .error .helper
    | _ => .error .helper
  tryEvent _ := .ok none
  calls := []

/-- A broker that has observed a desktop of generation 3 and serves its Host. -/
def sampleBroker : BrokerCore :=
  let route : RouteSession :=
    { platform := .windows, osSessionId := 1, desktop := .normal, generation := 3 }
  (((BrokerCore.new zeroBytes16).observeRoute (.sessionAvailable route)).1.connectHost 3).1

/-- The identifier of the sample lease. -/
def sampleLeaseId : Bytes16 := Vector.replicate 16 7

/-- A request with the given payload. -/
def sampleRequest (sequence : Nat) (payload : PrivilegedClientPayload) :
    PrivilegedBridgeClientFrame :=
  { protocolVersion := some { major := 1, minor := 0 }
    requestId := "session-3"
    sequence
    payload := some payload }

/-- A lease that may control input. -/
def sampleLeaseRequest : AcquirePrivilegedLeaseRequest :=
  { sessionId := List.replicate 16 9, generation := 3, permissions := [1, 2]
    controllerDisplayName := "phone" }

/-- The lease is acquired. -/
def sampleAcquire : BrokerInput :=
  .handle (sampleRequest 1 (.acquireLease sampleLeaseRequest)) 1000 (.ok sampleLeaseId)

/-- The lease is released at a given time. -/
def sampleRelease (now : Nat) : BrokerInput :=
  .handle (sampleRequest 3 (.releaseLease sampleLeaseId.toList 3)) now (.error .randomUnavailable)

/-- A lease is acquired, used for input and released. -/
def sampleBrokerInputs : List BrokerInput :=
  [sampleAcquire,
    .handle (sampleRequest 2 (.inputCommand sampleLeaseId.toList 3 (some .releaseAll))) 1500
      (.error .randomUnavailable),
    sampleRelease 2000]

theorem broker_mediation_sample :
    (sampleBrokerInputs.filterMap BrokerInput.time).Pairwise (· ≤ ·) ∧
    machine.Guarded Mediated ((new sampleBroker sampleHelper).withSecureAttention false)
      sampleBrokerInputs ∧
    Mediates ((new sampleBroker sampleHelper).withSecureAttention false) sampleBrokerInputs ∧
    ((machine.trace ((new sampleBroker sampleHelper).withSecureAttention false)
      sampleBrokerInputs).map fun e => (BrokerEvent.forwarded e).length) = [0, 1, 1] := by
  have hmono : (sampleBrokerInputs.filterMap BrokerInput.time).Pairwise (· ≤ ·) := by decide
  have hguarded : machine.Guarded Mediated
      ((new sampleBroker sampleHelper).withSecureAttention false) sampleBrokerInputs := by
    refine ⟨fun _ _ => by decide, trivial, ?_, trivial⟩
    rintro route hroute
    obtain ⟨hid, hgeneration⟩ := parseRoute_eq_ok hroute
    refine ⟨_, rfl, ?_, hgeneration.symm, by decide⟩
    exact (Vector.toList_inj.mp hid).symm
  exact ⟨hmono, hguarded, broker_mediation _ _ _ _ hmono hguarded, by decide +kernel⟩

/-- A release after the expiry of the lease still reaches the Helper. -/
theorem release_after_expiry :
    ([sampleAcquire, .expire 16000, sampleRelease 16001].filterMap BrokerInput.time).Pairwise
      (· ≤ ·) ∧
    ¬ Mediates ((new sampleBroker sampleHelper).withSecureAttention false)
      [sampleAcquire, .expire 16000, sampleRelease 16001] := by
  refine ⟨by decide, fun h => ?_⟩
  obtain ⟨a, ha, value, hacquires⟩ :=
    h.ended [_] _ [] _ [] rfl (.inr (.inl rfl)) (by decide +kernel)
  cases ha

end HostBrokerSession

end Bridge

end Roammand
