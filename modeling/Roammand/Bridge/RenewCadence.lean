import Roammand.Bridge.PermissionAgreement

/-!
# Privileged bridge: the cadence of renewals

The broker refuses a renewal that comes less than the renewal interval after the last one it has
accepted.  The Host measures the interval on a clock of its own, from the moment at which the
answer to its last renewal is back, and adds a margin.  Both clocks are read in whole
milliseconds, so each reading may lose almost one; requests and answers take any time.

Real time is counted in ticks, of which any positive number make a millisecond.

Main results:

- Definition `Clocks`: two clocks of equal rate and any offset.
- Definition `PeerProxy.TimedProxy.machine`: the proxies with real times in place of readings.
- Theorem `PeerProxy.TimedProxy.renewal_cadence`: no renewal of any run comes too soon, and each
  accepted one restarts the Host's own interval.
-/

namespace Roammand

namespace Bridge

open Library Protocol Fallible HostBrokerSession List

/-! ## Clocks -/

/-- The clocks of the Host and of the broker: how many ticks of real time make a millisecond, and
what the clocks have counted at the tick zero; the Host's clock starts later. -/
structure Clocks where
  ticksPerMs : Nat
  positive : 0 < ticksPerMs
  hostStart : Nat
  hostOffset : Nat
  brokerOffset : Nat

namespace Clocks

/-- The Host's clock in whole milliseconds, which stops at the end of its range. -/
def hostMs (c : Clocks) (t : Nat) : Nat :=
  min ((c.hostOffset + (t - c.hostStart)) / c.ticksPerMs) u64Max

/-- The broker's clock in whole milliseconds. -/
def brokerMs (c : Clocks) (t : Nat) : Nat := (c.brokerOffset + t) / c.ticksPerMs

theorem hostMs_mono (c : Clocks) {t t' : Nat} (h : t ≤ t') : c.hostMs t ≤ c.hostMs t' := by
  have hdiv : (c.hostOffset + (t - c.hostStart)) / c.ticksPerMs ≤
      (c.hostOffset + (t' - c.hostStart)) / c.ticksPerMs :=
    Nat.div_le_div_right (by omega)
  unfold hostMs
  omega

/-- Readings of the Host that differ by `n + 1` are more than `n` milliseconds apart. -/
theorem elapsed_of_hostMs (c : Clocks) {t t' n : Nat} (h : c.hostMs t + (n + 1) ≤ c.hostMs t') :
    t + n * c.ticksPerMs ≤ t' := by
  set k := c.ticksPerMs with hk
  set a := c.hostOffset + (t - c.hostStart) with ha
  set b := c.hostOffset + (t' - c.hostStart) with hb
  have hread : a / k + (n + 1) ≤ b / k := by
    change min (a / k) u64Max + (n + 1) ≤ min (b / k) u64Max at h
    omega
  have hlow : b / k * k ≤ b := Nat.div_mul_le_self b k
  have hhigh : a < (a / k + 1) * k := Nat.lt_mul_of_div_lt (Nat.lt_succ_self _) c.positive
  have hscale : (a / k + (n + 1)) * k ≤ b / k * k := Nat.mul_le_mul_right k hread
  have hparts : (a / k + (n + 1)) * k = (a / k + 1) * k + n * k := by ring
  omega

/-- What is `n` milliseconds apart differs by `n` on the broker's clock. -/
theorem brokerMs_add_le (c : Clocks) {t t' n : Nat} (h : t + n * c.ticksPerMs ≤ t') :
    c.brokerMs t + n ≤ c.brokerMs t' := by
  have hadd : (c.brokerOffset + t + n * c.ticksPerMs) / c.ticksPerMs = c.brokerMs t + n :=
    Nat.add_mul_div_right _ _ c.positive
  rw [← hadd]
  exact Nat.div_le_div_right (by omega)

end Clocks

/-! ## What leaves the renewals alone -/

namespace HostBrokerSession

/-- The lease is not renewed: if there is one afterwards, it has the renewal time of before. -/
def Unrenewed (s s' : HostBrokerSession) : Prop :=
  ∀ lease' ∈ s'.active, ∃ lease ∈ s.active, lease'.lastRenewedAtMs = lease.lastRenewedAtMs

instance : IsPreorder HostBrokerSession Unrenewed where
  refl _ lease hlease := ⟨lease, hlease, rfl⟩
  trans _ _ _ h h' lease hlease := by
    obtain ⟨lease', hlease', hsame⟩ := h' lease hlease
    obtain ⟨lease'', hlease'', hsame'⟩ := h lease' hlease'
    exact ⟨lease'', hlease'', hsame.trans hsame'⟩

theorem Unrenewed.of_active {s s' : HostBrokerSession} (h : s'.active = s.active) :
    Unrenewed s s' :=
  fun lease hlease => ⟨lease, h ▸ hlease, rfl⟩

theorem Unrenewed.of_none {s s' : HostBrokerSession} (h : s'.active = none) :
    Unrenewed s s' := by
  intro lease hlease
  rw [h] at hlease
  cases hlease

/-- An operation of the lease manager that neither grants nor renews. -/
theorem Unrenewed.of_effect {s s' : HostBrokerSession} {op : LeaseOp} {reply : LeaseReply}
    (heffect : LeaseManager.Effect s.broker.leases op reply s'.broker.leases)
    (hgranted : reply.granted = none) (hrenewal : ∀ id generation now,
      op ≠ .renew id generation now) : Unrenewed s s' := by
  intro lease hlease
  change s'.broker.leases.active = some lease at hlease
  generalize s'.broker.leases = m' at heffect hlease
  cases heffect with
  | idle => exact ⟨lease, hlease, rfl⟩
  | connect => exact ⟨lease, hlease, rfl⟩
  | finish _ _ _ _ hactive =>
    rw [hactive] at hlease
    cases hlease
  | grant => cases hgranted
  | renew => exact absurd rfl (hrenewal _ _ _)
  | overflow => exact absurd rfl (hrenewal _ _ _)
  | authorize hactive _ =>
    cases hlease
    exact ⟨_, hactive, rfl⟩

theorem forward_unrenewed (request : PrivilegedBridgeClientFrame) (route : ProxyRoute) :
    Keeps Unrenewed (forward request route) := by
  have hexchange : Keeps Unrenewed (exchange request) := fun _ => .of_active rfl
  have hfail : Keeps Unrenewed failHelper := fun _ => .of_active rfl
  unfold forward
  exact .bind hexchange fun _ => .ite (.bind hfail fun _ => .throw _)
    (.bind .ofResult fun _ => .ite (.bind hfail fun _ => .throw _) (.pure _))

theorem forwardAuthorized_unrenewed (request : PrivilegedBridgeClientFrame) (now : Nat) :
    Keeps Unrenewed (forwardAuthorized request now) := by
  have hcheck : Keeps Unrenewed (checkControllerDisplayName request) := by
    unfold checkControllerDisplayName
    cases requestControllerDisplayName request with
    | none => exact .pure _
    | some name => exact .bind .get fun _ => .bind .orThrow fun _ => .require
  have hauthorize : ∀ (route : ProxyRoute) (sequence : Nat), Keeps Unrenewed
      (callBroker (·.authorizeCommand route.leaseId route.generation sequence now)) :=
    fun route sequence s => .of_effect
      (s.broker.leases.authorizeCommand_effect route.leaseId route.generation sequence now)
      rfl nofun
  unfold forwardAuthorized
  exact .bind hcheck fun _ => .bind .ofResult fun _ => .bind .get fun _ => .bind .orThrow fun _ =>
    .bind (.modify fun _ => .of_active rfl) fun _ => .bind (hauthorize _ _) fun _ =>
      forward_unrenewed _ _

theorem releaseLease_unrenewed (request : PrivilegedBridgeClientFrame) (leaseId : Bytes)
    (generation : Nat) : Keeps Unrenewed (releaseLease request leaseId generation) := by
  have hrelease : ∀ route : ProxyRoute,
      Keeps Unrenewed (callBroker (·.release route.leaseId route.generation)) :=
    fun route s => by
      have heffect :=
        LeaseManager.step_effect s.broker.leases (.release route.leaseId route.generation)
      exact .of_effect heffect rfl nofun
  unfold releaseLease
  exact .bind .ofResult fun _ => .bind (forward_unrenewed _ _) fun _ =>
    .bind (hrelease _) fun _ => .bind (.modify fun _ => .of_active rfl) fun _ => .pure _

/-- The request neither asks for a lease nor renews one. -/
def LeavesLease (request : PrivilegedBridgeClientFrame) : Prop :=
  (∀ value, request.payload ≠ some (.acquireLease value)) ∧
    ∀ leaseId generation, request.payload ≠ some (.renewLease leaseId generation)

theorem handle_unrenewed {request : PrivilegedBridgeClientFrame} (hleaves : LeavesLease request)
    (now : Nat) (ids : Except LeaseError Bytes16) :
    Keeps Unrenewed (handle request now ids) := by
  unfold handle
  split
  · exact .throw _
  · next value hpayload => exact absurd hpayload (hleaves.1 value)
  · next leaseId generation hpayload => exact absurd hpayload (hleaves.2 leaseId generation)
  · exact releaseLease_unrenewed _ _ _
  · exact .bind .get fun _ => .bind .require fun _ => forwardAuthorized_unrenewed _ _
  · exact .bind .get fun _ => .bind .require fun _ => forwardAuthorized_unrenewed _ _
  all_goals first
    | exact forwardAuthorized_unrenewed _ _
    | exact .throw _

theorem failClosed_unrenewed (s : HostBrokerSession) : Unrenewed s s.failClosed :=
  .of_none (LeaseManager.freezeActive_active _)

end HostBrokerSession

/-! ## What the proxies do apart from renewing -/

/-- What the broker makes of a request that has reached it, if it is a renewal. -/
def Handled.renewal? (h : Handled) : Option (Except LeaseError Lease) :=
  match h.request.payload with
  | some (.renewLease leaseId generation) =>
    (parseRoute leaseId generation).toOption.map fun route =>
      (h.session.broker.leases.renew route.leaseId route.generation h.nowMs).2
  | _ => none

/-- The request is a renewal. -/
def Handled.renews (h : Handled) : Bool :=
  match h.request.payload with
  | some (.renewLease _ _) => true
  | _ => false

namespace PeerProxy

/-- The proxies and the broker go on without a renewal. -/
structure Steady (p p' : PeerProxy) : Prop where
  route : ∀ route, p.wire.route = some route → p'.wire.route = some route
  timer : p'.wire.lastRenewedAtMs = p.wire.lastRenewedAtMs
  failed : p.wire.failed = true → p'.wire.failed = true
  lease : Unrenewed p.broker p'.broker
  handled : ∃ more, p'.handled = p.handled ++ more ∧ ∀ h ∈ more, h.renews = false

instance : IsPreorder PeerProxy Steady where
  refl p := ⟨fun _ h => h, rfl, id, refl_of _ _, [], (append_nil _).symm, forall_mem_nil _⟩
  trans p p' p'' h h' := by
    obtain ⟨more, hmore, hquiet⟩ := h.handled
    obtain ⟨more', hmore', hquiet'⟩ := h'.handled
    refine ⟨fun route hroute => h'.route route (h.route route hroute), h'.timer.trans h.timer,
      fun hfailed => h'.failed (h.failed hfailed), trans_of _ h.lease h'.lease, more ++ more',
      by rw [hmore', hmore, append_assoc], fun entry hentry => ?_⟩
    rcases mem_append.mp hentry with hentry | hentry
    · exact hquiet entry hentry
    · exact hquiet' entry hentry

/-- A change of what renewals do not depend on. -/
theorem Steady.of_eq {p p' : PeerProxy}
    (hwire : (p'.wire.route, p'.wire.lastRenewedAtMs, p'.wire.failed) =
      (p.wire.route, p.wire.lastRenewedAtMs, p.wire.failed))
    (hbroker : p'.broker = p.broker) (hhandled : p'.handled = p.handled) : Steady p p' := by
  simp only [Prod.mk.injEq] at hwire
  obtain ⟨hroute, htimer, hfailed⟩ := hwire
  exact ⟨fun route h => hroute.trans h, htimer, fun h => hfailed.trans h,
    .of_active (by rw [hbroker]), [], by rw [hhandled, append_nil], forall_mem_nil _⟩

/-- The wire may fail at any time. -/
theorem Steady.of_failed {p p' : PeerProxy}
    (hwire : (p'.wire.route, p'.wire.lastRenewedAtMs, p'.wire.failed) =
      (p.wire.route, p.wire.lastRenewedAtMs, true))
    (hbroker : p'.broker = p.broker) (hhandled : p'.handled = p.handled) : Steady p p' := by
  simp only [Prod.mk.injEq] at hwire
  obtain ⟨hroute, htimer, hfailed⟩ := hwire
  exact ⟨fun route h => hroute.trans h, htimer, fun _ => hfailed,
    .of_active (by rw [hbroker]), [], by rw [hhandled, append_nil], forall_mem_nil _⟩

theorem reject_steady {α : Type} (error : ProxyError) : Keeps Steady (reject error : ProxyM α) :=
  fun _ => .of_failed rfl rfl rfl

theorem failClosed_steady : Keeps Steady failClosed :=
  fun _ => .of_failed rfl rfl rfl

theorem hangUp_steady : Keeps Steady hangUp :=
  fun p => ⟨fun _ h => h, rfl, id, failClosed_unrenewed p.broker, [],
    (append_nil _).symm, forall_mem_nil _⟩

theorem serve_steady {request : PrivilegedBridgeClientFrame}
    (hleaves : LeavesLease request) (now : Nat) :
    Keeps Steady (serve request now) := by
  have hrenews : ∀ session : HostBrokerSession,
      ({ session, request, nowMs := now } : Handled).renews = false := by
    intro session
    unfold Handled.renews
    split
    · next leaseId generation hpayload => exact absurd hpayload (hleaves.2 leaseId generation)
    · rfl
  intro p
  unfold serve
  simp only [wp_bind, wp_get, andThen_ok]
  cases validatePrivilegedBridgeClientFrame request with
  | error e => exact hangUp_steady p
  | ok _ =>
    have hkept := handle_unrenewed hleaves now (.error .randomUnavailable)
      p.broker
    unfold wp at hkept
    simp only [wp_bind, wp_modify, andThen_ok]
    set r := handle request now (.error .randomUnavailable) p.broker
    have hserved : Steady p { p with
        broker := r.2
        handled := p.handled ++ [{ session := p.broker, request, nowMs := now }] } := by
      refine ⟨fun _ h => h, rfl, id, hkept, _, rfl, fun entry hentry => ?_⟩
      obtain rfl := mem_singleton.mp hentry
      exact hrenews p.broker
    cases r.1 with
    | ok response => exact hserved
    | error e => exact trans_of _ hserved (hangUp_steady _)

theorem rpcCall_steady {request : PrivilegedBridgeClientFrame}
    (hleaves : LeavesLease request) (now : Nat) (delivery : Delivery) :
    Keeps Steady (rpcCall request now delivery) := by
  have hserve := serve_steady hleaves now
  unfold rpcCall
  refine .bind .get fun _ => .bind .require fun _ => ?_
  cases delivery with
  | lost => exact .throw _
  | unanswered => exact .bind hserve fun _ => .throw _
  | answered => exact hserve

/-- The payload of a request that neither asks for a lease nor renews one. -/
def Plain : PrivilegedClientPayload → Prop
  | .acquireLease _ | .renewLease _ _ => False
  | _ => True

theorem Plain.leavesLease {payload : PrivilegedClientPayload} (hplain : Plain payload)
    {request : PrivilegedBridgeClientFrame} (hpayload : request.payload = some payload) :
    LeavesLease request := by
  rw [LeavesLease, hpayload]
  constructor
  · rintro value ⟨⟩
    exact hplain
  · rintro leaseId generation ⟨⟩
    exact hplain

theorem call_steady {payload : PrivilegedClientPayload} (hplain : Plain payload)
    (request : BridgeRequest) (now : Nat) (delivery : Delivery) :
    Keeps Steady (call request payload now delivery) := by
  intro p
  unfold call
  simp only [wp_bind, wp_get, andThen_ok, wp_require, wp_ite]
  refine ⟨fun _ => ⟨fun _ => reject_steady _ p, fun hsame => ?_⟩, fun _ => refl_of _ p⟩
  have hbound : Steady p { p with wire.route := some request.route } := by
    refine ⟨fun route hroute => ?_, rfl, id, refl_of _ _, [], (append_nil _).symm, forall_mem_nil _⟩
    rw [hroute] at hsame
    have heq : route = request.route := by simpa using hsame
    rw [heq]
  simp only [wp_modify, andThen_ok]
  cases checkedAdd p.wire.nextFrameSequence 1 with
  | none => exact trans_of _ hbound (reject_steady _ _)
  | some next =>
    simp only [wp_bind, wp_modify, andThen_ok, wp_outcome]
    have hnumbered : Steady p { p with
        wire.route := some request.route, wire.nextFrameSequence := next } := by
      refine trans_of _ hbound ?_
      exact .of_eq rfl rfl rfl
    refine wp_mono (rpcCall_steady (hplain.leavesLease rfl) now delivery _) ?_
    rintro (error | response) p' hp'
    · exact trans_of _ (trans_of _ hnumbered hp') (reject_steady _ _)
    · rw [andThen_ok]
      simp only [wp_ite]
      exact ⟨fun _ => trans_of _ hnumbered hp',
        fun _ => trans_of _ (trans_of _ hnumbered hp') (reject_steady _ _)⟩

theorem accepted_steady {payload : PrivilegedClientPayload} (hplain : Plain payload)
    (request : BridgeRequest) (now : Nat) (delivery : Delivery) :
    Keeps Steady (accepted request payload now delivery) := by
  unfold accepted
  refine .bind (call_steady hplain request now delivery) fun response => ?_
  split
  · exact .bind .ofResult fun _ => .pure _
  · exact reject_steady _
  · exact reject_steady _

theorem peerAnswer_steady (response : PrivilegedBridgeServerFrame) (proxySequence : Nat) :
    Keeps Steady (peerAnswer response proxySequence) := by
  unfold peerAnswer
  split
  · exact .bind .orThrow fun _ => .ite (.bind .ofResult fun _ => .pure _) (reject_steady _)
  · exact reject_steady _
  · exact reject_steady _

theorem peerRequest_steady (request : BridgeRequest) (offerSdp : String) :
    Keeps Steady (peerRequest request offerSdp) :=
  .bind .get fun _ => .bind .orThrow fun _ => .pure _

/-! ## Renewals -/

/-- The real times of a call: the Host looks at its clock, a renewal reaches the broker, its answer
is back, and the request itself reaches the broker.  Requests and answers take any time. -/
structure CallTimes where
  asked : Nat
  renewed : Nat
  answered : Nat
  handled : Nat
  renewed_of_asked : asked ≤ renewed
  answered_of_renewed : renewed ≤ answered

/-- What the clocks show at these times. -/
def CallTimes.environment (times : CallTimes) (c : Clocks) (renewal delivery : Delivery) :
    CallEnvironment where
  clockMs := c.hostMs times.asked
  renewedClockMs := c.hostMs times.answered
  renewedAtMs := c.brokerMs times.renewed
  renewal := renewal
  handledAtMs := c.brokerMs times.handled
  delivery := delivery

/-- A broker that has last accepted an acquisition or a renewal at the time `accepted`: the Host
has started its interval no earlier, and the lease shows the time. -/
structure Paced (c : Clocks) (accepted : Nat) (p : PeerProxy) : Prop where
  timer : p.wire.failed = false → c.hostMs accepted ≤ p.wire.lastRenewedAtMs
  lease : p.wire.failed = false → ∀ lease ∈ p.broker.active,
    lease.lastRenewedAtMs = c.brokerMs accepted

/-- The wire is bound to a route that leases can have. -/
def Bound (p : PeerProxy) : Prop :=
  ∃ route, p.wire.route = some route ∧ route.generation ≠ 0

/-- A renewal that has reached the broker: when it did, that it was not too soon, and where it has
been accepted, that the Host has restarted its interval unless the answer is lost. -/
structure OnTime (c : Clocks) (accepted : Nat) (times : CallTimes) (renewal : Delivery)
    (h : Handled) (p : PeerProxy) : Prop where
  spaced : accepted + renewIntervalMs * c.ticksPerMs ≤ times.renewed
  reading : h.nowMs = c.brokerMs times.renewed
  cadence : ∀ lease ∈ h.session.active, lease.lastRenewedAtMs + renewIntervalMs ≤ h.nowMs
  result : ∃ result, h.renewal? = some result ∧ result ≠ .error .renewedTooSoon ∧
    (result.isOk = false → p.wire.failed = true) ∧
    (result.isOk = true → (renewal = .answered →
        p.wire.lastRenewedAtMs = c.hostMs times.answered) ∧
      (renewal ≠ .answered → p.wire.failed = true) ∧ Paced c times.renewed p)

/-- The requests `more` have reached the broker since it last accepted something. -/
def Before (c : Clocks) (accepted : Nat) (past : List Handled) (p : PeerProxy) : Prop :=
  Bound p ∧ Paced c accepted p ∧
    ∃ more, p.handled = past ++ more ∧ ∀ h ∈ more, h.renews = false

/-- At most one renewal has reached the broker, on time. -/
def After (c : Clocks) (accepted : Nat) (times : CallTimes) (renewal : Delivery)
    (past : List Handled) (p : PeerProxy) : Prop :=
  Before c accepted past p ∨
    Bound p ∧ ∃ more h more', p.handled = past ++ (more ++ h :: more') ∧
      (∀ h ∈ more ++ more', h.renews = false) ∧ h.renews = true ∧
      OnTime c accepted times renewal h p

variable {c : Clocks} {accepted : Nat} {past : List Handled} {times : CallTimes}
  {renewal : Delivery} {p p' : PeerProxy}

theorem Bound.steady (h : Bound p) (hsteady : Steady p p') : Bound p' := by
  obtain ⟨route, hroute, hgeneration⟩ := h
  exact ⟨route, hsteady.route route hroute, hgeneration⟩

/-- A wire that has not failed had not failed before. -/
theorem Steady.not_failed (h : Steady p p') (halive : p'.wire.failed = false) :
    p.wire.failed = false := by
  by_contra hfailed
  rw [h.failed (Bool.of_not_eq_false hfailed)] at halive
  cases halive

theorem Paced.steady (h : Paced c accepted p) (hsteady : Steady p p') : Paced c accepted p' := by
  refine ⟨fun halive => ?_, fun halive lease hlease => ?_⟩
  · rw [hsteady.timer]
    exact h.timer (hsteady.not_failed halive)
  · obtain ⟨lease', hlease', hsame⟩ := hsteady.lease lease hlease
    exact hsame.trans (h.lease (hsteady.not_failed halive) lease' hlease')

theorem OnTime.steady {h : Handled} (hon : OnTime c accepted times renewal h p)
    (hsteady : Steady p p') : OnTime c accepted times renewal h p' := by
  obtain ⟨result, hresult, hsoon, hrefused, haccepted⟩ := hon.result
  refine ⟨hon.spaced, hon.reading, hon.cadence, result, hresult, hsoon,
    fun herror => hsteady.failed (hrefused herror), fun hok => ?_⟩
  obtain ⟨hanswered, hlost, hpaced⟩ := haccepted hok
  exact ⟨fun hdelivered => hsteady.timer.trans (hanswered hdelivered),
    fun hdelivered => hsteady.failed (hlost hdelivered), hpaced.steady hsteady⟩

theorem Before.steady (h : Before c accepted past p) (hsteady : Steady p p') :
    Before c accepted past p' := by
  obtain ⟨hbound, hpaced, more, hmore, hquiet⟩ := h
  obtain ⟨more', hmore', hquiet'⟩ := hsteady.handled
  refine ⟨hbound.steady hsteady, hpaced.steady hsteady, more ++ more',
    by rw [hmore', hmore, append_assoc], fun entry hentry => ?_⟩
  rcases mem_append.mp hentry with hentry | hentry
  · exact hquiet entry hentry
  · exact hquiet' entry hentry

theorem After.steady (h : After c accepted times renewal past p) (hsteady : Steady p p') :
    After c accepted times renewal past p' := by
  rcases h with h | ⟨hbound, more, entry, more', hmore, hquiet, hrenews, hon⟩
  · exact .inl (h.steady hsteady)
  · obtain ⟨more'', hmore'', hquiet''⟩ := hsteady.handled
    refine .inr ⟨hbound.steady hsteady, more, entry, more' ++ more'', ?_, ?_, hrenews,
      hon.steady hsteady⟩
    · rw [hmore'', hmore]
      simp
    · intro x hx
      rw [← append_assoc] at hx
      rcases mem_append.mp hx with hx | hx
      · exact hquiet x hx
      · exact hquiet'' x hx

/-- A computation that renews at most once, on time. -/
def Paces {α : Type} (c : Clocks) (accepted : Nat) (times : CallTimes) (renewal : Delivery)
    (past : List Handled) (m : ProxyM α) : Prop :=
  ∀ p, Before c accepted past p → wp m (fun _ p' => After c accepted times renewal past p') p

namespace Paces

variable {α β : Type} {m : ProxyM α} {f : α → ProxyM β}

theorem bind_steady (hm : Paces c accepted times renewal past m)
    (hf : ∀ a, Keeps Steady (f a)) : Paces c accepted times renewal past (m >>= f) := by
  intro p hp
  rw [wp_bind]
  refine wp_mono (hm p hp) ?_
  rintro (error | a) p' hp'
  · exact hp'
  · exact hp'.steady (hf a p')

theorem steady_bind (hm : Keeps Steady m) (hf : ∀ a, Paces c accepted times renewal past (f a)) :
    Paces c accepted times renewal past (m >>= f) := by
  intro p hp
  rw [wp_bind]
  refine wp_mono (hm p) ?_
  rintro (error | a) p' hsteady
  · exact .inl (hp.steady hsteady)
  · exact hf a p' (hp.steady hsteady)

theorem outcome (hm : Paces c accepted times renewal past m) :
    Paces c accepted times renewal past (outcome m : ProxyM (Except ProxyError α)) := hm

end Paces

/-- Where a renewal is due, it reaches the broker late enough. -/
theorem Paced.due (h : Paced c accepted p) (halive : p.wire.failed = false)
    (hdue : renewAttemptIntervalMs ≤ c.hostMs times.asked - p.wire.lastRenewedAtMs) :
    accepted + renewIntervalMs * c.ticksPerMs ≤ times.renewed ∧
      ∀ lease ∈ p.broker.active,
        lease.lastRenewedAtMs + renewIntervalMs ≤ c.brokerMs times.renewed := by
  have htimer := h.timer halive
  have hinterval : renewAttemptIntervalMs = renewIntervalMs + 250 := rfl
  have helapsed : accepted + renewIntervalMs * c.ticksPerMs ≤ times.asked :=
    c.elapsed_of_hostMs (by omega)
  have hspaced := helapsed.trans times.renewed_of_asked
  refine ⟨hspaced, fun lease hlease => ?_⟩
  rw [h.lease halive lease hlease]
  exact c.brokerMs_add_le hspaced

/-- A renewal is never refused as too soon where the lease is old enough. -/
theorem renew_not_too_soon {m : LeaseManager} {id : Bytes16} {generation now : Nat}
    (hold : ∀ lease ∈ m.active, lease.lastRenewedAtMs + renewIntervalMs ≤ now) :
    (m.renew id generation now).2 ≠ .error .renewedTooSoon := by
  unfold LeaseManager.renew
  cases hactive : m.active with
  | none => nofun
  | some lease =>
    dsimp only
    cases hvalid : validateActiveRef lease id generation with
    | error e =>
      intro h
      cases h
      unfold validateActiveRef at hvalid
      split_ifs at hvalid <;> cases hvalid
    | ok _ =>
      dsimp only
      split_ifs
      · nofun
      · cases hinterval : checkedAdd lease.lastRenewedAtMs renewIntervalMs with
        | none => nofun
        | some next =>
          have hnext := (checkedAdd_eq_some.mp hinterval).2
          have hready := hold lease hactive
          dsimp only
          rw [if_neg (by omega)]
          cases checkedAdd now leaseDurationMs with
          | none => nofun
          | some _ => nofun

/-- What the broker answers to a renewal, and what it keeps. -/
theorem renewLease_result (request : PrivilegedBridgeClientFrame) (route : ProxyRoute)
    (hgeneration : route.generation ≠ 0) (now : Nat) (s : HostBrokerSession) :
    (∃ e, (s.broker.leases.renew route.leaseId route.generation now).2 = .error e ∧
      (renewLease request route.leaseId.toList route.generation now s).1 =
        .error .lease) ∨
    ∃ lease, (s.broker.leases.renew route.leaseId route.generation now).2 = .ok lease ∧
      (renewLease request route.leaseId.toList route.generation now s).1 =
        .ok (leaseResponse request lease s.permissions) ∧
      lease.id = route.leaseId ∧ lease.generation = route.generation ∧
      (renewLease request route.leaseId.toList route.generation now s).2.active =
        some lease ∧ lease.lastRenewedAtMs = now := by
  have hroute : parseRoute route.leaseId.toList route.generation = .ok route := by
    unfold parseRoute
    rw [bytes16?_eq_some.mpr rfl]
    exact if_neg hgeneration
  have hrenew : renewLease request route.leaseId.toList route.generation now s =
      (callBroker (·.renew route.leaseId route.generation now) >>= fun lease =>
        do
          let s ← get
          return leaseResponse request lease s.permissions) s := by
    unfold renewLease
    rw [hroute]
    rfl
  rw [hrenew]
  have hcall : callBroker (·.renew route.leaseId route.generation now) s =
      ((s.broker.leases.renew route.leaseId route.generation now).2.mapError fun _ => .lease,
        { s with broker := { s.broker with
          leases := (s.broker.leases.renew route.leaseId route.generation now).1 } }) := rfl
  have heffect := s.broker.leases.renew_effect route.leaseId route.generation now
  cases hrenewed : (s.broker.leases.renew route.leaseId route.generation now).2 with
  | error e =>
    rw [hrenewed] at hcall
    refine .inl ⟨e, rfl, ?_⟩
    simp only [bind, hcall, Except.mapError]
  | ok lease =>
    rw [hrenewed] at hcall heffect
    obtain ⟨earlier, hearlier, hafter, hid, hgen, -⟩ := heffect.active_of_renewal rfl
    obtain ⟨_, cur, hcur, -, -, hop, htime, -⟩ := heffect.of_renewal rfl
    obtain rfl := Option.some.inj (hearlier.symm.trans hcur)
    simp only [LeaseOp.renew.injEq] at hop
    obtain ⟨hsameId, hsameGeneration, hnow⟩ := hop
    refine .inr ⟨lease, rfl, ?_, hid.trans hsameId.symm, hgen.trans hsameGeneration.symm,
      ?_, htime.trans hnow.symm⟩
    · simp only [bind, hcall, Except.mapError]
      rfl
    · simp only [bind, hcall, Except.mapError]
      exact hafter

/-- The frame of a renewal. -/
def renewalFrame (route : ProxyRoute) (sequence : Nat) : PrivilegedBridgeClientFrame :=
  { protocolVersion := some { major := 1, minor := 0 }
    requestId := requestId route sequence
    sequence
    payload := some (.renewLease route.leaseId.toList route.generation) }

/-- A renewal has reached the broker as `entry`, and `r` is the answer on its way back. -/
structure Reached (route : ProxyRoute) (now : Nat) (p : PeerProxy) (entry : Handled)
    (frame : PrivilegedBridgeClientFrame) (r : Except ProxyError PrivilegedBridgeServerFrame)
    (p' : PeerProxy) : Prop where
  handled : p'.handled = p.handled ++ [entry]
  wire : p'.wire = p.wire
  met : entry = { session := p.broker, request := frame, nowMs := now }
  answer : (∃ e, entry.renewal? = some (.error e) ∧ r = .ok (errorFrame frame)) ∨
    ∃ lease, entry.renewal? = some (.ok lease) ∧
      r = .ok (leaseResponse frame lease p.broker.permissions) ∧
      lease.id = route.leaseId ∧ lease.generation = route.generation ∧
      p'.broker.active = some lease ∧ lease.lastRenewedAtMs = now

variable {route : ProxyRoute}

theorem serve_renewal (hgeneration : route.generation ≠ 0) (sequence now : Nat) (p : PeerProxy) :
    wp (serve (renewalFrame route sequence) now) (fun r p' =>
      Steady p p' ∧ (∃ e, r = .error e) ∨
        ∃ entry, Reached route now p entry (renewalFrame route sequence) r p') p := by
  unfold serve
  simp only [wp_bind, wp_get, andThen_ok]
  cases validatePrivilegedBridgeClientFrame (renewalFrame route sequence) with
  | error e => exact .inl ⟨hangUp_steady p, _, rfl⟩
  | ok _ =>
    simp only [wp_bind, wp_modify, andThen_ok]
    have hhandle : handle (renewalFrame route sequence) now
        (.error .randomUnavailable) = renewLease (renewalFrame route sequence)
          route.leaseId.toList route.generation now := rfl
    rw [hhandle]
    have hrenews := renewLease_result (renewalFrame route sequence) route hgeneration now p.broker
    have hroute : parseRoute route.leaseId.toList route.generation =
        .ok route := by
      unfold parseRoute
      rw [bytes16?_eq_some.mpr rfl]
      exact if_neg hgeneration
    have hentry : ({ session := p.broker, request := renewalFrame route sequence
                     nowMs := now } : Handled).renewal? =
        some (p.broker.broker.leases.renew route.leaseId route.generation now).2 := by
      unfold Handled.renewal?
      simp only [renewalFrame, hroute]
      rfl
    generalize renewLease (renewalFrame route sequence) route.leaseId.toList
      route.generation now p.broker = r at hrenews ⊢
    obtain ⟨result, broker⟩ := r
    rcases hrenews with ⟨e, hrenewed, hresult⟩ |
      ⟨lease, hrenewed, hresult, hid, hgen, hactive, htime⟩
    · rw [hrenewed] at hentry
      cases hresult
      exact .inr ⟨_, rfl, rfl, rfl, .inl ⟨e, hentry, rfl⟩⟩
    · rw [hrenewed] at hentry
      cases hresult
      exact .inr ⟨_, rfl, rfl, rfl, .inr ⟨lease, hentry, rfl, hid, hgen, hactive, htime⟩⟩

theorem rpcCall_renewal (hgeneration : route.generation ≠ 0)
    (sequence now : Nat) (delivery : Delivery) (p : PeerProxy) :
    wp (rpcCall (renewalFrame route sequence) now delivery) (fun r p' =>
      Steady p p' ∧ (∃ e, r = .error e) ∨
        ∃ entry r', Reached route now p entry (renewalFrame route sequence) r' p' ∧
          (delivery = .answered ∧ r = r' ∨ delivery ≠ .answered ∧ ∃ e, r = .error e)) p := by
  have hserve := serve_renewal hgeneration sequence now p
  unfold rpcCall
  simp only [wp_bind, wp_get, andThen_ok, wp_require]
  refine ⟨fun _ => ?_, fun _ => .inl ⟨refl_of _ p, _, rfl⟩⟩
  cases delivery with
  | lost => exact .inl ⟨refl_of _ p, _, rfl⟩
  | unanswered =>
    dsimp only
    rw [wp_bind]
    refine wp_mono hserve ?_
    rintro r p' (⟨hquiet, e, rfl⟩ | ⟨entry, hreached⟩)
    · exact .inl ⟨hquiet, _, rfl⟩
    · have hanswer : ∃ response, r = .ok response := by
        rcases hreached.answer with ⟨_, _, rfl⟩ | ⟨_, _, rfl, _⟩
        · exact ⟨_, rfl⟩
        · exact ⟨_, rfl⟩
      obtain ⟨response, rfl⟩ := hanswer
      exact .inr ⟨entry, _, hreached, .inr ⟨by decide, _, rfl⟩⟩
  | answered =>
    refine wp_mono hserve ?_
    rintro r p' (hquiet | ⟨entry, hreached⟩)
    · exact .inl hquiet
    · exact .inr ⟨entry, r, hreached, .inl ⟨rfl, rfl⟩⟩

/-- A renewal that has reached the broker on time, in the state that follows. -/
theorem Reached.after {sequence : Nat} {entry : Handled}
    {r : Except ProxyError PrivilegedBridgeServerFrame} {p₁ p₂ : PeerProxy}
    (hreached : Reached route (c.brokerMs times.renewed) p entry (renewalFrame route sequence) r p₁)
    (hbefore : Before c accepted past p) (halive : p.wire.failed = false)
    (hdue : renewAttemptIntervalMs ≤ c.hostMs times.asked - p.wire.lastRenewedAtMs)
    (hhandled : p₂.handled = p₁.handled) (hroute : p₂.wire.route = p₁.wire.route)
    (hrefused : ∀ e, entry.renewal? = some (.error e) → p₂.wire.failed = true)
    (haccepted : ∀ lease, entry.renewal? = some (.ok lease) →
      (renewal = .answered → p₂.wire.lastRenewedAtMs = c.hostMs times.answered) ∧
        (renewal ≠ .answered → p₂.wire.failed = true) ∧ Paced c times.renewed p₂) :
    After c accepted times renewal past p₂ := by
  obtain ⟨⟨bound, hbound, hpositive⟩, hpaced, more, hmore, hquiet⟩ := hbefore
  obtain ⟨hspaced, hcadence⟩ := hpaced.due halive hdue
  have hmet := hreached.met
  have hrenews : entry.renews = true := by
    rw [hmet]
    rfl
  have hresult : ∃ result, entry.renewal? = some result ∧ result ≠ .error .renewedTooSoon := by
    have hsoon : ∀ result, entry.renewal? = some result → result ≠ .error .renewedTooSoon := by
      intro result hresult
      rw [hmet] at hresult
      unfold Handled.renewal? renewalFrame at hresult
      obtain ⟨met, hparsed, rfl⟩ := Option.map_eq_some_iff.mp hresult
      exact renew_not_too_soon hcadence
    rcases hreached.answer with ⟨e, he, -⟩ | ⟨lease, hlease, -⟩
    · exact ⟨_, he, hsoon _ he⟩
    · exact ⟨_, hlease, hsoon _ hlease⟩
  refine .inr ⟨⟨bound, by rw [hroute, hreached.wire, hbound], hpositive⟩, more, entry, [], ?_, ?_,
    hrenews, hspaced, by rw [hmet], by rw [hmet]; exact hcadence, ?_⟩
  · rw [hhandled, hreached.handled, hmore, append_assoc]
  · simpa using hquiet
  · obtain ⟨result, hresult, hsoon⟩ := hresult
    refine ⟨result, hresult, hsoon, fun herror => ?_, fun hok => ?_⟩
    · cases result with
      | error e => exact hrefused e hresult
      | ok lease => cases herror
    · cases result with
      | error e => cases hok
      | ok lease => exact haccepted lease hresult

theorem renewIfDue_paces (delivery : Delivery) :
    Paces c accepted times renewal past
      (renewIfDue (times.environment c renewal delivery)) := by
  intro p hp
  unfold renewIfDue
  simp only [wp_bind, wp_get, andThen_ok, wp_onlyIf, wp_orThrow]
  refine ⟨fun hdue => ⟨fun route hroute => ?_, fun _ => .inl hp⟩, fun _ => .inl hp⟩
  obtain ⟨bound, hbound, hgeneration⟩ := id hp.1
  obtain rfl := Option.some.inj (hbound.symm.trans hroute)
  unfold call
  simp only [wp_bind, wp_get, andThen_ok, wp_require, wp_ite]
  have hsame : p.wire.route.any (· ≠ bound) = false := by simp [hbound]
  refine ⟨fun halive => ⟨fun hother => ?_, fun _ => ?_⟩, fun _ => .inl hp⟩
  · rw [hsame] at hother
    cases hother
  simp only [wp_modify, andThen_ok]
  have hbind : Steady p { p with wire.route := some bound } := .of_eq (by rw [hbound]) rfl rfl
  cases checkedAdd p.wire.nextFrameSequence 1 with
  | none => exact .inl (hp.steady (trans_of _ hbind (reject_steady (α := Unit) .failedClosed _)))
  | some next =>
    simp only [wp_bind, wp_modify, andThen_ok, wp_outcome]
    have hsteady : Steady p { p with
        wire.route := some bound, wire.nextFrameSequence := next } := by
      refine trans_of _ hbind ?_
      exact .of_eq rfl rfl rfl
    have hbefore := hp.steady hsteady
    have hlive : ({ p with wire.route := some bound, wire.nextFrameSequence := next } :
      PeerProxy).wire.failed = false := halive
    generalize ({ p with wire.route := some bound, wire.nextFrameSequence := next } :
      PeerProxy) = p₁ at hsteady hbefore hlive ⊢
    have hdue₁ : renewAttemptIntervalMs ≤ c.hostMs times.asked - p₁.wire.lastRenewedAtMs := by
      rw [hsteady.timer]
      exact hdue
    refine wp_mono (rpcCall_renewal hgeneration p.wire.nextFrameSequence
      (c.brokerMs times.renewed) renewal p₁) ?_
    rintro r p₂ (⟨hquiet, e, rfl⟩ | ⟨entry, r', hreached, hdelivered⟩)
    · exact .inl (hbefore.steady (trans_of _ hquiet (reject_steady (α := Unit) e _)))
    rcases hdelivered with ⟨hanswered, rfl⟩ | ⟨hlost, e, rfl⟩
    · rcases hreached.answer with ⟨e, hentry, rfl⟩ | ⟨lease, hentry, rfl, hid, hgen, hactive, htime⟩
      · rw [andThen_ok, wp_ite]
        refine ⟨fun _ => ?_, fun hmismatch => absurd ⟨rfl, rfl, rfl⟩ hmismatch⟩
        refine hreached.after hbefore hlive hdue₁ rfl rfl (fun _ _ => rfl) fun lease hlease => ?_
        rw [hentry] at hlease
        cases hlease
      · have hread : clientRoute lease.id.toList lease.generation = .ok bound := by
          unfold clientRoute
          rw [bytes16?_eq_some.mpr rfl, hid, hgen]
          exact if_neg hgeneration
        rw [andThen_ok, wp_ite]
        refine ⟨fun _ => ?_, fun hmismatch => absurd ⟨rfl, rfl, rfl⟩ hmismatch⟩
        rw [wp_pure, andThen_ok]
        simp only [HostBrokerSession.leaseResponse, HostBrokerSession.responseFrame, wp_bind,
          wp_ofResult, hread, andThen_ok, ne_eq, not_true_eq_false, if_false, wp_modify]
        refine hreached.after hbefore hlive hdue₁ rfl rfl (fun e herror => ?_) fun lease' _ => ?_
        · rw [hentry] at herror
          cases herror
        · refine ⟨fun _ => rfl, fun hlost => absurd hanswered hlost, fun _ => ?_, fun _ => ?_⟩
          · exact c.hostMs_mono times.answered_of_renewed
          · intro lease'' hlease''
            obtain rfl := Option.some.inj (hactive.symm.trans hlease'')
            exact htime
    · refine hreached.after hbefore hlive hdue₁ rfl rfl (fun _ _ => rfl) fun lease _ => ?_
      exact ⟨fun hanswered => absurd hanswered hlost, fun _ => rfl,
        by intros; contradiction, by intros; contradiction⟩

/-! ## The calls of the session -/

/-- What follows the answer to a call. -/
theorem perform_rest_steady {α : Type} (q : PeerProxy)
    (result : Except ProxyError (BridgeResponse α)) :
    Keeps Steady (match result with
      | .error error => do
        failClosed
        throw error
      | .ok response =>
        if response.route ≠ q.route then do
          failClosed
          throw .staleRoute
        else if response.sequence ≠ q.nextRequestSequence then do
          failClosed
          throw .staleResponse
        else return response.value : ProxyM α) := by
  cases result with
  | error error => exact .bind failClosed_steady fun _ => .throw _
  | ok response =>
    exact .ite (.bind failClosed_steady fun _ => .throw _)
      (.ite (.bind failClosed_steady fun _ => .throw _) (.pure _))

theorem perform_steady {α : Type} {call : BridgeRequest → ProxyM (BridgeResponse α)}
    (hcall : ∀ request, Keeps Steady (call request)) : Keeps Steady (perform call) := by
  unfold perform
  exact .bind .get fun q => .bind .require fun _ => .bind .orThrow fun _ =>
    .bind (.modify fun _ => .of_eq rfl rfl rfl) fun _ => .bind (.outcome (hcall _))
      fun result => perform_rest_steady q result

theorem perform_paces {α : Type} {call : BridgeRequest → ProxyM (BridgeResponse α)}
    (hcall : ∀ request, Paces c accepted times renewal past (call request)) :
    Paces c accepted times renewal past (perform call) := by
  unfold perform
  exact .steady_bind .get fun q => .steady_bind .require fun _ => .steady_bind .orThrow fun _ =>
    .steady_bind (.modify fun _ => .of_eq rfl rfl rfl) fun _ => .bind_steady (.outcome (hcall _))
      fun result => perform_rest_steady q result

theorem negotiate_paces {payload : PrivilegedPeerRequest → PrivilegedClientPayload}
    (hplain : ∀ value, Plain (payload value)) (offerSdp : String) (delivery : Delivery)
    (request : BridgeRequest) :
    Paces c accepted times renewal past
      (negotiate payload offerSdp (times.environment c renewal delivery) request) :=
  .bind_steady (renewIfDue_paces delivery) fun _ => .bind (peerRequest_steady request offerSdp)
    fun _ => .bind (call_steady (hplain _) request _ _) fun _ => peerAnswer_steady _ _

theorem addCandidate_paces (candidate : Host.PeerIceCandidate) (delivery : Delivery)
    (request : BridgeRequest) :
    Paces c accepted times renewal past
      (addCandidate candidate (times.environment c renewal delivery) request) := by
  unfold addCandidate
  refine .bind_steady (renewIfDue_paces delivery) fun _ => ?_
  apply accepted_steady
  trivial

theorem input_paces (made : Host.SinkCall) (delivery : Delivery) (request : BridgeRequest) :
    Paces c accepted times renewal past
      (input made (times.environment c renewal delivery) request) := by
  unfold input
  refine .bind_steady (renewIfDue_paces delivery) fun _ => ?_
  apply accepted_steady
  trivial

theorem close_steady (env env' : CallEnvironment) : Keeps Steady (close env env') := by
  unfold close
  refine .bind .get fun _ => .ite (.pure _) (.bind (.outcome (perform_steady fun request => ?_))
    fun _ => .bind (.outcome (perform_steady fun request => ?_)) fun _ =>
      .bind (.modify fun _ => .of_eq rfl rfl rfl) fun _ => .bind .ofResult fun _ => .ofResult)
  · unfold closePeer
    apply accepted_steady
    trivial
  · unfold release
    apply accepted_steady
    trivial

theorem poll_paces (healthy : Bool) (delivery : Delivery) :
    Paces c accepted times renewal past
      (poll (times.environment c renewal delivery) healthy) := by
  unfold poll
  refine .steady_bind .get fun _ => .steady_bind .require fun _ => .bind_steady (.outcome
    (.steady_bind .require fun _ => .bind_steady (renewIfDue_paces delivery)
      fun _ => .require)) fun result => ?_
  cases result with
  | ok _ => exact .pure _
  | error error => exact .bind failClosed_steady fun _ => .throw _

theorem expire_steady (p : PeerProxy) (now : Nat) : Steady p (machine.step p (.expire now)).1 := by
  have hleases : (p.broker.expire now).1.broker.leases = (p.broker.broker.leases.expire now).1 := by
    unfold expire
    dsimp only
    split <;> rfl
  have hkept : Unrenewed p.broker (p.broker.expire now).1 := by
    have heffect : LeaseManager.Effect p.broker.broker.leases (.expire now)
        (.expired (p.broker.broker.leases.expire now).2)
        (p.broker.expire now).1.broker.leases := by
      rw [hleases]
      exact LeaseManager.step_effect p.broker.broker.leases (.expire now)
    exact .of_effect heffect rfl nofun
  unfold machine
  dsimp only
  split_ifs
  · exact ⟨fun _ h => h, rfl, id, .of_none (LeaseManager.freezeActive_active _), [],
      (append_nil _).symm, forall_mem_nil _⟩
  · exact ⟨fun _ h => h, rfl, id, hkept, [], (append_nil _).symm, forall_mem_nil _⟩

theorem pollHelper_steady (p : PeerProxy) : Steady p (machine.step p .pollHelper).1 := by
  have hunmoved : Unmoved p.broker (p.broker.tryEvent).2 :=
    tryEvent_unmoved p.broker
  unfold machine
  dsimp only
  split
  · next event broker hevent =>
    rw [hevent] at hunmoved
    refine ⟨fun _ h => h, rfl, id, .of_active ?_, [], (append_nil _).symm,
      forall_mem_nil _⟩
    unfold active
    rw [hunmoved.broker]
  · exact ⟨fun _ h => h, rfl, id, .of_none (LeaseManager.freezeActive_active _), [],
      (append_nil _).symm, forall_mem_nil _⟩

/-! ## Runs in real time -/

/-- What happens on the bridge, at real times where the Host's renewals depend on them: a call of
the session (a close makes a second request), a poll of the Host, the broker's look at its clock
and at the Helper, and the end of the connection. -/
inductive TimedOp where
  | call (call : ProxyCall) (times times' : CallTimes) (renewal delivery delivery' : Delivery)
  | poll (times : CallTimes) (renewal : Delivery) (healthy : Bool)
  | expire (nowMs : Nat)
  | pollHelper
  | disconnect

/-- The operation with the readings of the clocks. -/
def TimedOp.op (c : Clocks) : TimedOp → ProxyOp
  | .call made times times' renewal delivery delivery' =>
    .call made (times.environment c renewal delivery) (times'.environment c .answered delivery')
  | .poll times renewal healthy => .poll (times.environment c renewal .answered) healthy
  | .expire nowMs => .expire nowMs
  | .pollHelper => .pollHelper
  | .disconnect => .disconnect

/-- When the Host would renew, and what becomes of the renewal. -/
def TimedOp.renewalAt : TimedOp → Option (CallTimes × Delivery)
  | .call _ times _ renewal _ _ => some (times, renewal)
  | .poll times renewal _ => some (times, renewal)
  | .expire _ | .pollHelper | .disconnect => none

/-- The proxies in real time, and when the broker last accepted an acquisition or a renewal. -/
structure TimedProxy where
  proxy : PeerProxy
  accepted : Nat

namespace TimedProxy

/-- The requests that have reached the broker since. -/
def reached (p p' : PeerProxy) : List Handled := p'.handled.drop p.handled.length

/-- When the broker last accepted something, after an operation. -/
def acceptedAfter (accepted : Nat) (op : TimedOp) (p p' : PeerProxy) : Nat :=
  match op.renewalAt with
  | none => accepted
  | some (times, _) =>
    if (reached p p').any (fun h => h.renewal?.any (·.isOk)) then times.renewed else accepted

/-- The bridge in real time. -/
def machine (c : Clocks) : Machine TimedProxy TimedOp ProxyReply where
  step s op :=
    let r := PeerProxy.machine.step s.proxy (op.op c)
    ({ proxy := r.1, accepted := acceptedAfter s.accepted op s.proxy r.1 }, r.2)

/-- The broker's last acceptance is past, and the Host has paced itself by it. -/
structure Kept (c : Clocks) (s : TimedProxy) : Prop where
  bound : Bound s.proxy
  paced : Paced c s.accepted s.proxy

/-- A step that renews at most once, on time. -/
theorem machine_after {s : TimedProxy} (h : Kept c s) (op : TimedOp) :
    let p' := (PeerProxy.machine.step s.proxy (op.op c)).1
    match op.renewalAt with
    | none => Before c s.accepted s.proxy.handled p'
    | some (times, renewal) => After c s.accepted times renewal s.proxy.handled p' := by
  have hbefore : Before c s.accepted s.proxy.handled s.proxy :=
    ⟨h.bound, h.paced, [], (append_nil _).symm, forall_mem_nil _⟩
  cases op with
  | call made times times' renewal delivery delivery' =>
    cases made with
    | sink made => exact perform_paces (input_paces made delivery) s.proxy hbefore
    | peer made =>
      cases made with
      | start offerSdp =>
        refine perform_paces (negotiate_paces (fun value => ?_) offerSdp delivery) s.proxy
          hbefore
        exact trivial
      | restart offerSdp =>
        refine perform_paces (negotiate_paces (fun value => ?_) offerSdp delivery) s.proxy
          hbefore
        exact trivial
      | addRemoteIceCandidate candidate =>
        exact perform_paces (addCandidate_paces candidate delivery) s.proxy hbefore
      | close => exact .inl (hbefore.steady (close_steady _ _ s.proxy))
  | poll times renewal healthy => exact poll_paces healthy .answered s.proxy hbefore
  | expire nowMs => exact hbefore.steady (expire_steady s.proxy nowMs)
  | pollHelper => exact hbefore.steady (pollHelper_steady s.proxy)
  | disconnect =>
    refine hbefore.steady ?_
    exact ⟨fun _ h => h, rfl, id, failClosed_unrenewed s.proxy.broker, [],
      (append_nil _).symm, forall_mem_nil _⟩

/-- Requests that are no renewals are not accepted as one. -/
theorem not_accepted {more : List Handled} (hquiet : ∀ h ∈ more, h.renews = false) :
    more.any (fun h => h.renewal?.any (·.isOk)) = false := by
  rw [any_eq_false]
  intro h hh
  have hrenews := hquiet h hh
  have hnone : h.renewal? = none := by
    unfold Handled.renews at hrenews
    unfold Handled.renewal?
    split at hrenews
    · cases hrenews
    · rfl
  rw [hnone]
  nofun

/-- What a step has made of the renewals it carried. -/
structure Stepped (c : Clocks) (e : Occurrence TimedProxy TimedOp ProxyReply) : Prop where
  kept : Kept c e.after
  onTime : ∀ h ∈ reached e.before.proxy e.after.proxy, h.renews = true →
    ∃ times renewal, e.input.renewalAt = some (times, renewal) ∧
      OnTime c e.before.accepted times renewal h e.after.proxy ∧
      (h.renewal?.any (·.isOk) = true → e.after.accepted = times.renewed)

theorem Kept.step {s : TimedProxy} (h : Kept c s) (op : TimedOp) :
    Stepped c ((machine c).occurrence s op) := by
  have hafter := machine_after h op
  dsimp only at hafter
  have hquiet : Before c s.accepted s.proxy.handled (PeerProxy.machine.step s.proxy (op.op c)).1 →
      Stepped c ((machine c).occurrence s op) := by
    rintro ⟨hbound, hpaced, more, hmore, hnone⟩
    have hreached : reached s.proxy (PeerProxy.machine.step s.proxy (op.op c)).1 = more := by
      rw [reached, hmore, drop_left]
    have haccepted : ((machine c).step s op).1.accepted = s.accepted := by
      change acceptedAfter s.accepted op s.proxy (PeerProxy.machine.step s.proxy (op.op c)).1 = _
      unfold acceptedAfter
      rw [hreached, not_accepted hnone]
      cases op.renewalAt with
      | none => rfl
      | some _ => rfl
    refine ⟨⟨hbound, ?_⟩, fun entry hentry hrenews => ?_⟩
    · change Paced c ((machine c).step s op).1.accepted _
      rw [haccepted]
      exact hpaced
    · change entry ∈ reached s.proxy (PeerProxy.machine.step s.proxy (op.op c)).1 at hentry
      rw [hreached] at hentry
      rw [hnone entry hentry] at hrenews
      cases hrenews
  cases hat : op.renewalAt with
  | none =>
    rw [hat] at hafter
    exact hquiet hafter
  | some at_ =>
    obtain ⟨times, renewal⟩ := at_
    rw [hat] at hafter
    rcases hafter with hbefore | ⟨hbound, more, entry, more', hmore, hnone, hrenews, hon⟩
    · exact hquiet hbefore
    have hreached : reached s.proxy (PeerProxy.machine.step s.proxy (op.op c)).1 =
        more ++ entry :: more' := by
      rw [reached, hmore, drop_left]
    have hcount : ((machine c).step s op).1.accepted =
        if entry.renewal?.any (·.isOk) then times.renewed else s.accepted := by
      change acceptedAfter s.accepted op s.proxy (PeerProxy.machine.step s.proxy (op.op c)).1 = _
      unfold acceptedAfter
      rw [hat, hreached]
      have hmore₁ := not_accepted fun h hh => hnone h (mem_append_left _ hh)
      have hmore₂ := not_accepted fun h hh => hnone h (mem_append_right _ hh)
      simp only [any_append, any_cons, hmore₁, hmore₂, Bool.false_or, Bool.or_false]
    obtain ⟨result, hresult, hsoon, hrefused, haccepted⟩ := hon.result
    refine ⟨⟨hbound, ?_⟩, fun h hh hrenews' => ⟨times, renewal, hat, ?_⟩⟩
    · change Paced c ((machine c).step s op).1.accepted _
      rw [hcount, hresult, Option.any_some]
      by_cases hok : result.isOk = true
      · rw [if_pos hok]
        exact (haccepted hok).2.2
      · rw [if_neg hok]
        have hfailed := hrefused (Bool.of_not_eq_true hok)
        refine ⟨fun halive => ?_, fun halive => ?_⟩ <;>
        · change (PeerProxy.machine.step s.proxy (op.op c)).1.wire.failed = false at halive
          rw [hfailed] at halive
          cases halive
    · change h ∈ reached s.proxy (PeerProxy.machine.step s.proxy (op.op c)).1 at hh
      rw [hreached] at hh
      have heq : h = entry := by
        rcases mem_append.mp hh with hh | hh
        · rw [hnone h (mem_append_left _ hh)] at hrenews'
          cases hrenews'
        · rcases mem_cons.mp hh with hh | hh
          · exact hh
          · rw [hnone h (mem_append_right _ hh)] at hrenews'
            cases hrenews'
      subst heq
      refine ⟨hon, fun hok => ?_⟩
      change ((machine c).step s op).1.accepted = times.renewed
      rw [hcount, if_pos hok]

/-- A request for a lease that succeeds leaves a lease renewed at that time. -/
theorem acquire_dated {request : PrivilegedBridgeClientFrame}
    {value : AcquirePrivilegedLeaseRequest} (now : Nat) (ids : Except LeaseError Bytes16)
    (s : HostBrokerSession) :
    wp (acquire request value now ids) (fun r s' => ∀ response,
      r = .ok response → ∀ lease ∈ s'.active, lease.lastRenewedAtMs = now) s := by
  unfold acquire
  simp only [wp_bind, wp_orThrow]
  refine ⟨fun sessionId _ => ?_, fun _ _ h => by cases h⟩
  rw [andThen_ok, wp_bind]
  set asked : AcquireLease := _ with hasked
  have hacquires : wp (callBroker (·.acquire asked now ids)) (fun r s' =>
      ∀ lease, r = .ok lease → ∀ lease ∈ s'.active, lease.lastRenewedAtMs = now) s := by
    unfold wp
    rcases callBroker_cases (·.acquire asked now ids) s with
      ⟨e, _, hresult⟩ | ⟨lease, hacquired, hresult⟩
    · rw [hresult]
      intro lease h
      cases h
    · intro _ _ lease' hlease'
      have hacquired' : (s.broker.leases.acquire asked now ids).2 = .ok lease := hacquired
      have heffect := s.broker.leases.acquire_effect asked now ids
      rw [hacquired'] at heffect
      obtain rfl := Option.some.inj ((heffect.active_of_granted rfl).symm.trans hlease')
      obtain ⟨-, -, -, id, -, -, -, rfl⟩ := LeaseManager.acquire_eq_ok.mp hacquired'
      rfl
  refine wp_mono hacquires ?_
  rintro (error | lease) s₁ hgranted
  · intro _ h
    cases h
  rw [andThen_ok, wp_bind]
  change andThen _ _ ((s₁.broker.routes.beginControl lease.generation).2.mapError _)
    { s₁ with broker := { s₁.broker with
      routes := (s₁.broker.routes.beginControl lease.generation).1 } }
  cases (s₁.broker.routes.beginControl lease.generation).2 with
  | error e =>
    intro _ h
    cases h
  | ok _ =>
    rintro _ ⟨⟩
    exact hgranted lease rfl

/-- New proxies pace themselves by the acquisition of their lease. -/
theorem connect_kept {configuration : PrivilegedPeerConfiguration}
    {parse : String → Option Bytes} {context : ProxySessionContext} {generation : Nat}
    {ids : Except LeaseError Bytes16} {session : HostBrokerSession} {p : PeerProxy}
    {accepted created : Nat} (horder : accepted ≤ created)
    (h : connect configuration parse context generation (c.brokerMs accepted) (c.hostMs created)
      ids session = .ok p) :
    Kept c { proxy := p, accepted } := by
  have hmono := c.hostMs_mono horder
  unfold connect at h
  split at h
  · cases h
  have hdated : ∀ response,
      (handle (acquireRequest context generation) (c.brokerMs accepted) ids
        session).1 = .ok response → _ :=
    acquire_dated (c.brokerMs accepted) ids session
  dsimp only at h
  set r := handle (acquireRequest context generation) (c.brokerMs accepted) ids
    session
  split at h
  · cases h
  · next response hresponse =>
    have hlease := hdated response hresponse
    split at h
    · simp only [create, bind_eq_ok, ensure_eq_ok, pure, Except.pure, Except.ok.injEq] at h
      obtain ⟨leaseId, -, -, -, -, hgeneration, -, -, rfl⟩ := h
      exact ⟨⟨_, rfl, hgeneration⟩, fun _ => hmono, fun _ => hlease⟩
    · cases h

/-- In every run of a connected session, with clocks of any offset and equal rate and any delays:
each renewal reaches the broker at least one renewal interval after its last accepted
acquisition or renewal, in real time and on the broker's clock; none is refused as too soon;
and each accepted one restarts the Host's own interval when its answer is back, or fails the
wire when its answer is lost.  The Host may look at its clock at any time. -/
theorem renewal_cadence (c : Clocks) (configuration : PrivilegedPeerConfiguration)
    (parse : String → Option Bytes) (context : ProxySessionContext) (generation : Nat)
    (ids : Except LeaseError Bytes16) (session : HostBrokerSession) (p : PeerProxy)
    (acquired created : Nat) (ops : List TimedOp) (horder : acquired ≤ created)
    (hconnect : connect configuration parse context generation (c.brokerMs acquired)
      (c.hostMs created) ids session = .ok p) :
    ∀ e ∈ (machine c).trace { proxy := p, accepted := acquired } ops,
      ∀ h ∈ reached e.before.proxy e.after.proxy, h.renews = true →
        ∃ times renewal, e.input.renewalAt = some (times, renewal) ∧
          e.before.accepted + renewIntervalMs * c.ticksPerMs ≤ times.renewed ∧
          h.nowMs = c.brokerMs times.renewed ∧
          (∀ lease ∈ h.session.active, lease.lastRenewedAtMs + renewIntervalMs ≤ h.nowMs) ∧
          ∃ result, h.renewal? = some result ∧ result ≠ .error .renewedTooSoon ∧
            (result.isOk = true → e.after.accepted = times.renewed ∧
              (renewal = .answered →
                e.after.proxy.wire.lastRenewedAtMs = c.hostMs times.answered) ∧
              (renewal ≠ .answered → e.after.proxy.wire.failed = true)) := by
  intro e he h hh hrenews
  have htrace := (machine c).trace_invariant (Kept c) (G := fun _ _ => True)
    (fun s op hs _ => (hs.step op).kept) (connect_kept horder hconnect)
    (Machine.guarded_true _ ops) he
  obtain ⟨hkept, -, -, heq⟩ := htrace
  have hstep := hkept.step e.input
  rw [← heq] at hstep
  obtain ⟨times, renewal, hat, hon, haccepted⟩ := hstep.onTime h hh hrenews
  obtain ⟨result, hresult, hsoon, -, hok⟩ := hon.result
  refine ⟨times, renewal, hat, hon.spaced, hon.reading, hon.cadence, result, hresult, hsoon,
    fun hisOk => ⟨haccepted ?_, (hok hisOk).1, (hok hisOk).2.1⟩⟩
  rw [hresult]
  exact hisOk

/-- Clocks with a thousand ticks to the millisecond; the Host's starts when its wire is built. -/
def sampleClocks : Clocks :=
  { ticksPerMs := 1000, positive := by decide, hostStart := 950, hostOffset := 50000
    brokerOffset := 1000000 }

/-- A poll that is due for a renewal, which takes a tenth of a millisecond each way. -/
def samplePoll : TimedOp :=
  .poll { asked := 5250950, renewed := 5251050, answered := 5251150, handled := 5251250
          renewed_of_asked := by decide, answered_of_renewed := by decide } .answered true

theorem renewal_cadence_sample : ∃ p, sampleProxy [.viewScreen, .controlInput] = .ok p ∧
    ∃ e ∈ (machine sampleClocks).trace { proxy := p, accepted := 900 } [samplePoll],
      ∃ h ∈ reached e.before.proxy e.after.proxy, h.renews = true ∧
        900 + renewIntervalMs * 1000 ≤ 5251050 ∧ h.nowMs = 6251 ∧ e.after.accepted = 5251050 ∧
        e.after.proxy.wire.lastRenewedAtMs = 5300 := by
  have hconnect : connect ⟨1, []⟩ (fun _ => some (replicate 32 2))
      (samplePhone [.viewScreen, .controlInput]) 3 (sampleClocks.brokerMs 900)
      (sampleClocks.hostMs 950) (.ok sampleLeaseId)
      (new sampleBroker sampleAnsweringHelper) = .ok _ := rfl
  have hcadence := renewal_cadence sampleClocks _ _ _ _ _ _ _ 900 950 [samplePoll] (by decide)
    hconnect _ mem_cons_self _ mem_cons_self rfl
  obtain ⟨times, renewal, hat, hspaced, hreading, -, result, hresult, -, haccepted⟩ := hcadence
  cases hat
  cases hresult
  obtain ⟨hafter, htimer, -⟩ := haccepted rfl
  exact ⟨_, rfl, _, mem_cons_self, _, mem_cons_self, rfl, hspaced, hreading, hafter,
    htimer rfl⟩

end TimedProxy

end PeerProxy

end Bridge

end Roammand
