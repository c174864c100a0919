import Roammand.Bridge.BrokerMediation
import Roammand.Bridge.PeerProxy
import Roammand.Host.Pairing

/-!
# Privileged bridge: the names of controllers

The name that a controller chose when it was paired travels with its sessions to the
broker.  It is checked when the controller is granted access, when the Host prepares the
bridge, when a request for a lease or for a peer is framed, and when the lease is granted.

Main results:

- Theorem `PeerProxy.connect_isOk_iff`: when the Host gets its proxies.
- Theorem `controller_name_agreement`: in every registry that the Host can come to have, the
  bridge accepts the name of a controller exactly if it is not empty and has no control
  character.
-/

namespace Roammand

namespace Bridge

open Library Protocol Fallible Host.AuthorizationRegistry Host.SampleExchange ProxySessionContext

/-! ## The checks -/

variable (name : String)

/-- A name that is not empty and has no control character. -/
def PlainName : Prop := name ≠ "" ∧ name.toList.any isControlChar = false

theorem validateControllerName_eq_ok {name : String} :
    validateControllerName name = .ok () ↔
      PlainName name ∧ (utf8 name).length ≤ maxDeviceNameUtf8Bytes := by
  rw [length_utf8]
  unfold validateControllerName PlainName
  constructor
  · intro h
    split_ifs at h with hrefused
    push Not at hrefused
    obtain ⟨hempty, hlength, hcontrol⟩ := hrefused
    exact ⟨⟨by simpa using hempty, by simpa using hcontrol⟩, hlength⟩
  · rintro ⟨⟨hempty, hcontrol⟩, hlength⟩
    rw [if_neg]
    rintro (h | h | h)
    · exact hempty (by simpa using h)
    · exact absurd hlength (Nat.not_le.mpr h)
    · rw [hcontrol] at h
      cases h

theorem validateControllerDisplayName_eq_ok {name : String} :
    validateControllerDisplayName name = .ok () ↔
      PlainName name ∧ (utf8 name).length ≤ maxDeviceNameUtf8Bytes := by
  unfold validateControllerDisplayName PlainName
  rw [ensure_eq_ok]
  constructor
  · rintro ⟨hempty, hlength, hcontrol⟩
    exact ⟨⟨hempty, by simpa using hcontrol⟩, hlength⟩
  · rintro ⟨⟨hempty, hcontrol⟩, hlength⟩
    exact ⟨hempty, hlength, by rw [hcontrol]; exact Bool.false_ne_true⟩

theorem validateNonemptyUtf8Length_eq_ok {value : String} {maximum : Nat} :
    validateNonemptyUtf8Length value maximum = .ok () ↔
      value ≠ "" ∧ (utf8 value).length ≤ maximum := by
  unfold validateNonemptyUtf8Length validateUtf8Length
  simp only [bind_eq_ok, ensure_eq_ok, exists_const]

/-! ## Getting a lease -/

namespace HostBrokerSession

/-- When a request for a lease succeeds. -/
theorem acquire_isOk_iff {request : PrivilegedBridgeClientFrame}
    {value : AcquirePrivilegedLeaseRequest} {now : Nat} {ids : Except LeaseError Bytes16}
    {s : HostBrokerSession} {response : PrivilegedBridgeServerFrame} :
    (acquire request value now ids s).1 = .ok response ↔
      ∃ sessionId lease, bytes16? value.sessionId = some sessionId ∧
        (s.broker.leases.acquire
          { sessionId
            generation := value.generation
            controllerDisplayName := value.controllerDisplayName
            mayControlInput := value.permissions.contains SessionPermission.controlInput.toInt32 }
          now ids).2 = .ok lease ∧
        s.broker.routes.Serves lease.generation ∧
        response = leaseResponse request lease value.permissions := by
  change wp (acquire request value now ids) (fun result _ => result = .ok response ↔ _) s
  unfold acquire
  simp only [wp_bind, wp_orThrow]
  refine ⟨fun sessionId hsession => ?_, fun hnone => ?_⟩
  · rw [andThen_ok, wp_bind]
    unfold wp
    rcases callBroker_cases (·.acquire
      { sessionId
        generation := value.generation
        controllerDisplayName := value.controllerDisplayName
        mayControlInput := value.permissions.contains SessionPermission.controlInput.toInt32 }
      now ids) s with ⟨e, hacquired, hresult⟩ | ⟨lease, hacquired, hresult⟩
    · rw [hresult, andThen_error]
      constructor
      · intro h
        cases h
      · rintro ⟨sessionId', lease, hsession', hlease, -⟩
        cases hsession.symm.trans hsession'
        cases hacquired.symm.trans hlease
    · rw [hresult, andThen_ok]
      rw [wp_bind]
      change andThen _ _ ((s.broker.routes.beginControl lease.generation).2.mapError _) _
      rw [SessionStateMachine.beginControl_eq]
      by_cases hserves : s.broker.routes.Serves lease.generation
      · rw [if_pos hserves]
        change (Except.ok (leaseResponse request lease value.permissions) = Except.ok response ↔ _)
        rw [Except.ok.injEq]
        constructor
        · rintro rfl
          exact ⟨sessionId, lease, hsession, hacquired, hserves, rfl⟩
        · rintro ⟨sessionId', lease', hsession', hlease, -, rfl⟩
          cases hsession.symm.trans hsession'
          cases hacquired.symm.trans hlease
          rfl
      · rw [if_neg hserves]
        constructor
        · intro h
          cases h
        · rintro ⟨sessionId', lease', hsession', hlease, hserves', -⟩
          cases hsession.symm.trans hsession'
          cases hacquired.symm.trans hlease
          exact absurd hserves' hserves
  · constructor
    · intro h
      cases h
    · rintro ⟨sessionId, lease, hsession, -⟩
      cases hnone.symm.trans hsession

end HostBrokerSession

/-- What the Host asks of the lease manager for a session. -/
def asked (context : ProxySessionContext) (generation : Nat) (sessionId : Bytes16) :
    AcquireLease :=
  { sessionId
    generation
    controllerDisplayName := context.controllerDisplayName
    mayControlInput :=
      context.wirePermissions.contains SessionPermission.controlInput.toInt32 }

namespace PeerProxy

/-- When the Host gets its proxies. -/
theorem connect_isOk_iff {configuration : PrivilegedPeerConfiguration}
    {parse : String → Option Bytes} {context : ProxySessionContext} {generation now clock : Nat}
    {ids : Except LeaseError Bytes16} {session : HostBrokerSession} :
    (∃ p, connect configuration parse context generation now clock ids session = .ok p) ↔
      validatePrivilegedBridgeClientFrame (acquireRequest context generation) = .ok () ∧
      (∃ sessionId lease, bytes16? context.sessionId = some sessionId ∧
        (session.broker.leases.acquire (asked context generation sessionId) now ids).2 =
          .ok lease) ∧
      session.broker.routes.Serves generation ∧ generation ≠ 0 ∧
      validateControllerDisplayName context.controllerDisplayName = .ok () := by
  have hacquire : ∀ response,
      (HostBrokerSession.handle (acquireRequest context generation) now ids session).1 =
        .ok response ↔ _ :=
    fun response => HostBrokerSession.acquire_isOk_iff
  constructor
  · rintro ⟨p, h⟩
    unfold connect at h
    split at h
    · cases h
    next hframe =>
    dsimp only at h
    split at h
    · cases h
    next response hresponse =>
    obtain ⟨sessionId, lease, hsession, hlease, hserves, rfl⟩ := (hacquire response).mp hresponse
    obtain ⟨-, -, -, id, -, -, -, hgranted⟩ := LeaseManager.acquire_eq_ok.mp hlease
    have hid : bytes16? lease.id.toList = some lease.id := bytes16?_eq_some.mpr rfl
    simp only [HostBrokerSession.leaseResponse, HostBrokerSession.responseFrame, hid, okOr,
      create, bind_eq_ok, ensure_eq_ok, pure, Except.pure, Except.ok.injEq] at h
    obtain ⟨_, rfl, _, ⟨hgeneration, -⟩, _, hpositive, _, hname, -⟩ := h
    rw [hgeneration] at hserves hpositive
    exact ⟨hframe, ⟨sessionId, lease, hsession, hlease⟩, hserves, hpositive, hname⟩
  · rintro ⟨hframe, ⟨sessionId, lease, hsession, hlease⟩, hserves, hpositive, hname⟩
    have hlease' := hlease
    obtain ⟨-, -, -, id, -, -, -, rfl⟩ := LeaseManager.acquire_eq_ok.mp hlease
    have hresponse := (hacquire _).mpr ⟨sessionId, _, hsession, hlease', hserves, rfl⟩
    have hid : bytes16? id.toList = some id := bytes16?_eq_some.mpr rfl
    unfold connect
    simp only [hframe, hresponse]
    simp only [HostBrokerSession.leaseResponse, HostBrokerSession.responseFrame, hid, okOr,
      create, bind_eq_ok, ensure_eq_ok, pure, Except.pure, Except.ok.injEq]
    refine ⟨_, id, rfl, (), ⟨rfl, ?_, trivial, rfl⟩, (), hpositive, (), hname, rfl⟩
    exact (bytes16?_eq_some.mp hsession).symm

end PeerProxy

/-! ## Names that the bridge accepts -/

/-- No check of the bridge refuses the name: what is accepted under any other name is
accepted under this one. -/
structure NameAccepted (name : String) : Prop where
  context : ∀ sessionId permissions other context,
    new sessionId permissions other = .ok context →
      ∃ context', new sessionId permissions name = .ok context'
  leaseRequest : ∀ (context : ProxySessionContext) generation,
    validatePrivilegedBridgeClientFrame (acquireRequest context generation) = .ok () →
      validatePrivilegedBridgeClientFrame
        (acquireRequest { context with controllerDisplayName := name } generation) = .ok ()
  lease : ∀ (m : LeaseManager) (request : AcquireLease) now ids granted,
    (m.acquire request now ids).2 = .ok granted →
      ∃ granted', (m.acquire { request with controllerDisplayName := name } now ids).2 =
        .ok granted'
  wire : ∀ other, validateControllerDisplayName other = .ok () →
    validateControllerDisplayName name = .ok ()
  peerRequest : ∀ (frame : PrivilegedBridgeClientFrame) payload value,
    payload = PrivilegedClientPayload.startPeer ∨ payload = .restartPeer →
    validatePrivilegedBridgeClientFrame { frame with payload := some (payload value) } = .ok () →
      validatePrivilegedBridgeClientFrame { frame with
        payload := some (payload { value with controllerDisplayName := name }) } = .ok ()
  session : ∀ configuration parse (context : ProxySessionContext) generation now clock ids broker p,
    PeerProxy.connect configuration parse context generation now clock ids broker = .ok p →
      ∃ p', PeerProxy.connect configuration parse { context with controllerDisplayName := name }
        generation now clock ids broker = .ok p'

theorem ProxySessionContext.new_eq_ok {sessionId : Bytes} {permissions : List SessionPermission}
    {name : String} {context : ProxySessionContext} :
    new sessionId permissions name = .ok context ↔
      (sessionId.length = sessionIdBytes ∧ permissions ≠ [] ∧ permissions.Nodup ∧
        .unspecified ∉ permissions ∧ name ≠ "" ∧
        (utf8 name).length ≤ maxDeviceNameUtf8Bytes) ∧
      context = ⟨sessionId, permissions, name⟩ := by
  unfold new
  simp only [bind_eq_ok, ensure_eq_ok, exists_const, pure, Except.pure, Except.ok.injEq,
    eq_comm (a := context)]

/-- The name decides about a request for a lease by its length only. -/
theorem validate_acquireRequest_rename {context : ProxySessionContext} {generation : Nat}
    {name : String} (hplain : name ≠ "")
    (hlength : (utf8 name).length ≤ maxDeviceNameUtf8Bytes)
    (h : validatePrivilegedBridgeClientFrame (acquireRequest context generation) = .ok ()) :
    validatePrivilegedBridgeClientFrame
      (acquireRequest { context with controllerDisplayName := name } generation) = .ok () := by
  simp only [validatePrivilegedBridgeClientFrame, acquireRequest, okOr_eq_ok, bind_eq_ok,
    validatePrivilegedBridgeClientPayload, Option.some.injEq, exists_eq_left',
    validateNonemptyUtf8Length_eq_ok] at h ⊢
  obtain ⟨u, hversion, v, hid, w, hsequence, x, hsession, y, hgeneration, z, hpermissions, -⟩ := h
  exact ⟨u, hversion, v, hid, w, hsequence, x, hsession, y, hgeneration, z, hpermissions, hplain,
    hlength⟩

/-- The same for a request for a peer. -/
theorem validate_peerRequest_rename {value : PrivilegedPeerRequest} {name : String}
    (hplain : name ≠ "") (hlength : (utf8 name).length ≤ maxDeviceNameUtf8Bytes)
    (h : validatePrivilegedPeerRequest value = .ok ()) :
    validatePrivilegedPeerRequest { value with controllerDisplayName := name } = .ok () := by
  have hname := validateNonemptyUtf8Length_eq_ok.mpr ⟨hplain, hlength⟩
  simp only [validatePrivilegedPeerRequest, bind_eq_ok, okOr_eq_ok] at h ⊢
  obtain ⟨u, href, configuration, hconfiguration, v, hvalid, _, -, offer⟩ := h
  exact ⟨u, href, configuration, hconfiguration, v, hvalid, (), hname, offer⟩

/-- A lease is granted under any plain name that is short enough. -/
theorem LeaseManager.acquire_rename {m : LeaseManager} {request : AcquireLease} {now : Nat}
    {ids : Except LeaseError Bytes16} {granted : Lease} {name : String}
    (hname : validateControllerName name = .ok ())
    (h : (m.acquire request now ids).2 = .ok granted) :
    ∃ granted', (m.acquire { request with controllerDisplayName := name } now ids).2 =
      .ok granted' := by
  obtain ⟨hhost, hactive, -, id, hids, hid, hmax, -⟩ := acquire_eq_ok.mp h
  exact ⟨_, acquire_eq_ok.mpr ⟨hhost, hactive, hname, id, hids, hid, hmax, rfl⟩⟩

/-- The bridge accepts a name that fits exactly if it is plain. -/
theorem nameAccepted_iff {name : String} (hlength : (utf8 name).length ≤ maxDeviceNameUtf8Bytes) :
    NameAccepted name ↔ PlainName name := by
  constructor
  · intro h
    have hother : validateControllerDisplayName "a" = .ok () := by decide
    exact (validateControllerDisplayName_eq_ok.mp (h.wire "a" hother)).1
  · intro hplain
    have hcontroller := validateControllerName_eq_ok.mpr ⟨hplain, hlength⟩
    have hwire := validateControllerDisplayName_eq_ok.mpr ⟨hplain, hlength⟩
    refine ⟨?_, ?_, ?_, fun _ _ => hwire, ?_, ?_⟩
    · intro sessionId permissions other context h
      obtain ⟨⟨hsession, hsome, hnodup, hspecified, -⟩, -⟩ := new_eq_ok.mp h
      exact ⟨_, new_eq_ok.mpr ⟨⟨hsession, hsome, hnodup, hspecified, hplain.1, hlength⟩, rfl⟩⟩
    · intro context generation h
      exact validate_acquireRequest_rename hplain.1 hlength h
    · intro m request now ids granted h
      exact LeaseManager.acquire_rename hcontroller h
    · intro frame payload value hpayload h
      simp only [validatePrivilegedBridgeClientFrame, okOr_eq_ok, bind_eq_ok,
        Option.some.injEq, exists_eq_left'] at h ⊢
      obtain ⟨u, hversion, v, hid, w, hsequence, hvalue⟩ := h
      refine ⟨u, hversion, v, hid, w, hsequence, ?_⟩
      rcases hpayload with rfl | rfl
      · exact validate_peerRequest_rename hplain.1 hlength hvalue
      · exact validate_peerRequest_rename hplain.1 hlength hvalue
    · intro configuration parse context generation now clock ids broker p h
      obtain ⟨hframe, ⟨sessionId, granted, hsession, hgranted⟩, hserves, hpositive, -⟩ :=
        PeerProxy.connect_isOk_iff.mp ⟨p, h⟩
      obtain ⟨granted', hgranted'⟩ := LeaseManager.acquire_rename hcontroller hgranted
      exact PeerProxy.connect_isOk_iff.mpr ⟨validate_acquireRequest_rename hplain.1 hlength hframe,
        ⟨sessionId, granted', hsession, hgranted'⟩, hserves, hpositive, hwire⟩

/-- In every registry that a Host can come to have, the bridge accepts the name of a
controller that has been granted access exactly if the name is plain. -/
theorem controller_name_agreement (crypto : Crypto)
    (decode : Bytes → Option HostAuthorizationSnapshot) (faults : Host.FileFaults)
    (file : Option Bytes) (host : Bytes) (registry : Host.AuthorizationRegistry)
    (hload : load crypto decode faults file host = .ok registry)
    (ops : List Host.AuthorizationOp) (k : Bytes) (view : ControllerGrantView)
    (grant : ControllerGrant) (controller : DeviceIdentity)
    (hview : ((machine crypto decode).run ⟨registry, file⟩
      ops).registry.grantsByController[k]? = some view)
    (hgrant : view.grant = some grant) (hcontroller : grant.controller = some controller) :
    NameAccepted controller.displayName ↔ PlainName controller.displayName := by
  have hwf := run_wellFormed hload ops
  obtain ⟨grant', controller', hgrant', hcontroller', -, -, -, hvalid, -⟩ :=
    Host.validateStoredGrant_eq_ok.mp (hwf.valid k view hview)
  cases hgrant.symm.trans hgrant'
  cases hcontroller.symm.trans hcontroller'
  refine nameAccepted_iff ?_
  simp only [Host.validateController, bind_eq_ok, mapError_eq_ok] at hvalid
  obtain ⟨_, hidentity, -⟩ := hvalid
  exact (validateDeviceIdentity_eq_ok.mp hidentity).2.2.2.2

/-- The grant of a controller with a given name, as the only operation of a new Host. -/
def sampleNamedGrant : List Host.AuthorizationOp :=
  [.create { sampleController with displayName := name }
    [.viewScreen, .controlInput] 1700000000000 (fun _ => some (Vector.replicate 16 5))
    Host.noFaults]

/-- The grants of the Host after that. -/
def sampleNamedGrants : Host.GrantMap :=
  ((machine sampleCrypto HostAuthorizationSnapshot.decode).run ⟨sampleRegistry, none⟩
    (sampleNamedGrant name)).registry.grantsByController

/-- A controller with a plain name is accepted. -/
theorem controller_name_agreement_sample :
    ∃ view grant controller,
      (sampleNamedGrants "phone")[sampleController.deviceId]? =
        some view ∧ view.grant = some grant ∧ grant.controller = some controller ∧
      controller.displayName = "phone" ∧ NameAccepted controller.displayName := by
  have hload : load sampleCrypto
      HostAuthorizationSnapshot.decode Host.noFaults none sampleHostId =
        .ok sampleRegistry := by decide +kernel
  have hview : (sampleNamedGrants "phone")[sampleController.deviceId]? =
      some sampleGrantView := by decide +kernel
  refine ⟨_, _, _, hview, rfl, rfl, rfl, ?_⟩
  exact (controller_name_agreement _ _ _ _ _ _ hload (sampleNamedGrant "phone") _ _ _ _ hview rfl
    rfl).mpr ⟨by decide, by decide⟩

/-- A controller whose name has a line break is paired and granted access, and then the
bridge refuses its sessions. -/
theorem line_break_refused :
    (Host.verifyControllerHello setting.crypto
      { hello with
        identity := some { controller with displayName := "my\nphone" } }
      controller.deviceId rendezvousId.toList
      Host.sampleHostIdentity hostPrivateKey.toList
      hostEphemeral.toList).map (·.controller.displayName) =
        .ok "my\nphone" ∧
    (sampleNamedGrants "my\nphone")[sampleController.deviceId]?.any
      (fun view => view.grant.any fun grant => grant.controller.any fun controller =>
        controller.displayName = "my\nphone") = true ∧
    ¬ NameAccepted "my\nphone" := by
  refine ⟨by decide +kernel, by decide +kernel, fun h => ?_⟩
  have hwire := h.wire "phone" (by decide)
  revert hwire
  decide

end Bridge

end Roammand
