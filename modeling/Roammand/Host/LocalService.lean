import Roammand.Host.PairingSize
import Roammand.Host.Sessions

/-!
# The answers of the Host

The Host answers the requests of its local clients from its grants, its sessions, the pairing
under way and the status of the privileged bridge.  An answer that does not fit the limit of the
local frames cannot be written, and ends the connection of the client.

Main results:

- Definition `LocalService.handleFrame`: the answer to a request.
- Definition `LocalService.machine`: requests and whatever else changes the Host.
- Theorem `LocalService.handlePayload_served`: every answer but the list of grants is short.
- Theorem `LocalService.responses_fit`: which answers fit.
-/

namespace Roammand

namespace Host

open Library Protocol Protobuf Fallible AuthorizationRegistry HostPairingCoordinator Option
open HostAuthorizationSnapshot

/-! ## Signing -/

/-- A signature of a transcript with what tells who has signed it. -/
def HostIdentity.signedWith (crypto : PairingCrypto) (identity : HostIdentity)
    (canonicalTranscript signature : Bytes) : TranscriptSignature where
  deviceId := identity.deviceIdentity.deviceId
  publicKey := identity.deviceIdentity.publicKey
  signature := signature
  transcriptSha256 := (crypto.sha256 canonicalTranscript).toList

/-- A signature by this identity. -/
def HostIdentity.signed (crypto : PairingCrypto) (identity : HostIdentity)
    (canonicalTranscript : Bytes) : TranscriptSignature :=
  identity.signedWith crypto canonicalTranscript
    (crypto.sign identity.signingKey canonicalTranscript).toList

/-- Sign a transcript of an answer that names this identity as the Host. -/
def HostIdentity.signCanonicalTranscript (crypto : PairingCrypto) (identity : HostIdentity)
    (canonicalTranscript : Bytes) : Except IdentityError TranscriptSignature := do
  let decoded ← (decodeTranscript canonicalTranscript).mapError .invalidTranscript
  ensure (decoded.purpose = .sessionAnswer ∨ decoded.purpose = .sessionReconnect)
    .unsupportedTranscriptPurpose
  let transcriptHost ← okOr (decoded.fields.find? fun field => field.tag = 2)
    .hostDeviceIdMismatch
  ensure (transcriptHost.value = identity.deviceIdentity.deviceId) .hostDeviceIdMismatch
  return identity.signed crypto canonicalTranscript

/-- Sign a transcript of an offer that names this identity as the controller. -/
def HostIdentity.signSessionOffer (crypto : PairingCrypto) (identity : HostIdentity)
    (canonicalTranscript : Bytes) : Except IdentityError TranscriptSignature := do
  let decoded ← (decodeTranscript canonicalTranscript).mapError .invalidTranscript
  ensure (decoded.purpose = .sessionOffer) .unsupportedTranscriptPurpose
  let transcriptController ← okOr (decoded.fields.find? fun field => field.tag = 1)
    .controllerDeviceIdMismatch
  ensure (transcriptController.value = identity.deviceIdentity.deviceId)
    .controllerDeviceIdMismatch
  return identity.signed crypto canonicalTranscript

/-- The role of a wire value. -/
def PairingIdentityRole.ofInt32? : Int32 → Option PairingIdentityRole
  | 0 => some .unspecified
  | 1 => some .controller
  | 2 => some .host
  | _ => none

/-! ## The status of the remote session -/

/-- An error without details, as the validator sees it. -/
def reportedError (m : UnifiedError) : ReportedError where
  code := m.code.toInt32
  messageKey := m.messageKey
  retryable := m.retryable
  requestId := m.requestId
  details := none

/-- The fields of a session status fit its state. -/
def validateSessionStatus (status : SessionStatus) : Except ValidationError Unit := do
  ensure (status.sessionId = [] ∨ status.sessionId.length = sessionIdBytes) .invalidLength
  match status.state with
  | .unspecified => .error .invalidEnum
  | .idle => ensure (status.sessionId = [] ∧ status.error = none) .invalidState
  | .signaling | .authenticating | .connecting | .connected | .reconnecting | .closing => do
    validateLength status.sessionId sessionIdBytes
    ensure (status.error = none) .invalidState
  | .failed => do
    validateLength status.sessionId sessionIdBytes
    let error ← okOr status.error .invalidState
    validateUnifiedError (reportedError error)

/-- A session is shown with its controller, and an idle one without. -/
def validateRemoteSessionStatusSnapshot (snapshot : RemoteSessionStatusSnapshot) :
    Except ValidationError Unit := do
  let status ← okOr snapshot.sessionStatus .missingPayload
  validateSessionStatus status
  if status.state = .idle then ensure (snapshot.controllerDeviceId = []) .invalidState
  else validateLength snapshot.controllerDeviceId deviceIdBytes

/-- The status without a session. -/
def idleRemoteStatus : RemoteSessionStatusSnapshot where
  sessionStatus := some { sessionId := [], state := .idle, error := none }
  controllerDeviceId := []

/-! ## Errors of requests -/

/-- Why a request is not answered as asked. -/
inductive ServiceError where
  | invalidRequest
  | authorization (error : AuthorizationError)
  | identity
  | pairing (error : PairingCoordinatorError)
  | session
  | internal

/-- The code, the key of the message and whether to try again. -/
def ServiceError.shown : ServiceError → ErrorCode × String × Bool
  | .invalidRequest => (.invalidRequest, "local_ipc.invalid_request", false)
  | .authorization .grantNotFound => (.authRevoked, "local_ipc.grant_not_found", false)
  | .authorization (.store _) | .internal | .pairing (.authorization (.store _))
  | .pairing .random => (.serverUnavailable, "local_ipc.temporarily_unavailable", true)
  | .authorization _ => (.invalidRequest, "local_ipc.invalid_grant", false)
  | .identity => (.authInvalid, "local_ipc.invalid_transcript", false)
  | .pairing .expired => (.pairingCodeExpired, "local_ipc.pairing_expired", false)
  | .pairing .authentication =>
    (.authInvalid, "local_ipc.pairing_authentication_failed", false)
  | .pairing _ => (.invalidRequest, "local_ipc.invalid_pairing_state", false)
  | .session => (.invalidRequest, "local_ipc.invalid_session", false)

/-- The error as it is answered. -/
def ServiceError.toUnifiedError (requestId : String) (error : ServiceError) : UnifiedError where
  code := error.shown.1
  messageKey := error.shown.2.1
  retryable := error.shown.2.2
  requestId := requestId

/-! ## The Host -/

/-- The surroundings of the Host. -/
structure ServiceSetting where
  crypto : PairingCrypto
  /-- the identity, which has been checked when it was loaded -/
  identity : HostIdentity
  validIdentity : validateDeviceIdentity identity.deviceIdentity = .ok ()
  /-- whether the address of a service is well formed -/
  acceptsUrl : String → Bool
  instanceId : Vector UInt8 16
  startedAtUnixMs : UInt64
  /-- the session of the desktop that the bridge has to belong to -/
  osSessionId : Nat

namespace ServiceSetting

/-- The check of an endpoint. -/
def validateSignalingEndpoint (setting : ServiceSetting) (endpoint : String) : Bool :=
  decide ((utf8 endpoint).length ≤ maxSignalingEndpointUtf8Bytes) && setting.acceptsUrl endpoint

/-- The surroundings of the coordinator. -/
def pairing (setting : ServiceSetting) : PairingHost.Setting where
  crypto := setting.crypto
  signingIdentity := setting.identity
  validEndpoint := setting.validateSignalingEndpoint

end ServiceSetting

/-- What the Host keeps. -/
structure LocalService where
  pairing : PairingHost
  sessions : SessionRegistry
  remoteStatus : RemoteSessionStatusSnapshot
  bridge : BridgeStatusStore

/-- The time of a request and whatever it meets: the random draws and the failures of the file
system. -/
structure RequestInput where
  nowUnixMs : UInt64
  draws : PairingDraws
  random : Nat → Option (Vector UInt8 16)
  faults : FileFaults

namespace LocalService

/-- An operation of the Host. -/
abbrev Operation := Fallible LocalService ServiceError

/-- The grants of the Host. -/
def registry (s : LocalService) : AuthorizationRegistry := s.pairing.authorization.registry

/-- An operation of the pairing. -/
def onPairing {α : Type} (m : PairingHost.Operation α) : Operation α :=
  zoom LocalService.pairing (fun s pairing => { s with pairing }) (mapError .pairing m)

/-- An operation on the grants and their file. -/
def onAuthorization
    (f : AuthorizationRegistry → Option Bytes →
      (AuthorizationRegistry × Option Bytes) × Except AuthorizationError ControllerGrantView) :
    Operation ControllerGrantView := fun s =>
  let result := f s.registry s.pairing.authorization.file
  (result.2.mapError .authorization,
    { s with pairing := { s.pairing with
      authorization := { registry := result.1.1, file := result.1.2 } } })

/-- A count in 32 bits. -/
def u32OfCount (count : Nat) : Operation UInt32 :=
  orThrow (if count ≤ u32Max then some (UInt32.ofNat count) else none) .internal

/-- The current view of the pairing. -/
def pairingStatusPayload : Operation LocalIpcServerPayload := do
  let s ← get
  return .hostPairingStatus s.pairing.pairing.status

/-- The view of the Host. -/
def hostStatus (setting : ServiceSetting) : Operation LocalIpcServerPayload := do
  let s ← get
  let controllerGrantCount ← u32OfCount s.registry.listControllerGrants.length
  return .hostStatus
    { identity := some setting.identity.deviceIdentity
      agentInstanceId := setting.instanceId.toList
      agentStartedAtUnixMs := setting.startedAtUnixMs
      controllerGrantCount
      privilegedBridge := some s.bridge.status }

/-- End all sessions and release the desktop. -/
def emergencyStop : Operation LocalIpcServerPayload := do
  let s ← get
  let terminated := s.sessions.terminateAll .localEmergencyStop
  modify fun s => { s with sessions := terminated.1, remoteStatus := idleRemoteStatus
                           bridge := s.bridge.emergencyStop }
  let terminatedSessionCount ← u32OfCount terminated.2.length
  return .emergencyStopRemoteSessionResult terminatedSessionCount

/-- Remove a grant and end the sessions of its controller. -/
def revoke (setting : ServiceSetting) (input : RequestInput) (grantId : Bytes) :
    Operation LocalIpcServerPayload := do
  let revoked ← onAuthorization fun r file =>
    r.revokeControllerGrant setting.crypto.toCrypto input.faults file grantId
  let controllerDeviceId ← orThrow ((revoked.grant.bind (·.controller)).map (·.deviceId)) .internal
  let s ← get
  let terminated := s.sessions.terminateController controllerDeviceId
  modify fun s => { s with sessions := terminated.1 }
  let terminatedSessionCount ← u32OfCount terminated.2.length
  return .controllerGrantRevoked grantId terminatedSessionCount

/-- Start a pairing and show it. -/
def startHostPairing (setting : ServiceSetting) (input : RequestInput)
    (kind : PairingInvitationKind) (signalingEndpoint : String) :
    Operation LocalIpcServerPayload := do
  let status ← onPairing (PairingHost.onPairing (start setting.crypto
    setting.validateSignalingEndpoint kind signalingEndpoint input.nowUnixMs input.draws))
  return .hostPairingStatus status

/-- The requests about the pairing. -/
def handlePairingPayload (setting : ServiceSetting) (input : RequestInput) :
    LocalIpcClientPayload → Operation LocalIpcServerPayload
  | .startHostQrPairing signalingEndpoint =>
    startHostPairing setting input .qr signalingEndpoint
  | .startHostDesktopCodePairing signalingEndpoint =>
    startHostPairing setting input .desktopCode signalingEndpoint
  | .cancelHostPairing rendezvousId => do
    onPairing (PairingHost.onPairing (cancel rendezvousId))
    pairingStatusPayload
  | .getHostPairingStatus => do
    onPairing (PairingHost.onPairing (modify (tick input.nowUnixMs)))
    pairingStatusPayload
  | .acceptHostPairing rendezvousId controllerDeviceId => do
    onPairing (PairingHost.accept setting.crypto rendezvousId controllerDeviceId
      input.nowUnixMs input.faults input.random)
    pairingStatusPayload
  | .rejectHostPairing rendezvousId controllerDeviceId => do
    onPairing (PairingHost.onPairing (reject setting.crypto
      rendezvousId controllerDeviceId input.nowUnixMs))
    pairingStatusPayload
  | _ => throw .invalidRequest

/-- Grant a controller access on request. -/
def createControllerGrant (setting : ServiceSetting) (input : RequestInput)
    (controller : Option DeviceIdentity) (permissions : List Int32) :
    Operation LocalIpcServerPayload := do
  let controller ← orThrow controller .invalidRequest
  let permissions ← orThrow (permissions.mapM SessionPermission.ofInt32?) .invalidRequest
  let grant ← onAuthorization fun r file =>
    r.createControllerGrant setting.crypto.toCrypto input.faults file controller permissions
      input.nowUnixMs input.random
  return .controllerGrantCreated (some grant)

/-- Answer a request. -/
def handlePayload (setting : ServiceSetting) (input : RequestInput) :
    LocalIpcClientPayload → Operation LocalIpcServerPayload
  | .authenticate _ _ => throw .invalidRequest
  | .getHostStatus => hostStatus setting
  | .listControllerGrants => do
    let s ← get
    return .controllerGrantList s.registry.listControllerGrants
  | .createControllerGrant controller permissions =>
    createControllerGrant setting input controller permissions
  | .signCanonicalTranscript canonicalTranscript => do
    let signature ← ofResult ((setting.identity.signCanonicalTranscript setting.crypto
      canonicalTranscript).mapError fun _ => .identity)
    return .canonicalTranscriptSignature signature
  | .revokeControllerGrant grantId => revoke setting input grantId
  | .signSessionOffer canonicalTranscript => do
    let signature ← ofResult ((setting.identity.signSessionOffer setting.crypto
      canonicalTranscript).mapError fun _ => .identity)
    return .sessionOfferSignature signature
  | .getRemoteSessionStatus => do
    let s ← get
    return .remoteSessionStatus s.remoteStatus
  | .signPairingTranscript canonicalTranscript role => do
    let checked ← orThrow (PairingIdentityRole.ofInt32? role) .invalidRequest
    let signature ← ofResult ((setting.identity.signPairingTranscript setting.crypto
      canonicalTranscript checked).mapError fun _ => .identity)
    return .pairingTranscriptSignature role
      (setting.identity.signedWith setting.crypto canonicalTranscript signature)
  | .emergencyStopRemoteSession => emergencyStop
  | payload => handlePairingPayload setting input payload

/-- Answer the frame of a request. -/
def handleFrame (setting : ServiceSetting) (input : RequestInput) (frame : LocalIpcClientFrame)
    (s : LocalService) : LocalIpcServerFrame × LocalService :=
  let result := (do
    let payload ← orThrow frame.payload .invalidRequest
    handlePayload setting input payload : Operation LocalIpcServerPayload) s
  ({ protocolVersion := some answerVersion
     requestId := frame.requestId
     payload := some (match result.1 with
      | .ok payload => payload
      | .error error => .error (error.toUnifiedError frame.requestId)) },
    result.2)

/-! ## Runs -/

/-- Show a status of the remote session, if it is valid. -/
def updateRemoteStatus (snapshot : RemoteSessionStatusSnapshot) (s : LocalService) :
    LocalService :=
  match validateRemoteSessionStatusSnapshot snapshot with
  | .ok _ => { s with remoteStatus := snapshot }
  | .error _ => s

/-- What the Host asks of the status of a bridge that it connects to. -/
def acceptsProbe (setting : ServiceSetting) (status : PrivilegedBridgeStatusSnapshot) : Bool :=
  status.state = PrivilegedBridgeState.ready.toInt32 && status.helperConnected &&
    match status.interactiveSession with
    | none => false
    | some session => session.osSessionId = setting.osSessionId && session.generation ≠ 0

/-- Show the status of a bridge that has been connected. -/
def probeBridge (setting : ServiceSetting) (status : PrivilegedBridgeStatusSnapshot)
    (s : LocalService) : LocalService :=
  if acceptsProbe setting status then
    { s with bridge := (s.bridge.update s.registry status none).1 }
  else s

/-- What can happen to the Host. -/
inductive ServiceAction where
  | request (input : RequestInput) (frame : LocalIpcClientFrame)
  | pairing (action : PairingAction)
  | grantForMaintenance (input : RequestInput) (controller : DeviceIdentity)
      (permissions : List SessionPermission)
  | recordAuthenticated (input : RequestInput) (controllerDeviceId : Bytes)
  | registerSession (session : RemoteSession)
  | unregisterSession (sessionId : Bytes)
  | updateRemoteStatus (snapshot : RemoteSessionStatusSnapshot)
  | probeBridge (status : PrivilegedBridgeStatusSnapshot)

/-- One action. -/
def step (setting : ServiceSetting) (s : LocalService) : ServiceAction → LocalService
  | .request input frame => (handleFrame setting input frame s).2
  | .pairing action => { s with pairing := (PairingHost.step setting.pairing s.pairing action).1 }
  | .grantForMaintenance input controller permissions =>
    (onAuthorization (fun r file => r.createControllerGrant setting.crypto.toCrypto input.faults
      file controller permissions input.nowUnixMs input.random) s).2
  | .recordAuthenticated input controllerDeviceId =>
    (onAuthorization (fun r file => r.recordAuthenticatedSession setting.crypto.toCrypto
      input.faults file controllerDeviceId input.nowUnixMs) s).2
  | .registerSession session =>
    match s.sessions.register session with
    | .ok sessions => { s with sessions }
    | .error _ => s
  | .unregisterSession sessionId => { s with sessions := (s.sessions.unregister sessionId).1 }
  | .updateRemoteStatus snapshot => updateRemoteStatus snapshot s
  | .probeBridge status => probeBridge setting status s

/-- The Host as a machine. -/
def machine (setting : ServiceSetting) : Machine LocalService ServiceAction Unit where
  step s a := (step setting s a, ())

/-- A new Host with the grants it has loaded. -/
def new (setting : ServiceSetting) (authorization : AuthorizationState) : LocalService where
  pairing :=
    { pairing := fromValidatedHost setting.identity.deviceIdentity
      authorization }
  sessions := ∅
  remoteStatus := idleRemoteStatus
  bridge := BridgeStatusStore.new

/-! ## What is always true of the Host -/

/-- The pairing and the grants are sound, and what is shown of the session and of the bridge is
short. -/
structure Sound (setting : ServiceSetting) (s : LocalService) : Prop where
  pairing : s.pairing.Bounded setting.crypto.toCrypto
  remote : (encodeFields s.remoteStatus.fields).length ≤ 500
  bridge : (encodeFields (bridgeStatusFields s.bridge.status)).length ≤ 300

variable {setting : ServiceSetting} {s : LocalService}

theorem length_validEndpoint_le (endpoint : String)
    (h : setting.pairing.validEndpoint endpoint = true) :
    (utf8 endpoint).length ≤ maxSignalingEndpointUtf8Bytes :=
  of_decide_eq_true (Bool.and_eq_true_iff.mp h).1

/-- A status that is accepted is short. -/
theorem length_remoteStatus_of_valid {snapshot : RemoteSessionStatusSnapshot}
    (h : validateRemoteSessionStatusSnapshot snapshot = .ok ()) :
    (encodeFields snapshot.fields).length ≤ 500 := by
  unfold validateRemoteSessionStatusSnapshot at h
  obtain ⟨status, hsome, h⟩ := bind_eq_ok.mp h
  obtain ⟨_, hstatus, hcontroller⟩ := bind_eq_ok.mp h
  rw [okOr_eq_ok] at hsome
  refine length_remoteStatus_le (fun other hother => ?_) ?_
  · obtain rfl : status = other := some.inj (hsome.symm.trans hother)
    unfold validateSessionStatus at hstatus
    obtain ⟨_, hlength, hstate⟩ := bind_eq_ok.mp hstatus
    rw [ensure_eq_ok] at hlength
    refine ⟨?_, fun error herror => ?_⟩
    · rcases hlength with hnil | hlength
      · rw [hnil]
        exact Nat.zero_le _
      · exact le_of_eq hlength
    · cases hs : status.state with
      | failed =>
        rw [hs] at hstate
        obtain ⟨_, -, hstate⟩ := bind_eq_ok.mp hstate
        obtain ⟨checked, hchecked, hvalid⟩ := bind_eq_ok.mp hstate
        rw [okOr_eq_ok] at hchecked
        obtain rfl : checked = error := some.inj (hchecked.symm.trans herror)
        unfold validateUnifiedError at hvalid
        obtain ⟨_, -, hvalid⟩ := bind_eq_ok.mp hvalid
        obtain ⟨_, hkey, hvalid⟩ := bind_eq_ok.mp hvalid
        obtain ⟨_, hid, -⟩ := bind_eq_ok.mp hvalid
        have hkey' : (utf8 checked.messageKey).length ≤ 128 := ensure_eq_ok.mp hkey
        have hid' : (utf8 checked.requestId).length ≤ 64 := ensure_eq_ok.mp hid
        omega
      | unspecified =>
        rw [hs] at hstate
        cases hstate
      | idle =>
        rw [hs] at hstate
        rw [(ensure_eq_ok.mp hstate).2] at herror
        cases herror
      | signaling | authenticating | connecting | connected | reconnecting | closing =>
        rw [hs] at hstate
        obtain ⟨_, -, hnone⟩ := bind_eq_ok.mp hstate
        rw [ensure_eq_ok.mp hnone] at herror
        cases herror
  · split_ifs at hcontroller
    · rw [ensure_eq_ok.mp hcontroller]
      exact Nat.zero_le _
    · exact le_of_eq (ensure_eq_ok.mp hcontroller)

/-- The status without a session is short. -/
theorem length_idleRemoteStatus_le : (encodeFields idleRemoteStatus.fields).length ≤ 500 :=
  length_remoteStatus_of_valid rfl

/-- The status of a bridge that has been probed is short. -/
theorem length_bridge_of_probe {status : PrivilegedBridgeStatusSnapshot} {store : BridgeStatusStore}
    {r : AuthorizationRegistry} (haccepts : acceptsProbe setting status = true)
    (hstore : (encodeFields (bridgeStatusFields store.status)).length ≤ 300) :
    (encodeFields (bridgeStatusFields (store.update r status none).1.status)).length ≤ 300 := by
  rcases store.update_cases r status none with ⟨e, heq⟩ | ⟨next, hresolve, -, heq⟩
  · rw [heq]
    exact hstore
  · rw [heq]
    obtain ⟨hvalid, hnamed⟩ := BridgeStatusStore.resolve_eq_ok hresolve
    have hstate : next.state = PrivilegedBridgeState.ready.toInt32 := by
      unfold acceptsProbe at haccepts
      rw [Bool.and_eq_true, Bool.and_eq_true, decide_eq_true_eq] at haccepts
      rcases hnamed with ⟨-, _, _, hid, -⟩ | ⟨-, -, -, rfl⟩
      · cases hid
      · exact haccepts.1.1
    unfold validatePrivilegedBridgeStatusSnapshot at hvalid
    obtain ⟨state, hknown, hvalid⟩ := bind_eq_ok.mp hvalid
    obtain ⟨_, -, hvalid⟩ := bind_eq_ok.mp hvalid
    obtain ⟨_, hname, hvalid⟩ := bind_eq_ok.mp hvalid
    have hready : state = .ready := by
      rw [okOr_eq_ok, hstate] at hknown
      exact (some.inj hknown).symm
    subst hready
    obtain ⟨_, -, hvalid⟩ := bind_eq_ok.mp hvalid
    obtain ⟨_, -, hvalid⟩ := bind_eq_ok.mp hvalid
    exact length_bridgeStatus_le (ensure_eq_ok.mp hname) (ensure_eq_ok.mp hvalid).2.2

/-- The status after an emergency stop is short. -/
theorem length_bridge_of_stop (store : BridgeStatusStore) :
    (encodeFields (bridgeStatusFields store.emergencyStop.status)).length ≤ 300 := by
  unfold BridgeStatusStore.emergencyStop
  split_ifs
  · exact length_bridgeStatus_le (Nat.zero_le _) rfl
  · exact length_bridgeStatus_le (Nat.zero_le _) rfl

variable {α : Type}

theorem onPairing_sound {m : PairingHost.Operation α}
    (hm : Keeps (Carried (PairingHost.Bounded setting.crypto.toCrypto)) m) :
    Keeps (Carried (Sound setting)) (onPairing m) :=
  fun s h => ⟨hm s.pairing h.pairing, h.remote, h.bridge⟩

theorem onAuthorization_sound {f : AuthorizationRegistry → Option Bytes →
      (AuthorizationRegistry × Option Bytes) × Except AuthorizationError ControllerGrantView}
    (hf : ∀ r file, r.WellFormed setting.crypto.toCrypto →
      (f r file).1.1.WellFormed setting.crypto.toCrypto) :
    Keeps (Carried (Sound setting)) (onAuthorization f) :=
  fun _ h => ⟨⟨h.pairing.consistent, h.pairing.modest, hf _ _ h.pairing.grants⟩, h.remote,
    h.bridge⟩

/-! ## Every answer but one is short -/

/-- The Host stays sound, and what it answers is short. -/
def Served (setting : ServiceSetting) (r : Except ServiceError LocalIpcServerPayload)
    (s' : LocalService) : Prop :=
  s'.Sound setting ∧ ∀ answer, r = .ok answer → (encodeFields answer.fields).length ≤ 5000

theorem served_error (h : s.Sound setting) (e : ServiceError) : Served setting (.error e) s :=
  ⟨h, fun _ hanswer => nomatch hanswer⟩

theorem served_ok (h : s.Sound setting) {answer : LocalIpcServerPayload}
    (hlength : (encodeFields answer.fields).length ≤ 5000) : Served setting (.ok answer) s :=
  ⟨h, fun _ hanswer => Except.ok.inj hanswer ▸ hlength⟩

/-- The rest of an operation serves a request if it does after each success. -/
theorem served_bind {m : Operation α} {f : α → Operation LocalIpcServerPayload}
    (h : s.Sound setting) (hm : Keeps (Carried (Sound setting)) m)
    (hf : ∀ a s', s'.Sound setting → wp (f a) (Served setting) s') :
    wp (m >>= f) (Served setting) s := by
  rw [wp_bind]
  refine wp_mono (hm s) fun r s' hs' => ?_
  cases r with
  | error e => exact served_error (hs' h) e
  | ok a => exact hf a s' (hs' h)

theorem length_message_le (number bound : Nat) {message : List Field}
    (h : (encodeFields message).length ≤ bound) :
    (encodeFields (messageField number message)).length ≤ 20 + bound :=
  (length_messageField_le number message).trans (Nat.add_le_add_left h 20)

theorem pairingStatusPayload_served (h : s.Sound setting) :
    wp pairingStatusPayload (Served setting) s := by
  simp only [pairingStatusPayload, wp_bind, wp_get, andThen_ok, wp_pure]
  have hview := h.pairing.modest.length_le h.pairing.consistent
  exact served_ok h ((length_message_le 30 _ hview).trans (by decide))

/-- A signature of this identity is short. -/
theorem length_signedWith_le (setting : ServiceSetting) (canonicalTranscript : Bytes)
    (number : Nat) {signature : Bytes}
    (hsignature : signature.length ≤ 64) :
    (encodeFields (TranscriptSignature.fields number
      (setting.identity.signedWith setting.crypto canonicalTranscript signature))).length ≤
        240 := by
  obtain ⟨hid, hkey, -⟩ := validateDeviceIdentity_eq_ok.mp setting.validIdentity
  exact length_signature_le number (le_of_eq hid) (le_of_eq hkey) hsignature
    (le_of_eq Vector.length_toList)

theorem length_signed_le (canonicalTranscript : Bytes) (number : Nat) :
    (encodeFields ((setting.identity.signed setting.crypto canonicalTranscript).fields
      number)).length ≤ 240 :=
  length_signedWith_le setting canonicalTranscript number (le_of_eq Vector.length_toList)

variable {canonicalTranscript : Bytes} {signature : TranscriptSignature}

theorem signCanonicalTranscript_ok
    (h : setting.identity.signCanonicalTranscript setting.crypto canonicalTranscript =
      .ok signature) : signature = setting.identity.signed setting.crypto canonicalTranscript := by
  unfold HostIdentity.signCanonicalTranscript at h
  obtain ⟨_, -, h⟩ := bind_eq_ok.mp h
  obtain ⟨_, -, h⟩ := bind_eq_ok.mp h
  obtain ⟨_, -, h⟩ := bind_eq_ok.mp h
  obtain ⟨_, -, h⟩ := bind_eq_ok.mp h
  exact (Except.ok.inj h).symm

theorem signSessionOffer_ok
    (h : setting.identity.signSessionOffer setting.crypto canonicalTranscript = .ok signature) :
    signature = setting.identity.signed setting.crypto canonicalTranscript := by
  unfold HostIdentity.signSessionOffer at h
  obtain ⟨_, -, h⟩ := bind_eq_ok.mp h
  obtain ⟨_, -, h⟩ := bind_eq_ok.mp h
  obtain ⟨_, -, h⟩ := bind_eq_ok.mp h
  obtain ⟨_, -, h⟩ := bind_eq_ok.mp h
  exact (Except.ok.inj h).symm

theorem length_signPairingTranscript {canonicalTranscript signature : Bytes}
    {role : PairingIdentityRole} (h : setting.identity.signPairingTranscript setting.crypto
      canonicalTranscript role = .ok signature) : signature.length = 64 := by
  unfold HostIdentity.signPairingTranscript at h
  obtain ⟨_, -, h⟩ := bind_eq_ok.mp h
  obtain ⟨_, -, h⟩ := bind_eq_ok.mp h
  obtain ⟨_, -, h⟩ := bind_eq_ok.mp h
  obtain ⟨_, -, h⟩ := bind_eq_ok.mp h
  obtain ⟨_, -, h⟩ := bind_eq_ok.mp h
  rw [← Except.ok.inj h]
  exact Vector.length_toList

theorem hostStatus_served (h : s.Sound setting) : wp (hostStatus setting) (Served setting) s := by
  simp only [hostStatus, u32OfCount, wp_bind, wp_get, andThen_ok, andThen_error, wp_orThrow,
    wp_pure]
  refine ⟨fun count _ => served_ok h ((length_message_le 20 _ (length_hostStatus_le ?_ ?_ ?_)).trans
    (by decide)), fun _ => served_error h _⟩
  · intro identity hsome
    rw [← some.inj hsome]
    exact setting.validIdentity
  · exact le_of_eq Vector.length_toList
  · intro status hsome
    rw [← some.inj hsome]
    exact h.bridge

theorem emergencyStop_sound (h : s.Sound setting) (sessions : SessionRegistry) :
    Sound setting { s with sessions, remoteStatus := idleRemoteStatus
                           bridge := s.bridge.emergencyStop } :=
  ⟨h.pairing, length_idleRemoteStatus_le, length_bridge_of_stop _⟩

theorem emergencyStop_served (h : s.Sound setting) : wp emergencyStop (Served setting) s := by
  simp only [emergencyStop, u32OfCount, wp_bind, wp_get, andThen_ok, andThen_error, wp_modify,
    wp_orThrow, wp_pure]
  have hstopped := emergencyStop_sound h (s.sessions.terminateAll .localEmergencyStop).1
  refine ⟨fun count _ => served_ok hstopped ?_, fun _ => served_error hstopped _⟩
  exact (length_message_le 33 _ (length_uint64Field_le 1 _)).trans (by decide)

/-- A grant that has been found for revocation has an identifier of its length. -/
theorem length_grantId_of_revoked {r : AuthorizationRegistry} {crypto : Crypto}
    {faults : FileFaults} {file : Option Bytes} {grantId : Bytes} {view : ControllerGrantView}
    {r' : AuthorizationRegistry} {file' : Option Bytes} (hwf : r.WellFormed crypto)
    (h : r.revokeControllerGrant crypto faults file grantId = ((r', file'), .ok view)) :
    grantId.length = grantIdBytes := by
  unfold revokeControllerGrant at h
  split at h
  · cases h
  · next controllerId removed hfind =>
    have hmem := Std.ExtTreeMap.mem_toList_iff_getElem?_eq_some.mp (List.mem_of_find?_eq_some hfind)
    have hid := List.find?_some hfind
    obtain ⟨grant, _, hgrant, -, -, hlength, -⟩ := validateStoredGrant_eq_ok.mp
      (hwf.valid controllerId removed hmem)
    rw [hasGrantId, hgrant, any_some, decide_eq_true_eq] at hid
    rw [← hid, hlength]

theorem revoke_served (input : RequestInput) (grantId : Bytes) (h : s.Sound setting) :
    wp (revoke setting input grantId) (Served setting) s := by
  have hkept : Keeps (Carried (Sound setting)) (onAuthorization fun r file =>
      r.revokeControllerGrant setting.crypto.toCrypto input.faults file grantId) :=
    onAuthorization_sound fun r file hwf =>
      (revokeControllerGrant_writes hwf _ _ _).wellFormed hwf
  have hfound : wp (onAuthorization fun r file =>
      r.revokeControllerGrant setting.crypto.toCrypto input.faults file grantId)
      (fun r _ => ∀ view, r = .ok view → grantId.length = grantIdBytes) s := by
    intro view hview
    have hok := mapError_eq_ok.mp hview
    exact length_grantId_of_revoked h.pairing.grants (Prod.ext rfl hok)
  rw [revoke, wp_bind]
  refine wp_mono (wp_and (hkept s) hfound) fun r s' hs' => ?_
  obtain ⟨hsound, hlength⟩ := hs'
  cases r with
  | error e => exact served_error (hsound h) e
  | ok view =>
  have hs' := hsound h
  simp only [u32OfCount, wp_bind, wp_get, andThen_ok, andThen_error, wp_modify, wp_orThrow, wp_pure]
  refine ⟨fun controllerDeviceId _ => ?_, fun _ => served_error hs' _⟩
  have hended : Sound setting { s' with
      sessions := (s'.sessions.terminateController controllerDeviceId).1 } :=
    ⟨hs'.pairing, hs'.remote, hs'.bridge⟩
  refine ⟨fun count _ => served_ok hended ?_, fun _ => served_error hended _⟩
  have hid := length_bytesField_le 1 grantId
  have hcount := length_uint64Field_le 2 count.toUInt64
  rw [hlength view rfl, grantIdBytes] at hid
  refine (length_message_le 24 56 ?_).trans (by decide)
  rw [encodeFields_append, List.length_append]
  omega

theorem createControllerGrant_served (input : RequestInput) (controller : Option DeviceIdentity)
    (permissions : List Int32) (h : s.Sound setting) :
    wp (createControllerGrant setting input controller permissions) (Served setting) s := by
  rw [createControllerGrant]
  refine served_bind h .orThrow fun controller s h =>
    served_bind h .orThrow fun permissions s h => ?_
  have hkept : Keeps (Carried (Sound setting)) (onAuthorization fun r file =>
      r.createControllerGrant setting.crypto.toCrypto input.faults file controller permissions
        input.nowUnixMs input.random) :=
    onAuthorization_sound fun r file hwf =>
      (createControllerGrant_writes hwf _ _ _ _ _ _).wellFormed hwf
  have hfiled : wp (onAuthorization fun r file =>
      r.createControllerGrant setting.crypto.toCrypto input.faults file controller permissions
        input.nowUnixMs input.random)
      (fun r _ => ∀ view, r = .ok view → (encodeFields view.fields).length ≤ 600) s := by
    intro view hview
    have hok := mapError_eq_ok.mp hview
    obtain ⟨hwf, -⟩ := createControllerGrant_wellFormed h.pairing.grants (Prod.ext rfl hok)
    obtain ⟨-, -, hget⟩ := createControllerGrant_ok (Prod.ext rfl hok)
    exact length_encode_grantView_le hwf.host (hwf.valid _ _ hget)
  rw [wp_bind]
  refine wp_mono (wp_and (hkept s) hfiled) fun r s' hs' => ?_
  obtain ⟨hsound, hlength⟩ := hs'
  cases r with
  | error e => exact served_error (hsound h) e
  | ok view =>
  refine served_ok (hsound h) ((length_message_le 22 620 (length_optionalMessageField_le 1
    ControllerGrantView.fields _ 600 fun shown hshown => ?_)).trans (by decide))
  rw [← some.inj hshown]
  exact hlength view rfl

/-- A request that has been carried out is answered with the current view of the pairing. -/
theorem pairingStatus_served {m : Operation Unit} (h : s.Sound setting)
    (hm : Keeps (Carried (Sound setting)) m) :
    wp (m >>= fun _ => pairingStatusPayload) (Served setting) s :=
  served_bind h hm fun _ _ hs' => pairingStatusPayload_served hs'

theorem startHostPairing_served (input : RequestInput) (kind : PairingInvitationKind)
    (signalingEndpoint : String) (h : s.Sound setting) :
    wp (startHostPairing setting input kind signalingEndpoint) (Served setting) s := by
  have hkept : Keeps (Carried (Sound setting)) (onPairing (PairingHost.onPairing
      (start setting.crypto setting.validateSignalingEndpoint kind
        signalingEndpoint input.nowUnixMs input.draws))) :=
    onPairing_sound (PairingHost.onPairing_bounded (start_publishes _ _ _ _ _ _)
      (start_modest _ length_validEndpoint_le _ _ _ _))
  have hshown : wp (onPairing (PairingHost.onPairing
      (start setting.crypto setting.validateSignalingEndpoint kind
        signalingEndpoint input.nowUnixMs input.draws)))
      (fun r s' => ∀ status, r = .ok status → status = s'.pairing.pairing.status) s :=
    fun status hstatus => start_returns setting.crypto
      setting.validateSignalingEndpoint kind signalingEndpoint input.nowUnixMs input.draws
      s.pairing.pairing status (mapError_eq_ok.mp hstatus)
  rw [startHostPairing, wp_bind]
  refine wp_mono (wp_and (hkept s) hshown) fun r s' hs' => ?_
  obtain ⟨hsound, hstatus⟩ := hs'
  cases r with
  | error e => exact served_error (hsound h) e
  | ok status =>
  have hview := (hsound h).pairing.modest.length_le (hsound h).pairing.consistent
  rw [← hstatus status rfl] at hview
  exact served_ok (hsound h) ((length_message_le 30 _ hview).trans (by decide))

theorem handlePairingPayload_served (input : RequestInput) (payload : LocalIpcClientPayload)
    (h : s.Sound setting) : wp (handlePairingPayload setting input payload) (Served setting) s := by
  cases payload with
  | startHostQrPairing signalingEndpoint => exact startHostPairing_served _ _ _ h
  | startHostDesktopCodePairing signalingEndpoint => exact startHostPairing_served _ _ _ h
  | cancelHostPairing rendezvousId =>
    exact pairingStatus_served h (onPairing_sound (PairingHost.onPairing_bounded
      (cancel_publishes _) (cancel_modest _)))
  | getHostPairingStatus =>
    exact pairingStatus_served h (onPairing_sound (PairingHost.onPairing_bounded
      (.modify (tick_publishes _))
      (.modify (tick_modest _))))
  | acceptHostPairing rendezvousId controllerDeviceId =>
    exact pairingStatus_served h (onPairing_sound (PairingHost.accept_bounded _ _ _ _ _ _))
  | rejectHostPairing rendezvousId controllerDeviceId =>
    exact pairingStatus_served h (onPairing_sound (PairingHost.onPairing_bounded
      (reject_publishes _ _ _ _)
      (reject_modest _ _ _ _)))
  | authenticate | getHostStatus | listControllerGrants | createControllerGrant
  | signCanonicalTranscript | revokeControllerGrant | signSessionOffer | getRemoteSessionStatus
  | signPairingTranscript | emergencyStopRemoteSession => exact served_error h _

/-- Every answer but the list of grants is short. -/
theorem handlePayload_served (input : RequestInput) {payload : LocalIpcClientPayload}
    (hlist : payload ≠ .listControllerGrants) (h : s.Sound setting) :
    wp (handlePayload setting input payload) (Served setting) s := by
  cases payload with
  | authenticate clientNonce clientProof => exact served_error h _
  | getHostStatus => exact hostStatus_served h
  | listControllerGrants => exact absurd rfl hlist
  | createControllerGrant controller permissions =>
    exact createControllerGrant_served _ _ _ h
  | signCanonicalTranscript canonicalTranscript =>
    simp only [handlePayload, wp_bind, wp_ofResult]
    cases hsigned : setting.identity.signCanonicalTranscript setting.crypto
        canonicalTranscript with
    | error e => exact served_error h _
    | ok signature =>
    rw [signCanonicalTranscript_ok hsigned]
    exact served_ok h ((length_message_le 23 _ (length_signed_le _ _)).trans (by decide))
  | revokeControllerGrant grantId => exact revoke_served _ _ h
  | signSessionOffer canonicalTranscript =>
    simp only [handlePayload, wp_bind, wp_ofResult]
    cases hsigned : setting.identity.signSessionOffer setting.crypto
        canonicalTranscript with
    | error e => exact served_error h _
    | ok signature =>
    rw [signSessionOffer_ok hsigned]
    exact served_ok h ((length_message_le 25 _ (length_signed_le _ _)).trans (by decide))
  | getRemoteSessionStatus =>
    exact served_ok h ((length_message_le 26 _ h.remote).trans (by decide))
  | signPairingTranscript canonicalTranscript role =>
    simp only [handlePayload, wp_bind, wp_orThrow, andThen_ok, andThen_error, wp_ofResult]
    refine ⟨fun checked _ => ?_, fun _ => served_error h _⟩
    cases hsigned : setting.identity.signPairingTranscript setting.crypto
        canonicalTranscript checked with
    | error e => exact served_error h _
    | ok signature =>
    have hrole := length_enumField_le 1 role
    have hsignature := length_signedWith_le setting canonicalTranscript 2
      (le_of_eq (length_signPairingTranscript hsigned))
    refine served_ok h ((length_message_le 31 260 ?_).trans (by decide))
    rw [encodeFields_append, List.length_append]
    omega
  | emergencyStopRemoteSession => exact emergencyStop_served h
  | startHostQrPairing | startHostDesktopCodePairing | cancelHostPairing | getHostPairingStatus
  | acceptHostPairing | rejectHostPairing => exact handlePairingPayload_served _ _ h

/-! ## Whole runs -/

/-- A request of either kind leaves a sound Host. -/
theorem handleFrame_sound (input : RequestInput) (frame : LocalIpcClientFrame)
    (h : s.Sound setting) : (handleFrame setting input frame s).2.Sound setting := by
  have hpayload : ∀ payload, wp (handlePayload setting input payload)
      (fun _ s' => s'.Sound setting) s := by
    intro payload
    by_cases hlist : payload = .listControllerGrants
    · rw [hlist]
      exact h
    · exact (handlePayload_served input hlist h).1
  have hframe : wp (orThrow frame.payload ServiceError.invalidRequest >>=
      handlePayload setting input) (fun _ s' => s'.Sound setting) s := by
    simp only [wp_bind, wp_orThrow, andThen_ok, andThen_error]
    exact ⟨fun payload _ => hpayload payload, fun _ => h⟩
  exact hframe

/-- Everything that happens to the Host keeps it sound. -/
theorem step_sound (h : s.Sound setting) (a : ServiceAction) :
    (step setting s a).Sound setting := by
  cases a with
  | request input frame => exact handleFrame_sound input frame h
  | pairing action =>
    exact ⟨PairingHost.step_bounded length_validEndpoint_le h.pairing action, h.remote, h.bridge⟩
  | grantForMaintenance input controller permissions =>
    exact onAuthorization_sound (fun r file hwf =>
      (createControllerGrant_writes hwf _ _ _ _ _ _).wellFormed hwf) s h
  | recordAuthenticated input controllerDeviceId =>
    exact onAuthorization_sound (fun r file hwf =>
      (recordAuthenticatedSession_writes hwf _ _ _ _).wellFormed hwf) s h
  | registerSession session =>
    simp only [step]
    split
    · exact ⟨h.pairing, h.remote, h.bridge⟩
    · exact h
  | unregisterSession sessionId => exact ⟨h.pairing, h.remote, h.bridge⟩
  | updateRemoteStatus snapshot =>
    simp only [step, LocalService.updateRemoteStatus]
    cases hvalid : validateRemoteSessionStatusSnapshot snapshot with
    | ok _ => exact ⟨h.pairing, length_remoteStatus_of_valid hvalid, h.bridge⟩
    | error e => exact h
  | probeBridge status =>
    simp only [step, LocalService.probeBridge]
    split_ifs with haccepts
    · exact ⟨h.pairing, h.remote, length_bridge_of_probe haccepts h.bridge⟩
    · exact h

theorem length_newBridge_le :
    (encodeFields (bridgeStatusFields BridgeStatusStore.new.status)).length ≤ 300 := by
  have hname : (utf8 userSessionOnlyBridgeStatus.activeControllerDisplayName).length ≤
      maxDeviceNameUtf8Bytes := Nat.zero_le _
  exact length_bridgeStatus_le (m := userSessionOnlyBridgeStatus) hname rfl

/-- A new Host with loaded grants is sound. -/
theorem new_sound (setting : ServiceSetting) {authorization : AuthorizationState}
    (hwf : authorization.registry.WellFormed setting.crypto.toCrypto) :
    (new setting authorization).Sound setting := by
  have hactive : ∀ active, (fromValidatedHost
      setting.identity.deviceIdentity).active ≠ some active :=
    fun active h => some_ne_none active h.symm
  have hconsistent : Consistent setting.crypto.toCrypto
      (fromValidatedHost setting.identity.deviceIdentity) :=
    ⟨fun _ => ⟨.idle, none, by decide, rfl⟩, fun _ h => absurd h (hactive _)⟩
  have hmodest : (fromValidatedHost
      setting.identity.deviceIdentity).Modest :=
    ⟨setting.validIdentity, fun _ h => absurd h (hactive _), .inl rfl⟩
  exact ⟨⟨hconsistent, hmodest, hwf⟩, length_idleRemoteStatus_le, length_newBridge_le⟩

theorem run_sound {authorization : AuthorizationState}
    (hwf : authorization.registry.WellFormed setting.crypto.toCrypto)
    (actions : List ServiceAction) :
    ((machine setting).run (new setting authorization) actions).Sound setting :=
  Machine.run_invariant (M := machine setting) (G := fun _ _ => True) (Sound setting)
    (fun _ a h _ => step_sound h a) (new_sound setting hwf) (Machine.guarded_true _ _)

/-! ## Which answers fit -/

/-- The key of every error is short. -/
theorem length_shown_le (e : ServiceError) : (utf8 e.shown.2.1).length ≤ 64 := by
  unfold ServiceError.shown
  split <;> decide

/-- The answer with an error is short. -/
theorem length_error_answer_le {requestId : String}
    (hid : (utf8 requestId).length ≤ maxRequestIdUtf8Bytes) (e : ServiceError) :
    (encodeFields (LocalIpcServerPayload.error (e.toUnifiedError requestId)).fields).length ≤
      5000 := by
  have hkey := length_shown_le e
  have hid' : (utf8 requestId).length ≤ 64 := hid
  refine (length_message_le 29 (80 + 128) (length_error_le ?_)).trans (by decide)
  change (utf8 e.shown.2.1).length + (utf8 requestId).length ≤ 128
  omega

/-- No answer is empty. -/
theorem encode_answer_ne_nil (requestId : String) (payload : LocalIpcServerPayload) :
    LocalIpcServerFrame.encode
      { protocolVersion := some answerVersion, requestId, payload := some payload } ≠ [] := by
  have hversion : encodeFields (optionalMessageField 1 ProtocolVersion.fields
      (some answerVersion)) ≠ [] := by decide
  rw [LocalIpcServerFrame.encode, LocalIpcServerFrame.fields, encodeFields_append]
  exact fun hnil => hversion (List.append_eq_nil_iff.mp hnil).1

/-- What is asked of the frame of every request: in particular its identifier is short. -/
theorem validateCommonFrame_ok {frame : LocalIpcClientFrame}
    (h : validateCommonFrame frame = .ok ()) : frame.requestId ≠ "" ∧
      (utf8 frame.requestId).length ≤ maxRequestIdUtf8Bytes ∧
      ∃ payload, frame.payload = some payload := by
  unfold validateCommonFrame at h
  obtain ⟨_, -, h⟩ := bind_eq_ok.mp h
  obtain ⟨_, -, h⟩ := bind_eq_ok.mp h
  obtain ⟨_, hid, h⟩ := bind_eq_ok.mp h
  rw [ensure_eq_ok] at hid
  exact ⟨hid.1, hid.2, ne_none_iff_exists'.mp (ensure_eq_ok.mp h)⟩

/-- The answers to requests other than that for the grants fit. -/
theorem handleFrame_short (input : RequestInput) {frame : LocalIpcClientFrame}
    (hframe : validateCommonFrame frame = .ok ())
    (hlist : frame.payload ≠ some .listControllerGrants) (h : s.Sound setting) :
    (handleFrame setting input frame s).1.encode.length ≤ maxLocalIpcFrameBytes := by
  obtain ⟨-, hid, payload, hpayload⟩ := validateCommonFrame_ok hframe
  have hserved := (handlePayload_served input
    (fun heq => hlist (hpayload.trans (congrArg some heq))) h).2
  have hanswer : ∀ answer : LocalIpcServerPayload, (encodeFields answer.fields).length ≤ 5000 →
      (LocalIpcServerFrame.encode
        { protocolVersion := some answerVersion, requestId := frame.requestId
          payload := some answer }).length ≤ maxLocalIpcFrameBytes := by
    intro answer hshort
    have hlength := length_encode_serverFrame_le answer hid
    rw [maxLocalIpcFrameBytes]
    omega
  unfold handleFrame
  rw [orThrow_bind hpayload]
  refine hanswer _ ?_
  cases hresult : (handlePayload setting input payload s).1 with
  | ok answer => exact hserved answer hresult
  | error e => exact length_error_answer_le hid e

/-- Which answers of the Host fit, in every run from the grants it has loaded: the answer to every
request fits, but the list of the grants only as long as these leave room for the identifier of
the request. -/
theorem responses_fit (setting : ServiceSetting)
    {decode : Bytes → Option HostAuthorizationSnapshot} {faults : FileFaults}
    {file : Option Bytes} {registry : AuthorizationRegistry}
    (hload : load setting.crypto.toCrypto decode faults file
      setting.identity.deviceIdentity.deviceId = .ok registry)
    (actions : List ServiceAction) (input : RequestInput) {frame : LocalIpcClientFrame}
    (hframe : validateCommonFrame frame = .ok ()) :
    (∃ bytes, encodeFrame (handleFrame setting input frame
        ((machine setting).run (new setting ⟨registry, file⟩) actions)).1.encode = .ok bytes) ↔
      (frame.payload = some .listControllerGrants →
        (encodeFields (grantListFields ((machine setting).run (new setting ⟨registry, file⟩)
          actions).registry.listControllerGrants)).length + (utf8 frame.requestId).length ≤
            65525) := by
  have hsound := @run_sound setting ⟨registry, file⟩ (load_wellFormed hload) actions
  generalize (machine setting).run (new setting ⟨registry, file⟩) actions = s at hsound ⊢
  obtain ⟨hne, hid, payload, hpayload⟩ := validateCommonFrame_ok hframe
  have hencode : (∃ bytes, encodeFrame (handleFrame setting input frame s).1.encode = .ok bytes) ↔
      (handleFrame setting input frame s).1.encode.length ≤ maxLocalIpcFrameBytes := by
    rw [encodeFrame_isOk]
    exact and_iff_right (encode_answer_ne_nil _ _)
  rw [hencode]
  by_cases hlist : frame.payload = some .listControllerGrants
  · have hanswer : (handleFrame setting input frame s).1 =
        { protocolVersion := some answerVersion, requestId := frame.requestId
          payload := some (.controllerGrantList s.registry.listControllerGrants) } := by
      unfold handleFrame
      rw [orThrow_bind hlist]
      rfl
    rw [hanswer, length_encode_list _ _ hne hid, imp_iff_right hlist, maxLocalIpcFrameBytes]
    rw [maxRequestIdUtf8Bytes] at hid
    generalize (encodeFields (grantListFields s.registry.listControllerGrants)).length = length
    by_cases hlow : length < 16384
    · have hprefix := length_varint64_le length
      omega
    · by_cases hhigh : length < 2097152
      · rw [length_varint64_of_large (Nat.le_of_not_lt hlow) hhigh]
        omega
      · omega
  · exact iff_of_true (handleFrame_short input hframe hlist hsound) fun h => absurd h hlist

/-! ## A full list -/

theorem length_delimited_ge (number : Nat) (contents : Bytes) :
    2 + contents.length ≤ (encodeFields [⟨number, .delimited contents⟩]).length := by
  have hpos : ∀ n, 1 ≤ (varint64 n).length := by
    intro n
    unfold varint64 varint
    split_ifs
    · exact Nat.le_refl 1
    · exact Nat.le_add_left 1 _
  have hkey := hpos (number * 8 + 2)
  have hlength := hpos contents.length
  simp only [encodeFields, List.flatMap_singleton, Field.encode, List.length_append]
  omega

theorem length_bytesField_ge (number : Nat) (value : Bytes) (h : value.length ≠ 0) :
    2 + value.length ≤ (encodeFields (bytesField number value)).length := by
  unfold bytesField
  rw [if_neg fun hnil => h (by rw [hnil]; rfl)]
  exact length_delimited_ge number value

/-- The grant of a controller with the longest name takes at least 256 bytes of the list. -/
theorem length_entry_ge {view : ControllerGrantView} {grant : ControllerGrant}
    {controller : DeviceIdentity} (hgrant : view.grant = some grant)
    (hcontroller : grant.controller = some controller) (hid : grant.grantId.length = grantIdBytes)
    (hhost : grant.hostDeviceId.length = deviceIdBytes)
    (hvalid : validateDeviceIdentity controller = .ok ())
    (hname : (utf8 controller.displayName).length = maxDeviceNameUtf8Bytes) :
    256 ≤ (encodeFields (messageField 1 view.fields)).length := by
  obtain ⟨hdevice, hkey, -⟩ := validateDeviceIdentity_eq_ok.mp hvalid
  rw [grantIdBytes] at hid
  rw [deviceIdBytes] at hhost hdevice
  rw [publicKeyBytes] at hkey
  rw [maxDeviceNameUtf8Bytes] at hname
  have hidField := length_bytesField_ge 1 grant.grantId (by omega)
  have hhostField := length_bytesField_ge 2 grant.hostDeviceId (by omega)
  have hdeviceField := length_bytesField_ge 1 controller.deviceId (by omega)
  have hkeyField := length_bytesField_ge 3 controller.publicKey (by omega)
  have hnameField := length_bytesField_ge 4 (utf8 controller.displayName) (by omega)
  have hcontrollerField := length_delimited_ge 3 (encodeFields controller.fields)
  have hgrantField := length_delimited_ge 1 (encodeFields grant.fields)
  have hentry := length_delimited_ge 1 (encodeFields view.fields)
  have hcontrollerLength : 198 ≤ (encodeFields controller.fields).length := by
    simp only [DeviceIdentity.fields, stringField, encodeFields_append, List.length_append]
    omega
  have hgrantLength : 252 ≤ (encodeFields grant.fields).length := by
    simp only [ControllerGrant.fields, hcontroller, optionalMessageField, messageField,
      encodeFields_append, List.length_append]
    omega
  have hviewLength : 254 ≤ (encodeFields view.fields).length := by
    simp only [ControllerGrantView.fields, hgrant, optionalMessageField, messageField,
      encodeFields_append, List.length_append]
    omega
  exact le_trans (by omega) hentry

theorem length_grantList_ge {grants : List ControllerGrantView} {bound : Nat}
    (h : ∀ view ∈ grants, bound ≤ (encodeFields (messageField 1 view.fields)).length) :
    grants.length * bound ≤ (encodeFields (grantListFields grants)).length := by
  induction grants with
  | nil => rw [List.length_nil, Nat.zero_mul]; exact Nat.zero_le _
  | cons view grants ih =>
    obtain ⟨hview, hgrants⟩ := List.forall_mem_cons.mp h
    have hrest := ih hgrants
    unfold grantListFields at hrest ⊢
    rw [List.flatMap_cons, encodeFields_append, List.length_append, List.length_cons, Nat.succ_mul]
    omega

/-- A registry with as many grants as it may hold, all of controllers with the longest name. -/
def Full (r : AuthorizationRegistry) : Prop :=
  r.listControllerGrants.length = maxControllerGrants ∧
    ∀ view ∈ r.listControllerGrants, ∃ grant controller, view.grant = some grant ∧
      grant.controller = some controller ∧
      (utf8 controller.displayName).length = maxDeviceNameUtf8Bytes

/-- The grants of a full registry are longer than a frame may be. -/
theorem length_full_list {crypto : Crypto} {r : AuthorizationRegistry}
    (hwf : r.WellFormed crypto) (h : Full r) :
    maxLocalIpcFrameBytes ≤ (encodeFields (grantListFields r.listControllerGrants)).length := by
  obtain ⟨hcount, hnames⟩ := h
  have hentries : ∀ view ∈ r.listControllerGrants,
      256 ≤ (encodeFields (messageField 1 view.fields)).length := by
    intro view hview
    obtain ⟨grant, controller, hgrant, hcontroller, hname⟩ := hnames view hview
    obtain ⟨k, -, hget⟩ :=
      ((listControllerGrants_represents hwf).mem view).mp hview
    obtain ⟨grant', controller', hgrant', hcontroller', -, hid, hhost, hvalid, -⟩ :=
      validateStoredGrant_eq_ok.mp (hwf.valid k view hget)
    obtain rfl : grant = grant' := some.inj (hgrant.symm.trans hgrant')
    obtain rfl : controller = controller' :=
      some.inj (hcontroller.symm.trans hcontroller')
    unfold validateController at hvalid
    obtain ⟨_, hmapped, -⟩ := bind_eq_ok.mp hvalid
    exact length_entry_ge hgrant hcontroller hid (by rw [hhost, hwf.host])
      (mapError_eq_ok.mp hmapped) hname
  have hlength := length_grantList_ge hentries
  rw [hcount, maxControllerGrants] at hlength
  exact hlength

/-- Grants with identifiers and controllers of their own are loaded from their file. -/
theorem load_views {crypto : Crypto} {decode : Bytes → Option HostAuthorizationSnapshot}
    (hdecode : DecodesSnapshots decode) {host : Bytes} (hhost : host.length = deviceIdBytes)
    {views : List ControllerGrantView} (hsize : views.length ≤ maxControllerGrants)
    (hvalid : ∀ view ∈ views, ∃ k, validateStoredGrant crypto view host = .ok k)
    (hkeys : (views.map controllerDeviceIdFor).Nodup)
    (hids : views.Pairwise fun a b => ∀ id, hasGrantId id a = true → hasGrantId id b = false) :
    ∃ registry, load crypto decode noFaults
        (some (encodeEnvelope crypto (encode
          { hostDeviceId := host, grants := views }))) host = .ok registry ∧
      registry.listControllerGrants.Perm views := by
  obtain ⟨result, hresult, hmembers, hframe⟩ := loadGrants_of_valid crypto
    host [] ∅ hvalid hkeys (fun _ _ _ _ => Std.ExtTreeMap.not_mem_empty) hids (by simp)
  have hlength := FileGrantStore.length_encode_le hhost hsize hvalid
  have hload := (@load_eq_ok crypto decode _ _ _
    { hostDeviceId := host, grantsByController := result }).mpr
      ⟨hhost, views, FileGrantStore.load_eq_ok.mpr (decodeEnvelope_eq_ok.mp
        (decodeEnvelope_encodeEnvelope hlength (hdecode _ hlength) rfl)), hsize, hresult, rfl⟩
  refine ⟨_, hload, ?_⟩
  have hwf := load_wellFormed hload
  have hlisted := listControllerGrants_represents hwf
  refine (List.perm_ext_iff_of_nodup (List.Nodup.of_map _ hlisted.nodup)
    (List.Nodup.of_map _ hkeys)).mpr fun view => ?_
  rw [hlisted.mem]
  constructor
  · rintro ⟨k, -, hget⟩
    by_cases hk : ∃ other ∈ views, controllerDeviceIdFor other = some k
    · obtain ⟨other, hother, hfor⟩ := hk
      have hsame := hmembers other hother k hfor
      obtain rfl : view = other := some.inj (hget.symm.trans hsame)
      exact hother
    · push Not at hk
      have hnone := hframe k hk
      rw [Std.ExtTreeMap.getElem?_empty] at hnone
      exact nomatch hget.symm.trans hnone
  · intro hview
    obtain ⟨k, hk⟩ := hvalid view hview
    have hfor := controllerDeviceIdFor_of_valid hk
    exact ⟨k, hfor, hmembers view hview k hfor⟩

end LocalService

namespace FullHost

/-- A digest for the sample: the last bytes of its input. -/
def sha256 (input : Bytes) : Vector UInt8 32 :=
  (toArray? 32 (input.drop (input.length - 32))).getD (Vector.replicate 32 0)

/-- A key at the end of an input is its digest. -/
theorem sha256_append (start : Bytes) {key : Bytes} {digest : Vector UInt8 32}
    (h : digest.toList = key) : sha256 (start ++ key) = digest := by
  have hlength : key.length = 32 := by rw [← h]; exact Vector.length_toList
  unfold sha256
  rw [List.length_append, hlength, Nat.add_sub_cancel, List.drop_left, toArray?_eq_some.mpr h]
  rfl

/-- The primitives of the sample. -/
def crypto : PairingCrypto :=
  { SampleExchange.crypto with sha256, validKey := fun _ => true }

variable (number : Nat)

/-- An identity of the sample: every key is its own identifier. -/
def device (displayName : String) : DeviceIdentity where
  deviceId := UInt8.ofNat number :: List.replicate 31 7
  publicKeyAlgorithm := 1
  publicKey := UInt8.ofNat number :: List.replicate 31 7
  displayName := displayName
  platform := 4

/-- The identifier of the sample Host. -/
def hostDeviceId : Bytes := List.replicate 32 9

/-- The longest name. -/
def longName : String := String.ofList (List.replicate 128 'a')

/-- A grant of the sample Host. -/
def view : ControllerGrantView where
  grant := some
    { grantId := UInt8.ofNat number :: List.replicate 15 0
      hostDeviceId := hostDeviceId
      controller := some (device number longName)
      createdAtUnixMs := 1700000000000
      permissions := [1, 2] }
  lastSuccessfulConnectionAtUnixMs := 0

/-- As many grants as a Host may hold. -/
def views : List ControllerGrantView := (List.range 256).map view

/-- The file of some grants. -/
def fileOf (grants : List ControllerGrantView) : Bytes :=
  encodeEnvelope crypto.toCrypto (encode { hostDeviceId, grants })

/-- The file of as many grants. -/
def file : Bytes := fileOf views

/-- The file of two grants. -/
def pairedFile : Bytes := fileOf [view 0, view 1]

/-- The registry with these grants. -/
def paired : AuthorizationRegistry where
  hostDeviceId := hostDeviceId
  grantsByController := ((∅ : GrantMap).insert (device 0 longName).deviceId (view 0)).insert
    (device 1 longName).deviceId (view 1)

/-- The surroundings of the sample Host. -/
def setting : ServiceSetting where
  crypto := crypto
  identity :=
    { deviceIdentity :=
        { deviceId := hostDeviceId, publicKeyAlgorithm := 1, publicKey := hostDeviceId
          displayName := "host", platform := 4 }
      signingKey := Vector.replicate 32 1 }
  validIdentity := by decide
  acceptsUrl _ := true
  instanceId := Vector.replicate 16 1
  startedAtUnixMs := 1700000000000
  osSessionId := 1

/-- A request for the grants. -/
def frame : LocalIpcClientFrame where
  protocolVersion := some answerVersion
  requestId := "1"
  payload := some .listControllerGrants

/-- A request at a time of the sample. -/
def input : RequestInput where
  nowUnixMs := 1700000000000
  draws := ⟨none, none, none⟩
  random _ := none
  faults := noFaults

theorem length_longName : (utf8 longName).length = maxDeviceNameUtf8Bytes := by decide +kernel

theorem view_valid :
    validateStoredGrant crypto.toCrypto (view number) hostDeviceId =
      .ok (device number longName).deviceId := by
  have hplatform : isKnownPlatform 4 ∧ (4 : Int32) ≠ 0 := by decide
  have hidentity : validateDeviceIdentity (device number longName) = .ok () :=
    validateDeviceIdentity_eq_ok.mpr ⟨rfl, rfl, rfl, hplatform, le_of_eq length_longName⟩
  obtain ⟨key, hkey⟩ : ∃ key : Vector UInt8 32,
      key.toList = (device number longName).publicKey := ⟨⟨⟨_⟩, rfl⟩, rfl⟩
  have hderived : deriveDeviceIdV1 crypto.toCrypto key.toList = .ok key := by
    unfold deriveDeviceIdV1
    rw [if_neg fun h => h Vector.length_toList]
    exact congrArg Except.ok (sha256_append _ rfl)
  have hcontroller : validateController crypto.toCrypto (device number longName) = .ok () :=
    bind_eq_ok.mpr ⟨(), mapError_eq_ok.mpr hidentity, bind_eq_ok.mpr ⟨key,
      okOr_eq_ok.mpr (toArray?_eq_some.mpr hkey), bind_eq_ok.mpr ⟨(), ensure_eq_ok.mpr rfl,
        bind_eq_ok.mpr ⟨key, mapError_eq_ok.mpr hderived, ensure_eq_ok.mpr hkey.symm⟩⟩⟩⟩
  have hother : (device number longName).deviceId ≠ hostDeviceId := by
    intro heq
    exact absurd (List.cons.inj heq).2 (by decide)
  have hpermissions : normalizeStoredPermissions [1, 2] = .ok [1, 2] := by decide +kernel
  exact validateStoredGrant_eq_ok.mpr
    ⟨_, _, rfl, rfl, rfl, rfl, rfl, hcontroller, hother, hpermissions⟩

theorem ofNat_injOn {a b : Nat} (ha : a < 256) (hb : b < 256)
    (h : UInt8.ofNat a = UInt8.ofNat b) : a = b := by
  have htoNat := congrArg UInt8.toNat h
  rw [UInt8.toNat_ofNat', UInt8.toNat_ofNat', Nat.mod_eq_of_lt ha, Nat.mod_eq_of_lt hb] at htoNat
  exact htoNat

theorem controllers_nodup : (views.map controllerDeviceIdFor).Nodup := by
  unfold views
  rw [List.map_map]
  refine List.Nodup.map_on (fun a ha b hb heq => ?_) List.nodup_range
  have hids : (UInt8.ofNat a :: List.replicate 31 7) = UInt8.ofNat b :: List.replicate 31 7 :=
    some.inj heq
  exact ofNat_injOn (List.mem_range.mp ha) (List.mem_range.mp hb) (List.cons.inj hids).1

theorem grantIds_differ :
    views.Pairwise fun a b => ∀ id, hasGrantId id a = true → hasGrantId id b = false := by
  unfold views
  rw [List.pairwise_map]
  refine List.nodup_range.imp_of_mem fun {a b} ha hb hne id hid => ?_
  have hfirst : UInt8.ofNat a :: List.replicate 15 0 = id := of_decide_eq_true hid
  refine decide_eq_false fun hsecond => hne ?_
  rw [← hfirst] at hsecond
  exact (ofNat_injOn (List.mem_range.mp hb) (List.mem_range.mp ha) (List.cons.inj hsecond).1).symm

/-- The file of the sample loads as a full registry. -/
theorem load_file : ∃ registry, load crypto.toCrypto
      decode noFaults (some file) hostDeviceId = .ok registry ∧
    LocalService.Full registry := by
  have hcount : views.length = 256 := by
    unfold views
    rw [List.length_map, List.length_range]
  have hvalid : ∀ v ∈ views, ∃ k, validateStoredGrant crypto.toCrypto v hostDeviceId = .ok k := by
    intro v hv
    obtain ⟨number, -, rfl⟩ := List.mem_map.mp hv
    exact ⟨_, view_valid number⟩
  obtain ⟨registry, hload, hperm⟩ := LocalService.load_views
    decodesSnapshots_decode rfl (le_of_eq hcount) hvalid controllers_nodup
    grantIds_differ
  refine ⟨registry, hload, hperm.length_eq.trans hcount, fun v hv => ?_⟩
  obtain ⟨number, -, rfl⟩ := List.mem_map.mp (hperm.mem_iff.mp hv)
  exact ⟨_, _, rfl, rfl, length_longName⟩

end FullHost

namespace LocalService

/-- The sample Host has loaded as many grants as it may hold, and cannot answer a request for
them. -/
theorem full_list_refused : ∃ registry, load FullHost.setting.crypto.toCrypto decode noFaults
      (some FullHost.file) FullHost.setting.identity.deviceIdentity.deviceId = .ok registry ∧
    validateCommonFrame FullHost.frame = .ok () ∧
    ¬ ∃ bytes, encodeFrame (handleFrame FullHost.setting FullHost.input FullHost.frame
      ((machine FullHost.setting).run (new FullHost.setting ⟨registry, some FullHost.file⟩)
        [])).1.encode = .ok bytes := by
  obtain ⟨registry, hload, hfull⟩ := FullHost.load_file
  have hlong := length_full_list (load_wellFormed hload) hfull
  refine ⟨registry, hload, by decide, fun ⟨bytes, hbytes⟩ => ?_⟩
  have hanswer := (encodeFrame_isOk.mp ⟨bytes, hbytes⟩).2
  have hlength := length_encode_list "1" registry.listControllerGrants (by decide) (by decide)
  have hlist : (handleFrame FullHost.setting FullHost.input FullHost.frame
      (new FullHost.setting ⟨registry, some FullHost.file⟩)).1.encode.length ≤
        maxLocalIpcFrameBytes := hanswer
  change (LocalIpcServerFrame.encode
    { protocolVersion := some answerVersion, requestId := "1"
      payload := some (.controllerGrantList registry.listControllerGrants) }).length ≤ _ at hlist
  omega

/-- The sample Host has loaded two grants, and is asked for them after one has been revoked and the
other has been used. -/
theorem responses_fit_sample :
    let s := (machine FullHost.setting).run
      (new FullHost.setting ⟨FullHost.paired, some FullHost.pairedFile⟩)
      [.request FullHost.input
          { FullHost.frame with payload := some (.revokeControllerGrant (List.replicate 16 0)) },
        .recordAuthenticated FullHost.input (FullHost.device 1 FullHost.longName).deviceId]
    load FullHost.setting.crypto.toCrypto decode noFaults (some FullHost.pairedFile)
        FullHost.setting.identity.deviceIdentity.deviceId = .ok FullHost.paired ∧
      s.registry.listControllerGrants.map (·.lastSuccessfulConnectionAtUnixMs) =
        [FullHost.input.nowUnixMs] ∧
      ∃ bytes, encodeFrame (handleFrame FullHost.setting FullHost.input FullHost.frame
        s).1.encode = .ok bytes := by
  have hload : load FullHost.setting.crypto.toCrypto decode noFaults (some FullHost.pairedFile)
      FullHost.setting.identity.deviceIdentity.deviceId = .ok FullHost.paired := by
    decide +kernel
  have hframe : validateCommonFrame FullHost.frame = .ok () := by decide
  refine ⟨hload, by decide +kernel, ?_⟩
  exact (responses_fit FullHost.setting hload _ FullHost.input hframe).mpr fun _ => by
    decide +kernel

end LocalService

end Host

end Roammand
