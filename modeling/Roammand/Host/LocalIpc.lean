import Roammand.Host.BridgeStatus
import Roammand.Host.GrantEnvelope
import Roammand.Host.PairingSnapshot
import Roammand.Protocol.Framing

/-!
# Local messages

A local client asks the Host over frames of limited size.  Here are the requests, the answers
with their encodings, and how long these are: every answer is short but the list of grants.

Main results:

- Definitions `LocalIpcClientFrame` and `LocalIpcServerFrame`.
- Theorem `length_encode_list`: how long the list of grants is.
- Theorem `encodeFrame_isOk`: a frame is written when its payload fits.
-/

namespace Roammand

namespace Host

open Library Protocol Protobuf List

/-! ## Requests -/

/-- What a local client asks for. -/
inductive LocalIpcClientPayload where
  | authenticate (clientNonce clientProof : Bytes)
  | getHostStatus
  | listControllerGrants
  | createControllerGrant (controller : Option DeviceIdentity) (permissions : List Int32)
  | signCanonicalTranscript (canonicalTranscript : Bytes)
  | revokeControllerGrant (grantId : Bytes)
  | signSessionOffer (canonicalTranscript : Bytes)
  | getRemoteSessionStatus
  | startHostQrPairing (signalingEndpoint : String)
  | startHostDesktopCodePairing (signalingEndpoint : String)
  | cancelHostPairing (rendezvousId : Bytes)
  | getHostPairingStatus
  | acceptHostPairing (rendezvousId controllerDeviceId : Bytes)
  | rejectHostPairing (rendezvousId controllerDeviceId : Bytes)
  | signPairingTranscript (canonicalTranscript : Bytes) (role : Int32)
  | emergencyStopRemoteSession
  deriving DecidableEq

/-- A request with its correlation data. -/
structure LocalIpcClientFrame where
  protocolVersion : Option ProtocolVersion
  requestId : String
  payload : Option LocalIpcClientPayload

/-- The errors of the local protocol that a request may meet. -/
inductive ProtocolError where
  | unsupportedVersion
  | invalidRequestId
  | missingPayload
  deriving DecidableEq

/-- What is asked of every request: a supported version, an identifier and a payload. -/
def validateCommonFrame (frame : LocalIpcClientFrame) : Except ProtocolError Unit := do
  let version ← okOr frame.protocolVersion .unsupportedVersion
  ensure (version.major = protocolMajorVersion ∧ version.minor = 0) .unsupportedVersion
  ensure (frame.requestId ≠ "" ∧ (utf8 frame.requestId).length ≤ maxRequestIdUtf8Bytes)
    .invalidRequestId
  ensure (frame.payload ≠ none) .missingPayload

/-! ## Answers -/

/-- The wire value of a session state. -/
def SessionState.toInt32 : SessionState → Int32
  | .unspecified => 0
  | .idle => 1
  | .signaling => 2
  | .authenticating => 3
  | .connecting => 4
  | .connected => 5
  | .reconnecting => 6
  | .failed => 7
  | .closing => 8

/-- The state of a remote session. -/
structure SessionStatus where
  sessionId : Bytes
  state : SessionState
  error : Option UnifiedError

/-- The remote session as a local client sees it. -/
structure RemoteSessionStatusSnapshot where
  sessionStatus : Option SessionStatus
  controllerDeviceId : Bytes

/-- The Host as a local client sees it. -/
structure HostStatus where
  identity : Option DeviceIdentity
  agentInstanceId : Bytes
  agentStartedAtUnixMs : UInt64
  controllerGrantCount : UInt32
  privilegedBridge : Option PrivilegedBridgeStatusSnapshot

/-- A signature of a transcript with the identity that has signed. -/
structure TranscriptSignature where
  deviceId : Bytes
  publicKey : Bytes
  signature : Bytes
  transcriptSha256 : Bytes

/-- What the Host answers. -/
inductive LocalIpcServerPayload where
  | hostStatus (status : HostStatus)
  | controllerGrantList (grants : List ControllerGrantView)
  | controllerGrantCreated (grant : Option ControllerGrantView)
  | canonicalTranscriptSignature (signature : TranscriptSignature)
  | controllerGrantRevoked (grantId : Bytes) (terminatedSessionCount : UInt32)
  | sessionOfferSignature (signature : TranscriptSignature)
  | remoteSessionStatus (snapshot : RemoteSessionStatusSnapshot)
  | error (unifiedError : UnifiedError)
  | hostPairingStatus (snapshot : HostPairingStatusSnapshot)
  | pairingTranscriptSignature (role : Int32) (signature : TranscriptSignature)
  | emergencyStopRemoteSessionResult (terminatedSessionCount : UInt32)

/-- An answer with its correlation data. -/
structure LocalIpcServerFrame where
  protocolVersion : Option ProtocolVersion
  requestId : String
  payload : Option LocalIpcServerPayload

/-! ## Encodings -/

/-- The wire value of a published pairing state. -/
def HostPairingState.toInt32 : HostPairingState → Int32
  | .unspecified => 0
  | .idle => 1
  | .creating => 2
  | .inviting => 3
  | .verifyingController => 4
  | .waitingLocalDecision => 5
  | .accepted => 6
  | .rejected => 7
  | .expired => 8
  | .cancelled => 9
  | .failed => 10

variable (number : Nat)

variable (value : Bool)

/-- A `bool` field, left out when false. -/
def boolField : List Field :=
  uint64Field number (if value then 1 else 0)

/-- The wire fields of the session of a Helper. -/
def descriptorFields (m : PrivilegedSessionDescriptor) : List Field :=
  enumField 1 m.platform ++ (uint64Field 2 (UInt64.ofNat m.osSessionId) ++
    (enumField 3 m.desktopKind ++ uint64Field 4 (UInt64.ofNat m.generation)))

/-- The wire fields of the details of an error. -/
def errorDetailsFields : ErrorDetails → List Field
  | .retryAfter retryAfterMs => messageField 10 (uint64Field 1 (UInt64.ofNat retryAfterMs))
  | .permission permission => messageField 11 (stringField 1 permission)
  | .codec supportedCodecs =>
    messageField 12 (supportedCodecs.map fun codec => ⟨1, .delimited (utf8 codec)⟩)
  | .transport transport => messageField 13 (stringField 1 transport)

/-- The wire fields of an error that is passed on. -/
def reportedErrorFields (m : ReportedError) : List Field :=
  enumField 1 m.code ++ (stringField 2 m.messageKey ++ (boolField 3 m.retryable ++
    (stringField 4 m.requestId ++ (m.details.map errorDetailsFields).getD [])))

/-- The wire fields of the status of the bridge. -/
def bridgeStatusFields (m : PrivilegedBridgeStatusSnapshot) : List Field :=
  enumField 1 m.state ++ (optionalMessageField 2 descriptorFields m.interactiveSession ++
    (boolField 3 m.helperConnected ++ (stringField 4 m.activeControllerDisplayName ++
      optionalMessageField 5 reportedErrorFields m.error)))

/-- The wire fields of the state of a session. -/
def SessionStatus.fields (m : SessionStatus) : List Field :=
  bytesField 1 m.sessionId ++ (enumField 2 (SessionState.toInt32 m.state) ++
    optionalMessageField 3 UnifiedError.fields m.error)

/-- The wire fields of the view of the remote session. -/
def RemoteSessionStatusSnapshot.fields (m : RemoteSessionStatusSnapshot) : List Field :=
  optionalMessageField 1 SessionStatus.fields m.sessionStatus ++ bytesField 2 m.controllerDeviceId

/-- The wire fields of the view of the Host. -/
def HostStatus.fields (m : HostStatus) : List Field :=
  optionalMessageField 1 DeviceIdentity.fields m.identity ++ (bytesField 2 m.agentInstanceId ++
    (uint64Field 3 m.agentStartedAtUnixMs ++ (uint64Field 4 m.controllerGrantCount.toUInt64 ++
      optionalMessageField 5 bridgeStatusFields m.privilegedBridge)))

/-- The wire fields of a signature, numbered from the given one on. -/
def TranscriptSignature.fields (m : TranscriptSignature) : List Field :=
  bytesField number m.deviceId ++ (bytesField (number + 1) m.publicKey ++
    (bytesField (number + 2) m.signature ++ bytesField (number + 3) m.transcriptSha256))

/-- The wire fields of the view of a pairing. -/
def HostPairingStatusSnapshot.fields (m : HostPairingStatusSnapshot) : List Field :=
  enumField 1 m.state.toInt32 ++ (uint64Field 2 m.revision ++
    (optionalMessageField 3 HostPairingInvitation.fields m.invitation ++
      (optionalMessageField 4 DeviceIdentity.fields m.pendingController ++
        (bytesField 5 m.pendingControllerFingerprintSha256 ++
          (m.sasWords.map (fun word => ⟨6, .delimited (utf8 word)⟩) ++
            (uint64Field 7 m.expiresAtUnixMs ++
              optionalMessageField 8 UnifiedError.fields m.error))))))

/-- The wire fields of the list of grants. -/
def grantListFields (grants : List ControllerGrantView) : List Field :=
  grants.flatMap fun view => messageField 1 view.fields

/-- The wire fields of an answer. -/
def LocalIpcServerPayload.fields : LocalIpcServerPayload → List Field
  | .hostStatus status => messageField 20 status.fields
  | .controllerGrantList grants => messageField 21 (grantListFields grants)
  | .controllerGrantCreated grant =>
    messageField 22 (optionalMessageField 1 ControllerGrantView.fields grant)
  | .canonicalTranscriptSignature signature => messageField 23 (signature.fields 1)
  | .controllerGrantRevoked grantId terminatedSessionCount =>
    messageField 24 (bytesField 1 grantId ++ uint64Field 2 terminatedSessionCount.toUInt64)
  | .sessionOfferSignature signature => messageField 25 (signature.fields 1)
  | .remoteSessionStatus snapshot => messageField 26 snapshot.fields
  | .error unifiedError => messageField 29 unifiedError.fields
  | .hostPairingStatus snapshot => messageField 30 snapshot.fields
  | .pairingTranscriptSignature role signature =>
    messageField 31 (enumField 1 role ++ signature.fields 2)
  | .emergencyStopRemoteSessionResult terminatedSessionCount =>
    messageField 33 (uint64Field 1 terminatedSessionCount.toUInt64)

/-- The wire fields of an answer with its correlation data. -/
def LocalIpcServerFrame.fields (m : LocalIpcServerFrame) : List Field :=
  optionalMessageField 1 ProtocolVersion.fields m.protocolVersion ++
    (stringField 2 m.requestId ++ (m.payload.map LocalIpcServerPayload.fields).getD [])

/-- The encoding of an answer. -/
def LocalIpcServerFrame.encode (m : LocalIpcServerFrame) : Bytes := encodeFields m.fields

/-! ## Short answers -/

theorem length_stringField_le (value : String) :
    (encodeFields (stringField number value)).length ≤ 20 + (utf8 value).length :=
  length_bytesField_le number (utf8 value)

theorem length_boolField_le :
    (encodeFields (boolField number value)).length ≤ 20 :=
  length_uint64Field_le number _

/-- A repeated text of short texts is short. -/
theorem length_texts_le (number bound : Nat) {values : List String}
    (h : ∀ value ∈ values, (utf8 value).length ≤ bound) :
    (encodeFields (values.map fun value => ⟨number, .delimited (utf8 value)⟩)).length ≤
      values.length * (20 + bound) := by
  induction values with
  | nil => exact Nat.zero_le _
  | cons value values ih =>
    obtain ⟨hvalue, hvalues⟩ := forall_mem_cons.mp h
    have hfirst := length_delimited_le number (utf8 value)
    have hrest := ih hvalues
    rw [map_cons, ← singleton_append, encodeFields_append, length_append, length_cons, Nat.succ_mul]
    omega

theorem length_error_le {m : UnifiedError} {bound : Nat}
    (h : (utf8 m.messageKey).length + (utf8 m.requestId).length ≤ bound) :
    (encodeFields m.fields).length ≤ 80 + bound := by
  have hcode := length_enumField_le 1 m.code.toInt32
  have hkey := length_stringField_le 2 m.messageKey
  have hretryable := length_uint64Field_le 3 (if m.retryable then 1 else 0)
  have hid := length_stringField_le 4 m.requestId
  simp only [UnifiedError.fields, encodeFields_append, length_append]
  omega

/-- A signature is short. -/
theorem length_signature_le {m : TranscriptSignature}
    (hid : m.deviceId.length ≤ 32) (hkey : m.publicKey.length ≤ 32)
    (hsignature : m.signature.length ≤ 64) (hhash : m.transcriptSha256.length ≤ 32) :
    (encodeFields (m.fields number)).length ≤ 240 := by
  have h1 := length_bytesField_le number m.deviceId
  have h2 := length_bytesField_le (number + 1) m.publicKey
  have h3 := length_bytesField_le (number + 2) m.signature
  have h4 := length_bytesField_le (number + 3) m.transcriptSha256
  simp only [TranscriptSignature.fields, encodeFields_append, length_append]
  omega

/-- The view of a session with a short error is short. -/
theorem length_remoteStatus_le {m : RemoteSessionStatusSnapshot}
    (hstatus : ∀ status, m.sessionStatus = some status → status.sessionId.length ≤ 16 ∧
      ∀ error, status.error = some error →
        (utf8 error.messageKey).length + (utf8 error.requestId).length ≤ 192)
    (hid : m.controllerDeviceId.length ≤ 32) : (encodeFields m.fields).length ≤ 500 := by
  have hcontroller := length_bytesField_le 2 m.controllerDeviceId
  have hsession : (encodeFields
      (optionalMessageField 1 SessionStatus.fields m.sessionStatus)).length ≤ 20 + 380 := by
    refine length_optionalMessageField_le 1 SessionStatus.fields _ _ fun status hsome => ?_
    obtain ⟨hsessionId, herror⟩ := hstatus status hsome
    have h1 := length_bytesField_le 1 status.sessionId
    have h2 := length_enumField_le 2 (SessionState.toInt32 status.state)
    have h3 := length_optionalMessageField_le 3 UnifiedError.fields status.error _
      fun error hsome => length_error_le (herror error hsome)
    simp only [SessionStatus.fields, encodeFields_append, length_append]
    omega
  rw [RemoteSessionStatusSnapshot.fields, encodeFields_append, length_append]
  omega

/-- The view of a bridge without an error is short. -/
theorem length_bridgeStatus_le {m : PrivilegedBridgeStatusSnapshot}
    (hname : (utf8 m.activeControllerDisplayName).length ≤ maxDeviceNameUtf8Bytes)
    (herror : m.error = none) : (encodeFields (bridgeStatusFields m)).length ≤ 300 := by
  have h1 := length_enumField_le 1 m.state
  have hdescriptor : ∀ session, m.interactiveSession = some session →
      (encodeFields (descriptorFields session)).length ≤ 80 := by
    intro session _
    have h1 := length_enumField_le 1 session.platform
    have h2 := length_uint64Field_le 2 (UInt64.ofNat session.osSessionId)
    have h3 := length_enumField_le 3 session.desktopKind
    have h4 := length_uint64Field_le 4 (UInt64.ofNat session.generation)
    simp only [descriptorFields, encodeFields_append, length_append]
    omega
  have h2 := length_optionalMessageField_le 2 descriptorFields m.interactiveSession _ hdescriptor
  have h3 := length_boolField_le 3 m.helperConnected
  have h4 := length_stringField_le 4 m.activeControllerDisplayName
  rw [maxDeviceNameUtf8Bytes] at hname
  simp only [bridgeStatusFields, herror, optionalMessageField, encodeFields_append,
    length_append] at h2 ⊢
  simp only [encodeFields, flatMap_nil, length_nil] at h1 h2 h3 h4 ⊢
  omega

theorem length_hostStatus_le {m : HostStatus}
    (hidentity : ∀ identity, m.identity = some identity →
      validateDeviceIdentity identity = .ok ())
    (hinstance : m.agentInstanceId.length ≤ 16)
    (hbridge : ∀ status, m.privilegedBridge = some status →
      (encodeFields (bridgeStatusFields status)).length ≤ 300) :
    (encodeFields m.fields).length ≤ 1000 := by
  have h1 := length_optionalMessageField_le 1 DeviceIdentity.fields m.identity _
    fun identity hsome => length_encode_identity_le (hidentity identity hsome)
  have h2 := length_bytesField_le 2 m.agentInstanceId
  have h3 := length_uint64Field_le 3 m.agentStartedAtUnixMs
  have h4 := length_uint64Field_le 4 m.controllerGrantCount.toUInt64
  have h5 := length_optionalMessageField_le 5 bridgeStatusFields m.privilegedBridge _ hbridge
  simp only [HostStatus.fields, encodeFields_append, length_append]
  omega

/-! ## The frame of an answer -/

/-- A payload is written when it is not empty and within the limit. -/
theorem encodeFrame_isOk {payload : Bytes} :
    (∃ frame, encodeFrame payload = .ok frame) ↔
      payload ≠ [] ∧ payload.length ≤ maxLocalIpcFrameBytes := by
  unfold encodeFrame encodeFrameWithLimit validateLimit validateFrameLength
  rw [if_neg (by decide)]
  constructor
  · rintro ⟨frame, h⟩
    obtain ⟨_, -, h⟩ := bind_eq_ok.mp h
    obtain ⟨_, hlength, -⟩ := bind_eq_ok.mp h
    split_ifs at hlength with hempty hlarge
    exact ⟨fun hnil => hempty (length_eq_zero_iff.mpr hnil), Nat.le_of_not_lt hlarge⟩
  · rintro ⟨hne, hle⟩
    have hempty : ¬ payload.length = 0 := fun hzero => hne (length_eq_zero_iff.mp hzero)
    have hshort : ¬ u32Max < payload.length := by
      rw [maxLocalIpcFrameBytes] at hle
      unfold u32Max
      omega
    rw [if_neg hempty, if_neg (Nat.not_lt.mpr hle), if_neg hshort]
    exact ⟨_, rfl⟩

theorem length_varint64_of_lt {n : Nat} (h : n < 128) : (varint64 n).length = 1 := by
  unfold varint64 varint
  rw [if_pos h]
  rfl

/-- How many bytes hold a length, as far as the limit is concerned. -/
theorem length_varint64_of_large {n : Nat} (hlow : 16384 ≤ n) (hhigh : n < 2097152) :
    (varint64 n).length = 3 := by
  unfold varint64 varint
  rw [if_neg (by omega)]
  unfold varint
  rw [if_neg (by omega)]
  unfold varint
  rw [if_pos (by omega)]
  rfl

/-- The version with which the Host answers. -/
def answerVersion : ProtocolVersion where
  major := protocolMajorVersion
  minor := 0

/-- The length of an answer with a list of grants. -/
theorem length_encode_list (requestId : String) (grants : List ControllerGrantView)
    (hid : requestId ≠ "") (hlength : (utf8 requestId).length ≤ maxRequestIdUtf8Bytes) :
    (LocalIpcServerFrame.encode
      { protocolVersion := some answerVersion, requestId
        payload := some (.controllerGrantList grants) }).length =
      8 + (utf8 requestId).length +
        (varint64 (encodeFields (grantListFields grants)).length).length +
          (encodeFields (grantListFields grants)).length := by
  have hversion : (encodeFields (optionalMessageField 1 ProtocolVersion.fields
      (some answerVersion))).length = 4 := by decide
  have hnonempty : utf8 requestId ≠ [] := fun hnil =>
    hid (utf8_injective (hnil.trans (by decide)))
  have hrequest : (encodeFields (stringField 2 requestId)).length =
      2 + (utf8 requestId).length := by
    have hshort : (utf8 requestId).length < 128 := lt_of_le_of_lt hlength (by decide)
    have hkey : (varint64 (2 * 8 + 2)).length = 1 := by decide
    rw [stringField, bytesField, if_neg hnonempty]
    simp only [encodeFields, flatMap_singleton, Field.encode, length_append, hkey,
      length_varint64_of_lt hshort]
  have hkey : (varint64 (21 * 8 + 2)).length = 2 := by decide
  simp only [LocalIpcServerFrame.encode, LocalIpcServerFrame.fields, encodeFields_append,
    length_append, hversion, hrequest, Option.map_some, Option.getD_some,
    LocalIpcServerPayload.fields, messageField]
  simp only [encodeFields, flatMap_singleton, Field.encode, length_append, hkey]
  omega

/-- An answer is as long as its payload but for a few bytes. -/
theorem length_encode_serverFrame_le {requestId : String} (payload : LocalIpcServerPayload)
    (hlength : (utf8 requestId).length ≤ maxRequestIdUtf8Bytes) :
    (LocalIpcServerFrame.encode
      { protocolVersion := some answerVersion, requestId, payload := some payload }).length ≤
      144 + (encodeFields payload.fields).length := by
  have hversion := length_optionalMessageField_le 1 ProtocolVersion.fields
    (some answerVersion) _ fun version _ => length_version_le version
  have hid := length_stringField_le 2 requestId
  have hbound : (utf8 requestId).length ≤ 64 := hlength
  simp only [LocalIpcServerFrame.encode, LocalIpcServerFrame.fields, encodeFields_append,
    length_append, Option.map_some, Option.getD_some]
  omega

end Host

end Roammand
