import Roammand.Protocol.Pairing
import Roammand.Protocol.Signaling

/-!
# Messages of the privileged bridge

The Host, the broker and the session Helper talk in typed frames.  A client frame
carries one request, a server frame one answer or one event.  Every message of an
active lease names that lease and the generation of the desktop it was granted
for.  Identifiers arrive as byte strings of any length and are checked by the
validators, counters are natural numbers.

Main results:

- Definitions `PrivilegedBridgeClientFrame` and `PrivilegedBridgeServerFrame`.
- Definition `validatePrivilegedBridgeClientFrame`: what the wire boundary of the
  broker lets through.
- Definition `validatePrivilegedBridgeStatusSnapshot`: which fields fit which state of the
  bridge.
-/

namespace Roammand

namespace Protocol

open Library

/-! ## Limits -/

/-- Length of a lease identifier. -/
def privilegedLeaseIdBytes : Nat := 16

/-- Length of a nonce of the bridge handshake. -/
def privilegedBridgeNonceBytes : Nat := 32

/-- Length of a proof of the bridge handshake. -/
def privilegedBridgeProofBytes : Nat := 32

/-- Length of the hash of an executable. -/
def executableSha256Bytes : Nat := 32

/-- The most ICE servers of a peer configuration. -/
def maxPrivilegedIceServers : Nat := 8

/-- The most addresses of one ICE server. -/
def maxPrivilegedIceUrlsPerServer : Nat := 16

/-- The longest address of a server, in UTF-8 bytes. -/
def maxSignalingEndpointUtf8Bytes : Nat := 2048

/-- The longest detail of an error, in UTF-8 bytes; credentials share the bound. -/
def maxErrorDetailUtf8Bytes : Nat := 256

/-- The longest key of an error's message, in UTF-8 bytes. -/
def maxMessageKeyUtf8Bytes : Nat := 128

/-- The longest session description, in UTF-8 bytes. -/
def maxSdpUtf8Bytes : Nat := 131072

/-- The longest ICE candidate, in UTF-8 bytes. -/
def maxIceCandidateUtf8Bytes : Nat := 4096

/-- The longest media identifier of a candidate, in UTF-8 bytes. -/
def maxSdpMidUtf8Bytes : Nat := 64

/-- The longest text of one input command, in UTF-8 bytes. -/
def maxTextInputUtf8Bytes : Nat := 4096

/-! ## Messages -/

/-- The desktop session that a Helper serves. -/
structure PrivilegedSessionDescriptor where
  platform : Int32
  osSessionId : Nat
  desktopKind : Int32
  generation : Nat

/-- The proof with which a process introduces itself to the broker. -/
structure PrivilegedBridgeAuthenticate where
  role : Int32
  clientNonce : Bytes
  clientProof : Bytes
  executableSha256 : Bytes
  osSessionId : Nat

/-- The Host asks for a lease. -/
structure AcquirePrivilegedLeaseRequest where
  sessionId : Bytes
  generation : Nat
  permissions : List Int32
  controllerDisplayName : String

/-- An ICE server with its credentials. -/
structure PrivilegedIceServer where
  urls : List String
  username : String
  credential : String

/-- The configuration of the peer connection. -/
structure PrivilegedPeerConfiguration where
  iceTransportPolicy : Int32
  iceServers : List PrivilegedIceServer

/-- The Host starts or restarts the peer of its lease. -/
structure PrivilegedPeerRequest where
  leaseId : Bytes
  generation : Nat
  configuration : Option PrivilegedPeerConfiguration
  offer : Option WebRtcSessionDescription
  controllerDisplayName : String

/-- One typed input operation. -/
inductive PrivilegedInput where
  | pointerButton (button action x y : Int32)
  | keyboard (action : Int32) (usbHidUsage modifierBits : UInt32)
  | text (text : String)
  | pointerMove (x y : Int32) (pressedButtonBits : UInt32)
  | pointerScroll (deltaX deltaY : Int32)
  | releaseAll

/-- The requests of a client frame. -/
inductive PrivilegedClientPayload where
  | authenticate (value : PrivilegedBridgeAuthenticate)
  | registerHelper (session : Option PrivilegedSessionDescriptor)
  | acquireLease (value : AcquirePrivilegedLeaseRequest)
  | renewLease (leaseId : Bytes) (generation : Nat)
  | releaseLease (leaseId : Bytes) (generation : Nat)
  | startPeer (value : PrivilegedPeerRequest)
  | restartPeer (value : PrivilegedPeerRequest)
  | addIceCandidate (leaseId : Bytes) (generation : Nat) (candidate : Option IceCandidate)
  | sendSecureAttention (leaseId : Bytes) (generation : Nat)
  | inputCommand (leaseId : Bytes) (generation : Nat) (input : Option PrivilegedInput)
  | closePeer (leaseId : Bytes) (generation : Nat)

/-- A request with its correlation data. -/
structure PrivilegedBridgeClientFrame where
  protocolVersion : Option ProtocolVersion
  requestId : String
  sequence : Nat
  payload : Option PrivilegedClientPayload

/-- A granted lease as the Host is told. -/
structure PrivilegedLease where
  leaseId : Bytes
  generation : Nat
  issuedAtUnixMs : Nat
  expiresAtUnixMs : Nat
  sessionId : Bytes
  permissions : List Int32
  controllerDisplayName : String

/-- What an error says about its cause. -/
inductive ErrorDetails where
  | retryAfter (retryAfterMs : Nat)
  | permission (permission : String)
  | codec (supportedCodecs : List String)
  | transport (transport : String)

/-- An error as it arrives, with a code that need not be a known one. -/
structure ReportedError where
  code : Int32
  messageKey : String
  retryable : Bool
  requestId : String
  details : Option ErrorDetails

/-- The states of the bridge. -/
inductive PrivilegedBridgeState where
  | unspecified
  | notInstalled
  | approvalRequired
  | permissionRequired
  | userSessionOnly
  | ready
  | transitioning
  | controlled
  | failed
  deriving DecidableEq

namespace PrivilegedBridgeState

/-- The wire value of a state. -/
def toInt32 : PrivilegedBridgeState → Int32
  | .unspecified => 0
  | .notInstalled => 1
  | .approvalRequired => 2
  | .permissionRequired => 3
  | .userSessionOnly => 4
  | .ready => 5
  | .transitioning => 6
  | .controlled => 7
  | .failed => 8

/-- All states. -/
def all : List PrivilegedBridgeState :=
  [.unspecified, .notInstalled, .approvalRequired, .permissionRequired, .userSessionOnly,
    .ready, .transitioning, .controlled, .failed]

/-- The state of a wire value. -/
def ofInt32? (value : Int32) : Option PrivilegedBridgeState :=
  all.find? fun state => state.toInt32 = value

theorem ofInt32?_eq_some {value : Int32} {state : PrivilegedBridgeState} :
    ofInt32? value = some state ↔ value = state.toInt32 := by
  constructor
  · intro h
    have hfound := List.find?_some h
    exact (of_decide_eq_true hfound).symm
  · rintro rfl
    cases state <;> decide

end PrivilegedBridgeState

/-- The state of the bridge as it is shown. -/
structure PrivilegedBridgeStatusSnapshot where
  state : Int32
  interactiveSession : Option PrivilegedSessionDescriptor
  helperConnected : Bool
  activeControllerDisplayName : String
  error : Option ReportedError

/-- The answers and events of a server frame. -/
inductive PrivilegedServerPayload where
  | challenge (brokerInstanceId serverNonce : Bytes)
  | authenticated (serverProof : Bytes)
  | helperRegistered (session : Option PrivilegedSessionDescriptor)
  | status (value : PrivilegedBridgeStatusSnapshot)
  | lease (value : PrivilegedLease)
  | peerAnswer (leaseId : Bytes) (generation : Nat) (answer : Option WebRtcSessionDescription)
  | localIceCandidate (leaseId : Bytes) (generation : Nat) (candidate : Option IceCandidate)
  | peerStateChanged (leaseId : Bytes) (generation : Nat) (state : Int32)
  | reliableInput (leaseId : Bytes) (generation : Nat) (encodedEnvelope : Bytes)
  | fastPointer (leaseId : Bytes) (generation : Nat) (encodedEnvelope : Bytes)
  | commandAccepted (leaseId : Bytes) (generation : Nat)
  | error (value : UnifiedError)

/-- An answer or an event with its correlation data. -/
structure PrivilegedBridgeServerFrame where
  protocolVersion : Option ProtocolVersion
  requestId : String
  sequence : Nat
  payload : Option PrivilegedServerPayload

/-! ## Which lease a message is about -/

/-- The lease that a request is about. -/
def PrivilegedClientPayload.leaseRef : PrivilegedClientPayload → Option (Bytes × Nat)
  | .authenticate _ | .registerHelper _ | .acquireLease _ => none
  | .renewLease leaseId generation => some (leaseId, generation)
  | .releaseLease leaseId generation => some (leaseId, generation)
  | .startPeer value => some (value.leaseId, value.generation)
  | .restartPeer value => some (value.leaseId, value.generation)
  | .addIceCandidate leaseId generation _ => some (leaseId, generation)
  | .sendSecureAttention leaseId generation => some (leaseId, generation)
  | .inputCommand leaseId generation _ => some (leaseId, generation)
  | .closePeer leaseId generation => some (leaseId, generation)

/-- The lease that an answer or an event is about. -/
def PrivilegedServerPayload.leaseRef : PrivilegedServerPayload → Option (Bytes × Nat)
  | .challenge .. | .authenticated _ | .helperRegistered _ | .status _ | .error _ => none
  | .lease value => some (value.leaseId, value.generation)
  | .peerAnswer leaseId generation _ => some (leaseId, generation)
  | .localIceCandidate leaseId generation _ => some (leaseId, generation)
  | .peerStateChanged leaseId generation _ => some (leaseId, generation)
  | .reliableInput leaseId generation _ => some (leaseId, generation)
  | .fastPointer leaseId generation _ => some (leaseId, generation)
  | .commandAccepted leaseId generation => some (leaseId, generation)

/-- The request drives the desktop: input and secure attention. -/
def PrivilegedClientPayload.drives : PrivilegedClientPayload → Bool
  | .sendSecureAttention .. | .inputCommand .. => true
  | _ => false

/-! ## Validation -/

/-- The version is one this side speaks. -/
def validateProtocolVersion (version : Option ProtocolVersion) : Except ValidationError Unit :=
  match version with
  | none => .error .invalidProtocolVersion
  | some version => ensure (version.major = 1) .invalidProtocolVersion

/-- A bounded text field that is not empty. -/
def validateNonemptyUtf8Length (value : String) (maximum : Nat) :
    Except ValidationError Unit := do
  ensure (value ≠ "") .invalidLength
  validateUtf8Length value maximum

variable (leaseId : Bytes) (generation : Nat)

/-- A generation is positive. -/
def validateGeneration : Except ValidationError Unit :=
  ensure (generation ≠ 0) .invalidState

/-- A wire value of an enumeration with the values 1 to `last`. -/
def validateNonzeroEnum (value : Int32) (last : Int32) : Except ValidationError Unit :=
  ensure (1 ≤ value ∧ value ≤ last) .invalidEnum

/-- Permissions are specified and none is listed twice. -/
def validateWirePermissions : List Int32 → List Int32 → Except ValidationError Unit
  | _, [] => .ok ()
  | seen, value :: rest => do
    validateNonzeroEnum value 2
    ensure (value ∉ seen) .duplicateValue
    validateWirePermissions (value :: seen) rest

/-- A lease reference has the form of one. -/
def validatePrivilegedLeaseRef :
    Except ValidationError Unit := do
  validateLength leaseId privilegedLeaseIdBytes
  validateGeneration generation

/-- The session of a Helper is one of Windows or macOS. -/
def validatePrivilegedSessionDescriptor (descriptor : PrivilegedSessionDescriptor) :
    Except ValidationError Unit := do
  ensure (descriptor.platform = 3 ∨ descriptor.platform = 4) .invalidEnum
  validateNonzeroEnum descriptor.desktopKind 4
  ensure (descriptor.osSessionId ≠ 0 ∧ descriptor.generation ≠ 0) .invalidState

/-- The texts of an error's details are bounded. -/
def validateErrorDetails : ErrorDetails → Except ValidationError Unit
  | .retryAfter _ => .ok ()
  | .permission permission => validateUtf8Length permission maxErrorDetailUtf8Bytes
  | .codec supportedCodecs =>
    supportedCodecs.forM fun codec => validateUtf8Length codec maxErrorDetailUtf8Bytes
  | .transport transport => validateUtf8Length transport maxErrorDetailUtf8Bytes

/-- An error has a known code and bounded texts. -/
def validateUnifiedError (error : ReportedError) : Except ValidationError Unit := do
  validateNonzeroEnum error.code 25
  validateUtf8Length error.messageKey maxMessageKeyUtf8Bytes
  validateUtf8Length error.requestId maxRequestIdUtf8Bytes
  error.details.forM validateErrorDetails

/-- The fields of a status fit its state. -/
def validatePrivilegedBridgeStatusSnapshot (snapshot : PrivilegedBridgeStatusSnapshot) :
    Except ValidationError Unit := do
  let state ← okOr (PrivilegedBridgeState.ofInt32? snapshot.state) .invalidEnum
  ensure (state ≠ .unspecified) .invalidEnum
  validateUtf8Length snapshot.activeControllerDisplayName maxDeviceNameUtf8Bytes
  match state with
  | .notInstalled | .approvalRequired | .permissionRequired | .userSessionOnly =>
    ensure (snapshot.interactiveSession = none ∧ snapshot.helperConnected = false ∧
      snapshot.activeControllerDisplayName = "" ∧ snapshot.error = none) .invalidState
  | .ready => do
    let session ← okOr snapshot.interactiveSession .missingPayload
    validatePrivilegedSessionDescriptor session
    ensure (snapshot.helperConnected = true ∧ snapshot.activeControllerDisplayName = "" ∧
      snapshot.error = none) .invalidState
  | .transitioning => do
    snapshot.interactiveSession.forM validatePrivilegedSessionDescriptor
    ensure (snapshot.error = none) .invalidState
  | .controlled => do
    let session ← okOr snapshot.interactiveSession .missingPayload
    validatePrivilegedSessionDescriptor session
    ensure (snapshot.helperConnected = true ∧ snapshot.activeControllerDisplayName ≠ "" ∧
      snapshot.error = none) .invalidState
  | .failed => do
    ensure (snapshot.helperConnected = false ∧ snapshot.activeControllerDisplayName = "")
      .invalidState
    let error ← okOr snapshot.error .missingPayload
    validateUnifiedError error
  | .unspecified => .error .invalidEnum

/-- An ICE server has addresses, and all its texts are bounded. -/
def validatePrivilegedIceServer (server : PrivilegedIceServer) : Except ValidationError Unit := do
  ensure (server.urls ≠ [] ∧ server.urls.length ≤ maxPrivilegedIceUrlsPerServer) .invalidLength
  server.urls.forM fun url => validateNonemptyUtf8Length url maxSignalingEndpointUtf8Bytes
  validateUtf8Length server.username maxErrorDetailUtf8Bytes
  validateUtf8Length server.credential maxErrorDetailUtf8Bytes

/-- The configuration names a policy and boundedly many servers. -/
def validatePrivilegedPeerConfiguration (configuration : PrivilegedPeerConfiguration) :
    Except ValidationError Unit := do
  validateNonzeroEnum configuration.iceTransportPolicy 2
  ensure (configuration.iceServers.length ≤ maxPrivilegedIceServers) .invalidLength
  configuration.iceServers.forM validatePrivilegedIceServer

/-- A description of the expected kind with a fingerprint. -/
def validateSessionDescription (description : WebRtcSessionDescription) (expectedType : Int32) :
    Except ValidationError Unit := do
  ensure (description.type = expectedType) .invalidState
  validateNonemptyUtf8Length description.sdp maxSdpUtf8Bytes
  validateLength description.dtlsFingerprintSha256 nonceOrHashBytes

/-- A candidate is bounded and not empty. -/
def validateIceCandidate (candidate : IceCandidate) : Except ValidationError Unit := do
  validateNonemptyUtf8Length candidate.candidate maxIceCandidateUtf8Bytes
  validateUtf8Length candidate.sdpMid maxSdpMidUtf8Bytes

/-- A start or restart of the peer. -/
def validatePrivilegedPeerRequest (value : PrivilegedPeerRequest) :
    Except ValidationError Unit := do
  validatePrivilegedLeaseRef value.leaseId value.generation
  let configuration ← okOr value.configuration .missingPayload
  validatePrivilegedPeerConfiguration configuration
  validateNonemptyUtf8Length value.controllerDisplayName maxDeviceNameUtf8Bytes
  let offer ← okOr value.offer .missingPayload
  validateSessionDescription offer sessionDescriptionTypeOffer

/-- An input command. -/
def validatePrivilegedInputCommand
    (input : Option PrivilegedInput) : Except ValidationError Unit := do
  validatePrivilegedLeaseRef leaseId generation
  let input ← okOr input .missingPayload
  match input with
  | .pointerButton button action _ _ => do
    validateNonzeroEnum button 3
    validateNonzeroEnum action 4
  | .keyboard action _ _ => validateNonzeroEnum action 2
  | .text text => validateUtf8Length text maxTextInputUtf8Bytes
  | .pointerMove .. | .pointerScroll .. | .releaseAll => .ok ()

/-- A request whose fields are in range. -/
def validatePrivilegedBridgeClientPayload :
    PrivilegedClientPayload → Except ValidationError Unit
  | .authenticate value => do
    validateNonzeroEnum value.role 2
    validateLength value.clientNonce privilegedBridgeNonceBytes
    validateLength value.clientProof privilegedBridgeProofBytes
    validateLength value.executableSha256 executableSha256Bytes
    ensure (value.osSessionId ≠ 0) .invalidState
  | .registerHelper session => do
    let session ← okOr session .missingPayload
    validatePrivilegedSessionDescriptor session
  | .acquireLease value => do
    validateLength value.sessionId sessionIdBytes
    validateGeneration value.generation
    validateWirePermissions [] value.permissions
    validateNonemptyUtf8Length value.controllerDisplayName maxDeviceNameUtf8Bytes
  | .renewLease leaseId generation => validatePrivilegedLeaseRef leaseId generation
  | .releaseLease leaseId generation => validatePrivilegedLeaseRef leaseId generation
  | .startPeer value => validatePrivilegedPeerRequest value
  | .restartPeer value => validatePrivilegedPeerRequest value
  | .addIceCandidate leaseId generation candidate => do
    validatePrivilegedLeaseRef leaseId generation
    let candidate ← okOr candidate .missingPayload
    validateIceCandidate candidate
  | .sendSecureAttention leaseId generation => validatePrivilegedLeaseRef leaseId generation
  | .inputCommand leaseId generation input =>
    validatePrivilegedInputCommand leaseId generation input
  | .closePeer leaseId generation => validatePrivilegedLeaseRef leaseId generation

/-- A client frame that the wire boundary lets through. -/
def validatePrivilegedBridgeClientFrame (frame : PrivilegedBridgeClientFrame) :
    Except ValidationError Unit := do
  validateProtocolVersion frame.protocolVersion
  validateUtf8Length frame.requestId maxRequestIdUtf8Bytes
  ensure (frame.sequence ≠ 0) .invalidState
  let payload ← okOr frame.payload .missingPayload
  validatePrivilegedBridgeClientPayload payload

end Protocol

end Roammand
