import Roammand.Protocol.Messages

/-!
# Session messages between controller and Host

The messages that a controller and the Host exchange through the signaling
service to set up a remote session, and to set it up again after a loss.

Main results:

- Definition `SignalingEnvelope` with its payloads and its wire encoding.
- Theorem `length_encode_envelope_le`: how long the encoding can get.
-/

namespace Roammand

namespace Protocol

open Library

/-- Largest envelope that the signaling service forwards, in bytes. -/
def maxOpaqueSignalingEnvelopeBytes : Nat := 262144

/-- The longest request identifier, in UTF-8 bytes. -/
def maxRequestIdUtf8Bytes : Nat := 64

/-- The error codes of the protocol. -/
inductive ErrorCode where
  | unspecified
  | pairingCodeExpired
  | pairingRateLimited
  | pairingRejected
  | deviceOffline
  | deviceBusy
  | authInvalid
  | authRevoked
  | sessionReplayed
  | iceFailed
  | turnUnavailable
  | codecNegotiationFailed
  | capturePermissionRequired
  | inputPermissionRequired
  | captureFailed
  | inputInjectionFailed
  | appMovedToBackground
  | invalidRequest
  | protocolUnsupported
  | messageTooLarge
  | serverUnavailable
  | privilegedBridgeUnavailable
  | privilegedClientUntrusted
  | privilegedLeaseExpired
  | secureAttentionUnavailable
  | localEmergencyStop
  deriving DecidableEq

/-- An error as it is sent. -/
structure UnifiedError where
  code : ErrorCode
  messageKey : String
  retryable : Bool
  requestId : String
  deriving DecidableEq

/-- The states of a session as they are published. -/
inductive SessionState where
  | unspecified
  | idle
  | signaling
  | authenticating
  | connecting
  | connected
  | reconnecting
  | failed
  | closing
  deriving DecidableEq

/-- The value of a closing session on the wire. -/
def sessionStateClosing : Int32 := 8

/-- The Host's signed answer to an offer. -/
structure SessionAnswerAuthentication where
  controllerDeviceId : Bytes
  hostDeviceId : Bytes
  sessionId : Bytes
  nonce : Bytes
  issuedAtUnixMs : UInt64
  expiresAtUnixMs : UInt64
  requestedPermissions : List Int32
  offerSha256 : Bytes
  controllerDtlsFingerprintSha256 : Bytes
  answerSha256 : Bytes
  hostDtlsFingerprintSha256 : Bytes
  signature : Bytes
  deriving DecidableEq

/-- The Host's signed answer to an offer for a session that is already there. -/
structure SessionReconnectAuthentication where
  controllerDeviceId : Bytes
  hostDeviceId : Bytes
  sessionId : Bytes
  nonce : Bytes
  issuedAtUnixMs : UInt64
  expiresAtUnixMs : UInt64
  requestedPermissions : List Int32
  offerSha256 : Bytes
  controllerDtlsFingerprintSha256 : Bytes
  answerSha256 : Bytes
  hostDtlsFingerprintSha256 : Bytes
  reconnectGeneration : UInt32
  signature : Bytes
  deriving DecidableEq

/-- The authentication messages of a session. -/
inductive SessionAuthentication where
  | offer (offer : SessionOfferAuthentication)
  | answer (answer : SessionAnswerAuthentication)
  | reconnect (reconnect : SessionReconnectAuthentication)
  deriving DecidableEq

/-- The value of an offer among the kinds of descriptions. -/
def sessionDescriptionTypeOffer : Int32 := 1

/-- The value of an answer among the kinds of descriptions. -/
def sessionDescriptionTypeAnswer : Int32 := 2

/-- A description of one side of the peer connection. -/
structure WebRtcSessionDescription where
  type : Int32
  sdp : String
  dtlsFingerprintSha256 : Bytes
  deriving DecidableEq

/-- A candidate address of one side. -/
structure IceCandidate where
  candidate : String
  sdpMid : String
  sdpMLineIndex : UInt32
  deriving DecidableEq

/-- The messages that negotiate the peer connection. -/
inductive NegotiationPayload where
  | description (description : WebRtcSessionDescription)
  | iceCandidate (candidate : IceCandidate)
  | endOfCandidates
  deriving DecidableEq

/-- A negotiation message of one session. -/
structure WebRtcNegotiation where
  sessionId : Bytes
  payload : Option NegotiationPayload
  deriving DecidableEq

/-- The published state of a session. -/
structure SessionStatus where
  sessionId : Bytes
  state : Int32
  deriving DecidableEq

/-- What an envelope carries.  The payloads that a session does not use are one
case. -/
inductive SignalingPayload where
  | sessionAuthentication (payload : Option SessionAuthentication)
  | webrtcNegotiation (negotiation : WebRtcNegotiation)
  | sessionStatus (status : SessionStatus)
  | error (error : UnifiedError)
  | other
  deriving DecidableEq

/-- An envelope from one device to another. -/
structure SignalingEnvelope where
  senderDeviceId : Bytes
  recipientDeviceId : Bytes
  requestId : String
  sentAtUnixMs : UInt64
  payload : Option SignalingPayload
  deriving DecidableEq

variable (envelope : SignalingEnvelope)

/-- The fields that an envelope has whatever it carries. -/
def validateEnvelopeFields : Except ValidationError Unit := do
  validateLength envelope.senderDeviceId deviceIdBytes
  validateLength envelope.recipientDeviceId deviceIdBytes
  validateUtf8Length envelope.requestId maxRequestIdUtf8Bytes

theorem validateEnvelopeFields_eq_ok {envelope : SignalingEnvelope} :
    validateEnvelopeFields envelope = .ok () ↔
      envelope.senderDeviceId.length = deviceIdBytes ∧
      envelope.recipientDeviceId.length = deviceIdBytes ∧
      (utf8 envelope.requestId).length ≤ maxRequestIdUtf8Bytes := by
  unfold validateEnvelopeFields validateLength validateUtf8Length
  simp only [bind_eq_ok, ensure_eq_ok, exists_and_left, exists_const]

/-! ## Wire encodings -/

open Protobuf

/-- The error codes in the order of their wire values. -/
def ErrorCode.values : List ErrorCode :=
  [.unspecified, .pairingCodeExpired, .pairingRateLimited, .pairingRejected, .deviceOffline,
    .deviceBusy, .authInvalid, .authRevoked, .sessionReplayed, .iceFailed, .turnUnavailable,
    .codecNegotiationFailed, .capturePermissionRequired, .inputPermissionRequired,
    .captureFailed, .inputInjectionFailed, .appMovedToBackground, .invalidRequest,
    .protocolUnsupported, .messageTooLarge, .serverUnavailable, .privilegedBridgeUnavailable,
    .privilegedClientUntrusted, .privilegedLeaseExpired, .secureAttentionUnavailable,
    .localEmergencyStop]

/-- The error code of a wire value. -/
def ErrorCode.ofInt32? (value : Int32) : Option ErrorCode :=
  if 0 ≤ value then values[value.toInt.toNat]? else none

/-- The wire value of an error code. -/
def ErrorCode.toInt32 (code : ErrorCode) : Int32 := Int32.ofNat (values.idxOf code)

/-- The wire fields of an error. -/
def UnifiedError.fields (m : UnifiedError) : List Field :=
  enumField 1 m.code.toInt32 ++ (stringField 2 m.messageKey ++
    (uint64Field 3 (if m.retryable then 1 else 0) ++ stringField 4 m.requestId))

/-- The wire fields of an offer. -/
def SessionOfferAuthentication.fields (m : SessionOfferAuthentication) : List Field :=
  bytesField 1 m.controllerDeviceId ++ (bytesField 2 m.hostDeviceId ++
    (bytesField 3 m.sessionId ++ (bytesField 4 m.nonce ++ (uint64Field 5 m.issuedAtUnixMs ++
      (uint64Field 6 m.expiresAtUnixMs ++ (packedEnumField 7 m.requestedPermissions ++
        (bytesField 8 m.offerSha256 ++ (bytesField 9 m.controllerDtlsFingerprintSha256 ++
          bytesField 10 m.signature))))))))

/-- The wire fields of an answer. -/
def SessionAnswerAuthentication.fields (m : SessionAnswerAuthentication) : List Field :=
  bytesField 1 m.controllerDeviceId ++ (bytesField 2 m.hostDeviceId ++
    (bytesField 3 m.sessionId ++ (bytesField 4 m.nonce ++ (uint64Field 5 m.issuedAtUnixMs ++
      (uint64Field 6 m.expiresAtUnixMs ++ (packedEnumField 7 m.requestedPermissions ++
        (bytesField 8 m.offerSha256 ++ (bytesField 9 m.controllerDtlsFingerprintSha256 ++
          (bytesField 10 m.answerSha256 ++ (bytesField 11 m.hostDtlsFingerprintSha256 ++
            bytesField 12 m.signature))))))))))

/-- The wire fields of an answer for a session that is already there. -/
def SessionReconnectAuthentication.fields (m : SessionReconnectAuthentication) : List Field :=
  bytesField 1 m.controllerDeviceId ++ (bytesField 2 m.hostDeviceId ++
    (bytesField 3 m.sessionId ++ (bytesField 4 m.nonce ++ (uint64Field 5 m.issuedAtUnixMs ++
      (uint64Field 6 m.expiresAtUnixMs ++ (packedEnumField 7 m.requestedPermissions ++
        (bytesField 8 m.offerSha256 ++ (bytesField 9 m.controllerDtlsFingerprintSha256 ++
          (bytesField 10 m.answerSha256 ++ (bytesField 11 m.hostDtlsFingerprintSha256 ++
            (uint64Field 12 m.reconnectGeneration.toUInt64 ++ bytesField 13 m.signature)))))))))))

/-- The wire fields of an authentication message. -/
def SessionAuthentication.fields : SessionAuthentication → List Field
  | .offer m => messageField 1 m.fields
  | .answer m => messageField 2 m.fields
  | .reconnect m => messageField 3 m.fields

/-- The wire fields of a description. -/
def WebRtcSessionDescription.fields (m : WebRtcSessionDescription) : List Field :=
  enumField 1 m.type ++ (stringField 2 m.sdp ++ bytesField 3 m.dtlsFingerprintSha256)

/-- The wire fields of a candidate. -/
def IceCandidate.fields (m : IceCandidate) : List Field :=
  stringField 1 m.candidate ++ (stringField 2 m.sdpMid ++ uint64Field 3 m.sdpMLineIndex.toUInt64)

/-- The wire fields of what a negotiation carries. -/
def NegotiationPayload.fields : NegotiationPayload → List Field
  | .description m => messageField 2 m.fields
  | .iceCandidate m => messageField 3 m.fields
  | .endOfCandidates => messageField 4 []

/-- The wire fields of a negotiation message. -/
def WebRtcNegotiation.fields (m : WebRtcNegotiation) : List Field :=
  bytesField 1 m.sessionId ++ (m.payload.map NegotiationPayload.fields).getD []

/-- The wire fields of a published state. -/
def SessionStatus.fields (m : SessionStatus) : List Field :=
  bytesField 1 m.sessionId ++ enumField 2 m.state

/-- The wire fields of what an envelope carries.  The payloads that a session does not
use are never sent by one. -/
def SignalingPayload.fields : SignalingPayload → List Field
  | .sessionAuthentication payload =>
    messageField 12 ((payload.map SessionAuthentication.fields).getD [])
  | .webrtcNegotiation m => messageField 13 m.fields
  | .sessionStatus m => messageField 14 m.fields
  | .error m => messageField 15 m.fields
  | .other => []

/-- The wire fields of the version that is sent, 1.0. -/
def protocolVersionFields : List Field := uint64Field 1 1 ++ uint64Field 2 0

/-- The wire fields of an envelope. -/
def SignalingEnvelope.fields (m : SignalingEnvelope) : List Field :=
  messageField 1 protocolVersionFields ++ (bytesField 2 m.senderDeviceId ++
    (bytesField 3 m.recipientDeviceId ++ (stringField 4 m.requestId ++
      (uint64Field 5 m.sentAtUnixMs ++ (m.payload.map SignalingPayload.fields).getD []))))

/-- The encoding of an envelope. -/
def SignalingEnvelope.encode (m : SignalingEnvelope) : Bytes := encodeFields m.fields

/-! ### Lengths -/

/-- The length of an answer, by the lengths of its fields. -/
theorem length_encode_answer_le (answer : SessionAnswerAuthentication) :
    (encodeFields answer.fields).length ≤ 240 + answer.controllerDeviceId.length +
      answer.hostDeviceId.length + answer.sessionId.length + answer.nonce.length +
      10 * answer.requestedPermissions.length + answer.offerSha256.length +
      answer.controllerDtlsFingerprintSha256.length + answer.answerSha256.length +
      answer.hostDtlsFingerprintSha256.length + answer.signature.length := by
  have h1 := length_bytesField_le 1 answer.controllerDeviceId
  have h2 := length_bytesField_le 2 answer.hostDeviceId
  have h3 := length_bytesField_le 3 answer.sessionId
  have h4 := length_bytesField_le 4 answer.nonce
  have h5 := length_uint64Field_le 5 answer.issuedAtUnixMs
  have h6 := length_uint64Field_le 6 answer.expiresAtUnixMs
  have h7 := length_packedEnumField_le 7 answer.requestedPermissions
  have h8 := length_bytesField_le 8 answer.offerSha256
  have h9 := length_bytesField_le 9 answer.controllerDtlsFingerprintSha256
  have h10 := length_bytesField_le 10 answer.answerSha256
  have h11 := length_bytesField_le 11 answer.hostDtlsFingerprintSha256
  have h12 := length_bytesField_le 12 answer.signature
  simp only [SessionAnswerAuthentication.fields, encodeFields_append, List.length_append]
  omega

/-- The length of an answer for a session that is already there. -/
theorem length_encode_reconnect_le (reconnect : SessionReconnectAuthentication) :
    (encodeFields reconnect.fields).length ≤ 270 + reconnect.controllerDeviceId.length +
      reconnect.hostDeviceId.length + reconnect.sessionId.length + reconnect.nonce.length +
      10 * reconnect.requestedPermissions.length + reconnect.offerSha256.length +
      reconnect.controllerDtlsFingerprintSha256.length + reconnect.answerSha256.length +
      reconnect.hostDtlsFingerprintSha256.length + reconnect.signature.length := by
  have h1 := length_bytesField_le 1 reconnect.controllerDeviceId
  have h2 := length_bytesField_le 2 reconnect.hostDeviceId
  have h3 := length_bytesField_le 3 reconnect.sessionId
  have h4 := length_bytesField_le 4 reconnect.nonce
  have h5 := length_uint64Field_le 5 reconnect.issuedAtUnixMs
  have h6 := length_uint64Field_le 6 reconnect.expiresAtUnixMs
  have h7 := length_packedEnumField_le 7 reconnect.requestedPermissions
  have h8 := length_bytesField_le 8 reconnect.offerSha256
  have h9 := length_bytesField_le 9 reconnect.controllerDtlsFingerprintSha256
  have h10 := length_bytesField_le 10 reconnect.answerSha256
  have h11 := length_bytesField_le 11 reconnect.hostDtlsFingerprintSha256
  have h12 := length_uint64Field_le 12 reconnect.reconnectGeneration.toUInt64
  have h13 := length_bytesField_le 13 reconnect.signature
  simp only [SessionReconnectAuthentication.fields, encodeFields_append, List.length_append]
  omega

/-- The length of an error, by the lengths of its texts. -/
theorem length_encode_error_le (error : UnifiedError) :
    (encodeFields (SignalingPayload.error error).fields).length ≤
      160 + (utf8 error.messageKey).length + (utf8 error.requestId).length := by
  have hcode := length_enumField_le 1 error.code.toInt32
  have hkey := length_bytesField_le 2 (utf8 error.messageKey)
  have hretryable := length_uint64Field_le 3 (if error.retryable then 1 else 0)
  have hrequest := length_bytesField_le 4 (utf8 error.requestId)
  have houter := length_messageField_le 15 error.fields
  simp only [UnifiedError.fields, stringField, SignalingPayload.fields, encodeFields_append,
    List.length_append] at *
  omega

theorem length_encode_description_le {sessionId : Bytes} {description : WebRtcSessionDescription} :
    (encodeFields (SignalingPayload.webrtcNegotiation
        { sessionId, payload := some (.description description) }).fields).length ≤
      140 + sessionId.length + (utf8 description.sdp).length +
        description.dtlsFingerprintSha256.length := by
  have hsession := length_bytesField_le 1 sessionId
  have htype := length_enumField_le 1 description.type
  have hsdp := length_bytesField_le 2 (utf8 description.sdp)
  have hfingerprint := length_bytesField_le 3 description.dtlsFingerprintSha256
  have hinner := length_messageField_le 2 description.fields
  have houter := length_messageField_le 13 (WebRtcNegotiation.fields
    { sessionId, payload := some (.description description) })
  simp only [WebRtcSessionDescription.fields, stringField, WebRtcNegotiation.fields,
    Option.map_some, Option.getD_some, NegotiationPayload.fields, SignalingPayload.fields,
    encodeFields_append, List.length_append] at *
  omega

/-- Around its payload an envelope has little more than its identifiers. -/
theorem length_encode_envelope_le {payload : SignalingPayload}
    (hpayload : envelope.payload = some payload) :
    envelope.encode.length ≤ 200 + envelope.senderDeviceId.length +
      envelope.recipientDeviceId.length + (utf8 envelope.requestId).length +
      (encodeFields payload.fields).length := by
  have hversion : (encodeFields (messageField 1 protocolVersionFields)).length ≤ 20 := by
    decide
  have hsender := length_bytesField_le 2 envelope.senderDeviceId
  have hrecipient := length_bytesField_le 3 envelope.recipientDeviceId
  have hrequest := length_bytesField_le 4 (utf8 envelope.requestId)
  have hsent := length_uint64Field_le 5 envelope.sentAtUnixMs
  simp only [SignalingEnvelope.encode, SignalingEnvelope.fields, hpayload, Option.map_some,
    Option.getD_some, stringField, encodeFields_append, List.length_append]
  omega

end Protocol

end Roammand
