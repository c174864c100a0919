import Roammand.Protocol.Messages

/-!
# Pairing messages

What a Host and a controller exchange through a rendezvous to pair: the Host's
invitation, the signed hello of the controller and the encrypted envelopes with the
Host's proof, the controller's confirmation and the final decision.

Main results:

- Definitions `PairingMessage` and `PairingPlaintext` with their wire encodings.
- Theorem `length_encode_finalDecision_le`: a final decision has a short encoding.
-/

namespace Roammand

namespace Protocol

open Library Protobuf

/-- Length of a rendezvous identifier. -/
def rendezvousIdBytes : Nat := 16

/-- The lifetime of a rendezvous. -/
def pairingRendezvousLifetimeMs : Nat := 120000

/-- The longest ciphertext of a pairing envelope. -/
def maxPairingCiphertextBytes : Nat := 65536

/-- The protocol version that is spoken. -/
def protocolMajorVersion : UInt32 := 1

/-! ## Enumerations -/

/-- How an invitation reaches the controller. -/
inductive PairingInvitationKind where
  | unspecified
  | qr
  | desktopCode
  deriving DecidableEq

/-- The wire value of a kind. -/
def PairingInvitationKind.toInt32 : PairingInvitationKind → Int32
  | .unspecified => 0
  | .qr => 1
  | .desktopCode => 2

/-- The kind of a rendezvous as the signaling service knows it. -/
inductive PairingRendezvousKind where
  | unspecified
  | qr
  | desktopCode
  deriving DecidableEq

/-- How a rendezvous ended. -/
inductive PairingRendezvousCompletion where
  | unspecified
  | succeeded
  | rejected
  | expired
  | disconnected
  deriving DecidableEq

/-- The decision of the Host's user. -/
inductive PairingDecisionStatus where
  | unspecified
  | pending
  | accepted
  | rejected
  | expired

/-- The wire value of a decision. -/
def PairingDecisionStatus.toInt32 : PairingDecisionStatus → Int32
  | .unspecified => 0
  | .pending => 1
  | .accepted => 2
  | .rejected => 3
  | .expired => 4

/-- The wire value of the direction from the controller to the Host. -/
def pairingDirectionControllerToHost : Int32 := 1

/-- The wire value of the direction from the Host to the controller. -/
def pairingDirectionHostToController : Int32 := 2

/-! ## Messages -/

/-- A protocol version. -/
structure ProtocolVersion where
  major : UInt32
  minor : UInt32
  deriving DecidableEq

/-- The Host's invitation. -/
structure HostPairingInvitation where
  protocolVersion : Option ProtocolVersion
  kind : PairingInvitationKind
  rendezvousId : Bytes
  hostIdentity : Option DeviceIdentity
  hostPublicKeyFingerprintSha256 : Bytes
  hostEphemeralPublicKey : Bytes
  signalingEndpoint : String
  pairingCode : String
  issuedAtUnixMs : UInt64
  expiresAtUnixMs : UInt64
  deriving DecidableEq

/-- The controller's signed hello. -/
structure ControllerPairingHello where
  rendezvousId : Bytes
  identity : Option DeviceIdentity
  ephemeralPublicKey : Bytes
  transcriptSha256 : Bytes
  signature : Bytes

/-- What both sides confirm. -/
structure PairingConfirmationData where
  controllerDeviceId : Bytes
  hostDeviceId : Bytes
  rendezvousId : Bytes
  controllerIdentityPublicKey : Bytes
  hostIdentityPublicKey : Bytes
  controllerEphemeralPublicKey : Bytes
  hostEphemeralPublicKey : Bytes
  transcriptSha256 : Bytes
  deriving DecidableEq

/-- The Host's signed proof. -/
structure HostPairingProof where
  confirmation : Option PairingConfirmationData
  hostSignature : Bytes
  expiresAtUnixMs : UInt64
  deriving DecidableEq

/-- The controller's confirmation of the transcript. -/
structure ControllerPairingReady where
  transcriptSha256 : Bytes
  deriving DecidableEq

/-- The Host's final decision. -/
structure PairingFinalDecision where
  status : Int32
  transcriptSha256 : Bytes
  grant : Option ControllerGrant
  deriving DecidableEq

/-- What an encrypted envelope holds. -/
inductive PairingPlaintext where
  | hostProof (proof : HostPairingProof)
  | controllerReady (ready : ControllerPairingReady)
  | finalDecision (decision : PairingFinalDecision)
  | empty
  deriving DecidableEq

/-- An encrypted envelope. -/
structure EncryptedPairingEnvelope where
  protocolVersion : Option ProtocolVersion
  rendezvousId : Bytes
  direction : Int32
  sequence : UInt64
  ciphertext : Bytes

/-- A pairing message.  Those that neither side sends are one case with its wire
bytes. -/
inductive PairingMessage where
  | hostInvitation (invitation : HostPairingInvitation)
  | controllerHello (hello : ControllerPairingHello)
  | encryptedEnvelope (envelope : EncryptedPairingEnvelope)
  | other (encoded : Bytes)

/-! ## Wire encodings -/

/-- The wire fields of a version. -/
def ProtocolVersion.fields (m : ProtocolVersion) : List Field :=
  uint64Field 1 m.major.toUInt64 ++ uint64Field 2 m.minor.toUInt64

/-- The wire fields of an invitation. -/
def HostPairingInvitation.fields (m : HostPairingInvitation) : List Field :=
  optionalMessageField 1 ProtocolVersion.fields m.protocolVersion ++
    (enumField 2 m.kind.toInt32 ++ (bytesField 3 m.rendezvousId ++
      (optionalMessageField 4 DeviceIdentity.fields m.hostIdentity ++
        (bytesField 5 m.hostPublicKeyFingerprintSha256 ++
          (bytesField 6 m.hostEphemeralPublicKey ++ (stringField 7 m.signalingEndpoint ++
            (stringField 8 m.pairingCode ++ (uint64Field 9 m.issuedAtUnixMs ++
              uint64Field 10 m.expiresAtUnixMs))))))))

/-- The wire fields of a hello. -/
def ControllerPairingHello.fields (m : ControllerPairingHello) : List Field :=
  bytesField 1 m.rendezvousId ++ (optionalMessageField 2 DeviceIdentity.fields m.identity ++
    (bytesField 3 m.ephemeralPublicKey ++ (bytesField 4 m.transcriptSha256 ++
      bytesField 5 m.signature)))

/-- The wire fields of the confirmation data. -/
def PairingConfirmationData.fields (m : PairingConfirmationData) : List Field :=
  bytesField 1 m.controllerDeviceId ++ (bytesField 2 m.hostDeviceId ++
    (bytesField 3 m.rendezvousId ++ (bytesField 4 m.controllerIdentityPublicKey ++
      (bytesField 5 m.hostIdentityPublicKey ++ (bytesField 6 m.controllerEphemeralPublicKey ++
        (bytesField 7 m.hostEphemeralPublicKey ++ bytesField 8 m.transcriptSha256))))))

/-- The wire fields of a proof. -/
def HostPairingProof.fields (m : HostPairingProof) : List Field :=
  optionalMessageField 1 PairingConfirmationData.fields m.confirmation ++
    (bytesField 2 m.hostSignature ++ uint64Field 3 m.expiresAtUnixMs)

/-- The wire fields of a confirmation. -/
def ControllerPairingReady.fields (m : ControllerPairingReady) : List Field :=
  bytesField 1 m.transcriptSha256

/-- The wire fields of a final decision. -/
def PairingFinalDecision.fields (m : PairingFinalDecision) : List Field :=
  enumField 1 m.status ++ (bytesField 2 m.transcriptSha256 ++
    optionalMessageField 3 ControllerGrant.fields m.grant)

/-- The wire fields of a plaintext. -/
def PairingPlaintext.fields : PairingPlaintext → List Field
  | .hostProof proof => messageField 1 proof.fields
  | .controllerReady ready => messageField 2 ready.fields
  | .finalDecision decision => messageField 3 decision.fields
  | .empty => []

/-- The encoding of a plaintext. -/
def PairingPlaintext.encode (m : PairingPlaintext) : Bytes := encodeFields m.fields

/-- The wire fields of an encrypted envelope. -/
def EncryptedPairingEnvelope.fields (m : EncryptedPairingEnvelope) : List Field :=
  optionalMessageField 1 ProtocolVersion.fields m.protocolVersion ++
    (bytesField 2 m.rendezvousId ++ (enumField 3 m.direction ++
      (uint64Field 4 m.sequence ++ bytesField 5 m.ciphertext)))

/-- The encoding of a pairing message. -/
def PairingMessage.encode : PairingMessage → Bytes
  | .hostInvitation invitation => encodeFields (messageField 6 invitation.fields)
  | .controllerHello hello => encodeFields (messageField 7 hello.fields)
  | .encryptedEnvelope envelope => encodeFields (messageField 8 envelope.fields)
  | .other encoded => encoded

/-! ## Lengths -/

/-- The encoding of a version. -/
theorem length_version_le (m : ProtocolVersion) : (encodeFields m.fields).length ≤ 40 := by
  have hmajor := length_uint64Field_le 1 m.major.toUInt64
  have hminor := length_uint64Field_le 2 m.minor.toUInt64
  rw [ProtocolVersion.fields, encodeFields_append, List.length_append]
  omega

theorem length_optionalMessageField_le {α : Type} (number : Nat) (fields : α → List Field)
    (message : Option α) (bound : Nat)
    (h : ∀ value, message = some value → (encodeFields (fields value)).length ≤ bound) :
    (encodeFields (optionalMessageField number fields message)).length ≤ 20 + bound := by
  cases message with
  | none => simp [optionalMessageField, encodeFields]
  | some value =>
    have hdelimited := length_delimited_le number (encodeFields (fields value))
    have := h value rfl
    simp only [optionalMessageField, messageField]
    omega

/-- The encoding of a grant for a valid controller is short. -/
theorem length_encode_grant_le {grant : ControllerGrant} (hid : grant.grantId.length ≤ 32)
    (hhost : grant.hostDeviceId.length ≤ 32)
    (hcontroller : ∀ controller, grant.controller = some controller →
      validateDeviceIdentity controller = .ok ())
    (hpermissions : grant.permissions.length ≤ 2) :
    (encodeFields grant.fields).length ≤ 600 := by
  have h1 := length_bytesField_le 1 grant.grantId
  have h2 := length_bytesField_le 2 grant.hostDeviceId
  have h3 := length_optionalMessageField_le 3 DeviceIdentity.fields grant.controller _
    fun controller hc => length_encode_identity_le (hcontroller controller hc)
  have h4 := length_uint64Field_le 4 grant.createdAtUnixMs
  have h5 := length_packedEnumField_le 5 grant.permissions
  simp only [ControllerGrant.fields, encodeFields_append, List.length_append]
  omega

/-- A final decision with a short grant has a short encoding. -/
theorem length_encode_finalDecision_le {decision : PairingFinalDecision}
    (htranscript : decision.transcriptSha256.length ≤ 32)
    (hgrant : ∀ grant, decision.grant = some grant →
      (encodeFields grant.fields).length ≤ 600) :
    (PairingPlaintext.finalDecision decision).encode.length ≤ 800 := by
  have h1 := length_enumField_le 1 decision.status
  have h2 := length_bytesField_le 2 decision.transcriptSha256
  have h3 := length_optionalMessageField_le 3 ControllerGrant.fields decision.grant _ hgrant
  have hdelimited := length_delimited_le 3 (encodeFields decision.fields)
  have hfields : (encodeFields decision.fields).length ≤ 720 := by
    simp only [PairingFinalDecision.fields, encodeFields_append, List.length_append]
    omega
  simp only [PairingPlaintext.encode, PairingPlaintext.fields, messageField]
  omega

end Protocol

end Roammand
