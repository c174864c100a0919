import Roammand.Library.Except
import Roammand.Library.Protobuf

/-!
# Protocol messages, identities and their validation

The wire messages that authorization, session authentication and pairing are about,
their enumerations, the validation of a device identity and the derivation of its
identifier.  Cryptographic primitives are a parameter: they are used only through the
functions of `Crypto`.

Main results:

- Definitions `DeviceIdentity`, `ControllerGrant`, `ControllerGrantView` and
  `HostAuthorizationSnapshot` with their wire encodings.
- Definitions `validateDeviceIdentity` and `deriveDeviceIdV1`.
- Theorem `length_encode_identity_le`: a valid identity has a short encoding.
-/

namespace Roammand

namespace Protocol

open Library

/-! ## Limits -/

/-- Length of a device identifier. -/
def deviceIdBytes : Nat := 32

/-- Length of a public key. -/
def publicKeyBytes : Nat := 32

/-- Length of a session identifier. -/
def sessionIdBytes : Nat := 16

/-- Length of a nonce or a SHA-256 value. -/
def nonceOrHashBytes : Nat := 32

/-- Length of a signature. -/
def signatureBytes : Nat := 64

/-- The most controller grants a Host keeps. -/
def maxControllerGrants : Nat := 256

/-- The longest device name, in UTF-8 bytes. -/
def maxDeviceNameUtf8Bytes : Nat := 128

/-- The longest encoded authorization snapshot. -/
def maxHostAuthorizationSnapshotBytes : Nat := 1048576

/-! ## Cryptographic primitives -/

/-- The primitives the Host calls.  `validKey` is the parsing of a verifying key and
`verifies` the signature check, both on fixed-length inputs. -/
structure Crypto where
  sha256 : Bytes → Vector UInt8 32
  validKey : Vector UInt8 32 → Bool
  verifies : Vector UInt8 32 → Bytes → Vector UInt8 64 → Bool

/-- A byte string of length `n` as an array, as a slice conversion yields it. -/
def toArray? (n : Nat) (bytes : Bytes) : Option (Vector UInt8 n) :=
  if h : bytes.toArray.size = n then some ⟨bytes.toArray, h⟩ else none

theorem toArray?_eq_some {n : Nat} {bytes : Bytes} {v : Vector UInt8 n} :
    toArray? n bytes = some v ↔ v.toList = bytes := by
  unfold toArray?
  split
  · next h =>
    simp only [Option.some.injEq]
    constructor
    · rintro rfl
      simp
    · rintro rfl
      exact Vector.toArray_inj.mp (Array.toArray_toList)
  · next h =>
    simp only [reduceCtorEq, false_iff]
    rintro rfl
    simp at h

/-! ## Enumerations -/

/-- What a session may do. -/
inductive SessionPermission where
  | unspecified
  | viewScreen
  | controlInput
  deriving DecidableEq

namespace SessionPermission

/-- The wire value of a permission. -/
def toInt32 : SessionPermission → Int32
  | .unspecified => 0
  | .viewScreen => 1
  | .controlInput => 2

/-- The permission of a wire value. -/
def ofInt32? (value : Int32) : Option SessionPermission :=
  if value = 0 then some .unspecified
  else if value = 1 then some .viewScreen
  else if value = 2 then some .controlInput
  else none

theorem ofInt32?_eq_some {value : Int32} {permission : SessionPermission} :
    ofInt32? value = some permission ↔ value = permission.toInt32 := by
  constructor
  · intro h
    unfold ofInt32? at h
    split at h
    · next hv => cases h; exact hv
    · split at h
      · next hv => cases h; exact hv
      · split at h
        · next hv => cases h; exact hv
        · cases h
  · rintro rfl
    cases permission <;> decide

end SessionPermission

/-- The wire value of the Ed25519 algorithm. -/
def publicKeyAlgorithmEd25519 : Int32 := 1

/-- The known device platforms are 1 (iOS) to 4 (macOS); 0 is unspecified. -/
def isKnownPlatform (value : Int32) : Bool :=
  value = 0 ∨ value = 1 ∨ value = 2 ∨ value = 3 ∨ value = 4

/-! ## Messages -/

/-- A device identity. -/
structure DeviceIdentity where
  deviceId : Bytes
  publicKeyAlgorithm : Int32
  publicKey : Bytes
  displayName : String
  platform : Int32
  deriving DecidableEq

/-- A one-way grant from the Host to a Controller. -/
structure ControllerGrant where
  grantId : Bytes
  hostDeviceId : Bytes
  controller : Option DeviceIdentity
  createdAtUnixMs : UInt64
  permissions : List Int32
  deriving DecidableEq

/-- A grant with the time of the last successful connection. -/
structure ControllerGrantView where
  grant : Option ControllerGrant
  lastSuccessfulConnectionAtUnixMs : UInt64
  deriving DecidableEq

/-- The persisted form of a Host's grants. -/
structure HostAuthorizationSnapshot where
  hostDeviceId : Bytes
  grants : List ControllerGrantView

/-- The signed part of a session offer. -/
structure SessionOfferAuthentication where
  controllerDeviceId : Bytes
  hostDeviceId : Bytes
  sessionId : Bytes
  nonce : Bytes
  issuedAtUnixMs : UInt64
  expiresAtUnixMs : UInt64
  requestedPermissions : List Int32
  offerSha256 : Bytes
  controllerDtlsFingerprintSha256 : Bytes
  signature : Bytes
  deriving DecidableEq

/-! ## Wire encodings -/

open Protobuf

/-- The wire fields of an identity. -/
def DeviceIdentity.fields (m : DeviceIdentity) : List Field :=
  bytesField 1 m.deviceId ++ (enumField 2 m.publicKeyAlgorithm ++
    (bytesField 3 m.publicKey ++ (stringField 4 m.displayName ++ enumField 5 m.platform)))

/-- The wire fields of a grant. -/
def ControllerGrant.fields (m : ControllerGrant) : List Field :=
  bytesField 1 m.grantId ++ (bytesField 2 m.hostDeviceId ++
    (optionalMessageField 3 DeviceIdentity.fields m.controller ++
      (uint64Field 4 m.createdAtUnixMs ++ packedEnumField 5 m.permissions)))

/-- The wire fields of a grant view. -/
def ControllerGrantView.fields (m : ControllerGrantView) : List Field :=
  optionalMessageField 1 ControllerGrant.fields m.grant ++
    uint64Field 2 m.lastSuccessfulConnectionAtUnixMs

/-- The wire fields of a snapshot. -/
def HostAuthorizationSnapshot.fields (m : HostAuthorizationSnapshot) : List Field :=
  bytesField 1 m.hostDeviceId ++ m.grants.flatMap fun view => messageField 2 view.fields

/-- The encoding of a snapshot. -/
def HostAuthorizationSnapshot.encode (m : HostAuthorizationSnapshot) : Bytes :=
  encodeFields m.fields

/-! ## Validation -/

/-- The errors of message validation. -/
inductive ValidationError where
  | messageTooLarge
  | invalidProtocolVersion
  | missingPayload
  | invalidLength
  | invalidEnum
  | invalidState
  | invalidUtf8Length
  | invalidLifetime
  | duplicateValue
  deriving DecidableEq

/-- A fixed-length byte field. -/
def validateLength (value : Bytes) (expected : Nat) : Except ValidationError Unit :=
  ensure (value.length = expected) .invalidLength

/-- A bounded text field. -/
def validateUtf8Length (value : String) (maximum : Nat) : Except ValidationError Unit :=
  ensure ((utf8 value).length ≤ maximum) .invalidUtf8Length

/-- A well-formed Ed25519 device identity. -/
def validateDeviceIdentity (identity : DeviceIdentity) : Except ValidationError Unit := do
  validateLength identity.deviceId deviceIdBytes
  validateLength identity.publicKey publicKeyBytes
  ensure (identity.publicKeyAlgorithm = publicKeyAlgorithmEd25519) .invalidEnum
  ensure (isKnownPlatform identity.platform ∧ identity.platform ≠ 0) .invalidEnum
  validateUtf8Length identity.displayName maxDeviceNameUtf8Bytes

variable {identity : DeviceIdentity}

theorem validateDeviceIdentity_eq_ok :
    validateDeviceIdentity identity = .ok () ↔
      identity.deviceId.length = deviceIdBytes ∧ identity.publicKey.length = publicKeyBytes ∧
      identity.publicKeyAlgorithm = publicKeyAlgorithmEd25519 ∧
      (isKnownPlatform identity.platform ∧ identity.platform ≠ 0) ∧
      (utf8 identity.displayName).length ≤ maxDeviceNameUtf8Bytes := by
  unfold validateDeviceIdentity validateLength validateUtf8Length
  simp only [bind_eq_ok, ensure_eq_ok, exists_and_left, exists_const]

/-- The encoding of a valid identity is short. -/
theorem length_encode_identity_le (h : validateDeviceIdentity identity = .ok ()) :
    (encodeFields identity.fields).length ≤ 300 := by
  obtain ⟨hid, hkey, -, -, hname⟩ := validateDeviceIdentity_eq_ok.mp h
  simp only [deviceIdBytes, publicKeyBytes, maxDeviceNameUtf8Bytes] at hid hkey hname
  have h1 := length_bytesField_le 1 identity.deviceId
  have h2 := length_enumField_le 2 identity.publicKeyAlgorithm
  have h3 := length_bytesField_le 3 identity.publicKey
  have h4 := length_bytesField_le 4 (utf8 identity.displayName)
  have h5 := length_enumField_le 5 identity.platform
  simp only [DeviceIdentity.fields, stringField, encodeFields_append, List.length_append]
  omega

/-! ## Device identifiers -/

/-- The domain text of the V1 device identifier. -/
def identityDerivationDomain : Bytes := utf8 "personal-remote-device-id-v1"

/-- The only failure of the derivation. -/
inductive IdentityDerivationError where
  | invalidPublicKeyLength

/-- The V1 device identifier of an Ed25519 public key. -/
def deriveDeviceIdV1 (crypto : Crypto) (publicKey : Bytes) :
    Except IdentityDerivationError (Vector UInt8 32) :=
  if publicKey.length ≠ publicKeyBytes then .error .invalidPublicKeyLength
  else .ok (crypto.sha256 (identityDerivationDomain ++ [0] ++ bigEndian 2 1 ++ publicKey))

end Protocol

end Roammand
