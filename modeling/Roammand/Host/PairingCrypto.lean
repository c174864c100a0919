import Roammand.Protocol.Pairing
import Roammand.Protocol.Transcript
import Mathlib.Data.FinEnum

/-!
# Pairing cryptography of the Host

The checks on the controller's hello, the derivation of the two pairing keys and the
sealing and opening of pairing envelopes.  The primitives (X25519, HKDF, AES-GCM,
Ed25519) and the message decoders are parameters.

Main results:

- Definitions `verifyControllerHello`, `sealHostPlaintext`, `openControllerPlaintext` and
  `sasIndexes`.
- Theorem `verifyControllerHello_ok`: what a verified hello has proved.
- Theorem `openControllerPlaintext_ok`: what an opened envelope has proved.
- Theorem `sealHostPlaintext_exists`: a short plaintext can be sealed.
-/

namespace Roammand

namespace Host

open Library Protocol

/-- The primitives and decoders of pairing. -/
structure PairingCrypto extends Crypto where
  x25519PublicKey : Vector UInt8 32 → Vector UInt8 32
  x25519SharedSecret : (privateKey publicKey : Vector UInt8 32) → Vector UInt8 32
  hkdfExpand : (salt secret info : Bytes) → Option (Vector UInt8 32)
  aesGcmEncrypt : (key : Vector UInt8 32) → (nonce : Vector UInt8 12) →
    (aad plaintext : Bytes) → Option Bytes
  aesGcmDecrypt : (key : Vector UInt8 32) → (nonce : Vector UInt8 12) →
    (aad ciphertext : Bytes) → Option Bytes
  sign : (signingKey : Vector UInt8 32) → Bytes → Vector UInt8 64
  decodeMessage : Bytes → Option PairingMessage
  decodePlaintext : Bytes → Option PairingPlaintext
  wordList : List String

/-! ## Shared pairing cryptography -/

/-- Errors of the shared functions. -/
inductive PairingCryptoError where
  | invalidLength
  | invalidSequence
  | invalidPublicKey
  | invalidWordList
  | keyDerivation
  | authenticationFailed
  deriving DecidableEq

/-- The direction of an envelope. -/
inductive CryptoDirection where
  | controllerToHost
  | hostToController

/-- The wire value of a direction. -/
def CryptoDirection.code : CryptoDirection → UInt8
  | .controllerToHost => 1
  | .hostToController => 2

/-- The first bytes of the nonces of a direction, the bytes of `C2H` and `H2C` with the
version. -/
def CryptoDirection.noncePrefix : CryptoDirection → Vector UInt8 4
  | .controllerToHost => #v[0x43, 0x32, 0x48, 0x01]
  | .hostToController => #v[0x48, 0x32, 0x43, 0x01]

/-- The magic of the additional data, the bytes of `PRDP`. -/
def aadMagic : Bytes := [0x50, 0x52, 0x44, 0x50]

/-- The version of the pairing cryptography. -/
def cryptoVersion : Nat := 1

/-- Length of an AES-GCM tag. -/
def aesGcmTagBytes : Nat := 16

/-- The largest sequence number. -/
def maxPairingSequence : Nat := 2 ^ 63 - 1

/-- The derivation label of the controller's key. -/
def controllerToHostInfo : Bytes :=
  utf8 "personal-remote-desktop/pairing/v1/controller-to-host"

/-- The derivation label of the Host's key. -/
def hostToControllerInfo : Bytes :=
  utf8 "personal-remote-desktop/pairing/v1/host-to-controller"

/-- The two keys of a pairing. -/
structure PairingKeySchedule where
  controllerToHost : Vector UInt8 32
  hostToController : Vector UInt8 32
  deriving DecidableEq

/-- A value of a fixed length. -/
def requireLength (value : Bytes) (expected : Nat) : Except PairingCryptoError Unit :=
  ensure (value.length = expected) .invalidLength

section Shared

variable (crypto : PairingCrypto)

/-- The X25519 public key of a private key. -/
def x25519PublicKey (privateKey : Bytes) : Except PairingCryptoError (Vector UInt8 32) := do
  let privateKey ← okOr (toArray? 32 privateKey) .invalidLength
  return crypto.x25519PublicKey privateKey

/-- The X25519 shared secret, which must not be zero. -/
def x25519SharedSecret (privateKey remotePublicKey : Bytes) :
    Except PairingCryptoError (Vector UInt8 32) := do
  let privateKey ← okOr (toArray? 32 privateKey) .invalidLength
  let publicKey ← okOr (toArray? 32 remotePublicKey) .invalidLength
  let shared := crypto.x25519SharedSecret privateKey publicKey
  ensure (¬ ∀ byte ∈ shared.toList, byte = 0) .invalidPublicKey
  return shared

/-- The four 11-bit indexes of the first 44 bits of a hash. -/
def sasIndexes (transcriptSha256 : Bytes) : Except PairingCryptoError (List UInt16) := do
  requireLength transcriptSha256 nonceOrHashBytes
  let byte (i : Nat) : UInt8 := transcriptSha256.getD i 0
  return [((byte 0).toUInt16 <<< 3) ||| (byte 1 >>> 5).toUInt16,
    ((byte 1 &&& 0x1f).toUInt16 <<< 6) ||| (byte 2 >>> 2).toUInt16,
    ((byte 2 &&& 0x03).toUInt16 <<< 9) ||| ((byte 3).toUInt16 <<< 1) ||| (byte 4 >>> 7).toUInt16,
    ((byte 4 &&& 0x7f).toUInt16 <<< 4) ||| (byte 5 >>> 4).toUInt16]

/-- The words of the indexes in a list of 2048 short lower-case words. -/
def sasWords (transcriptSha256 : Bytes) (wordList : List String) :
    Except PairingCryptoError (List String) := do
  ensure (wordList.length = 2048 ∧ ∀ word ∈ wordList, word ≠ "" ∧ (utf8 word).length ≤ 8 ∧
    word.toList.all Char.isLower) .invalidWordList
  let indexes ← sasIndexes transcriptSha256
  return indexes.map fun index => wordList.getD index.toNat ""

/-- The keys of both directions. -/
def derivePairingKeys (sharedSecret transcriptSha256 : Bytes) :
    Except PairingCryptoError PairingKeySchedule := do
  requireLength sharedSecret publicKeyBytes
  requireLength transcriptSha256 nonceOrHashBytes
  ensure (¬ ∀ byte ∈ sharedSecret, byte = 0) .invalidPublicKey
  let controllerToHost ←
    okOr (crypto.hkdfExpand transcriptSha256 sharedSecret controllerToHostInfo) .keyDerivation
  let hostToController ←
    okOr (crypto.hkdfExpand transcriptSha256 sharedSecret hostToControllerInfo) .keyDerivation
  return { controllerToHost, hostToController }

/-- The nonce of a direction and sequence number. -/
def pairingNonce (direction : CryptoDirection) (sequence : UInt64) :
    Except PairingCryptoError (Vector UInt8 12) := do
  ensure (¬ (sequence = 0 ∨ maxPairingSequence < sequence.toNat)) .invalidSequence
  let counter : Vector UInt8 8 := ⟨(bigEndian 8 sequence.toNat).toArray, by simp⟩
  return direction.noncePrefix ++ counter

/-- The additional data of an envelope. -/
def pairingAad (direction : CryptoDirection) (sequence : UInt64)
    (rendezvousId controllerDeviceId hostDeviceId : Bytes) :
    Except PairingCryptoError Bytes := do
  requireLength rendezvousId rendezvousIdBytes
  requireLength controllerDeviceId deviceIdBytes
  requireLength hostDeviceId deviceIdBytes
  let _ ← pairingNonce direction sequence
  return aadMagic ++ bigEndian 2 cryptoVersion ++ [direction.code] ++
    bigEndian 8 sequence.toNat ++ rendezvousId ++ controllerDeviceId ++ hostDeviceId

variable (key : Bytes)

/-- Encrypt a bounded plaintext. -/
def sealPairingPayload (direction : CryptoDirection) (sequence : UInt64)
    (aad plaintext : Bytes) : Except PairingCryptoError Bytes := do
  requireLength key 32
  ensure (plaintext.length ≤ maxPairingCiphertextBytes - aesGcmTagBytes) .invalidLength
  let key ← okOr (toArray? 32 key) .invalidLength
  let nonce ← pairingNonce direction sequence
  okOr (crypto.aesGcmEncrypt key nonce aad plaintext) .authenticationFailed

/-- Decrypt a bounded ciphertext. -/
def openPairingPayload (direction : CryptoDirection) (sequence : UInt64)
    (aad ciphertextAndTag : Bytes) : Except PairingCryptoError Bytes := do
  requireLength key 32
  ensure (aesGcmTagBytes ≤ ciphertextAndTag.length ∧
    ciphertextAndTag.length ≤ maxPairingCiphertextBytes) .invalidLength
  let key ← okOr (toArray? 32 key) .invalidLength
  let nonce ← pairingNonce direction sequence
  okOr (crypto.aesGcmDecrypt key nonce aad ciphertextAndTag) .authenticationFailed

end Shared

/-! ## The Host's side -/

/-- Errors of the Host's pairing cryptography. -/
inductive HostPairingCryptoError where
  | invalidMessage
  | invalidIdentity
  | transcriptMismatch
  | invalidSignature
  | cryptography
  deriving DecidableEq

/-- What a verified hello yields. -/
structure VerifiedControllerHello where
  controller : DeviceIdentity
  controllerEphemeralPublicKey : Bytes
  transcript : Bytes
  transcriptSha256 : Vector UInt8 32
  keys : PairingKeySchedule

section Host

variable (crypto : PairingCrypto)

/-- Decode a message that is in its canonical encoding. -/
def strictDecode {α : Type} (decode : Bytes → Option α) (encode : α → Bytes) (encoded : Bytes) :
    Except HostPairingCryptoError α := do
  let value ← okOr (decode encoded) .invalidMessage
  ensure (encode value = encoded) .invalidMessage
  return value

/-- Decode a pairing message. -/
def decodePairingMessage (encoded : Bytes) : Except HostPairingCryptoError PairingMessage :=
  strictDecode crypto.decodeMessage PairingMessage.encode encoded

/-- The transcript that both identities sign. -/
def encodePairingTranscript (controller host : DeviceIdentity)
    (rendezvousId controllerEphemeralPublicKey hostEphemeralPublicKey : Bytes) :
    Except HostPairingCryptoError Bytes := do
  ensure (controller.deviceId.length = deviceIdBytes ∧ host.deviceId.length = deviceIdBytes ∧
    rendezvousId.length = rendezvousIdBytes) .invalidMessage
  (encodeTranscript
    { purpose := .pairingSas
      fields :=
        [⟨1, controller.deviceId⟩, ⟨2, host.deviceId⟩, ⟨3, rendezvousId⟩,
          ⟨4, controller.publicKey⟩, ⟨5, host.publicKey⟩, ⟨6, controllerEphemeralPublicKey⟩,
          ⟨7, hostEphemeralPublicKey⟩] }).mapError fun _ => .invalidMessage

/-- Check every binding of a hello and derive the keys. -/
def verifyControllerHello (hello : ControllerPairingHello)
    (senderDeviceId expectedRendezvousId : Bytes) (hostIdentity : DeviceIdentity)
    (hostEphemeralPrivateKey hostEphemeralPublicKey : Bytes) :
    Except HostPairingCryptoError VerifiedControllerHello := do
  ensure (hello.rendezvousId = expectedRendezvousId ∧
    hello.rendezvousId.length = rendezvousIdBytes ∧
    hello.ephemeralPublicKey.length = publicKeyBytes ∧
    hello.transcriptSha256.length = nonceOrHashBytes ∧
    hello.signature.length = signatureBytes) .invalidMessage
  let controller ← okOr hello.identity .invalidIdentity
  (validateDeviceIdentity controller).mapError fun _ => .invalidIdentity
  ensure (controller.displayName ≠ "" ∧ controller.deviceId = senderDeviceId ∧
    controller.deviceId ≠ hostIdentity.deviceId) .invalidIdentity
  let controllerPublicKey ← okOr (toArray? 32 controller.publicKey) .invalidIdentity
  let derived ←
    (deriveDeviceIdV1 crypto.toCrypto controllerPublicKey.toList).mapError fun _ => .invalidIdentity
  ensure (derived.toList = controller.deviceId) .invalidIdentity
  let transcript ← encodePairingTranscript controller hostIdentity expectedRendezvousId
    hello.ephemeralPublicKey hostEphemeralPublicKey
  let transcriptDigest := crypto.sha256 transcript
  ensure (hello.transcriptSha256 = transcriptDigest.toList) .transcriptMismatch
  let signature ← okOr (toArray? 64 hello.signature) .invalidSignature
  ensure (crypto.validKey controllerPublicKey) .invalidIdentity
  ensure (crypto.verifies controllerPublicKey transcript signature) .invalidSignature
  let sharedSecret ←
    (x25519SharedSecret crypto hostEphemeralPrivateKey hello.ephemeralPublicKey).mapError
      fun _ => .cryptography
  let keys ← (derivePairingKeys crypto sharedSecret.toList transcriptDigest.toList).mapError
    fun _ => .cryptography
  return { controller, controllerEphemeralPublicKey := hello.ephemeralPublicKey, transcript
           transcriptSha256 := transcriptDigest, keys }

variable (key : Bytes)

/-- Seal a plaintext of the Host. -/
def sealHostPlaintext (sequence : UInt64)
    (rendezvousId controllerDeviceId hostDeviceId : Bytes) (plaintext : PairingPlaintext) :
    Except HostPairingCryptoError Bytes := do
  let aad ← (pairingAad .hostToController sequence rendezvousId controllerDeviceId
    hostDeviceId).mapError fun _ => .cryptography
  let ciphertext ← (sealPairingPayload crypto key .hostToController sequence aad
    plaintext.encode).mapError fun _ => .cryptography
  return PairingMessage.encode (.encryptedEnvelope
    { protocolVersion := some { major := protocolMajorVersion, minor := 0 }
      rendezvousId
      direction := pairingDirectionHostToController
      sequence
      ciphertext })

/-- The envelope of a message, if it is one. -/
def PairingMessage.envelope? : PairingMessage → Option EncryptedPairingEnvelope
  | .encryptedEnvelope envelope => some envelope
  | _ => none

/-- Open an envelope of the controller. -/
def openControllerPlaintext (expectedSequence : UInt64)
    (rendezvousId controllerDeviceId hostDeviceId encoded : Bytes) :
    Except HostPairingCryptoError PairingPlaintext := do
  let message ← decodePairingMessage crypto encoded
  let envelope ← okOr (PairingMessage.envelope? message) .invalidMessage
  let version ← okOr envelope.protocolVersion .invalidMessage
  ensure (version.major = protocolMajorVersion ∧ envelope.rendezvousId = rendezvousId ∧
    envelope.direction = pairingDirectionControllerToHost ∧
    envelope.sequence = expectedSequence) .invalidMessage
  let aad ← (pairingAad .controllerToHost expectedSequence rendezvousId controllerDeviceId
    hostDeviceId).mapError fun _ => .cryptography
  let plaintext ← (openPairingPayload crypto key .controllerToHost expectedSequence aad
    envelope.ciphertext).mapError fun _ => .cryptography
  strictDecode crypto.decodePlaintext PairingPlaintext.encode plaintext

/-- The words both users compare. -/
def pairingSasWords (transcriptSha256 : Bytes) : Except HostPairingCryptoError (List String) :=
  (sasWords transcriptSha256 crypto.wordList).mapError fun _ => .cryptography

/-- The fingerprint of a public key. -/
def publicKeyFingerprint (publicKey : Bytes) : Vector UInt8 32 := crypto.sha256 publicKey

end Host

/-! ## What the checks establish -/

/-- What a verified hello has proved. -/
structure HelloVerified (crypto : PairingCrypto) (hello : ControllerPairingHello)
    (senderDeviceId rendezvousId : Bytes) (host : DeviceIdentity)
    (hostPrivateKey hostPublicKey : Bytes) (verified : VerifiedControllerHello) : Prop where
  rendezvous : hello.rendezvousId = rendezvousId
  identity : hello.identity = some verified.controller
  valid : validateDeviceIdentity verified.controller = .ok ()
  sender : verified.controller.deviceId = senderDeviceId
  ephemeral : verified.controllerEphemeralPublicKey = hello.ephemeralPublicKey
  transcript : encodePairingTranscript verified.controller host rendezvousId
    hello.ephemeralPublicKey hostPublicKey = .ok verified.transcript
  digest : verified.transcriptSha256 = crypto.sha256 verified.transcript
  signed : ∃ publicKey signature, publicKey.toList = verified.controller.publicKey ∧
    signature.toList = hello.signature ∧
    crypto.verifies publicKey verified.transcript signature = true
  keys : ∃ secret,
    x25519SharedSecret crypto hostPrivateKey hello.ephemeralPublicKey = .ok secret ∧
    derivePairingKeys crypto secret.toList verified.transcriptSha256.toList = .ok verified.keys

theorem verifyControllerHello_ok {crypto : PairingCrypto} {hello : ControllerPairingHello}
    {senderDeviceId rendezvousId : Bytes} {host : DeviceIdentity}
    {hostPrivateKey hostPublicKey : Bytes} {verified : VerifiedControllerHello}
    (h : verifyControllerHello crypto hello senderDeviceId rendezvousId host hostPrivateKey
      hostPublicKey = .ok verified) :
    HelloVerified crypto hello senderDeviceId rendezvousId host hostPrivateKey hostPublicKey
      verified := by
  simp only [verifyControllerHello, bind_eq_ok, ensure_eq_ok, okOr_eq_ok, mapError_eq_ok,
    toArray?_eq_some, exists_and_left, exists_const, pure, Except.pure, Except.ok.injEq] at h
  obtain ⟨⟨hrendezvous, -⟩, controller, hidentity, ⟨⟩, hvalid, ⟨-, hsender, -⟩, publicKey,
    hpublicKey, derived, -, -, transcript, htranscript, -, signature, hsignature, -, hverifies,
    secret, hsecret, keys, hkeys, rfl⟩ := h
  exact ⟨hrendezvous, hidentity, hvalid, hsender, rfl, htranscript, rfl,
    ⟨publicKey, signature, hpublicKey, hsignature, hverifies⟩, secret, hsecret, hkeys⟩

/-- What an opened envelope has proved. -/
theorem openControllerPlaintext_ok {crypto : PairingCrypto} {key : Bytes} {sequence : UInt64}
    {rendezvousId controllerDeviceId hostDeviceId encoded : Bytes} {plaintext : PairingPlaintext}
    (h : openControllerPlaintext crypto key sequence rendezvousId controllerDeviceId hostDeviceId
      encoded = .ok plaintext) :
    ∃ envelope aad bytes, decodePairingMessage crypto encoded = .ok (.encryptedEnvelope envelope) ∧
      envelope.rendezvousId = rendezvousId ∧ envelope.sequence = sequence ∧
      pairingAad .controllerToHost sequence rendezvousId controllerDeviceId hostDeviceId =
        .ok aad ∧
      openPairingPayload crypto key .controllerToHost sequence aad envelope.ciphertext =
        .ok bytes ∧
      strictDecode crypto.decodePlaintext PairingPlaintext.encode bytes = .ok plaintext := by
  simp only [openControllerPlaintext, bind_eq_ok, ensure_eq_ok, okOr_eq_ok, mapError_eq_ok,
    exists_and_left, exists_const] at h
  obtain ⟨message, hmessage, envelope, henvelope, version, -, ⟨-, hrendezvous, -, hsequence⟩,
    aad, haad, bytes, hbytes, hplaintext⟩ := h
  refine ⟨envelope, aad, bytes, ?_, hrendezvous, hsequence, haad, hbytes, hplaintext⟩
  cases message with
  | encryptedEnvelope e =>
    cases henvelope
    exact hmessage
  | hostInvitation i => cases henvelope
  | controllerHello hello => cases henvelope
  | other b => cases henvelope

/-- The cipher encrypts every plaintext that a pairing envelope may hold. -/
def EncryptsBounded (crypto : PairingCrypto) : Prop :=
  ∀ key nonce aad plaintext, plaintext.length ≤ maxPairingCiphertextBytes - aesGcmTagBytes →
    ∃ ciphertext, crypto.aesGcmEncrypt key nonce aad plaintext = some ciphertext

theorem pairingNonce_ok (direction : CryptoDirection) {sequence : UInt64} (hzero : sequence ≠ 0)
    (hmax : sequence.toNat ≤ maxPairingSequence) :
    ∃ nonce, pairingNonce direction sequence = .ok nonce := by
  simp only [pairingNonce, bind_eq_ok, ensure_eq_ok, exists_and_left, exists_const, pure,
    Except.pure, Except.ok.injEq]
  exact ⟨not_or.mpr ⟨hzero, Nat.not_lt.mpr hmax⟩, _, rfl⟩

/-- A short plaintext can be sealed. -/
theorem sealHostPlaintext_exists {crypto : PairingCrypto} (hencrypts : EncryptsBounded crypto)
    (key : Vector UInt8 32) (sequence : UInt64) (hzero : sequence ≠ 0)
    (hmax : sequence.toNat ≤ maxPairingSequence)
    {rendezvousId controllerDeviceId hostDeviceId : Bytes} {plaintext : PairingPlaintext}
    (hrendezvous : rendezvousId.length = rendezvousIdBytes)
    (hcontroller : controllerDeviceId.length = deviceIdBytes)
    (hhost : hostDeviceId.length = deviceIdBytes)
    (hlength : plaintext.encode.length ≤ maxPairingCiphertextBytes - aesGcmTagBytes) :
    ∃ encrypted, sealHostPlaintext crypto key.toList sequence rendezvousId controllerDeviceId
      hostDeviceId plaintext = .ok encrypted := by
  obtain ⟨nonce, hnonce⟩ := pairingNonce_ok .hostToController hzero hmax
  have haad : ∃ aad, pairingAad .hostToController sequence rendezvousId controllerDeviceId
      hostDeviceId = .ok aad := by
    simp only [pairingAad, requireLength, bind_eq_ok, ensure_eq_ok, exists_and_left,
      exists_const, pure, Except.pure, Except.ok.injEq]
    exact ⟨hrendezvous, hcontroller, hhost, _, nonce, hnonce, rfl⟩
  obtain ⟨aad, haad⟩ := haad
  obtain ⟨ciphertext, hciphertext⟩ := hencrypts key nonce aad plaintext.encode hlength
  simp only [sealHostPlaintext, sealPairingPayload, requireLength, bind_eq_ok, mapError_eq_ok,
    ensure_eq_ok, okOr_eq_ok, toArray?_eq_some, exists_and_left, exists_const, pure, Except.pure,
    Except.ok.injEq]
  exact ⟨_, aad, haad, ciphertext, ⟨key.length_toList, hlength, key, rfl, nonce, hnonce,
    hciphertext⟩, rfl⟩

/-! ## Signing identity -/

/-- The role an identity has in a pairing. -/
inductive PairingIdentityRole where
  | unspecified
  | controller
  | host

/-- Errors of the signing identity that pairing can produce. -/
inductive IdentityError where
  | invalidTranscript (error : TranscriptError)
  | unsupportedTranscriptPurpose
  | invalidPairingRole
  | controllerDeviceIdMismatch
  | hostDeviceIdMismatch

/-- The identity of the Host with its signing key. -/
structure HostIdentity where
  deviceIdentity : DeviceIdentity
  signingKey : Vector UInt8 32

/-- The error of an identity that is not the one in the transcript. -/
def pairingIdentityMismatch : PairingIdentityRole → IdentityError
  | .controller => .controllerDeviceIdMismatch
  | .host => .hostDeviceIdMismatch
  | .unspecified => .invalidPairingRole

/-- The transcript tag of the device identifier of a role. -/
def deviceIdTag : PairingIdentityRole → Except IdentityError UInt16
  | .controller => .ok 1
  | .host => .ok 2
  | .unspecified => .error .invalidPairingRole

/-- Sign a pairing transcript that names this identity. -/
def HostIdentity.signPairingTranscript (crypto : PairingCrypto) (identity : HostIdentity)
    (canonicalTranscript : Bytes) (role : PairingIdentityRole) : Except IdentityError Bytes := do
  let decoded ← (decodeTranscript canonicalTranscript).mapError .invalidTranscript
  ensure (decoded.purpose = .pairingSas) .unsupportedTranscriptPurpose
  let tag ← deviceIdTag role
  let field ← okOr (decoded.fields.find? fun field => field.tag = tag)
    (pairingIdentityMismatch role)
  ensure (field.value = identity.deviceIdentity.deviceId) (pairingIdentityMismatch role)
  return (crypto.sign identity.signingKey canonicalTranscript).toList

end Host

end Roammand
