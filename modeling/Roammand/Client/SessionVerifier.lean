import Roammand.Client.SessionAuthenticator
import Roammand.Protocol.Signaling

/-!
# What the controller accepts from the Host

The controller checks the Host's answer to an offer, and the Host's answer for a session that is
already there, against the offer that is outstanding: the identity of the Host, what was offered,
the time, the description and the certificate, and the signature.

Main results:

- Definitions `SessionAnswerVerifier.verify` and `SessionReconnectVerifier.verify`.
- Theorem `SessionAnswerVerifier.verify_eq_ok`: what an accepted answer is bound to.
-/

namespace Roammand

namespace Client

open Library Protocol

/-! ## The checks -/

/-- The longest lifetime of an authentication message, in milliseconds. -/
def maximumAuthenticationLifetimeMs : Int64 := 30000

/-- How far the clock of the other side may be ahead, in milliseconds. -/
def futureClockSkewMs : Int64 := 10000

/-- `Ed25519().verify`. -/
def verifies (crypto : Crypto) (publicKey transcript signature : Bytes) : Bool :=
  match toArray? 32 publicKey, toArray? 64 signature with
  | some key, some signature => crypto.verifies key transcript signature
  | _, _ => false

/-- `_isValidHostIdentity`. -/
def isValidHostIdentity (crypto : Crypto) (identity : DeviceIdentity) : Bool :=
  if identity.deviceId.length ≠ deviceIdBytes ∨ identity.publicKey.length ≠ deviceIdBytes ∨
      identity.publicKeyAlgorithm ≠ publicKeyAlgorithmEd25519 then false
  else
    match deriveDeviceIdV1 crypto identity.publicKey with
    | .ok deviceId => decide (identity.deviceId = deviceId.toList)
    | .error _ => false

variable (answer : SessionAnswerAuthentication)

/-- The fields of fixed length have their lengths. -/
def fixedFieldsFit : Bool :=
  decide (answer.controllerDeviceId.length = deviceIdBytes ∧
    answer.hostDeviceId.length = deviceIdBytes ∧ answer.sessionId.length = sessionIdBytes ∧
    answer.nonce.length = nonceOrHashBytes ∧ answer.offerSha256.length = nonceOrHashBytes ∧
    answer.controllerDtlsFingerprintSha256.length = nonceOrHashBytes ∧
    answer.answerSha256.length = nonceOrHashBytes ∧
    answer.hostDtlsFingerprintSha256.length = nonceOrHashBytes ∧
    answer.signature.length = signatureBytes)

/-- The times of a message.  The arithmetic is that of 64-bit integers. -/
def checkTime {ε : Type} (expired lifetimeTooLong notYetValid : ε)
    (m : SessionOfferAuthentication) (nowUnixMs : Int64) : Except ε Unit := do
  let lifetime := m.expiresAtUnixMs - m.issuedAtUnixMs
  ensure (¬ lifetime < 0) expired
  ensure (lifetime ≤ maximumAuthenticationLifetimeMs) lifetimeTooLong
  ensure (m.issuedAtUnixMs ≤ nowUnixMs + futureClockSkewMs) notYetValid
  ensure (nowUnixMs ≤ m.expiresAtUnixMs) expired

/-- What was offered comes back unchanged. -/
def bindsOffer (answer offer : SessionOfferAuthentication) : Bool :=
  decide (answer.controllerDeviceId = offer.controllerDeviceId ∧
    answer.hostDeviceId = offer.hostDeviceId ∧ answer.sessionId = offer.sessionId ∧
    answer.nonce = offer.nonce ∧ answer.issuedAtUnixMs = offer.issuedAtUnixMs ∧
    answer.expiresAtUnixMs = offer.expiresAtUnixMs ∧
    answer.requestedPermissions = offer.requestedPermissions ∧
    answer.offerSha256 = offer.offerSha256 ∧
    answer.controllerDtlsFingerprintSha256 = offer.controllerDtlsFingerprintSha256)

/-- `_validateFixedFields`. -/
def validateFixedFields :
    Except SessionAnswerAuthenticationErrorCode Unit :=
  ensure (fixedFieldsFit answer) .invalidAnswer

variable (reconnect : SessionReconnectAuthentication)

/-- `_validateReconnectFixedFields`. -/
def validateReconnectFixedFields :
    Except SessionReconnectAuthenticationErrorCode Unit :=
  ensure (fixedFieldsFit reconnect.toSessionAnswerAuthentication) .invalidReconnect

variable (nowUnixMs : Int64)

/-- `_validateTime`. -/
def validateTime :
    Except SessionAnswerAuthenticationErrorCode Unit :=
  checkTime .expired .lifetimeTooLong .notYetValid answer.toSessionOfferAuthentication nowUnixMs

/-- `_validateReconnectTime`. -/
def validateReconnectTime :
    Except SessionReconnectAuthenticationErrorCode Unit :=
  checkTime .expired .lifetimeTooLong .notYetValid reconnect.toSessionOfferAuthentication nowUnixMs

variable (offer : SessionOfferAuthentication)

/-- `_answerBindsOffer`. -/
def answerBindsOffer :
    Bool :=
  bindsOffer answer.toSessionOfferAuthentication offer

/-- `_reconnectBindsOffer`. -/
def reconnectBindsOffer : Bool :=
  bindsOffer reconnect.toSessionOfferAuthentication offer

/-- Permissions that have bits pass the check for any caller. -/
theorem normalizePermissions_of_bits {ε ε' : Type} {e : ε} (e' : ε')
    {values : List SessionPermission} {bits : Nat} (h : permissionBits e values = .ok bits) :
    normalizePermissions e' values = .ok values := by
  rcases permissionBits_ok.mp h with ⟨rfl, -⟩ | ⟨rfl, -⟩ <;> rfl

/-! ## The verifiers -/

/-- A verified answer. -/
structure VerifiedSessionAnswer where
  hostIdentity : DeviceIdentity
  sessionId : Bytes
  permissions : List SessionPermission
  deriving DecidableEq

/-- A verified answer for a session that is already there. -/
structure VerifiedSessionReconnect where
  sessionId : Bytes
  generation : Nat
  permissions : List SessionPermission

/-- A verifier of answers of a Host whose identity is valid. -/
structure SessionAnswerVerifier (crypto : Crypto) where
  expectedHost : DeviceIdentity
  valid : isValidHostIdentity crypto expectedHost = true

/-- A verifier of reconnects of a Host whose identity is valid. -/
structure SessionReconnectVerifier (crypto : Crypto) where
  expectedHost : DeviceIdentity
  valid : isValidHostIdentity crypto expectedHost = true

namespace SessionAnswerVerifier

/-- A verifier for the Host. -/
def new (crypto : Crypto) (expectedHost : DeviceIdentity) :
    Except SessionAnswerAuthenticationErrorCode (SessionAnswerVerifier crypto) :=
  if h : isValidHostIdentity crypto expectedHost = true then .ok ⟨expectedHost, h⟩
  else .error .invalidHostIdentity

variable {crypto : Crypto}

/-- `verify`. -/
def verify (v : SessionAnswerVerifier crypto)
    (offer : SessionOfferAuthentication) (answer : SessionAnswerAuthentication)
    (answerSdp : String) (hostDtlsFingerprintSha256 : Bytes) (nowUnixMs : Int64) :
    Except SessionAnswerAuthenticationErrorCode VerifiedSessionAnswer := do
  validateFixedFields answer
  ensure (answer.hostDeviceId = v.expectedHost.deviceId) .hostMismatch
  ensure (answerBindsOffer answer offer) .offerBindingMismatch
  let permissions ← normalizePermissions .invalidPermissions answer.requestedPermissions
  validateTime answer nowUnixMs
  ensure (answer.answerSha256 = (crypto.sha256 (utf8 answerSdp)).toList) .answerHashMismatch
  ensure (answer.hostDtlsFingerprintSha256 = hostDtlsFingerprintSha256) .fingerprintMismatch
  let transcript ← encodeSessionAnswerTranscript answer
  ensure (verifies crypto v.expectedHost.publicKey transcript answer.signature) .invalidSignature
  return { hostIdentity := v.expectedHost, sessionId := answer.sessionId, permissions }

/-- What an accepted answer is bound to. -/
theorem verify_eq_ok {v : SessionAnswerVerifier crypto}
    {offer : SessionOfferAuthentication} {answer : SessionAnswerAuthentication}
    {answerSdp : String} {fingerprint : Bytes} {nowUnixMs : Int64}
    {verified : VerifiedSessionAnswer}
    (h : v.verify offer answer answerSdp fingerprint nowUnixMs = .ok verified) :
    bindsOffer answer.toSessionOfferAuthentication offer = true ∧
      answer.answerSha256 = (crypto.sha256 (utf8 answerSdp)).toList ∧
      verified.sessionId = answer.sessionId ∧
      verified.permissions = answer.requestedPermissions ∧
      ∃ transcript, encodeSessionAnswerTranscript answer = .ok transcript ∧
        verifies crypto v.expectedHost.publicKey transcript answer.signature = true := by
  unfold verify at h
  obtain ⟨_, -, h⟩ := bind_eq_ok.mp h
  obtain ⟨_, -, h⟩ := bind_eq_ok.mp h
  obtain ⟨_, hbinds, h⟩ := bind_eq_ok.mp h
  obtain ⟨permissions, hpermissions, h⟩ := bind_eq_ok.mp h
  obtain ⟨_, -, h⟩ := bind_eq_ok.mp h
  obtain ⟨_, hhash, h⟩ := bind_eq_ok.mp h
  obtain ⟨_, -, h⟩ := bind_eq_ok.mp h
  obtain ⟨transcript, htranscript, h⟩ := bind_eq_ok.mp h
  obtain ⟨_, hsigned, h⟩ := bind_eq_ok.mp h
  cases h
  obtain ⟨bits, hbits, -⟩ := bind_eq_ok.mp htranscript
  have hnormalized := normalizePermissions_of_bits
    SessionAnswerAuthenticationErrorCode.invalidPermissions hbits
  exact ⟨ensure_eq_ok.mp hbinds, ensure_eq_ok.mp hhash, rfl,
    Except.ok.inj (hpermissions.symm.trans hnormalized), transcript, htranscript,
    ensure_eq_ok.mp hsigned⟩

end SessionAnswerVerifier

namespace SessionReconnectVerifier

/-- A verifier for the Host. -/
def new (crypto : Crypto) (expectedHost : DeviceIdentity) :
    Except SessionReconnectAuthenticationErrorCode (SessionReconnectVerifier crypto) :=
  if h : isValidHostIdentity crypto expectedHost = true then .ok ⟨expectedHost, h⟩
  else .error .invalidHostIdentity

/-- `verify`. -/
def verify {crypto : Crypto} (v : SessionReconnectVerifier crypto)
    (offer : SessionOfferAuthentication) (reconnect : SessionReconnectAuthentication)
    (answerSdp : String) (hostDtlsFingerprintSha256 : Bytes) (previousGeneration : Nat)
    (nowUnixMs : Int64) :
    Except SessionReconnectAuthenticationErrorCode VerifiedSessionReconnect := do
  validateReconnectFixedFields reconnect
  ensure (reconnect.hostDeviceId = v.expectedHost.deviceId) .hostMismatch
  ensure (reconnectBindsOffer reconnect offer) .offerBindingMismatch
  let permissions ← normalizePermissions .invalidPermissions reconnect.requestedPermissions
  validateReconnectTime reconnect nowUnixMs
  ensure (previousGeneration < 0xffffffff ∧
    previousGeneration < reconnect.reconnectGeneration.toNat) .generationMismatch
  ensure (reconnect.answerSha256 = (crypto.sha256 (utf8 answerSdp)).toList) .answerHashMismatch
  ensure (reconnect.hostDtlsFingerprintSha256 = hostDtlsFingerprintSha256) .fingerprintMismatch
  let transcript ← encodeSessionReconnectTranscript reconnect
  ensure (verifies crypto v.expectedHost.publicKey transcript reconnect.signature)
    .invalidSignature
  return {
    sessionId := reconnect.sessionId
    generation := reconnect.reconnectGeneration.toNat
    permissions }

end SessionReconnectVerifier

end Client

end Roammand
