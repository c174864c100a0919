import Roammand.Client.SessionVerifier
import Roammand.Host.InputGating
import Roammand.Host.Pairing

/-!
# The handshake between the Host and the controller

The Host checks a signed offer and signs an answer to it; the controller checks the answer.  The
two sides are written in different languages and share only the bytes that are signed.  An
answer that the Host signed passes every check of the controller but that of its clock, and
under an unforgeable key no other answer passes.

Main results:

- Definition `Current`: the clock of the controller is inside the window of an offer.
- Theorem `SessionAnswerVerifier.signed_answer_accepted`: the controller takes the answer to an
  offer that the Host took exactly while the offer is current.
- Theorem `SessionAnswerVerifier.accepted_answer_agrees`: if the controller takes an answer, the
  Host took the offer that is outstanding.
-/

namespace Roammand

open Library Protocol Host.RemoteSessionCoordinator Host.OfferVerifier

/-! ## What a transcript fits -/

/-- The fields of an encoded transcript have the lengths of their tags. -/
theorem Protocol.length_of_encodeTranscript {transcript : CanonicalTranscript} {bytes : Bytes}
    (h : encodeTranscript transcript = .ok bytes) :
    ∀ field ∈ transcript.fields, field.value.length = fieldLength field.tag := by
  have hvalid := (encodeTranscript_eq_ok.mp h).valid
  unfold validateFields at hvalid
  obtain ⟨_, -, hvalid⟩ := bind_eq_ok.mp hvalid
  obtain ⟨_, hchecked, -⟩ := bind_eq_ok.mp hvalid
  intro field hfield
  exact ((checkFields_eq_ok.mp hchecked).2 field hfield).2.2

namespace Client

/-- The lengths of a signed answer are right. -/
theorem fixedFieldsFit_answer {answer : SessionAnswerAuthentication} {bytes : Bytes}
    (h : Host.encodeSessionAnswerTranscript answer.toWire = .ok bytes)
    (hsignature : answer.signature.length = signatureBytes) : fixedFieldsFit answer = true := by
  simp only [Host.encodeSessionAnswerTranscript, bind_eq_ok, mapError_eq_ok] at h
  obtain ⟨bits, -, hencode⟩ := h
  have hlength := length_of_encodeTranscript hencode
  simp only [List.forall_mem_cons] at hlength
  obtain ⟨hcontroller, hhost, hsession, hnonce, -, -, -, hoffer, hfingerprint, hanswer,
    hhostFingerprint, -⟩ := hlength
  exact decide_eq_true ⟨hcontroller, hhost, hsession, hnonce, hoffer, hfingerprint, hanswer,
    hhostFingerprint, hsignature⟩

/-! ## Time -/

/-- The clock of the controller is inside the window of an offer. -/
def Current (offer : SessionOfferAuthentication) (nowUnixMs : Int64) : Prop :=
  offer.issuedAtUnixMs ≤ nowUnixMs + futureClockSkewMs ∧ nowUnixMs ≤ offer.expiresAtUnixMs

/-- A difference of times that is small without a sign is the same with one. -/
theorem toInt_of_toUInt64_lt {time : Int64} (h : time.toUInt64.toNat < 2 ^ 63) :
    time.toInt = time.toUInt64.toNat := by
  rw [← Int64.toInt_toBitVec, ← Int64.toBitVec_toUInt64, BitVec.toInt_eq_toNat_cond,
    UInt64.toNat_toBitVec, if_pos (by omega)]

/-- Where the Host takes the lifetime of an offer, the controller does so too. -/
theorem checkTime_eq_ok {ε : Type} {expired lifetimeTooLong notYetValid : ε}
    {m : SessionOfferAuthentication} {nowUnixMs : Int64}
    (hle : m.issuedAtUnixMs.toUInt64.toNat ≤ m.expiresAtUnixMs.toUInt64.toNat)
    (hlifetime : m.expiresAtUnixMs.toUInt64.toNat - m.issuedAtUnixMs.toUInt64.toNat ≤
      Host.sessionAuthMaxLifetimeMs) :
    checkTime expired lifetimeTooLong notYetValid m nowUnixMs = .ok () ↔ Current m nowUnixMs := by
  have hdifference : (m.expiresAtUnixMs - m.issuedAtUnixMs).toUInt64.toNat ≤
      Host.sessionAuthMaxLifetimeMs := by
    rwa [Int64.toUInt64_sub, UInt64.toNat_sub_of_le _ _ (UInt64.le_iff_toNat_le.mpr hle)]
  rw [Host.sessionAuthMaxLifetimeMs] at hdifference
  have hsigned := toInt_of_toUInt64_lt (hdifference.trans_lt (by decide))
  have hnonneg : ¬ m.expiresAtUnixMs - m.issuedAtUnixMs < 0 := by
    rw [Int64.lt_iff_toInt_lt, hsigned, Int64.toInt_zero]
    omega
  have hshort : m.expiresAtUnixMs - m.issuedAtUnixMs ≤ maximumAuthenticationLifetimeMs := by
    rw [Int64.le_iff_toInt_le, hsigned]
    exact Int.ofNat_le.mpr hdifference
  simp [checkTime, Current, hnonneg, hshort]

/-! ## What the Host took -/

/-- The permissions on the wire determine the permissions. -/
theorem toInt32_permissions_inj {permissions permissions' : List SessionPermission}
    (h : permissions.map SessionPermission.toInt32 = permissions'.map SessionPermission.toInt32) :
    permissions = permissions' :=
  List.map_injective_iff.mpr (fun p p' h => by cases p <;> cases p' <;> first | rfl | cases h) h

/-- What the Host has checked of an offer that it takes. -/
theorem offerBound_of_verify {crypto : Crypto} {verifier : Host.OfferVerifier}
    {call : Host.VerifyCall} {accepted : Host.VerifiedSessionOffer}
    (h : (verifier.verify crypto call.authentication call.offerSdp
      call.controllerDtlsFingerprintSha256 call.authorization call.nowUnixMs).2 = .ok accepted) :
    Host.OfferBound crypto verifier.hostDeviceId call accepted ∧
      accepted.sessionId = call.authentication.sessionId ∧
      accepted.permissions.map SessionPermission.toInt32 =
        call.authentication.requestedPermissions := by
  have hbindings := verifyBindings_of_verify call h
  have hbound := verifyBindings_ok hbindings
  obtain ⟨_, _, _, _, _, -, -, -, -, -, -, -, -, hpermissions, -⟩ := hbound.granted
  refine ⟨hbound, ?_, hpermissions⟩
  simp only [verifyBindings, bind_eq_ok] at hbindings
  obtain ⟨_, -, _, -, _, -, _, -, _, -, _, -, _, -, _, -, _, -, _, -, _, -, _, -, haccepted⟩ :=
    hbindings
  cases haccepted
  rfl

/-- The message of the Host determines the message that the controller holds. -/
theorem SessionAnswerAuthentication.toWire_inj {m m' : SessionAnswerAuthentication}
    (h : m.toWire = m'.toWire) : m = m' := by
  obtain ⟨⟨_, _, _, _, issued, expires, _, _, _, _⟩, _, _⟩ := m
  obtain ⟨⟨_, _, _, _, issued', expires', _, _, _, _⟩, _, _⟩ := m'
  simp only [toWire, Protocol.SessionAnswerAuthentication.mk.injEq] at h
  obtain ⟨rfl, rfl, rfl, rfl, hissued, hexpires, hpermissions, rfl, rfl, rfl, rfl, rfl⟩ := h
  obtain rfl : issued = issued' := congrArg Int64.ofUInt64 hissued
  obtain rfl : expires = expires' := congrArg Int64.ofUInt64 hexpires
  rw [toInt32_permissions_inj hpermissions]

/-! ## The answers of the Host -/

/-- The answer to an offer with a given signature. -/
def SessionOfferAuthentication.answered (offer : SessionOfferAuthentication)
    (answerSha256 hostDtlsFingerprintSha256 signature : Bytes) : SessionAnswerAuthentication :=
  { offer with answerSha256, hostDtlsFingerprintSha256, signature }

theorem answerBindsOffer_answered (offer : SessionOfferAuthentication)
    (answerSha256 fingerprint signature : Bytes) :
    answerBindsOffer (offer.answered answerSha256 fingerprint signature) offer = true :=
  decide_eq_true ⟨rfl, rfl, rfl, rfl, rfl, rfl, rfl, rfl, rfl⟩

section Signed

variable {crypto : Crypto} {env : Host.Environment} {verifier : Host.OfferVerifier}
  {call : Host.VerifyCall} {accepted : Host.VerifiedSessionOffer}
  {offer : SessionOfferAuthentication} {answerSdp : String} {hostFingerprint : Bytes}

variable {answer : SessionAnswerAuthentication}

/-- What the Host signs answers the offer, and both sides encode it alike. -/
theorem signRemoteAnswer_toWire
    (h : signRemoteAnswer crypto env offer.toWire answerSdp hostFingerprint = .ok answer.toWire) :
    ∃ transcript signature,
      answer = offer.answered (crypto.sha256 (utf8 answerSdp)).toList hostFingerprint
        (Vector.toList signature) ∧
      encodeSessionAnswerTranscript answer = .ok transcript ∧
      env.sign transcript = some signature ∧ fixedFieldsFit answer = true := by
  simp only [signRemoteAnswer, bind_eq_ok, okOr_eq_ok, mapError_eq_ok] at h
  obtain ⟨transcript, htranscript, signature, hsignature, hanswer⟩ := h
  obtain rfl := SessionAnswerAuthentication.toWire_inj
    (m := offer.answered (crypto.sha256 (utf8 answerSdp)).toList hostFingerprint signature.toList)
    (Except.ok.inj hanswer)
  exact ⟨transcript, signature, rfl, (encodeSessionAnswerTranscript_iff _ _).mp htranscript,
    hsignature, fixedFieldsFit_answer htranscript Vector.length_toList⟩

/-- The answer to an offer that the Host took is accepted exactly while the offer is current, and
both sides then hold the same session with the same permissions. -/
theorem SessionAnswerVerifier.signed_answer_accepted (hoffer : call.authentication = offer.toWire)
    (haccepted : (verifier.verify crypto call.authentication call.offerSdp
      call.controllerDtlsFingerprintSha256 call.authorization call.nowUnixMs).2 = .ok accepted)
    (hsigned : signRemoteAnswer crypto env offer.toWire answerSdp
      hostFingerprint = .ok answer.toWire)
    (v : SessionAnswerVerifier crypto) (hhost : v.expectedHost.deviceId = verifier.hostDeviceId)
    (hkey : ∀ transcript signature, env.sign transcript = some signature →
      verifies crypto v.expectedHost.publicKey transcript signature.toList = true)
    (nowUnixMs : Int64) :
    v.verify offer answer answerSdp hostFingerprint nowUnixMs =
        .ok ⟨v.expectedHost, accepted.sessionId, accepted.permissions⟩ ↔
      Current offer nowUnixMs := by
  obtain ⟨hbound, hsession, hpermissions⟩ := offerBound_of_verify haccepted
  have hlifetime := hbound.lifetime
  have hdevice := hbound.host
  rw [hoffer] at hlifetime hdevice hsession hpermissions
  obtain ⟨transcript, signature, rfl, hencode, hsignature, hfits⟩ :=
    signRemoteAnswer_toWire hsigned
  have htime (hash signature : Bytes) :
      validateTime (offer.answered hash hostFingerprint signature) nowUnixMs = .ok () ↔
        Current offer nowUnixMs :=
    checkTime_eq_ok (m := { offer with signature }) hlifetime.1 hlifetime.2
  constructor
  · intro h
    unfold verify at h
    obtain ⟨_, -, h⟩ := bind_eq_ok.mp h
    obtain ⟨_, -, h⟩ := bind_eq_ok.mp h
    obtain ⟨_, -, h⟩ := bind_eq_ok.mp h
    obtain ⟨_, -, h⟩ := bind_eq_ok.mp h
    obtain ⟨_, hcurrent, -⟩ := bind_eq_ok.mp h
    exact (htime _ _).mp hcurrent
  · intro hcurrent
    obtain ⟨bits, hbits, -⟩ := bind_eq_ok.mp hencode
    have hnormalized := normalizePermissions_of_bits
      SessionAnswerAuthenticationErrorCode.invalidPermissions hbits
    unfold verify
    refine bind_eq_ok.mpr ⟨⟨⟩, ensure_eq_ok.mpr hfits, ?_⟩
    refine bind_eq_ok.mpr ⟨⟨⟩, ensure_eq_ok.mpr (hdevice.trans hhost.symm), ?_⟩
    refine bind_eq_ok.mpr ⟨⟨⟩, ensure_eq_ok.mpr (answerBindsOffer_answered _ _ _ _), ?_⟩
    refine bind_eq_ok.mpr ⟨_, hnormalized, ?_⟩
    refine bind_eq_ok.mpr ⟨⟨⟩, (htime _ _).mpr hcurrent, ?_⟩
    refine bind_eq_ok.mpr ⟨⟨⟩, ensure_eq_ok.mpr rfl, ?_⟩
    refine bind_eq_ok.mpr ⟨⟨⟩, ensure_eq_ok.mpr rfl, ?_⟩
    refine bind_eq_ok.mpr ⟨transcript, hencode, ?_⟩
    refine bind_eq_ok.mpr ⟨⟨⟩, ensure_eq_ok.mpr (hkey _ _ hsignature), ?_⟩
    rw [hsession, toInt32_permissions_inj hpermissions]
    rfl

/-- The Host signed an answer to an offer that it took. -/
def Answered (crypto : Crypto) (hostDeviceId : Bytes) (call : Host.VerifyCall)
    (accepted : Host.VerifiedSessionOffer) (answer : Protocol.SessionAnswerAuthentication) : Prop :=
  (∃ verifier : Host.OfferVerifier, verifier.hostDeviceId = hostDeviceId ∧
    (verifier.verify crypto call.authentication call.offerSdp call.controllerDtlsFingerprintSha256
      call.authorization call.nowUnixMs).2 = .ok accepted) ∧
  ∃ env answerSdp hostFingerprint, signRemoteAnswer crypto env
    call.authentication answerSdp hostFingerprint = .ok answer

/-- An answer of the Host carries all that was signed of the offer. -/
theorem offer_of_signRemoteAnswer {taken : Protocol.SessionOfferAuthentication}
    {signed : Protocol.SessionAnswerAuthentication} {answer : SessionAnswerAuthentication}
    (h : ∃ env answerSdp hostFingerprint, signRemoteAnswer crypto env
      taken answerSdp hostFingerprint = .ok signed)
    (hsame : Host.authenticated (.answer signed) = Host.authenticated (.answer answer.toWire)) :
    Host.authenticated (.offer taken) =
      Host.authenticated (.offer answer.toSessionOfferAuthentication.toWire) := by
  obtain ⟨env, _, _, h⟩ := h
  simp only [signRemoteAnswer, bind_eq_ok] at h
  obtain ⟨_, -, signature, -, h⟩ := h
  cases h
  have hfields := Protocol.SessionAuthentication.answer.inj hsame
  simp only [SessionAnswerAuthentication.toWire, Protocol.SessionAnswerAuthentication.mk.injEq]
    at hfields
  simp only [Host.authenticated, SessionOfferAuthentication.toWire, hfields]

/-- An answer that binds an offer carries all that was signed of it. -/
theorem authenticated_of_bindsOffer {answer offer : SessionOfferAuthentication}
    (h : bindsOffer answer offer = true) :
    Host.authenticated (.offer answer.toWire) = Host.authenticated (.offer offer.toWire) := by
  simp only [Host.authenticated, SessionOfferAuthentication.toWire, of_decide_eq_true h]

/-- If nobody but the Host has signed the transcript of an answer, the controller accepts it only
if the Host took the very offer that is outstanding, for the same session and permissions. -/
theorem SessionAnswerVerifier.accepted_answer_agrees
    {v : SessionAnswerVerifier crypto} {nowUnixMs : Int64} {verified : VerifiedSessionAnswer}
    (h : v.verify offer answer answerSdp hostFingerprint nowUnixMs = .ok verified)
    (hunforged : ∀ transcript, Host.encodeSessionAnswerTranscript answer.toWire = .ok transcript →
      verifies crypto v.expectedHost.publicKey transcript answer.signature = true →
      ∃ call accepted signed, Answered crypto v.expectedHost.deviceId call accepted signed ∧
        Host.encodeSessionAnswerTranscript signed = .ok transcript) :
    ∃ call accepted signed, Answered crypto v.expectedHost.deviceId call accepted signed ∧
      Host.authenticated (.offer call.authentication) = Host.authenticated (.offer offer.toWire) ∧
      Host.authenticated (.answer signed) = Host.authenticated (.answer answer.toWire) ∧
      accepted.sessionId = verified.sessionId ∧ accepted.permissions = verified.permissions := by
  obtain ⟨hbinds, -, hsession, hpermissions, transcript, hencode, hverifies⟩ := verify_eq_ok h
  have hwire := (encodeSessionAnswerTranscript_iff _ _).mpr hencode
  obtain ⟨call, accepted, signed, hanswered, hsigned⟩ := hunforged _ hwire hverifies
  have hsame := Host.answer_injective hsigned hwire
  have hoffered := offer_of_signRemoteAnswer hanswered.2 hsame
  obtain ⟨verifier, -, htaken⟩ := hanswered.1
  obtain ⟨-, hsession', hpermissions'⟩ := offerBound_of_verify htaken
  have hfields := Protocol.SessionAuthentication.offer.inj hoffered
  refine ⟨call, accepted, signed, hanswered, hoffered.trans (authenticated_of_bindsOffer hbinds),
    hsame, ?_, toInt32_permissions_inj ?_⟩
  · rw [hsession, hsession']
    exact congrArg (·.sessionId) hfields
  · rw [hpermissions, hpermissions']
    exact congrArg (·.requestedPermissions) hfields

end Signed

/-! ### The sample answer -/

/-- The sample offer as the controller holds it. -/
def sampleOffer : SessionOfferAuthentication where
  controllerDeviceId := Host.OfferVerifier.sampleOffer.controllerDeviceId
  hostDeviceId := Host.sampleHostIdentity.deviceId
  sessionId := Host.OfferVerifier.sampleOffer.sessionId
  nonce := Host.OfferVerifier.sampleOffer.nonce
  issuedAtUnixMs := 1700000000000
  expiresAtUnixMs := 1700000020000
  requestedPermissions := [.viewScreen, .controlInput]
  offerSha256 := Host.OfferVerifier.sampleOffer.offerSha256
  controllerDtlsFingerprintSha256 :=
    Host.OfferVerifier.sampleOffer.controllerDtlsFingerprintSha256
  signature := Host.OfferVerifier.sampleOffer.signature

/-- The Host's answer to the sample offer. -/
def sampleAnswer : SessionAnswerAuthentication :=
  sampleOffer.answered sampleOffer.offerSha256 (List.replicate 32 6)
    sampleAnswerSignature.toList

/-- The primitives on the sample answer: those on the offer, the identifier of the Host and
the signature of the answer. -/
def sampleHandshakeCrypto : Crypto where
  sha256 input :=
    if input = identityDerivationDomain ++ [0] ++ bigEndian 2 1 ++ Host.sampleHostIdentity.publicKey
    then ((toArray? 32 Host.sampleHostIdentity.deviceId).getD (Vector.replicate 32 0))
    else sampleOfferCrypto.sha256 input
  validKey := sampleOfferCrypto.validKey
  verifies key transcript signature :=
    sampleOfferCrypto.verifies key transcript signature ||
      decide (key.toList = Host.sampleHostIdentity.publicKey ∧
        signature.toList = sampleAnswer.signature ∧
        encodeSessionAnswerTranscript sampleAnswer = .ok transcript)

/-- The Host that signs the sample answer and nothing else. -/
def sampleSigner : Host.Environment :=
  { sampleEnvironment with
    sign := fun transcript =>
      if encodeSessionAnswerTranscript sampleAnswer = .ok transcript then
        some sampleAnswerSignature
      else none }

theorem verifies_sampleSigner {transcript : Bytes} {signature : Vector UInt8 64}
    (h : sampleSigner.sign transcript = some signature) :
    verifies sampleHandshakeCrypto Host.sampleHostIdentity.publicKey transcript
      signature.toList = true := by
  simp only [sampleSigner] at h
  split_ifs at h with htranscript
  cases h
  obtain ⟨key, hkey⟩ := Option.isSome_iff_exists.mp
    (by decide : (toArray? 32 Host.sampleHostIdentity.publicKey).isSome = true)
  rw [verifies, hkey, toArray?_eq_some.mpr rfl]
  refine (Bool.or_eq_true _ _).mpr (.inr (decide_eq_true ?_))
  exact ⟨toArray?_eq_some.mp hkey, rfl, htranscript⟩

theorem transcript_of_verifies {transcript signature : Bytes}
    (h : verifies sampleHandshakeCrypto Host.sampleHostIdentity.publicKey transcript signature =
      true) : encodeSessionAnswerTranscript sampleAnswer = .ok transcript := by
  unfold verifies at h
  split at h
  · next key _ hkey _ =>
    rcases (Bool.or_eq_true _ _).mp h with hoffer | hanswer
    · have hother := (toArray?_eq_some.mp hkey).symm.trans (of_decide_eq_true hoffer).1
      exact absurd hother (by decide)
    · exact (of_decide_eq_true hanswer).2.2
  · cases h

/-- The call in which the Host takes the sample offer. -/
def sampleCall : Host.VerifyCall := Host.OfferVerifier.sampleCall 1700000000500

/-- What the sample offer yields. -/
def sampleAccepted : Host.VerifiedSessionOffer :=
  ⟨Host.AuthorizationRegistry.sampleController, List.replicate 16 3, [.viewScreen, .controlInput]⟩

theorem sampleCall_accepted :
    (Host.OfferVerifier.verify sampleHandshakeCrypto ⟨Host.sampleHostIdentity.deviceId, ∅⟩
      sampleCall.authentication sampleCall.offerSdp sampleCall.controllerDtlsFingerprintSha256
      sampleCall.authorization sampleCall.nowUnixMs).2 = .ok sampleAccepted := by
  decide +kernel

theorem sampleCall_authentication : sampleCall.authentication = sampleOffer.toWire := by
  decide +kernel

theorem sampleAnswer_signed :
    signRemoteAnswer sampleHandshakeCrypto sampleSigner
      sampleOffer.toWire "v=0\r\n" (List.replicate 32 6) = .ok sampleAnswer.toWire := by
  decide +kernel

theorem sampleHost_valid :
    isValidHostIdentity sampleHandshakeCrypto Host.sampleHostIdentity = true := by
  decide +kernel

namespace SessionAnswerVerifier

/-- The controller that expects the sample Host. -/
def sampleVerifier : SessionAnswerVerifier sampleHandshakeCrypto :=
  ⟨Host.sampleHostIdentity, sampleHost_valid⟩

/-- The controller takes the answer to the sample offer. -/
theorem signed_answer_accepted_sample :
    sampleVerifier.verify sampleOffer sampleAnswer "v=0\r\n" (List.replicate 32 6) 1700000000600 =
      .ok ⟨Host.sampleHostIdentity, sampleAccepted.sessionId, sampleAccepted.permissions⟩ :=
  (signed_answer_accepted sampleCall_authentication sampleCall_accepted sampleAnswer_signed
    sampleVerifier rfl (fun _ _ => verifies_sampleSigner) 1700000000600).mpr
    ⟨by decide, by decide⟩

/-- What the controller takes is what the Host took. -/
theorem accepted_answer_agrees_sample :
    ∃ call accepted signed, Answered sampleHandshakeCrypto Host.sampleHostIdentity.deviceId call
        accepted signed ∧
      Host.authenticated (.offer call.authentication) =
        Host.authenticated (.offer sampleOffer.toWire) := by
  have h : sampleVerifier.verify sampleOffer sampleAnswer "v=0\r\n" (List.replicate 32 6)
      1700000000600 = .ok ⟨Host.sampleHostIdentity, List.replicate 16 3,
        [.viewScreen, .controlInput]⟩ := by
    decide +kernel
  obtain ⟨call, accepted, signed, hanswered, hoffer, -⟩ := accepted_answer_agrees h
    fun _ _ hverifies => ⟨sampleCall, sampleAccepted, sampleAnswer.toWire,
      ⟨⟨_, rfl, sampleCall_accepted⟩, sampleSigner, _, _,
        sampleCall_authentication ▸ sampleAnswer_signed⟩,
      (encodeSessionAnswerTranscript_iff _ _).mpr (transcript_of_verifies hverifies)⟩
  exact ⟨call, accepted, signed, hanswered, hoffer⟩

end SessionAnswerVerifier

end Client

end Roammand
