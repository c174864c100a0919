import Roammand.Host.SessionAuth
import Roammand.Protocol.TranscriptPorts

/-!
# What a session signature binds

Offers, answers and reconnects are signed over canonical transcripts.  Host and
controller build these transcripts separately; the controller's messages hold
enumerations in place of numbers and signed 64-bit times.

Main results:

- Definitions `Client.encodeSessionOfferTranscript`, `Client.encodeSessionAnswerTranscript`
  and `Client.encodeSessionReconnectTranscript`.
- Theorem `normalizeSessionPermissions_ok`: the accepted permissions are view alone or
  view and control.
- Theorem `session_transcript_binding`: messages with the same signed bytes agree on
  their kind and on all that is signed, and both sides sign the same bytes.
-/

namespace Roammand

open Library Protocol SessionPermission

/-! ## The controller's encoders -/

namespace Client

/-- Why an answer is refused. -/
inductive SessionAnswerAuthenticationErrorCode where
  | invalidAnswer
  | invalidHostIdentity
  | hostMismatch
  | offerBindingMismatch
  | notYetValid
  | expired
  | lifetimeTooLong
  | invalidPermissions
  | answerHashMismatch
  | fingerprintMismatch
  | invalidSignature
  | invalidTranscript
  deriving DecidableEq

/-- Why a reconnect is refused. -/
inductive SessionReconnectAuthenticationErrorCode where
  | invalidReconnect
  | invalidHostIdentity
  | hostMismatch
  | offerBindingMismatch
  | notYetValid
  | expired
  | lifetimeTooLong
  | invalidPermissions
  | answerHashMismatch
  | fingerprintMismatch
  | generationMismatch
  | invalidSignature
  | invalidTranscript
  deriving DecidableEq

/-- A session offer as the controller holds it. -/
structure SessionOfferAuthentication where
  controllerDeviceId : Bytes
  hostDeviceId : Bytes
  sessionId : Bytes
  nonce : Bytes
  issuedAtUnixMs : Int64
  expiresAtUnixMs : Int64
  requestedPermissions : List SessionPermission
  offerSha256 : Bytes
  controllerDtlsFingerprintSha256 : Bytes
  signature : Bytes

/-- A session answer as the controller holds it. -/
structure SessionAnswerAuthentication extends SessionOfferAuthentication where
  answerSha256 : Bytes
  hostDtlsFingerprintSha256 : Bytes

/-- A reconnect as the controller holds it. -/
structure SessionReconnectAuthentication extends SessionAnswerAuthentication where
  reconnectGeneration : UInt32

/-- The ascending permissions, all of them specified. -/
def checkPermissions {ε : Type} (invalidPermissions : ε) :
    (previous : Int) → List SessionPermission → Except ε Unit
  | _, [] => .ok ()
  | previous, permission :: permissions => do
    ensure (¬ (permission = .unspecified ∨ permission.toInt32.toInt ≤ previous))
      invalidPermissions
    checkPermissions invalidPermissions permission.toInt32.toInt permissions

/-- The requested permissions: nonempty, ascending, no control without view. -/
def normalizePermissions {ε : Type} (invalidPermissions : ε)
    (values : List SessionPermission) : Except ε (List SessionPermission) := do
  ensure (values ≠ []) invalidPermissions
  checkPermissions invalidPermissions (-1) values
  ensure (¬ (.controlInput ∈ values ∧ .viewScreen ∉ values)) invalidPermissions
  return values

/-- The permissions as a bit set. -/
def permissionBits {ε : Type} (invalidPermissions : ε) (values : List SessionPermission) :
    Except ε Nat := do
  let normalized ← normalizePermissions invalidPermissions values
  return normalized.foldl (fun bits permission => bits ||| permission.toInt32.toInt.toNat) 0

/-- The low 64 bits of an integer. -/
def uint64 (value : Int) : Bytes := bigEndian 8 (value % 2 ^ 64).toNat

/-- The signed bytes of a session offer. -/
def encodeSessionOfferTranscript (offer : SessionOfferAuthentication) :
    Except SessionAnswerAuthenticationErrorCode Bytes := do
  let bits ← permissionBits .invalidPermissions offer.requestedPermissions
  (Dart.encode
    { purpose := .sessionOffer
      fields :=
        [⟨1, offer.controllerDeviceId⟩,
          ⟨2, offer.hostDeviceId⟩,
          ⟨8, offer.sessionId⟩,
          ⟨9, offer.nonce⟩,
          ⟨10, uint64 offer.issuedAtUnixMs.toInt⟩,
          ⟨11, uint64 offer.expiresAtUnixMs.toInt⟩,
          ⟨12, Dart.uint32 bits⟩,
          ⟨13, offer.offerSha256⟩,
          ⟨14, offer.controllerDtlsFingerprintSha256⟩] }).mapError fun _ => .invalidTranscript

/-- The signed bytes of a session answer. -/
def encodeSessionAnswerTranscript (answer : SessionAnswerAuthentication) :
    Except SessionAnswerAuthenticationErrorCode Bytes := do
  let bits ← permissionBits .invalidPermissions answer.requestedPermissions
  (Dart.encode
    { purpose := .sessionAnswer
      fields :=
        [⟨1, answer.controllerDeviceId⟩,
          ⟨2, answer.hostDeviceId⟩,
          ⟨8, answer.sessionId⟩,
          ⟨9, answer.nonce⟩,
          ⟨10, uint64 answer.issuedAtUnixMs.toInt⟩,
          ⟨11, uint64 answer.expiresAtUnixMs.toInt⟩,
          ⟨12, Dart.uint32 bits⟩,
          ⟨13, answer.offerSha256⟩,
          ⟨14, answer.controllerDtlsFingerprintSha256⟩,
          ⟨15, answer.answerSha256⟩,
          ⟨16, answer.hostDtlsFingerprintSha256⟩] }).mapError fun _ => .invalidTranscript

/-- The signed bytes of a reconnect. -/
def encodeSessionReconnectTranscript (reconnect : SessionReconnectAuthentication) :
    Except SessionReconnectAuthenticationErrorCode Bytes := do
  let bits ← permissionBits .invalidPermissions reconnect.requestedPermissions
  (Dart.encode
    { purpose := .sessionReconnect
      fields :=
        [⟨1, reconnect.controllerDeviceId⟩,
          ⟨2, reconnect.hostDeviceId⟩,
          ⟨8, reconnect.sessionId⟩,
          ⟨9, reconnect.nonce⟩,
          ⟨10, uint64 reconnect.issuedAtUnixMs.toInt⟩,
          ⟨11, uint64 reconnect.expiresAtUnixMs.toInt⟩,
          ⟨12, Dart.uint32 bits⟩,
          ⟨13, reconnect.offerSha256⟩,
          ⟨14, reconnect.controllerDtlsFingerprintSha256⟩,
          ⟨15, reconnect.answerSha256⟩,
          ⟨16, reconnect.hostDtlsFingerprintSha256⟩,
          ⟨17, Dart.uint32 reconnect.reconnectGeneration.toNat⟩] }).mapError
    fun _ => .invalidTranscript

end Client

/-! ## Permissions -/

variable {values : List Int32}

/-- The accepted permissions are view alone or view and control. -/
theorem Host.normalizeSessionPermissions_ok {permissions : List SessionPermission} :
    normalizeSessionPermissions values = .ok permissions ↔
      (values = [1] ∧ permissions = [.viewScreen]) ∨
      (values = [1, 2] ∧ permissions = [.viewScreen, .controlInput]) := by
  constructor
  · intro h
    unfold normalizeSessionPermissions at h
    simp only [bind_eq_ok, ensure_eq_ok, exists_and_left, exists_const, pure, Except.pure,
      Except.ok.injEq] at h
    obtain ⟨hne, _, hascending, hcontrol, rfl⟩ := h
    rcases values with _ | ⟨a, _ | ⟨b, _ | ⟨c, rest⟩⟩⟩
    · exact absurd rfl hne
    · simp only [ascendingPermissions, bind_eq_ok, okOr_eq_ok, ensure_eq_ok,
        ofInt32?_eq_some, exists_and_left, exists_const, pure, Except.pure,
        Except.ok.injEq] at hascending
      obtain ⟨p, rfl, ⟨hp, -⟩, _, rfl, rfl⟩ := hascending
      cases p with
      | unspecified => exact absurd rfl hp
      | viewScreen => exact .inl ⟨rfl, rfl⟩
      | controlInput => exact absurd hcontrol (by decide)
    · simp only [ascendingPermissions, bind_eq_ok, okOr_eq_ok, ensure_eq_ok,
        ofInt32?_eq_some, exists_and_left, exists_const, pure, Except.pure,
        Except.ok.injEq] at hascending
      obtain ⟨p, rfl, ⟨hp, -⟩, _, ⟨q, rfl, ⟨hq, hlt⟩, _, rfl, rfl⟩, rfl⟩ := hascending
      cases p <;> cases q <;> first
        | exact .inr ⟨rfl, rfl⟩
        | exact absurd rfl hp
        | exact absurd rfl hq
        | exact absurd hlt (by decide)
    · simp only [ascendingPermissions, bind_eq_ok, okOr_eq_ok, ensure_eq_ok,
        ofInt32?_eq_some, exists_and_left, exists_const] at hascending
      obtain ⟨p, rfl, ⟨hp, -⟩, _, ⟨q, rfl, ⟨hq, hlt⟩, _, ⟨r, rfl, ⟨hr, hlt'⟩, -⟩, -⟩, -⟩ :=
        hascending
      cases p <;> cases q <;> cases r <;> first
        | exact absurd rfl hp
        | exact absurd rfl hq
        | exact absurd rfl hr
        | exact absurd hlt (by decide)
        | exact absurd hlt' (by decide)
  · rintro (⟨rfl, rfl⟩ | ⟨rfl, rfl⟩) <;> rfl

theorem Host.permissionBits_ok {bits : UInt32} :
    permissionBits values = .ok bits ↔
      (values = [1] ∧ bits = 1) ∨ (values = [1, 2] ∧ bits = 3) := by
  unfold permissionBits
  simp only [bind_eq_ok, normalizeSessionPermissions_ok, pure, Except.pure, Except.ok.injEq]
  constructor
  · rintro ⟨_, ⟨rfl, rfl⟩ | ⟨rfl, rfl⟩, rfl⟩
    · exact .inl ⟨rfl, rfl⟩
    · exact .inr ⟨rfl, rfl⟩
  · rintro (⟨rfl, rfl⟩ | ⟨rfl, rfl⟩)
    · exact ⟨_, .inl ⟨rfl, rfl⟩, rfl⟩
    · exact ⟨_, .inr ⟨rfl, rfl⟩, rfl⟩

/-- The bits determine the permissions. -/
theorem Host.permissionBits_injective {values values' : List Int32} {bits : UInt32}
    (h : permissionBits values = .ok bits) (h' : permissionBits values' = .ok bits) :
    values = values' := by
  rcases permissionBits_ok.mp h with ⟨rfl, rfl⟩ | ⟨rfl, rfl⟩ <;>
    rcases permissionBits_ok.mp h' with ⟨rfl, hbits⟩ | ⟨rfl, hbits⟩
  · rfl
  · cases hbits
  · cases hbits
  · rfl

theorem Client.permissionBits_ok {ε : Type} {e : ε} {values : List SessionPermission} {bits : Nat} :
    permissionBits e values = .ok bits ↔
      (values = [.viewScreen] ∧ bits = 1) ∨
      (values = [.viewScreen, .controlInput] ∧ bits = 3) := by
  constructor
  · intro h
    unfold permissionBits normalizePermissions at h
    simp only [bind_eq_ok, ensure_eq_ok, exists_and_left, exists_const, pure, Except.pure,
      Except.ok.injEq] at h
    obtain ⟨_, ⟨hne, _, hcheck, hcontrol, rfl⟩, rfl⟩ := h
    rcases values with _ | ⟨a, _ | ⟨b, _ | ⟨c, rest⟩⟩⟩
    · exact absurd rfl hne
    · simp only [checkPermissions, bind_eq_ok, ensure_eq_ok, exists_and_left,
        exists_const] at hcheck
      cases a with
      | unspecified => exact absurd (.inl rfl) hcheck.1
      | viewScreen => exact .inl ⟨rfl, rfl⟩
      | controlInput => exact absurd (by decide) hcontrol
    · simp only [checkPermissions, bind_eq_ok, ensure_eq_ok, exists_and_left,
        exists_const] at hcheck
      obtain ⟨ha, hb, -⟩ := hcheck
      cases a <;> cases b <;> first
        | exact .inr ⟨rfl, rfl⟩
        | exact absurd (.inl rfl) ha
        | exact absurd (.inl rfl) hb
        | exact absurd (.inr (by decide)) hb
    · simp only [checkPermissions, bind_eq_ok, ensure_eq_ok, exists_and_left,
        exists_const] at hcheck
      obtain ⟨ha, hb, hc, -⟩ := hcheck
      cases a <;> cases b <;> cases c <;> first
        | exact absurd (.inl rfl) ha
        | exact absurd (.inl rfl) hb
        | exact absurd (.inl rfl) hc
        | exact absurd (.inr (by decide)) hb
        | exact absurd (.inr (by decide)) hc
  · rintro (⟨rfl, rfl⟩ | ⟨rfl, rfl⟩) <;> rfl

/-! ## The same message on both sides -/

namespace Client

/-- The message in the types of the Host. -/
def SessionOfferAuthentication.toWire (m : SessionOfferAuthentication) :
    Protocol.SessionOfferAuthentication where
  controllerDeviceId := m.controllerDeviceId
  hostDeviceId := m.hostDeviceId
  sessionId := m.sessionId
  nonce := m.nonce
  issuedAtUnixMs := m.issuedAtUnixMs.toUInt64
  expiresAtUnixMs := m.expiresAtUnixMs.toUInt64
  requestedPermissions := m.requestedPermissions.map toInt32
  offerSha256 := m.offerSha256
  controllerDtlsFingerprintSha256 := m.controllerDtlsFingerprintSha256
  signature := m.signature

@[inherit_doc SessionOfferAuthentication.toWire]
def SessionAnswerAuthentication.toWire (m : SessionAnswerAuthentication) :
    Protocol.SessionAnswerAuthentication where
  controllerDeviceId := m.controllerDeviceId
  hostDeviceId := m.hostDeviceId
  sessionId := m.sessionId
  nonce := m.nonce
  issuedAtUnixMs := m.issuedAtUnixMs.toUInt64
  expiresAtUnixMs := m.expiresAtUnixMs.toUInt64
  requestedPermissions := m.requestedPermissions.map toInt32
  offerSha256 := m.offerSha256
  controllerDtlsFingerprintSha256 := m.controllerDtlsFingerprintSha256
  answerSha256 := m.answerSha256
  hostDtlsFingerprintSha256 := m.hostDtlsFingerprintSha256
  signature := m.signature

@[inherit_doc SessionOfferAuthentication.toWire]
def SessionReconnectAuthentication.toWire (m : SessionReconnectAuthentication) :
    Protocol.SessionReconnectAuthentication where
  controllerDeviceId := m.controllerDeviceId
  hostDeviceId := m.hostDeviceId
  sessionId := m.sessionId
  nonce := m.nonce
  issuedAtUnixMs := m.issuedAtUnixMs.toUInt64
  expiresAtUnixMs := m.expiresAtUnixMs.toUInt64
  requestedPermissions := m.requestedPermissions.map toInt32
  offerSha256 := m.offerSha256
  controllerDtlsFingerprintSha256 := m.controllerDtlsFingerprintSha256
  answerSha256 := m.answerSha256
  hostDtlsFingerprintSha256 := m.hostDtlsFingerprintSha256
  reconnectGeneration := m.reconnectGeneration
  signature := m.signature

/-- A signed 64-bit time has the bytes of the unsigned one. -/
theorem uint64_toInt (time : Int64) : uint64 time.toInt = bigEndian 8 time.toUInt64.toNat := by
  have hmod : (time.toInt % 2 ^ 64).toNat = time.toUInt64.toNat := by
    rw [← Int64.toInt_toBitVec, BitVec.toInt_eq_toNat_bmod, ← Int64.toBitVec_toUInt64,
      UInt64.toNat_toBitVec]
    have := time.toUInt64.toNat_lt
    have hbmod := Int.bmod_emod (x := (time.toUInt64.toNat : Int)) (m := 2 ^ 64)
    push_cast at hbmod ⊢
    omega
  rw [uint64, hmod]

variable {ε : Type}

/-- Both sides fold the same permissions into the same bits. -/
theorem permissionBits_iff {e : ε} {values : List SessionPermission} {bits : Nat} :
    permissionBits e values = .ok bits ↔
      ∃ wire, Host.permissionBits (values.map toInt32) = .ok wire ∧
        wire.toNat = bits := by
  have hinjective : Function.Injective toInt32 := by
    intro a b h
    cases a <;> cases b <;> first | rfl | exact absurd h (by decide)
  have hview : values.map toInt32 = [1] ↔ values = [.viewScreen] :=
    hinjective.list_map.eq_iff (b := [.viewScreen])
  have hcontrol : values.map toInt32 = [1, 2] ↔
      values = [.viewScreen, .controlInput] :=
    hinjective.list_map.eq_iff (b := [.viewScreen, .controlInput])
  simp only [permissionBits_ok, Host.permissionBits_ok, hview, hcontrol]
  constructor
  · rintro (⟨hvalues, rfl⟩ | ⟨hvalues, rfl⟩)
    · exact ⟨1, .inl ⟨hvalues, rfl⟩, rfl⟩
    · exact ⟨3, .inr ⟨hvalues, rfl⟩, rfl⟩
  · rintro ⟨_, ⟨hvalues, rfl⟩ | ⟨hvalues, rfl⟩, rfl⟩
    · exact .inl ⟨hvalues, rfl⟩
    · exact .inr ⟨hvalues, rfl⟩

/-- Both sides build a transcript from the permissions and encode it. -/
theorem encode_iff {e : ε} {f : TranscriptError → Host.SessionAuthenticationError}
    {g : Dart.TranscriptErrorCode → ε} {values : List SessionPermission}
    {host : UInt32 → CanonicalTranscript} {client : Nat → Dart.CanonicalTranscript}
    (h : ∀ bits, client bits.toNat = Dart.ofTranscript (host bits)) (transcript : Bytes) :
    (do
      let bits ← Host.permissionBits (values.map toInt32)
      (encodeTranscript (host bits)).mapError f) = .ok transcript ↔
    (do
      let bits ← permissionBits e values
      (Dart.encode (client bits)).mapError g) = .ok transcript := by
  simp only [bind_eq_ok, mapError_eq_ok, permissionBits_iff]
  constructor
  · rintro ⟨bits, hbits, hencode⟩
    refine ⟨bits.toNat, ⟨bits, hbits, rfl⟩, ?_⟩
    rw [h]
    exact (encode_iff_of_corresponds Dart.encode_corresponds _ _).mp hencode
  · rintro ⟨_, ⟨bits, hbits, rfl⟩, hencode⟩
    refine ⟨bits, hbits, ?_⟩
    rw [h] at hencode
    exact (encode_iff_of_corresponds Dart.encode_corresponds _ _).mpr hencode

theorem encodeSessionOfferTranscript_iff (m : SessionOfferAuthentication) (transcript : Bytes) :
    Host.encodeSessionOfferTranscript m.toWire = .ok transcript ↔
      encodeSessionOfferTranscript m = .ok transcript := by
  refine encode_iff (fun bits => ?_) transcript
  simp only [uint64_toInt, Dart.uint32_of_lt bits.toNat_lt]
  rfl

theorem encodeSessionAnswerTranscript_iff (m : SessionAnswerAuthentication) (transcript : Bytes) :
    Host.encodeSessionAnswerTranscript m.toWire = .ok transcript ↔
      encodeSessionAnswerTranscript m = .ok transcript := by
  refine encode_iff (fun bits => ?_) transcript
  simp only [uint64_toInt, Dart.uint32_of_lt bits.toNat_lt]
  rfl

theorem encodeSessionReconnectTranscript_iff (m : SessionReconnectAuthentication)
    (transcript : Bytes) :
    Host.encodeSessionReconnectTranscript m.toWire = .ok transcript ↔
      encodeSessionReconnectTranscript m = .ok transcript := by
  refine encode_iff (fun bits => ?_) transcript
  simp only [uint64_toInt, Dart.uint32_of_lt bits.toNat_lt,
    Dart.uint32_of_lt m.reconnectGeneration.toNat_lt]
  rfl

end Client

/-! ## What the bytes determine -/

namespace Host

/-- The signed bytes of a session authentication message. -/
def encodeSessionTranscript : SessionAuthentication → Except SessionAuthenticationError Bytes
  | .offer offer => encodeSessionOfferTranscript offer
  | .answer answer => encodeSessionAnswerTranscript answer
  | .reconnect reconnect => encodeSessionReconnectTranscript reconnect

/-- The message with its signature left out: everything that is authenticated. -/
def authenticated : SessionAuthentication → SessionAuthentication
  | .offer offer => .offer { offer with signature := [] }
  | .answer answer => .answer { answer with signature := [] }
  | .reconnect reconnect => .reconnect { reconnect with signature := [] }

theorem bigEndian_injective {width n m : Nat} (hn : n < 256 ^ width) (hm : m < 256 ^ width)
    (h : bigEndian width n = bigEndian width m) : n = m := by
  rw [← ofBigEndian_bigEndian hn, h, ofBigEndian_bigEndian hm]

theorem time_injective {t t' : UInt64} (h : bigEndian 8 t.toNat = bigEndian 8 t'.toNat) :
    t = t' :=
  UInt64.toNat.inj (bigEndian_injective t.toNat_lt t'.toNat_lt h)

theorem word_injective {n n' : UInt32} (h : bigEndian 4 n.toNat = bigEndian 4 n'.toNat) :
    n = n' :=
  UInt32.toNat.inj (bigEndian_injective n.toNat_lt n'.toNat_lt h)

/-- Transcripts with the same bytes are the same. -/
theorem encodeTranscript_injective {t t' : CanonicalTranscript} {bytes : Bytes}
    (h : encodeTranscript t = .ok bytes) (h' : encodeTranscript t' = .ok bytes) : t = t' :=
  Except.ok.inj ((decodeTranscript_eq_ok.mpr h).symm.trans (decodeTranscript_eq_ok.mpr h'))

/-- The purpose a message is signed for. -/
def purposeOf : SessionAuthentication → TranscriptPurpose
  | .offer _ => .sessionOffer
  | .answer _ => .sessionAnswer
  | .reconnect _ => .sessionReconnect

/-- The bytes of a message are a transcript of its purpose. -/
theorem exists_transcript {m : SessionAuthentication} {bytes : Bytes}
    (h : encodeSessionTranscript m = .ok bytes) :
    ∃ t, encodeTranscript t = .ok bytes ∧ t.purpose = purposeOf m := by
  cases m with
  | offer m =>
    simp only [encodeSessionTranscript, encodeSessionOfferTranscript, bind_eq_ok,
      mapError_eq_ok] at h
    obtain ⟨bits, -, hencode⟩ := h
    exact ⟨_, hencode, rfl⟩
  | answer m =>
    simp only [encodeSessionTranscript, encodeSessionAnswerTranscript, bind_eq_ok,
      mapError_eq_ok] at h
    obtain ⟨bits, -, hencode⟩ := h
    exact ⟨_, hencode, rfl⟩
  | reconnect m =>
    simp only [encodeSessionTranscript, encodeSessionReconnectTranscript, bind_eq_ok,
      mapError_eq_ok] at h
    obtain ⟨bits, -, hencode⟩ := h
    exact ⟨_, hencode, rfl⟩

theorem offer_injective {m m' : SessionOfferAuthentication} {bytes : Bytes}
    (h : encodeSessionOfferTranscript m = .ok bytes)
    (h' : encodeSessionOfferTranscript m' = .ok bytes) :
    authenticated (.offer m) = authenticated (.offer m') := by
  simp only [encodeSessionOfferTranscript, bind_eq_ok, mapError_eq_ok] at h h'
  obtain ⟨bits, hbits, hencode⟩ := h
  obtain ⟨bits', hbits', hencode'⟩ := h'
  have heq := encodeTranscript_injective hencode hencode'
  simp only [CanonicalTranscript.mk.injEq, true_and, List.cons.injEq, TranscriptField.mk.injEq,
    and_true] at heq
  obtain ⟨hcontroller, hhost, hsession, hnonce, hissued, hexpires, hpermissions, hoffer,
    hfingerprint⟩ := heq
  cases word_injective hpermissions
  have hvalues := permissionBits_injective hbits hbits'
  simp only [authenticated, hcontroller, hhost, hsession, hnonce, time_injective hissued,
    time_injective hexpires, hvalues, hoffer, hfingerprint]

theorem answer_injective {m m' : SessionAnswerAuthentication} {bytes : Bytes}
    (h : encodeSessionAnswerTranscript m = .ok bytes)
    (h' : encodeSessionAnswerTranscript m' = .ok bytes) :
    authenticated (.answer m) = authenticated (.answer m') := by
  simp only [encodeSessionAnswerTranscript, bind_eq_ok, mapError_eq_ok] at h h'
  obtain ⟨bits, hbits, hencode⟩ := h
  obtain ⟨bits', hbits', hencode'⟩ := h'
  have heq := encodeTranscript_injective hencode hencode'
  simp only [CanonicalTranscript.mk.injEq, true_and, List.cons.injEq, TranscriptField.mk.injEq,
    and_true] at heq
  obtain ⟨hcontroller, hhost, hsession, hnonce, hissued, hexpires, hpermissions, hoffer,
    hfingerprint, hanswer, hhostFingerprint⟩ := heq
  cases word_injective hpermissions
  have hvalues := permissionBits_injective hbits hbits'
  simp only [authenticated, hcontroller, hhost, hsession, hnonce, time_injective hissued,
    time_injective hexpires, hvalues, hoffer, hfingerprint, hanswer, hhostFingerprint]

theorem reconnect_injective {m m' : SessionReconnectAuthentication} {bytes : Bytes}
    (h : encodeSessionReconnectTranscript m = .ok bytes)
    (h' : encodeSessionReconnectTranscript m' = .ok bytes) :
    authenticated (.reconnect m) = authenticated (.reconnect m') := by
  simp only [encodeSessionReconnectTranscript, bind_eq_ok, mapError_eq_ok] at h h'
  obtain ⟨bits, hbits, hencode⟩ := h
  obtain ⟨bits', hbits', hencode'⟩ := h'
  have heq := encodeTranscript_injective hencode hencode'
  simp only [CanonicalTranscript.mk.injEq, true_and, List.cons.injEq, TranscriptField.mk.injEq,
    and_true] at heq
  obtain ⟨hcontroller, hhost, hsession, hnonce, hissued, hexpires, hpermissions, hoffer,
    hfingerprint, hanswer, hhostFingerprint, hgeneration⟩ := heq
  cases word_injective hpermissions
  have hvalues := permissionBits_injective hbits hbits'
  simp only [authenticated, hcontroller, hhost, hsession, hnonce, time_injective hissued,
    time_injective hexpires, hvalues, hoffer, hfingerprint, hanswer, hhostFingerprint,
    word_injective hgeneration]

/-- Messages with the same signed bytes have the same kind and the same authenticated
fields. -/
theorem encodeSessionTranscript_injective {m m' : SessionAuthentication} {bytes : Bytes}
    (h : encodeSessionTranscript m = .ok bytes) (h' : encodeSessionTranscript m' = .ok bytes) :
    authenticated m = authenticated m' := by
  obtain ⟨t, ht, hpurpose⟩ := exists_transcript h
  obtain ⟨t', ht', hpurpose'⟩ := exists_transcript h'
  cases encodeTranscript_injective ht ht'
  have hkind : purposeOf m = purposeOf m' := hpurpose.symm.trans hpurpose'
  cases m with
  | offer m =>
    cases m' with
    | offer m' => exact offer_injective h h'
    | answer m' => cases hkind
    | reconnect m' => cases hkind
  | answer m =>
    cases m' with
    | offer m' => cases hkind
    | answer m' => exact answer_injective h h'
    | reconnect m' => cases hkind
  | reconnect m =>
    cases m' with
    | offer m' => cases hkind
    | answer m' => cases hkind
    | reconnect m' => exact reconnect_injective h h'

end Host

/-- Signed bytes determine the kind of a message and everything authenticated in it, and
Host and controller sign the same bytes for the same message. -/
theorem session_transcript_binding :
    (∀ (m m' : SessionAuthentication) (bytes : Bytes),
      Host.encodeSessionTranscript m = .ok bytes →
      Host.encodeSessionTranscript m' = .ok bytes →
      Host.authenticated m = Host.authenticated m') ∧
    (∀ (m : Client.SessionOfferAuthentication) (bytes : Bytes),
      Host.encodeSessionOfferTranscript m.toWire = .ok bytes ↔
        Client.encodeSessionOfferTranscript m = .ok bytes) ∧
    (∀ (m : Client.SessionAnswerAuthentication) (bytes : Bytes),
      Host.encodeSessionAnswerTranscript m.toWire = .ok bytes ↔
        Client.encodeSessionAnswerTranscript m = .ok bytes) ∧
    (∀ (m : Client.SessionReconnectAuthentication) (bytes : Bytes),
      Host.encodeSessionReconnectTranscript m.toWire = .ok bytes ↔
        Client.encodeSessionReconnectTranscript m = .ok bytes) := by
  refine ⟨?_, ?_, ?_, ?_⟩
  · intro m m' bytes h h'
    exact Host.encodeSessionTranscript_injective h h'
  · exact Client.encodeSessionOfferTranscript_iff
  · exact Client.encodeSessionAnswerTranscript_iff
  · exact Client.encodeSessionReconnectTranscript_iff

end Roammand
