import Mathlib.Data.List.Induction
import Roammand.Host.StoreAgreement
import Roammand.Library.Run
import Roammand.Library.UInt
import Roammand.Protocol.Signaling
import Roammand.Protocol.Transcript

/-!
# Session offer authentication

The Host verifies every binding of a session offer before it creates a peer connection:
the fixed fields, the time window, the permissions, the hash of the offer, the DTLS
fingerprint, the controller's grant and the signature over the canonical transcript.
Accepted nonces are remembered until their offers expire.

Main results:

- Definition `OfferVerifier.verify` follows the verifier with all its error paths.
- Theorem `OfferVerifier.offer_replay_safety`: over every run with nondecreasing times, no
  offer is accepted twice, the cache stays bounded, every accepted offer meets all its
  bindings and a refused one only prunes expired entries.
-/

namespace Roammand

namespace Host

open Library Protocol AuthorizationRegistry SessionPermission

/-- The longest validity of a session offer. -/
def sessionAuthMaxLifetimeMs : Nat := 30000

/-- How far an offer's issue time may lie in the future. -/
def sessionAuthFutureSkewMs : Nat := 10000

/-- The most remembered nonces. -/
def maxReplayCacheEntries : Nat := 1024

/-- Errors of session authentication. -/
inductive SessionAuthenticationError where
  | invalidHostIdentity
  | invalidOffer
  | hostMismatch
  | notYetValid
  | expired
  | lifetimeTooLong
  | invalidPermissions
  | controllerNotAuthorized
  | permissionDenied
  | offerHashMismatch
  | fingerprintMismatch
  | invalidSignature
  | replay
  | replayCacheFull
  | invalidTranscript
  deriving DecidableEq

/-- What a verified offer yields. -/
structure VerifiedSessionOffer where
  controller : DeviceIdentity
  sessionId : Bytes
  permissions : List SessionPermission
  deriving DecidableEq

/-- Used nonces with the expiry of their offers. -/
abbrev NonceCache := Std.ExtTreeMap Bytes UInt64 compare

/-- The verifier of one Host. -/
structure OfferVerifier where
  hostDeviceId : Bytes
  usedNonces : NonceCache
  deriving DecidableEq

/-! ## The checks -/

/-- The fields of fixed length. -/
def validateFixedFields (authentication : SessionOfferAuthentication) :
    Except SessionAuthenticationError Unit :=
  ensure (authentication.controllerDeviceId.length = deviceIdBytes ∧
    authentication.hostDeviceId.length = deviceIdBytes ∧
    authentication.sessionId.length = sessionIdBytes ∧
    authentication.nonce.length = nonceOrHashBytes ∧
    authentication.offerSha256.length = nonceOrHashBytes ∧
    authentication.controllerDtlsFingerprintSha256.length = nonceOrHashBytes ∧
    authentication.signature.length = signatureBytes) .invalidOffer

/-- The validity window around the current time. -/
def validateTime (authentication : SessionOfferAuthentication) (nowUnixMs : UInt64) :
    Except SessionAuthenticationError Unit := do
  let lifetime ← okOr (checkedSub authentication.expiresAtUnixMs.toNat
    authentication.issuedAtUnixMs.toNat) .expired
  ensure (lifetime ≤ sessionAuthMaxLifetimeMs) .lifetimeTooLong
  ensure (authentication.issuedAtUnixMs.toNat ≤
    saturatingAdd nowUnixMs.toNat sessionAuthFutureSkewMs) .notYetValid
  ensure (nowUnixMs ≤ authentication.expiresAtUnixMs) .expired

/-- Permissions in strictly ascending order, all of them known. -/
def ascendingPermissions :
    Option Int32 → List Int32 → Except SessionAuthenticationError (List SessionPermission)
  | _, [] => .ok []
  | previous, value :: values => do
    let permission ← okOr (ofInt32? value) .invalidPermissions
    ensure (permission ≠ .unspecified ∧ previous.all fun p => p < value)
      .invalidPermissions
    let permissions ← ascendingPermissions (some value) values
    return permission :: permissions

variable (values : List Int32)

/-- The requested permissions: nonempty, ascending, no control without view. -/
def normalizeSessionPermissions :
    Except SessionAuthenticationError (List SessionPermission) := do
  ensure (values ≠ []) .invalidPermissions
  let permissions ← ascendingPermissions none values
  ensure (controlInput ∈ permissions →
    viewScreen ∈ permissions) .invalidPermissions
  return permissions

/-- The permissions as a bit set. -/
def permissionBits : Except SessionAuthenticationError UInt32 := do
  let permissions ← normalizeSessionPermissions values
  return permissions.foldl (fun bits permission => bits ||| permission.toInt32.toUInt32) 0

/-- The signed bytes of a session offer. -/
def encodeSessionOfferTranscript (authentication : SessionOfferAuthentication) :
    Except SessionAuthenticationError Bytes := do
  let bits ← permissionBits authentication.requestedPermissions
  (encodeTranscript
    { purpose := .sessionOffer
      fields :=
        [⟨1, authentication.controllerDeviceId⟩,
          ⟨2, authentication.hostDeviceId⟩,
          ⟨8, authentication.sessionId⟩,
          ⟨9, authentication.nonce⟩,
          ⟨10, bigEndian 8 authentication.issuedAtUnixMs.toNat⟩,
          ⟨11, bigEndian 8 authentication.expiresAtUnixMs.toNat⟩,
          ⟨12, bigEndian 4 bits.toNat⟩,
          ⟨13, authentication.offerSha256⟩,
          ⟨14, authentication.controllerDtlsFingerprintSha256⟩] }).mapError
    fun _ => .invalidTranscript

/-- The signed bytes of a session answer. -/
def encodeSessionAnswerTranscript (authentication : SessionAnswerAuthentication) :
    Except SessionAuthenticationError Bytes := do
  let bits ← permissionBits authentication.requestedPermissions
  (encodeTranscript
    { purpose := .sessionAnswer
      fields :=
        [⟨1, authentication.controllerDeviceId⟩,
          ⟨2, authentication.hostDeviceId⟩,
          ⟨8, authentication.sessionId⟩,
          ⟨9, authentication.nonce⟩,
          ⟨10, bigEndian 8 authentication.issuedAtUnixMs.toNat⟩,
          ⟨11, bigEndian 8 authentication.expiresAtUnixMs.toNat⟩,
          ⟨12, bigEndian 4 bits.toNat⟩,
          ⟨13, authentication.offerSha256⟩,
          ⟨14, authentication.controllerDtlsFingerprintSha256⟩,
          ⟨15, authentication.answerSha256⟩,
          ⟨16, authentication.hostDtlsFingerprintSha256⟩] }).mapError
    fun _ => .invalidTranscript

/-- The signed bytes of a reconnect of a retained session. -/
def encodeSessionReconnectTranscript (authentication : SessionReconnectAuthentication) :
    Except SessionAuthenticationError Bytes := do
  let bits ← permissionBits authentication.requestedPermissions
  (encodeTranscript
    { purpose := .sessionReconnect
      fields :=
        [⟨1, authentication.controllerDeviceId⟩,
          ⟨2, authentication.hostDeviceId⟩,
          ⟨8, authentication.sessionId⟩,
          ⟨9, authentication.nonce⟩,
          ⟨10, bigEndian 8 authentication.issuedAtUnixMs.toNat⟩,
          ⟨11, bigEndian 8 authentication.expiresAtUnixMs.toNat⟩,
          ⟨12, bigEndian 4 bits.toNat⟩,
          ⟨13, authentication.offerSha256⟩,
          ⟨14, authentication.controllerDtlsFingerprintSha256⟩,
          ⟨15, authentication.answerSha256⟩,
          ⟨16, authentication.hostDtlsFingerprintSha256⟩,
          ⟨17, bigEndian 4 authentication.reconnectGeneration.toNat⟩] }).mapError
    fun _ => .invalidTranscript

/-- The signature of the controller over a transcript. -/
def verifySignature (crypto : Crypto) (controller : DeviceIdentity)
    (transcript signature : Bytes) : Except SessionAuthenticationError Unit := do
  let publicKey ← okOr (toArray? 32 controller.publicKey) .invalidSignature
  ensure (crypto.validKey publicKey) .invalidSignature
  let signature ← okOr (toArray? 64 signature) .invalidSignature
  ensure (crypto.verifies publicKey transcript signature) .invalidSignature

/-- The cache key of an offer: controller identifier and nonce. -/
def nonceKey (authentication : SessionOfferAuthentication) : Bytes :=
  authentication.controllerDeviceId ++ authentication.nonce

namespace OfferVerifier

/-- A verifier bound to one Host identity. -/
def new (hostDeviceId : Bytes) : Except SessionAuthenticationError OfferVerifier :=
  if hostDeviceId.length ≠ deviceIdBytes then .error .invalidHostIdentity
  else .ok { hostDeviceId, usedNonces := ∅ }

/-- Every check of an offer that does not touch the nonce cache. -/
def verifyBindings (crypto : Crypto) (v : OfferVerifier)
    (authentication : SessionOfferAuthentication) (offerSdp : String)
    (controllerDtlsFingerprintSha256 : Bytes) (authorization : AuthorizationRegistry)
    (nowUnixMs : UInt64) : Except SessionAuthenticationError VerifiedSessionOffer := do
  validateFixedFields authentication
  ensure (authentication.hostDeviceId = v.hostDeviceId) .hostMismatch
  validateTime authentication nowUnixMs
  let permissions ← normalizeSessionPermissions authentication.requestedPermissions
  ensure (authentication.offerSha256 = (crypto.sha256 (utf8 offerSdp)).toList)
    .offerHashMismatch
  ensure (authentication.controllerDtlsFingerprintSha256 = controllerDtlsFingerprintSha256)
    .fingerprintMismatch
  let grantView ← okOr (authorization.controllerGrant authentication.controllerDeviceId)
    .controllerNotAuthorized
  let grant ← okOr grantView.grant .controllerNotAuthorized
  let controller ← okOr grant.controller .controllerNotAuthorized
  ensure (∀ permission ∈ permissions, permission.toInt32 ∈ grant.permissions)
    .permissionDenied
  let transcript ← encodeSessionOfferTranscript authentication
  verifySignature crypto controller transcript authentication.signature
  return { controller, sessionId := authentication.sessionId, permissions }

/-- The cache without the entries whose offers have expired. -/
def retained (v : OfferVerifier) (nowUnixMs : UInt64) : NonceCache :=
  v.usedNonces.filter fun _ expiresAt => nowUnixMs ≤ expiresAt

/-- Verify an offer and remember its nonce. -/
def verify (crypto : Crypto) (v : OfferVerifier)
    (authentication : SessionOfferAuthentication) (offerSdp : String)
    (controllerDtlsFingerprintSha256 : Bytes) (authorization : AuthorizationRegistry)
    (nowUnixMs : UInt64) :
    OfferVerifier × Except SessionAuthenticationError VerifiedSessionOffer :=
  match v.verifyBindings crypto authentication offerSdp controllerDtlsFingerprintSha256
      authorization nowUnixMs with
  | .error e => (v, .error e)
  | .ok offer =>
    let retained := v.retained nowUnixMs
    if nonceKey authentication ∈ retained then
      ({ v with usedNonces := retained }, .error .replay)
    else if maxReplayCacheEntries ≤ retained.size then
      ({ v with usedNonces := retained }, .error .replayCacheFull)
    else
      ({ v with usedNonces :=
          retained.insert (nonceKey authentication) authentication.expiresAtUnixMs },
        .ok offer)

/-! ## What an accepted offer satisfies -/

end OfferVerifier

/-- One call of the verifier with all its arguments. -/
structure VerifyCall where
  authentication : SessionOfferAuthentication
  offerSdp : String
  controllerDtlsFingerprintSha256 : Bytes
  authorization : AuthorizationRegistry
  nowUnixMs : UInt64

/-- Every binding of an accepted offer. -/
structure OfferBound (crypto : Crypto) (hostDeviceId : Bytes) (call : VerifyCall)
    (offer : VerifiedSessionOffer) : Prop where
  host : call.authentication.hostDeviceId = hostDeviceId
  lifetime : call.authentication.issuedAtUnixMs.toNat ≤ call.authentication.expiresAtUnixMs.toNat ∧
    call.authentication.expiresAtUnixMs.toNat - call.authentication.issuedAtUnixMs.toNat ≤
      sessionAuthMaxLifetimeMs
  issued : call.authentication.issuedAtUnixMs.toNat ≤
    saturatingAdd call.nowUnixMs.toNat sessionAuthFutureSkewMs
  notExpired : call.nowUnixMs ≤ call.authentication.expiresAtUnixMs
  offerHash : call.authentication.offerSha256 = (crypto.sha256 (utf8 call.offerSdp)).toList
  fingerprint : call.authentication.controllerDtlsFingerprintSha256 =
    call.controllerDtlsFingerprintSha256
  granted : ∃ view grant publicKey transcript signature,
    call.authorization.controllerGrant call.authentication.controllerDeviceId = some view ∧
    view.grant = some grant ∧ grant.controller = some offer.controller ∧
    offer.controller.publicKey = Vector.toList publicKey ∧
    crypto.validKey publicKey = true ∧
    encodeSessionOfferTranscript call.authentication = .ok transcript ∧
    call.authentication.signature = Vector.toList signature ∧
    crypto.verifies publicKey transcript signature = true ∧
    offer.permissions.map toInt32 =
      call.authentication.requestedPermissions ∧
    ∀ value ∈ call.authentication.requestedPermissions, value ∈ grant.permissions

/-- Ascending permissions are the requested wire values. -/
theorem ascendingPermissions_ok {previous : Option Int32} {values : List Int32}
    {permissions : List SessionPermission}
    (h : ascendingPermissions previous values = .ok permissions) :
    permissions.map toInt32 = values := by
  induction values generalizing previous permissions with
  | nil => cases h; rfl
  | cons value values ih =>
    simp only [ascendingPermissions, bind_eq_ok, okOr_eq_ok, ensure_eq_ok] at h
    obtain ⟨permission, hpermission, -, -, rest, hrest, heq⟩ := h
    cases heq
    rw [List.map_cons, ih hrest, ← ofInt32?_eq_some.mp hpermission]

namespace OfferVerifier

variable {crypto : Crypto}

theorem verifyBindings_ok {v : OfferVerifier} {call : VerifyCall} {offer : VerifiedSessionOffer}
    (h : v.verifyBindings crypto call.authentication call.offerSdp
      call.controllerDtlsFingerprintSha256 call.authorization call.nowUnixMs = .ok offer) :
    OfferBound crypto v.hostDeviceId call offer := by
  simp only [verifyBindings, validateTime, verifySignature, normalizeSessionPermissions,
    bind_eq_ok, ensure_eq_ok, okOr_eq_ok, toArray?_eq_some, checkedSub_eq_some] at h
  obtain ⟨_, -, -, hhost, _, ⟨lifetime, ⟨hle, rfl⟩, -, hlifetime, -, hissued, hexpires⟩,
    permissions, ⟨-, -, permissions', hascending, -, -, heq⟩, -, hhash, -, hfingerprint, view,
    hview, grant, hgrant, controller, hcontroller, -, hcontained, transcript, htranscript,
    _, ⟨publicKey, hkey, -, hvalid, signature, hsignature, hverifies⟩, hoffer⟩ := h
  cases heq
  cases hoffer
  have hpermissions := ascendingPermissions_ok hascending
  refine ⟨hhost, ⟨hle, hlifetime⟩, hissued, hexpires, hhash, hfingerprint, view, grant,
    publicKey, transcript, signature, hview, hgrant, hcontroller, hkey.symm, hvalid,
    htranscript, hsignature.symm, hverifies, hpermissions, ?_⟩
  intro value hvalue
  rw [← hpermissions] at hvalue
  obtain ⟨permission, hmem, rfl⟩ := List.mem_map.mp hvalue
  exact hcontained permission hmem

/-- A verified offer passes the checks that do not touch the nonce cache. -/
theorem verifyBindings_of_verify {v : OfferVerifier} (call : VerifyCall)
    {offer : VerifiedSessionOffer}
    (h : (v.verify crypto call.authentication call.offerSdp call.controllerDtlsFingerprintSha256
      call.authorization call.nowUnixMs).2 = .ok offer) :
    v.verifyBindings crypto call.authentication call.offerSdp
      call.controllerDtlsFingerprintSha256 call.authorization call.nowUnixMs = .ok offer := by
  unfold verify at h
  split at h
  · cases h
  · next hbindings =>
    dsimp only at h
    split_ifs at h
    cases h
    exact hbindings

/-! ## The verifier as a machine -/

/-- The verifier with its nonce cache as a machine. -/
def machine (crypto : Crypto) :
    Machine OfferVerifier VerifyCall
      (Except SessionAuthenticationError VerifiedSessionOffer) where
  step v call := v.verify crypto call.authentication call.offerSdp
    call.controllerDtlsFingerprintSha256 call.authorization call.nowUnixMs

/-- Everything one call can do to the nonce cache. -/
inductive Effect (crypto : Crypto) (v : OfferVerifier) (call : VerifyCall) :
    OfferVerifier → Except SessionAuthenticationError VerifiedSessionOffer → Prop
  | refused {e} : Effect crypto v call v (.error e)
  | pruned {e} :
      Effect crypto v call { v with usedNonces := v.retained call.nowUnixMs } (.error e)
  | accepted {offer} (hbound : OfferBound crypto v.hostDeviceId call offer)
      (hfresh : nonceKey call.authentication ∉ v.retained call.nowUnixMs)
      (hroom : (v.retained call.nowUnixMs).size < maxReplayCacheEntries) :
      Effect crypto v call
        { v with
          usedNonces := (v.retained call.nowUnixMs).insert (nonceKey call.authentication)
            call.authentication.expiresAtUnixMs } (.ok offer)

theorem step_effect (crypto : Crypto) (v : OfferVerifier) (call : VerifyCall) :
    Effect crypto v call ((machine crypto).step v call).1
      ((machine crypto).step v call).2 := by
  simp only [machine, verify]
  split
  · exact .refused
  · next offer hbindings =>
    split
    · exact .pruned
    · next hfresh =>
      split
      · exact .pruned
      · next hroom => exact .accepted (verifyBindings_ok hbindings) hfresh (by omega)

/-- A retained entry is an old one that has not expired. -/
theorem getElem?_retained {v : OfferVerifier} {now expires : UInt64} {key : Bytes} :
    (v.retained now)[key]? = some expires ↔
      v.usedNonces[key]? = some expires ∧ now ≤ expires := by
  rw [retained, Std.ExtTreeMap.getElem?_filter']
  cases v.usedNonces[key]? with
  | none => simp
  | some old =>
    simp only [Option.filter_some, Option.some.injEq]
    split
    · next h =>
      constructor
      · rintro ⟨⟩
        exact ⟨rfl, by simpa using h⟩
      · rintro ⟨rfl, -⟩
        rfl
    · next h =>
      simp only [reduceCtorEq, false_iff, not_and]
      rintro rfl
      simpa using h

/-- The nonce cache of a verifier is bounded. -/
theorem Effect.size_le {v v' : OfferVerifier} {call : VerifyCall}
    {out : Except SessionAuthenticationError VerifiedSessionOffer}
    (h : Effect crypto v call v' out) (hsize : v.usedNonces.size ≤ maxReplayCacheEntries) :
    v'.usedNonces.size ≤ maxReplayCacheEntries := by
  have hretained : (v.retained call.nowUnixMs).size ≤ v.usedNonces.size :=
    Std.ExtTreeMap.size_filter_le_size
  cases h with
  | refused => exact hsize
  | pruned => exact Nat.le_trans hretained hsize
  | accepted _ _ hroom => exact Nat.le_trans Std.ExtTreeMap.size_insert_le hroom

/-- A call that accepts found all bindings met and the nonce fresh. -/
theorem Effect.of_ok {v v' : OfferVerifier} {call : VerifyCall}
    {out : Except SessionAuthenticationError VerifiedSessionOffer}
    (h : Effect crypto v call v' out) {offer : VerifiedSessionOffer} (hok : out = .ok offer) :
    OfferBound crypto v.hostDeviceId call offer ∧
      nonceKey call.authentication ∉ v.retained call.nowUnixMs ∧
      v'.usedNonces[nonceKey call.authentication]? =
        some call.authentication.expiresAtUnixMs := by
  cases h with
  | refused => cases hok
  | pruned => cases hok
  | accepted hbound hfresh =>
    cases hok
    exact ⟨hbound, hfresh, by simp⟩

theorem Effect.hostDeviceId {crypto : Crypto} {v v' : OfferVerifier} {call : VerifyCall}
    {out : Except SessionAuthenticationError VerifiedSessionOffer}
    (h : Effect crypto v call v' out) : v'.hostDeviceId = v.hostDeviceId := by
  cases h <;> rfl

/-! ## Replay safety over runs -/

/-- One call in a run. -/
abbrev VerifyEvent := Occurrence OfferVerifier VerifyCall
  (Except SessionAuthenticationError VerifiedSessionOffer)

/-- The call accepted its offer. -/
def Accepts (e : VerifyEvent) : Prop := ∃ offer, e.output = .ok offer

/-- Every accepted offer is still remembered or has expired by some later call. -/
def Remembers (past : List VerifyEvent) (v : OfferVerifier) : Prop :=
  ∀ e ∈ past, Accepts e →
    v.usedNonces[nonceKey e.input.authentication]? =
        some e.input.authentication.expiresAtUnixMs ∨
      ∃ later ∈ past, e.input.authentication.expiresAtUnixMs < later.input.nowUnixMs

/-- An offer accepted before had expired when its nonce is accepted again. -/
def NoReplay (e₁ e₂ : VerifyEvent) : Prop :=
  Accepts e₁ → Accepts e₂ →
    e₁.input.authentication.controllerDeviceId = e₂.input.authentication.controllerDeviceId →
    e₁.input.authentication.nonce = e₂.input.authentication.nonce →
    e₁.input.authentication.expiresAtUnixMs < e₂.input.nowUnixMs

/-- A new call either forgets an entry because it has expired, or keeps it. -/
theorem Effect.remembers {v v' : OfferVerifier} {call : VerifyCall}
    {out : Except SessionAuthenticationError VerifiedSessionOffer}
    (h : Effect crypto v call v' out) {key : Bytes} {expires : UInt64}
    (hold : v.usedNonces[key]? = some expires) :
    v'.usedNonces[key]? = some expires ∨ expires < call.nowUnixMs := by
  by_cases hlive : call.nowUnixMs ≤ expires
  · refine .inl ?_
    have hkept := getElem?_retained.mpr ⟨hold, hlive⟩
    cases h with
    | refused => exact hold
    | pruned => exact hkept
    | accepted _ hfresh =>
      have hne : ¬ compare (nonceKey call.authentication) key = .eq := by
        intro heq
        rw [Std.LawfulEqCmp.eq_of_compare heq] at hfresh
        exact hfresh (Std.ExtTreeMap.mem_iff_isSome_getElem?.mpr (by rw [hkept]; rfl))
      rw [Std.ExtTreeMap.getElem?_insert, if_neg hne]
      exact hkept
  · exact .inr (UInt64.not_le.mp hlive)

/-- The history after every run: accepted offers are remembered or expired, and no two
accepted offers replay each other. -/
theorem run_remembers (crypto : Crypto) (v : OfferVerifier) (calls : List VerifyCall)
    (hmono : (calls.map (·.nowUnixMs)).Pairwise (· ≤ ·)) :
    Remembers ((machine crypto).trace v calls) ((machine crypto).run v calls) ∧
      ((machine crypto).trace v calls).Pairwise NoReplay := by
  induction calls using List.reverseRecOn with
  | nil => exact ⟨by simp [Remembers], List.Pairwise.nil⟩
  | append_singleton calls call ih =>
    rw [List.map_append, List.pairwise_append] at hmono
    obtain ⟨hremembers, hpairs⟩ := ih hmono.1
    have hlast : ∀ e ∈ (machine crypto).trace v calls,
        e.input.nowUnixMs ≤ call.nowUnixMs := by
      intro e he
      exact hmono.2.2 _ (List.mem_map.mpr ⟨_, Machine.input_mem_of_mem_trace he, rfl⟩) _ (by simp)
    have heffect := step_effect crypto ((machine crypto).run v calls) call
    rw [Machine.trace_snoc, Machine.run_snoc]
    generalize hpast : (machine crypto).trace v calls = past at *
    generalize (machine crypto).run v calls = w at *
    constructor
    · intro e he haccepts
      rcases List.mem_append.mp he with he | he
      · rcases hremembers e he haccepts with hold | ⟨later, hlater, hlt⟩
        · rcases heffect.remembers hold with hkept | hlt
          · exact .inl hkept
          · exact .inr ⟨(machine crypto).occurrence w call, by simp, hlt⟩
        · exact .inr ⟨later, List.mem_append_left _ hlater, hlt⟩
      · rw [List.mem_singleton.mp he] at haccepts ⊢
        obtain ⟨offer, hoffer⟩ := haccepts
        exact .inl (heffect.of_ok hoffer).2.2
    · refine List.pairwise_append.mpr ⟨hpairs, List.pairwise_singleton _ _, ?_⟩
      intro e he e' he' haccepts haccepts' hcontroller hnonce
      rw [List.mem_singleton.mp he'] at haccepts' hcontroller hnonce ⊢
      have hkey : nonceKey e.input.authentication = nonceKey call.authentication := by
        rw [nonceKey, nonceKey, hcontroller, hnonce]
        rfl
      rcases hremembers e he haccepts with hold | ⟨later, hlater, hlt⟩
      · obtain ⟨offer, hoffer⟩ := haccepts'
        rw [hkey] at hold
        refine UInt64.not_le.mp fun hlive => (heffect.of_ok hoffer).2.1 ?_
        rw [Machine.occurrence_input] at hlive
        refine Std.ExtTreeMap.mem_iff_isSome_getElem?.mpr ?_
        rw [getElem?_retained.mpr ⟨hold, hlive⟩]
        rfl
      · exact UInt64.lt_of_lt_of_le hlt (hlast later hlater)

/-- Over every run of the verifier with nondecreasing times: an accepted nonce is accepted
again only after its offer has expired, no authentication message is accepted twice, the
cache never exceeds its bound, every accepted offer meets all its bindings, and a refused
call leaves the cache as it was or without its expired entries. -/
theorem offer_replay_safety (crypto : Crypto) {hostDeviceId : Bytes} {v : OfferVerifier}
    (hnew : new hostDeviceId = .ok v) (calls : List VerifyCall)
    (hmono : (calls.map (·.nowUnixMs)).Pairwise (· ≤ ·)) :
    ((machine crypto).trace v calls).Pairwise NoReplay ∧
    ((machine crypto).trace v calls).Pairwise (fun e₁ e₂ =>
      Accepts e₁ → Accepts e₂ → e₁.input.authentication ≠ e₂.input.authentication) ∧
    ∀ e ∈ (machine crypto).trace v calls,
      e.after.usedNonces.size ≤ 1024 ∧
      (∀ offer, e.output = .ok offer → OfferBound crypto hostDeviceId e.input offer) ∧
      (∀ err, e.output = .error err → e.after.usedNonces = e.before.usedNonces ∨
        e.after.usedNonces = e.before.usedNonces.filter
          fun _ expiresAt => e.input.nowUnixMs ≤ expiresAt) := by
  have hinit : v.hostDeviceId = hostDeviceId ∧
      v.usedNonces.size ≤ maxReplayCacheEntries := by
    unfold new at hnew
    split at hnew
    · cases hnew
    · cases hnew
      exact ⟨rfl, by simp⟩
  have hevents : ∀ e ∈ (machine crypto).trace v calls,
      (e.before.hostDeviceId = hostDeviceId ∧
        e.before.usedNonces.size ≤ maxReplayCacheEntries) ∧
      e = (machine crypto).occurrence e.before e.input := by
    intro e he
    obtain ⟨hinv, -, -, heq⟩ := Machine.trace_invariant (G := fun _ _ => True)
      (fun w : OfferVerifier => w.hostDeviceId = hostDeviceId ∧
        w.usedNonces.size ≤ maxReplayCacheEntries)
      (fun w call hw _ =>
        ⟨(step_effect crypto w call).hostDeviceId.trans hw.1,
          (step_effect crypto w call).size_le hw.2⟩)
      hinit (Machine.guarded_true v calls) he
    exact ⟨hinv, heq⟩
  have hpairs := (run_remembers crypto v calls hmono).2
  refine ⟨hpairs, ?_, ?_⟩
  · refine hpairs.imp_of_mem fun {e₁ e₂} _ he₂ hreplay haccepts₁ haccepts₂ heq => ?_
    have hexpired := hreplay haccepts₁ haccepts₂ (by rw [heq]) (by rw [heq])
    obtain ⟨offer, hoffer⟩ := haccepts₂
    obtain ⟨-, hocc⟩ := hevents e₂ he₂
    rw [hocc] at hoffer
    have hbound := ((step_effect crypto e₂.before e₂.input).of_ok hoffer).1
    rw [heq] at hexpired
    exact absurd hbound.notExpired (UInt64.not_le.mpr hexpired)
  · intro e he
    obtain ⟨⟨hhost, hsize⟩, hocc⟩ := hevents e he
    have heffect := step_effect crypto e.before e.input
    rw [hocc]
    refine ⟨heffect.size_le hsize, ?_, ?_⟩
    · intro offer hoffer
      rw [← hhost]
      exact (heffect.of_ok hoffer).1
    · intro err herr
      simp only [Machine.occurrence_after, Machine.occurrence_output,
        Machine.occurrence_before, Machine.occurrence_input] at herr ⊢
      generalize (machine crypto).step e.before e.input = r at *
      obtain ⟨w', out⟩ := r
      cases heffect with
      | refused => exact .inl rfl
      | pruned => exact .inr rfl
      | accepted => cases herr

/-- An offer of the sample controller, signed with its key. -/
def sampleOffer : SessionOfferAuthentication where
  controllerDeviceId := sampleController.deviceId
  hostDeviceId := sampleHostId
  sessionId := List.replicate 16 3
  nonce := List.replicate 32 9
  issuedAtUnixMs := 1700000000000
  expiresAtUnixMs := 1700000020000
  requestedPermissions := [1, 2]
  offerSha256 :=
    [76, 245, 118, 39, 9, 95, 188, 72, 134, 222, 55, 143, 203, 52, 7, 145,
     124, 172, 162, 11, 240, 120, 202, 63, 15, 172, 62, 92, 169, 177, 146, 216]
  controllerDtlsFingerprintSha256 := List.replicate 32 7
  signature :=
    [98, 198, 49, 35, 164, 145, 252, 201, 183, 125, 235, 214, 186, 155, 158, 83,
     153, 30, 34, 159, 220, 169, 158, 253, 58, 230, 114, 163, 159, 140, 215, 141,
     254, 89, 167, 110, 132, 164, 176, 83, 21, 117, 97, 234, 195, 46, 224, 186,
     159, 231, 134, 115, 167, 231, 96, 245, 102, 5, 132, 93, 40, 11, 103, 3]

/-- The primitives on the sample offer: the digest of its description and the one
signature that verifies. -/
def sampleOfferCrypto : Crypto where
  sha256 input :=
    if input = utf8 "v=0\r\n"
    then #v[76, 245, 118, 39, 9, 95, 188, 72, 134, 222, 55, 143, 203, 52, 7, 145,
            124, 172, 162, 11, 240, 120, 202, 63, 15, 172, 62, 92, 169, 177, 146, 216]
    else sampleCrypto.sha256 input
  validKey := sampleCrypto.validKey
  verifies key message signature :=
    key.toList = sampleController.publicKey ∧
      signature.toList = sampleOffer.signature ∧
      encodeSessionOfferTranscript sampleOffer = .ok message

/-- A verification of the sample offer at a given time. -/
def sampleCall (nowUnixMs : UInt64) : VerifyCall where
  authentication := sampleOffer
  offerSdp := "v=0\r\n"
  controllerDtlsFingerprintSha256 := List.replicate 32 7
  authorization := grantedRegistry
  nowUnixMs

theorem offer_replay_safety_sample :
    let v : OfferVerifier :=
      { hostDeviceId := sampleHostId, usedNonces := ∅ }
    let calls := [sampleCall 1700000000500, sampleCall 1700000000500,
      sampleCall 1700000020000]
    new sampleHostId = .ok v ∧
    (calls.map (·.nowUnixMs)).Pairwise (· ≤ ·) ∧
    (((machine sampleOfferCrypto).trace v calls).map fun e => e.output.isOk) =
      [true, false, false] ∧
    ((machine sampleOfferCrypto).trace v calls).Pairwise NoReplay := by
  have hmono : ([sampleCall 1700000000500, sampleCall 1700000000500,
      sampleCall 1700000020000].map (·.nowUnixMs)).Pairwise (· ≤ ·) := by decide +kernel
  have hnew : new sampleHostId = .ok
      { hostDeviceId := sampleHostId, usedNonces := ∅ } := by
    decide +kernel
  exact ⟨hnew, hmono, by decide +kernel, (offer_replay_safety sampleOfferCrypto hnew _ hmono).1⟩

end OfferVerifier

end Host

end Roammand
