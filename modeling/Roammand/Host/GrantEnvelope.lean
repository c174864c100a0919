import Roammand.Host.StoreAgreement

/-!
# The envelope of the grant store

What a registry persists is never too large to be read back, and a file is accepted exactly when
it is a well-formed envelope of the Host's snapshot.  A second form of the decoder fails where a
slice would leave its bounds.

Main results:

- Theorem `FileGrantStore.length_encode_le`: the snapshot of a registry fits the limit.
- Theorem `decodeEnvelope_eq_ok`: which byte strings are accepted.
- Theorem `decodeEnvelopeChecked_eq`: no slice leaves its bounds.
- Theorem `FileGrantStore.grant_store_envelope`: all of it for the file of a Host.
-/

namespace Roammand

namespace Host

open Library Protocol Protobuf HostAuthorizationSnapshot

/-! ## The size of a snapshot -/

/-- The encoding of a valid grant view is short. -/
theorem length_encode_grantView_le {crypto : Crypto} {view : ControllerGrantView}
    {host k : Bytes} (hhost : host.length = deviceIdBytes)
    (h : validateStoredGrant crypto view host = .ok k) :
    (encodeFields view.fields).length ≤ 600 := by
  obtain ⟨grant, controller, hgrant, hcontroller, -, hid, hgrantHost, hvalid, -, hpermissions⟩ :=
    validateStoredGrant_eq_ok.mp h
  have hidentity : validateDeviceIdentity controller = .ok () := by
    unfold validateController at hvalid
    obtain ⟨_, hmapped, -⟩ := bind_eq_ok.mp hvalid
    exact mapError_eq_ok.mp hmapped
  have hcount : grant.permissions.length ≤ 2 := by
    obtain hview | hcontrol := normalizeStoredPermissions_ok hpermissions
    · rw [hview]
      decide
    · rw [hcontrol]
      decide
  have hcontrollerBytes := length_encode_identity_le hidentity
  have hgrantId := length_bytesField_le 1 grant.grantId
  have hhostId := length_bytesField_le 2 grant.hostDeviceId
  have hcontrollerField := length_messageField_le 3 controller.fields
  have hcreated := length_uint64Field_le 4 grant.createdAtUnixMs
  have hpacked := length_packedEnumField_le 5 grant.permissions
  have hgrantField := length_messageField_le 1 grant.fields
  have hlast := length_uint64Field_le 2 view.lastSuccessfulConnectionAtUnixMs
  have hgrantIdLength : grant.grantId.length = 16 := hid
  have hhostIdLength : grant.hostDeviceId.length = 32 := by rw [hgrantHost, hhost]; rfl
  have hfields : (encodeFields grant.fields).length ≤ 500 := by
    simp only [ControllerGrant.fields, hcontroller, optionalMessageField, encodeFields_append,
      List.length_append]
    omega
  simp only [ControllerGrantView.fields, hgrant, optionalMessageField, encodeFields_append,
    List.length_append]
  omega

/-- The grants of a snapshot take at most as much as so many of the longest. -/
theorem length_encode_grants_le {views : List ControllerGrantView} {bound : Nat}
    (h : ∀ view ∈ views, (encodeFields view.fields).length ≤ bound) :
    (encodeFields (views.flatMap fun view => messageField 2 view.fields)).length ≤
      views.length * (20 + bound) := by
  induction views with
  | nil => simp [encodeFields]
  | cons view views ih =>
    obtain ⟨hview, hviews⟩ := List.forall_mem_cons.mp h
    have hfield := length_messageField_le 2 view.fields
    have hrest := ih hviews
    rw [List.flatMap_cons, encodeFields_append, List.length_append, List.length_cons, Nat.succ_mul]
    omega

/-- The snapshot of valid grants, as many as a registry may hold, fits the limit. -/
theorem FileGrantStore.length_encode_le {crypto : Crypto} {host : Bytes}
    {views : List ControllerGrantView} (hhost : host.length = deviceIdBytes)
    (hsize : views.length ≤ maxControllerGrants)
    (hvalid : ∀ view ∈ views, ∃ k, validateStoredGrant crypto view host = .ok k) :
    (encode { hostDeviceId := host, grants := views }).length ≤
      maxHostAuthorizationSnapshotBytes := by
  have hviews : ∀ view ∈ views, (encodeFields view.fields).length ≤ 600 := by
    intro view hview
    obtain ⟨k, hk⟩ := hvalid view hview
    exact length_encode_grantView_le hhost hk
  have hgrants := length_encode_grants_le hviews
  have hid := length_bytesField_le 1 host
  have hhostLength : host.length = 32 := hhost
  have hcount : views.length ≤ 256 := hsize
  simp only [encode, fields,
    encodeFields_append, List.length_append, maxHostAuthorizationSnapshotBytes]
  omega

/-! ## Which envelopes are accepted -/

section Envelope

variable {crypto : Crypto} {decode : Bytes → Option HostAuthorizationSnapshot}

/-- A byte string is the envelope of a snapshot of the Host. -/
structure IsEnvelope (crypto : Crypto) (decode : Bytes → Option HostAuthorizationSnapshot)
    (envelope host : Bytes) (grants : List ControllerGrantView) : Prop where
  magic : slice envelope 0 4 = snapshotMagic
  version : ofBigEndian (slice envelope 4 6) = snapshotVersion
  length : envelope.length = envelopeHeaderBytes + ofBigEndian (slice envelope 6 10)
  limit : ofBigEndian (slice envelope 6 10) ≤ maxHostAuthorizationSnapshotBytes
  checksum : (crypto.sha256 (envelope.drop envelopeHeaderBytes)).toList =
    slice envelope 10 envelopeHeaderBytes
  payload : decode (envelope.drop envelopeHeaderBytes) =
    some { hostDeviceId := host, grants }

/-- The decoder accepts the envelopes of the Host's snapshots and nothing else. -/
theorem decodeEnvelope_eq_ok {envelope host : Bytes} {grants : List ControllerGrantView} :
    decodeEnvelope crypto decode envelope host = .ok grants ↔
      IsEnvelope crypto decode envelope host grants := by
  unfold decodeEnvelope
  simp only [bind_eq_ok, ensure_eq_ok, okOr_eq_ok]
  constructor
  · rintro ⟨-, -, -, hmagic, -, hversion, -, hlimit, -, hlength, -, hchecksum, snapshot, hdecode,
      -, rfl, hgrants⟩
    obtain rfl := Except.ok.inj hgrants
    exact ⟨hmagic, hversion, hlength, hlimit, hchecksum, hdecode⟩
  · intro h
    have hheader : envelopeHeaderBytes ≤ envelope.length := by
      rw [h.length]
      exact Nat.le_add_right _ _
    exact ⟨⟨⟩, hheader, ⟨⟩, h.magic, ⟨⟩, h.version, ⟨⟩, h.limit, ⟨⟩, h.length, ⟨⟩, h.checksum, _,
      h.payload, ⟨⟩, rfl, rfl⟩

/-- Without file faults a file is accepted exactly when its contents are such an envelope. -/
theorem FileGrantStore.load_eq_ok {contents host : Bytes} {grants : List ControllerGrantView} :
    load crypto decode noFaults (some contents) host = .ok grants ↔
      IsEnvelope crypto decode contents host grants := by
  unfold load
  by_cases hfits : contents.length ≤ maxEnvelopeBytes
  · simp only [readPrivateFile_noFaults hfits]
    exact decodeEnvelope_eq_ok
  · constructor
    · intro hload
      have hread : readPrivateFile noFaults contents maxEnvelopeBytes = .error .fileTooLarge := by
        unfold readPrivateFile ensure
        rw [if_neg hfits]
        rfl
      simp only [hread] at hload
      cases hload
    · intro h
      have hlimit := h.limit
      rw [h.length, maxEnvelopeBytes] at hfits
      omega

/-! ## Slices stay in bounds -/

variable (bytes : Bytes)

/-- The bytes from `start` up to `stop`, if there are that many. -/
def slice? (start stop : Nat) : Option Bytes :=
  if start ≤ stop ∧ stop ≤ bytes.length then some (slice bytes start stop) else none

/-- The decoder where a slice out of bounds is an error of its own, `none`. -/
def decodeEnvelopeChecked (crypto : Crypto) (decode : Bytes → Option HostAuthorizationSnapshot)
    (envelope expectedHostDeviceId : Bytes) :
    Except (Option GrantStoreError) (List ControllerGrantView) := do
  ensure (envelopeHeaderBytes ≤ envelope.length) (some .invalidEnvelope)
  let magic ← okOr (slice? envelope 0 4) none
  ensure (magic = snapshotMagic) (some .invalidEnvelope)
  let version ← okOr (slice? envelope 4 6) none
  ensure (ofBigEndian version = snapshotVersion) (some .unsupportedVersion)
  let length ← okOr (slice? envelope 6 10) none
  let payloadLength := ofBigEndian length
  ensure (payloadLength ≤ maxHostAuthorizationSnapshotBytes) (some .snapshotTooLarge)
  ensure (envelope.length = envelopeHeaderBytes + payloadLength) (some .invalidEnvelope)
  let expectedChecksum ← okOr (slice? envelope 10 envelopeHeaderBytes) none
  let payload ← okOr (slice? envelope envelopeHeaderBytes envelope.length) none
  ensure ((crypto.sha256 payload).toList = expectedChecksum) (some .checksumMismatch)
  let snapshot ← okOr (decode payload) (some .invalidPayload)
  ensure (snapshot.hostDeviceId = expectedHostDeviceId) (some .hostMismatch)
  return snapshot.grants

theorem slice?_eq {bytes : Bytes} {start stop : Nat} (h : start ≤ stop)
    (hstop : stop ≤ bytes.length) : slice? bytes start stop = some (slice bytes start stop) :=
  if_pos ⟨h, hstop⟩

theorem slice_to_end (start : Nat) :
    slice bytes start bytes.length = bytes.drop start := by
  rw [slice, List.take_of_length_le]
  rw [List.length_drop]

/-- No slice of the decoder leaves its bounds, whatever the bytes are. -/
theorem decodeEnvelopeChecked_eq (envelope host : Bytes) :
    decodeEnvelopeChecked crypto decode envelope host =
      (decodeEnvelope crypto decode envelope host).mapError some := by
  unfold decodeEnvelopeChecked decodeEnvelope
  by_cases hheader : envelopeHeaderBytes ≤ envelope.length
  · have hfits : 42 ≤ envelope.length := hheader
    rw [slice?_eq (by decide) (by omega), slice?_eq (by decide) (by omega),
      slice?_eq (by decide) (by omega), slice?_eq (by decide) hheader,
      slice?_eq hheader le_rfl, slice_to_end]
    simp only [mapError_bind, mapError_ensure, mapError_okOr]
    rfl
  · unfold ensure
    rw [if_neg hheader, if_neg hheader]
    rfl

/-! ## The file of a Host -/

/-- The grants of a registry within its limits can always be written, and what is written is read
back as these grants; a file is accepted exactly when it is an envelope of a snapshot of the Host;
and no slice of the decoder leaves its bounds. -/
theorem FileGrantStore.grant_store_envelope (hdecode : DecodesSnapshots decode) :
    (∀ r : AuthorizationRegistry, r.WellFormed crypto → ∀ faults file,
      let (file', result) := persist crypto faults file r.hostDeviceId r.listControllerGrants
      result ≠ .error .snapshotTooLarge ∧
      (attempt faults stepsThroughRename = .ok () →
        load crypto decode noFaults file' r.hostDeviceId = .ok r.listControllerGrants ∧
        (attempt faults stepsAfterRename = .ok () → result = .ok ()))) ∧
    (∀ contents host grants, load crypto decode noFaults (some contents) host = .ok grants ↔
      IsEnvelope crypto decode contents host grants) ∧
    (∀ contents host, decodeEnvelopeChecked crypto decode contents host =
      (decodeEnvelope crypto decode contents host).mapError some) := by
  refine ⟨fun r hr faults file => ?_, fun _ _ _ => load_eq_ok, decodeEnvelopeChecked_eq⟩
  have hcount : r.listControllerGrants.length ≤ maxControllerGrants := by
    rw [AuthorizationRegistry.length_listControllerGrants]
    exact hr.size
  have hsize := length_encode_le hr.host hcount fun view hview => by
    have hmem := (AuthorizationRegistry.listControllerGrants_represents hr).mem view
    obtain ⟨k, -, hget⟩ := hmem.mp hview
    exact ⟨k, hr.valid k view hget⟩
  generalize hpayload : encode
    { hostDeviceId := r.hostDeviceId, grants := r.listControllerGrants } = payload at hsize
  have hfits : ¬ maxHostAuthorizationSnapshotBytes < payload.length := Nat.not_lt.mpr hsize
  have hword : ¬ 2 ^ 32 ≤ payload.length := by
    rw [maxHostAuthorizationSnapshotBytes] at hsize
    omega
  unfold persist atomicWritePrivate
  dsimp only
  rw [hpayload, if_neg hfits, if_neg hword]
  cases hthrough : attempt faults stepsThroughRename with
  | error e => exact ⟨nofun, nofun⟩
  | ok _ =>
    have hload : load crypto decode noFaults (some (encodeEnvelope crypto payload))
        r.hostDeviceId = .ok r.listControllerGrants := by
      have hread : decode payload = some
          { hostDeviceId := r.hostDeviceId, grants := r.listControllerGrants } := by
        rw [← hpayload] at hsize ⊢
        exact hdecode _ hsize
      have henvelope : decodeEnvelope crypto decode (encodeEnvelope crypto payload)
          r.hostDeviceId = .ok r.listControllerGrants :=
        decodeEnvelope_encodeEnvelope hsize hread rfl
      exact load_eq_ok.mpr (decodeEnvelope_eq_ok.mp henvelope)
    cases hafter : attempt faults stepsAfterRename with
    | error e => exact ⟨nofun, fun _ => ⟨hload, nofun⟩⟩
    | ok _ => exact ⟨nofun, fun _ => ⟨hload, fun _ => rfl⟩⟩

open AuthorizationRegistry in
/-- A registry with a grant is written, and read back from its file. -/
theorem FileGrantStore.grant_store_envelope_sample :
    DecodesSnapshots HostAuthorizationSnapshot.decode ∧
      grantedRegistry.listControllerGrants = [sampleGrantView] ∧
      (persist sampleCrypto noFaults none grantedRegistry.hostDeviceId
        grantedRegistry.listControllerGrants).2 = .ok () ∧
      load sampleCrypto HostAuthorizationSnapshot.decode noFaults
        (persist sampleCrypto noFaults none grantedRegistry.hostDeviceId
          grantedRegistry.listControllerGrants).1 grantedRegistry.hostDeviceId =
            .ok grantedRegistry.listControllerGrants := by
  have hdecode := decodesSnapshots_decode
  have hload : AuthorizationRegistry.load sampleCrypto HostAuthorizationSnapshot.decode noFaults
      (some (encodeEnvelope sampleCrypto (HostAuthorizationSnapshot.encode
        { hostDeviceId := sampleHostId, grants := [sampleGrantView] }))) sampleHostId =
          .ok grantedRegistry := by
    decide +kernel
  have hlist : grantedRegistry.listControllerGrants = [sampleGrantView] := by decide +kernel
  have hstored : ∀ r : AuthorizationRegistry, r.WellFormed sampleCrypto →
      (persist sampleCrypto noFaults none r.hostDeviceId r.listControllerGrants).2 = .ok () ∧
      load sampleCrypto HostAuthorizationSnapshot.decode noFaults
        (persist sampleCrypto noFaults none r.hostDeviceId r.listControllerGrants).1
        r.hostDeviceId = .ok r.listControllerGrants := by
    intro r hr
    have hread := (grant_store_envelope hdecode).1 r hr noFaults none
    generalize persist sampleCrypto noFaults none r.hostDeviceId r.listControllerGrants =
      written at hread ⊢
    obtain ⟨file, result⟩ := written
    exact ⟨(hread.2 rfl).2 rfl, (hread.2 rfl).1⟩
  exact ⟨hdecode, hlist, hstored grantedRegistry (load_wellFormed hload)⟩

end Envelope

end Host

end Roammand
