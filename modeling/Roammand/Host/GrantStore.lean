import Roammand.Protocol.Messages

/-!
# The Host's grant store

Grants are persisted as one snapshot in a private file.  The snapshot travels in an
envelope with a magic, a version, a length and a checksum, and the file is replaced by
writing a temporary file and renaming it over the target.  Each file system call can
fail; which ones do is an input of every operation.

Main results:

- Definitions `FileGrantStore.persist`, `FileGrantStore.load`, `decodeEnvelope` and
  `atomicWritePrivate`.
- Theorem `FileGrantStore.load_persist`: what was persisted is what is loaded.
- Theorem `FileGrantStore.persist_error`: a failed persist leaves the file as it was, as
  long as nothing fails after the rename.
-/

namespace Roammand

namespace Host

open Library Protocol

/-! ## Private files -/

/-- Errors of the private file system layer. -/
inductive RestrictedFsError where
  | symbolicLink
  | notDirectory
  | notRegularFile
  | fileTooLarge
  | invalidPath
  | io

/-- The file system calls that can fail. -/
inductive FileStep where
  | parent
  | fileName
  | ensurePrivateDirectory
  | rejectSymbolicLink
  | createTemporaryFile
  | writeAll
  | flush
  | syncAll
  | rename
  | restrictFilePermissions
  | syncDirectory
  | tryExists
  | symlinkMetadata
  | openFile
  | openMetadata
  | readToEnd
  deriving DecidableEq

/-- Which calls fail during one operation, and how. -/
abbrev FileFaults := FileStep → Option RestrictedFsError

/-- No call fails. -/
def noFaults : FileFaults := fun _ => none

/-- Make the calls of `steps` in order and stop at the first failure. -/
def attempt (faults : FileFaults) : List FileStep → Except RestrictedFsError Unit
  | [] => .ok ()
  | step :: steps =>
    match faults step with
    | some e => .error e
    | none => attempt faults steps

/-- The calls of an atomic write up to the rename, which puts the contents in place. -/
def stepsThroughRename : List FileStep :=
  [.parent, .fileName, .ensurePrivateDirectory, .rejectSymbolicLink, .createTemporaryFile,
    .writeAll, .flush, .syncAll, .rename]

/-- The calls of an atomic write after the rename. -/
def stepsAfterRename : List FileStep := [.restrictFilePermissions, .syncDirectory]

/-- Replace a private file.  A failure before the rename only leaves a temporary file,
which is removed; a failure after it is reported with the new contents in place. -/
def atomicWritePrivate (faults : FileFaults) (file : Option Bytes) (contents : Bytes) :
    Option Bytes × Except RestrictedFsError Unit :=
  match attempt faults stepsThroughRename with
  | .error e => (file, .error e)
  | .ok () => (some contents, attempt faults stepsAfterRename)

theorem atomicWritePrivate_ok {faults : FileFaults} {file file' : Option Bytes}
    {contents : Bytes} (h : atomicWritePrivate faults file contents = (file', .ok ())) :
    file' = some contents := by
  unfold atomicWritePrivate at h
  split at h
  · cases h
  · exact (Prod.mk.inj h).1.symm

theorem atomicWritePrivate_error {faults : FileFaults} {file file' : Option Bytes}
    {contents : Bytes} {e : RestrictedFsError}
    (hafter : attempt faults stepsAfterRename = .ok ())
    (h : atomicWritePrivate faults file contents = (file', .error e)) : file' = file := by
  unfold atomicWritePrivate at h
  split at h
  · exact (Prod.mk.inj h).1.symm
  · rw [hafter] at h
    cases h

/-- Read a private file of at most `maximumBytes` bytes. -/
def readPrivateFile (faults : FileFaults) (contents : Bytes) (maximumBytes : Nat) :
    Except RestrictedFsError Bytes := do
  attempt faults [.symlinkMetadata]
  ensure (contents.length ≤ maximumBytes) .fileTooLarge
  attempt faults [.openFile, .openMetadata]
  ensure (contents.length ≤ maximumBytes) .fileTooLarge
  attempt faults [.readToEnd]
  ensure (contents.length ≤ maximumBytes) .fileTooLarge
  return contents

/-! ## The snapshot envelope -/

/-- Errors of the grant store. -/
inductive GrantStoreError where
  | io
  | snapshotTooLarge
  | invalidEnvelope
  | unsupportedVersion
  | checksumMismatch
  | invalidPayload
  | hostMismatch
  deriving DecidableEq

/-- The magic of a snapshot envelope, the bytes of `PRDG`. -/
def snapshotMagic : Bytes := [0x50, 0x52, 0x44, 0x47]

/-- The envelope version. -/
def snapshotVersion : Nat := 1

/-- The header before the payload: magic, version, length and checksum. -/
def envelopeHeaderBytes : Nat := 42

/-- The longest envelope that is read. -/
def maxEnvelopeBytes : Nat := envelopeHeaderBytes + maxHostAuthorizationSnapshotBytes

/-- The bytes from `start` up to `stop`. -/
def slice (bytes : Bytes) (start stop : Nat) : Bytes := (bytes.drop start).take (stop - start)

/-- The envelope of a payload. -/
def encodeEnvelope (crypto : Crypto) (payload : Bytes) : Bytes :=
  snapshotMagic ++ bigEndian 2 snapshotVersion ++ bigEndian 4 payload.length ++
    (crypto.sha256 payload).toList ++ payload

section Envelope

variable (crypto : Crypto) (decode : Bytes → Option HostAuthorizationSnapshot)

/-- Check an envelope and decode the grants in it. -/
def decodeEnvelope (envelope expectedHostDeviceId : Bytes) :
    Except GrantStoreError (List ControllerGrantView) := do
  ensure (envelopeHeaderBytes ≤ envelope.length) .invalidEnvelope
  ensure (slice envelope 0 4 = snapshotMagic) .invalidEnvelope
  ensure (ofBigEndian (slice envelope 4 6) = snapshotVersion) .unsupportedVersion
  let payloadLength := ofBigEndian (slice envelope 6 10)
  ensure (payloadLength ≤ maxHostAuthorizationSnapshotBytes) .snapshotTooLarge
  ensure (envelope.length = envelopeHeaderBytes + payloadLength) .invalidEnvelope
  let payload := envelope.drop envelopeHeaderBytes
  ensure ((crypto.sha256 payload).toList = slice envelope 10 envelopeHeaderBytes)
    .checksumMismatch
  let snapshot ← okOr (decode payload) .invalidPayload
  ensure (snapshot.hostDeviceId = expectedHostDeviceId) .hostMismatch
  return snapshot.grants

/-- How a read error is reported. -/
def mapReadError : RestrictedFsError → GrantStoreError
  | .fileTooLarge => .snapshotTooLarge
  | _ => .io

/-- Load the grants of a Host; a missing file holds none. -/
def FileGrantStore.load (faults : FileFaults) (file : Option Bytes) (hostDeviceId : Bytes) :
    Except GrantStoreError (List ControllerGrantView) :=
  match faults .tryExists with
  | some _ => .error .io
  | none =>
    match file with
    | none => .ok []
    | some contents =>
      match readPrivateFile faults contents maxEnvelopeBytes with
      | .error e => .error (mapReadError e)
      | .ok envelope => decodeEnvelope crypto decode envelope hostDeviceId

/-- Persist the grants of a Host. -/
def FileGrantStore.persist (faults : FileFaults) (file : Option Bytes)
    (hostDeviceId : Bytes) (grants : List ControllerGrantView) :
    Option Bytes × Except GrantStoreError Unit :=
  let payload := HostAuthorizationSnapshot.encode { hostDeviceId, grants }
  if maxHostAuthorizationSnapshotBytes < payload.length then (file, .error .snapshotTooLarge)
  else if 2 ^ 32 ≤ payload.length then (file, .error .snapshotTooLarge)
  else
    match atomicWritePrivate faults file (encodeEnvelope crypto payload) with
    | (file', .ok ()) => (file', .ok ())
    | (file', .error _) => (file', .error .io)

/-! ## Persisting and loading agree -/

/-- The documented behaviour of the message decoder: it reads back an encoded snapshot
of a size that is ever persisted. -/
def DecodesSnapshots (decode : Bytes → Option HostAuthorizationSnapshot) : Prop :=
  ∀ snapshot : HostAuthorizationSnapshot,
    snapshot.encode.length ≤ maxHostAuthorizationSnapshotBytes →
      decode snapshot.encode = some snapshot

variable {crypto decode}

theorem length_encodeEnvelope (crypto : Crypto) (payload : Bytes) :
    (encodeEnvelope crypto payload).length = envelopeHeaderBytes + payload.length := by
  simp only [encodeEnvelope, snapshotMagic, envelopeHeaderBytes, List.length_append,
    length_bigEndian, Vector.length_toList, List.length_cons, List.length_nil]

theorem slice_append (pre mid post : Bytes) {start stop : Nat} (hstart : pre.length = start)
    (hstop : start + mid.length = stop) : slice (pre ++ (mid ++ post)) start stop = mid := by
  subst hstart
  subst hstop
  simp [slice]

/-- An envelope yields the grants of the snapshot it was made from. -/
theorem decodeEnvelope_encodeEnvelope {payload hostDeviceId : Bytes}
    {snapshot : HostAuthorizationSnapshot}
    (hlength : payload.length ≤ maxHostAuthorizationSnapshotBytes)
    (hdecode : decode payload = some snapshot)
    (hhost : snapshot.hostDeviceId = hostDeviceId) :
    decodeEnvelope crypto decode (encodeEnvelope crypto payload) hostDeviceId =
      .ok snapshot.grants := by
  set checksum := (crypto.sha256 payload).toList with hchecksum
  have hsum : checksum.length = 32 := by simp [hchecksum]
  have htotal := length_encodeEnvelope crypto payload
  have henvelope : encodeEnvelope crypto payload =
      snapshotMagic ++ (bigEndian 2 snapshotVersion ++ (bigEndian 4 payload.length ++
        (checksum ++ payload))) := by
    simp [encodeEnvelope, hchecksum]
  have hmagic : slice (encodeEnvelope crypto payload) 0 4 = snapshotMagic := by
    rw [henvelope]
    exact slice_append [] snapshotMagic _ rfl rfl
  have hversion : slice (encodeEnvelope crypto payload) 4 6 = bigEndian 2 snapshotVersion := by
    rw [henvelope]
    exact slice_append snapshotMagic (bigEndian 2 snapshotVersion) _ rfl rfl
  have hsize : slice (encodeEnvelope crypto payload) 6 10 = bigEndian 4 payload.length := by
    rw [henvelope, ← List.append_assoc]
    exact slice_append _ (bigEndian 4 payload.length) _ rfl rfl
  have hcheck : slice (encodeEnvelope crypto payload) 10 envelopeHeaderBytes = checksum := by
    rw [henvelope, ← List.append_assoc, ← List.append_assoc]
    exact slice_append _ checksum payload (by simp [snapshotMagic]) (by rw [hsum]; rfl)
  have hpayload : (encodeEnvelope crypto payload).drop envelopeHeaderBytes = payload := by
    rw [henvelope, ← List.append_assoc, ← List.append_assoc, ← List.append_assoc]
    exact List.drop_left' (by simp [snapshotMagic, hsum, envelopeHeaderBytes])
  have hread : ofBigEndian (bigEndian 4 payload.length) = payload.length := by
    refine ofBigEndian_bigEndian (Nat.lt_of_le_of_lt hlength ?_)
    decide
  unfold decodeEnvelope
  simp only [bind_eq_ok, ensure_eq_ok, okOr_eq_ok, hmagic, hversion, hsize, hcheck, hpayload,
    htotal, hread, hdecode]
  refine ⟨⟨⟩, by omega, ⟨⟩, trivial, ⟨⟩, by decide, ⟨⟩, hlength, ⟨⟩, trivial, ⟨⟩, rfl,
    snapshot, rfl, ⟨⟩, hhost, rfl⟩

theorem readPrivateFile_noFaults {contents : Bytes} {maximumBytes : Nat}
    (h : contents.length ≤ maximumBytes) :
    readPrivateFile noFaults contents maximumBytes = .ok contents := by
  unfold readPrivateFile
  simp only [attempt, noFaults, bind_eq_ok, ensure_eq_ok]
  exact ⟨⟨⟩, trivial, ⟨⟩, h, ⟨⟩, trivial, ⟨⟩, h, ⟨⟩, trivial, ⟨⟩, h, rfl⟩

variable {faults : FileFaults} {file file' : Option Bytes}

/-- A successful persist has written the envelope of the snapshot. -/
theorem FileGrantStore.persist_ok {hostDeviceId : Bytes} {grants : List ControllerGrantView}
    (h : persist crypto faults file hostDeviceId grants = (file', .ok ())) :
    (HostAuthorizationSnapshot.encode { hostDeviceId, grants }).length ≤
        maxHostAuthorizationSnapshotBytes ∧
      file' = some (encodeEnvelope crypto
        (HostAuthorizationSnapshot.encode { hostDeviceId, grants })) := by
  unfold persist at h
  dsimp only at h
  split at h
  · cases h
  · next hsize =>
    split at h
    · cases h
    · split at h
      · next hwrite =>
        cases h
        exact ⟨by omega, atomicWritePrivate_ok hwrite⟩
      · cases h

/-- What was persisted is what is loaded. -/
theorem FileGrantStore.load_persist (hdecode : DecodesSnapshots decode)
    {faults : FileFaults} {file file' : Option Bytes} {hostDeviceId : Bytes}
    {grants : List ControllerGrantView}
    (h : persist crypto faults file hostDeviceId grants = (file', .ok ())) :
    load crypto decode noFaults file' hostDeviceId = .ok grants := by
  obtain ⟨hsize, rfl⟩ := persist_ok h
  have hfits : (encodeEnvelope crypto
      (HostAuthorizationSnapshot.encode { hostDeviceId, grants })).length ≤
        maxEnvelopeBytes := by
    rw [length_encodeEnvelope, maxEnvelopeBytes]
    omega
  have hread := readPrivateFile_noFaults hfits
  unfold load
  simp only [hread]
  exact decodeEnvelope_encodeEnvelope hsize (hdecode _ hsize) rfl

/-- A failed persist leaves the file as it was, unless it failed after the rename. -/
theorem FileGrantStore.persist_error
    {hostDeviceId : Bytes} {grants : List ControllerGrantView} {e : GrantStoreError}
    (hafter : attempt faults stepsAfterRename = .ok ())
    (h : persist crypto faults file hostDeviceId grants = (file', .error e)) :
    file' = file := by
  unfold persist at h
  dsimp only at h
  split at h
  · cases h; rfl
  · split at h
    · cases h; rfl
    · split at h
      · cases h
      · next hwrite =>
        cases h
        exact atomicWritePrivate_error hafter hwrite

/-- A failed persist leaves the file as it was or has written what a successful one
writes. -/
theorem FileGrantStore.persist_error_cases
    {hostDeviceId : Bytes} {grants : List ControllerGrantView} {e : GrantStoreError}
    (h : persist crypto faults file hostDeviceId grants = (file', .error e)) :
    file' = file ∨ persist crypto noFaults file hostDeviceId grants = (file', .ok ()) := by
  unfold persist at h ⊢
  dsimp only at h ⊢
  split at h
  · cases h
    exact .inl rfl
  · next hsize =>
    split at h
    · cases h
      exact .inl rfl
    · next hfits =>
      rw [if_neg hsize, if_neg hfits]
      unfold atomicWritePrivate at h
      split at h
      · cases h
      · next hwrite =>
        cases h
        split at hwrite
        · exact .inl (Prod.mk.inj hwrite).1.symm
        · rw [← (Prod.mk.inj hwrite).1]
          exact .inr rfl

end Envelope

end Host

end Roammand
