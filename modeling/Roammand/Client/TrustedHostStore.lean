import Roammand.Client.PairingEngine
import Roammand.Host.GrantStore
import Roammand.Protocol.Codec

/-!
# The file of trusted Hosts

A controller keeps the Hosts that it trusts in one file: a snapshot in an envelope with a
magic, a version, a length and a checksum.  What is saved is validated first, and what is
loaded is validated again.  Whether the file can be read or replaced is an input.

A Host is reached at an address, which is a text in the file and a parsed address in
memory.  Parsing is done by a library: what is relied on is that an address is parsed again
from its own text.  Snapshots are written by a library too: what is relied on is that they are
read back, and that a field takes a bounded number of bytes beside its contents.

Main results:

- Definition `TrustedHostStore.save` and `TrustedHostStore.load`.
- Theorem `TrustedHostStore.load_save`: what was saved is what is loaded.
-/

namespace Roammand

namespace Client

open Library Protocol Protobuf Host

/-! ## Libraries -/

/-- The addresses that the library parses. -/
structure DartUris where
  Uri : Type
  parse : String → Option Uri
  text : Uri → String
  scheme : Uri → String
  host : Uri → String
  userInfo : Uri → String
  hasAuthority : Uri → Bool
  parse_text : ∀ uri, parse (text uri) = some uri

/-- The kinds of network addresses. -/
inductive InternetAddressType where
  | iPv4
  | iPv6
  | unix

/-- A network address. -/
structure InternetAddress where
  type : InternetAddressType
  rawAddress : Bytes
  isLoopback : Bool

/-- What the check of an address depends on. -/
structure EndpointPolicy where
  allowInsecureLan : Bool
  toLowerCase : String → String
  tryParse : String → Option InternetAddress

/-- The longest address, in UTF-16 units. -/
def maximumSignalingEndpointBytes : Nat := 2048

/-- The number of UTF-16 units of a text. -/
def utf16Length (text : String) : Nat :=
  (text.toList.map fun c => if c.toNat < 0x10000 then 1 else 2).sum

/-- The name is that of the own machine. -/
def isLoopback (policy : EndpointPolicy) (host : String) : Bool :=
  policy.toLowerCase host = "localhost" ∨ (policy.tryParse host).any (·.isLoopback)

/-- The name is an address of a private network. -/
def isPrivateNetworkAddress (policy : EndpointPolicy) (host : String) : Bool :=
  match policy.tryParse host with
  | none => false
  | some address =>
    match address.type, address.rawAddress with
    | .iPv4, a :: b :: _ =>
      a = 10 ∨ (a = 172 ∧ 16 ≤ b ∧ b ≤ 31) ∨ (a = 192 ∧ b = 168)
    | .iPv6, a :: _ => a &&& 0xfe = 0xfc
    | _, _ => false

/-- An address of a signaling service: encrypted, or on the own machine, or in a private
network if that is allowed. -/
def validateSignalingEndpoint (uris : DartUris) (policy : EndpointPolicy) (endpoint : uris.Uri) :
    Bool :=
  decide (utf16Length (uris.text endpoint) ≤ maximumSignalingEndpointBytes) &&
    uris.hasAuthority endpoint && decide (uris.host endpoint ≠ "") &&
    decide (uris.userInfo endpoint = "") &&
    (decide (uris.scheme endpoint = "wss") ||
      decide (uris.scheme endpoint = "ws") &&
        (isLoopback policy (uris.host endpoint) ||
          policy.allowInsecureLan && isPrivateNetworkAddress policy (uris.host endpoint)))

/-- White space, and the byte order mark. -/
def isTrimmed (c : Char) : Bool :=
  let n := c.toNat
  (9 ≤ n ∧ n ≤ 13) ∨ n = 0x20 ∨ n = 0x85 ∨ n = 0xa0 ∨ n = 0x1680 ∨ (0x2000 ≤ n ∧ n ≤ 0x200a) ∨
    n = 0x2028 ∨ n = 0x2029 ∨ n = 0x202f ∨ n = 0x205f ∨ n = 0x3000 ∨ n = 0xfeff

variable (value : String)

/-- A text without white space at its ends. -/
def trim : String :=
  String.ofList ((value.toList.dropWhile isTrimmed).reverse.dropWhile isTrimmed).reverse

/-- The name of a device as it is shown. -/
def normalizeDeviceDisplayName : Option String :=
  let normalized := trim value
  if normalized = "" ∨ maxDeviceNameUtf8Bytes < normalized.utf8ByteSize ∨
      normalized.toList.any fun rune => rune.toNat < 0x20 ∨ rune.toNat = 0x7f then none
  else some normalized

/-- The trusted Hosts in the file. -/
structure TrustedHostSnapshot where
  protocolVersion : Option ProtocolVersion
  bindings : List TrustedHostBinding

/-- The longest snapshot. -/
def maxTrustedHostSnapshotBytes : Nat := 1024 * 1024

/-- The bytes of an identity: each of its five fields adds at most 20 to its contents. -/
def identityBound (m : DeviceIdentity) : Nat :=
  100 + m.deviceId.length + m.publicKey.length + (utf8 m.displayName).length

/-- The bytes of a binding with six fields. -/
def bindingBound (m : TrustedHostBinding) : Nat :=
  120 + m.hostIdentity.elim 0 identityBound + (utf8 m.signalingEndpoint).length +
    (utf8 m.localAlias).length

/-- The bytes of a snapshot with a version of two fields. -/
def snapshotBound (m : TrustedHostSnapshot) : Nat :=
  60 + (m.bindings.map fun binding => 20 + bindingBound binding).sum

/-- The library that writes and reads snapshots, whose messages have the declared fields only. -/
structure SnapshotCodec where
  writeToBuffer : TrustedHostSnapshot → Bytes
  fromBuffer : Bytes → Option TrustedHostSnapshot
  fromBuffer_writeToBuffer : ∀ m, (writeToBuffer m).length ≤ maxTrustedHostSnapshotBytes →
    fromBuffer (writeToBuffer m) = some m
  length_writeToBuffer_le : ∀ m, (writeToBuffer m).length ≤ snapshotBound m

/-- What the store and the repository are given. -/
structure TrustedHostSetting where
  base : PairingSetting
  uris : DartUris
  policy : EndpointPolicy
  codec : SnapshotCodec

/-- The checks of bindings, with the check of their addresses. -/
def TrustedHostSetting.pairing (setting : TrustedHostSetting) : PairingSetting :=
  { setting.base with
    validEndpoint := fun text =>
      (setting.uris.parse text).any (validateSignalingEndpoint setting.uris setting.policy)
    normalizeDisplayName := normalizeDeviceDisplayName }

/-! ## The envelope -/

/-- The errors of the store. -/
inductive TrustedHostStoreError where
  | corruptRecord
  | invalidBinding
  | tooManyBindings
  | unavailable

/-- The magic of the envelope. -/
def trustedHostEnvelopeMagic : Bytes := [0x50, 0x52, 0x44, 0x54, 0x48, 0x53, 0x31, 0x00]

/-- The version of the envelope. -/
def trustedHostEnvelopeVersion : Nat := 1

/-- The header before the payload: magic, version, length and checksum. -/
def trustedHostEnvelopeHeaderBytes : Nat := 48

/-- The longest file. -/
def maxTrustedHostFileBytes : Nat :=
  trustedHostEnvelopeHeaderBytes + maxTrustedHostSnapshotBytes

/-- The snapshot of bindings. -/
def snapshotOf (bindings : List TrustedHostBinding) : TrustedHostSnapshot :=
  { protocolVersion := some ⟨1, 0⟩, bindings }

section Store

variable (setting : TrustedHostSetting)

variable (bindings : List TrustedHostBinding)

/-- Validate bindings. -/
def checkTrustedHostBindings :
    Except TrustedHostStoreError Unit := do
  ensure (bindings.length ≤ maxTrustedHostBindings) .tooManyBindings
  ensure (validateTrustedHostBindings setting.pairing bindings = true) .invalidBinding

/-- The file of a payload. -/
def wrapEnvelope (payload : Bytes) : Bytes :=
  trustedHostEnvelopeMagic ++ bigEndian 4 trustedHostEnvelopeVersion ++
    bigEndian 4 payload.length ++ (setting.base.crypto.sha256 payload).toList ++ payload

/-- The file of bindings. -/
def fileOf : Bytes :=
  wrapEnvelope setting (setting.codec.writeToBuffer (snapshotOf bindings))

/-- Encode bindings as a file. -/
def encodeTrustedHosts :
    Except TrustedHostStoreError Bytes := do
  let payload := setting.codec.writeToBuffer (snapshotOf bindings)
  ensure (payload.length ≤ maxTrustedHostSnapshotBytes) .tooManyBindings
  return wrapEnvelope setting payload

/-- Decode a file.  Whatever is wrong with it counts as damage. -/
def decodeTrustedHosts (encoded : Bytes) : Except TrustedHostStoreError (List TrustedHostBinding) :=
  do
  ensure (trustedHostEnvelopeHeaderBytes ≤ encoded.length ∧
    encoded.length ≤ maxTrustedHostFileBytes) .corruptRecord
  ensure (slice encoded 0 8 = trustedHostEnvelopeMagic) .corruptRecord
  let payloadLength := ofBigEndian (slice encoded 12 16)
  ensure (ofBigEndian (slice encoded 8 12) = trustedHostEnvelopeVersion ∧
    payloadLength ≤ maxTrustedHostSnapshotBytes ∧
    trustedHostEnvelopeHeaderBytes + payloadLength = encoded.length) .corruptRecord
  let payload := encoded.drop trustedHostEnvelopeHeaderBytes
  ensure (slice encoded 16 trustedHostEnvelopeHeaderBytes =
    (setting.base.crypto.sha256 payload).toList) .corruptRecord
  let snapshot ← okOr (setting.codec.fromBuffer payload) .corruptRecord
  ensure (snapshot.protocolVersion = some ⟨1, 0⟩) .corruptRecord
  (checkTrustedHostBindings setting snapshot.bindings).mapError fun _ => .corruptRecord
  return snapshot.bindings

namespace TrustedHostStore

/-- Load the bindings from the file, if it can be read.  A missing file holds none. -/
def load (readable : Bool) (file : Option Bytes) :
    Except TrustedHostStoreError (List TrustedHostBinding) := do
  ensure (readable = true) .unavailable
  match file with
  | none => return []
  | some encoded => decodeTrustedHosts setting encoded

/-- Save bindings, if the file can be replaced.  A failure leaves the file as it was. -/
def save (replaceable : Bool) (file : Option Bytes) (bindings : List TrustedHostBinding) :
    Option Bytes × Except TrustedHostStoreError Unit :=
  let encoded := do
    checkTrustedHostBindings setting bindings
    let encoded ← encodeTrustedHosts setting bindings
    ensure (replaceable = true) .unavailable
    return encoded
  match encoded with
  | .ok encoded => (some encoded, .ok ())
  | .error e => (file, .error e)

end TrustedHostStore

/-! ## Saving and loading agree -/

/-- The store accepts the bindings: only the file system can prevent that they are saved. -/
def Accepted : Prop :=
  validateTrustedHostBindings setting.pairing bindings = true ∧
    (setting.codec.writeToBuffer (snapshotOf bindings)).length ≤ maxTrustedHostSnapshotBytes

variable {setting}

variable {bindings : List TrustedHostBinding}

theorem checkTrustedHostBindings_eq_ok {u : Unit} :
    checkTrustedHostBindings setting bindings = .ok u ↔
      validateTrustedHostBindings setting.pairing bindings = true := by
  simp only [checkTrustedHostBindings, bind_eq_ok, ensure_eq_ok]
  constructor
  · rintro ⟨_, _, hvalid⟩
    exact hvalid
  · intro hvalid
    refine ⟨(), ?_, hvalid⟩
    simp only [validateTrustedHostBindings, Bool.and_eq_true, decide_eq_true_eq] at hvalid
    exact hvalid.1.1

theorem encodeTrustedHosts_eq_ok {encoded : Bytes} :
    encodeTrustedHosts setting bindings = .ok encoded ↔
      (setting.codec.writeToBuffer (snapshotOf bindings)).length ≤ maxTrustedHostSnapshotBytes ∧
        encoded = fileOf setting bindings := by
  simp only [encodeTrustedHosts, bind_eq_ok, ensure_eq_ok]
  constructor
  · rintro ⟨_, hsize, heq⟩
    exact ⟨hsize, (Except.ok.inj heq).symm⟩
  · rintro ⟨hsize, rfl⟩
    exact ⟨(), hsize, rfl⟩

/-- Saving succeeds exactly if the store accepts the bindings and the file is replaced. -/
theorem TrustedHostStore.save_cases (replaceable : Bool) (file : Option Bytes)
    (bindings : List TrustedHostBinding) :
    (replaceable = true ∧ Accepted setting bindings ∧
        save setting replaceable file bindings =
          (some (fileOf setting bindings), .ok ())) ∨
      ¬ (replaceable = true ∧ Accepted setting bindings) ∧
        ∃ e, save setting replaceable file bindings = (file, .error e) := by
  unfold save
  dsimp only
  split
  · rename_i encoded hencoded
    simp only [bind_eq_ok, checkTrustedHostBindings_eq_ok, encodeTrustedHosts_eq_ok,
      ensure_eq_ok] at hencoded
    obtain ⟨_, hvalid, _, ⟨hsize, rfl⟩, _, hreplaced, heq⟩ := hencoded
    rw [← Except.ok.inj heq]
    exact .inl ⟨hreplaced, ⟨hvalid, hsize⟩, rfl⟩
  · rename_i e hencoded
    refine .inr ⟨?_, e, rfl⟩
    rintro ⟨hreplaced, hvalid, hsize⟩
    have hcheck := (checkTrustedHostBindings_eq_ok (u := ())).mpr hvalid
    have hwrap : encodeTrustedHosts setting bindings =
        .ok (fileOf setting bindings) :=
      encodeTrustedHosts_eq_ok.mpr ⟨hsize, rfl⟩
    rw [hcheck, hreplaced] at hencoded
    simp only [Except.bind, bind, hwrap] at hencoded
    cases hencoded

theorem length_wrapEnvelope (setting : TrustedHostSetting) (payload : Bytes) :
    (wrapEnvelope setting payload).length = trustedHostEnvelopeHeaderBytes + payload.length := by
  simp only [wrapEnvelope, trustedHostEnvelopeMagic, trustedHostEnvelopeHeaderBytes,
    List.length_append, length_bigEndian, Vector.length_toList, List.length_cons, List.length_nil]

/-- What the store accepts is decoded from its file. -/
theorem decodeTrustedHosts_fileOf (h : Accepted setting bindings) :
    decodeTrustedHosts setting (fileOf setting bindings) = .ok bindings := by
  obtain ⟨hvalid, hsize⟩ := h
  have hdecode := setting.codec.fromBuffer_writeToBuffer _ hsize
  unfold fileOf
  set payload := setting.codec.writeToBuffer (snapshotOf bindings)
  set checksum := (setting.base.crypto.sha256 payload).toList with hchecksum
  have hsum : checksum.length = 32 := by simp [hchecksum]
  have htotal := length_wrapEnvelope setting payload
  have hfile : wrapEnvelope setting payload = trustedHostEnvelopeMagic ++
      (bigEndian 4 trustedHostEnvelopeVersion ++ (bigEndian 4 payload.length ++
        (checksum ++ payload))) := by
    simp [wrapEnvelope, hchecksum]
  have hmagic : slice (wrapEnvelope setting payload) 0 8 = trustedHostEnvelopeMagic := by
    rw [hfile]
    exact slice_append [] trustedHostEnvelopeMagic _ rfl rfl
  have hversion : slice (wrapEnvelope setting payload) 8 12 =
      bigEndian 4 trustedHostEnvelopeVersion := by
    rw [hfile]
    exact slice_append trustedHostEnvelopeMagic (bigEndian 4 trustedHostEnvelopeVersion) _ rfl rfl
  have hlength : slice (wrapEnvelope setting payload) 12 16 = bigEndian 4 payload.length := by
    rw [hfile, ← List.append_assoc]
    exact slice_append _ (bigEndian 4 payload.length) _ rfl rfl
  have hcheck : slice (wrapEnvelope setting payload) 16 trustedHostEnvelopeHeaderBytes =
      checksum := by
    rw [hfile, ← List.append_assoc, ← List.append_assoc]
    exact slice_append _ checksum payload (by simp [trustedHostEnvelopeMagic]) (by rw [hsum]; rfl)
  have hrest : (wrapEnvelope setting payload).drop trustedHostEnvelopeHeaderBytes = payload := by
    rw [hfile, ← List.append_assoc, ← List.append_assoc, ← List.append_assoc]
    exact List.drop_left' (by simp [trustedHostEnvelopeMagic, hsum, trustedHostEnvelopeHeaderBytes])
  have hread : ofBigEndian (bigEndian 4 payload.length) = payload.length :=
    ofBigEndian_bigEndian (Nat.lt_of_le_of_lt hsize (by decide))
  have hchecked := (checkTrustedHostBindings_eq_ok (u := ())).mpr hvalid
  unfold decodeTrustedHosts
  simp only [bind_eq_ok, ensure_eq_ok, okOr_eq_ok, mapError_eq_ok, hmagic, hversion, hlength,
    hcheck, hrest, htotal, hread, hdecode]
  refine ⟨⟨⟩, ⟨by omega, ?_⟩, ⟨⟩, trivial, ⟨⟩, ⟨by decide, hsize, trivial⟩, ⟨⟩, rfl,
    snapshotOf bindings, rfl, ⟨⟩, rfl, ⟨⟩, hchecked, rfl⟩
  simp only [maxTrustedHostFileBytes]
  omega

/-- What was saved is what is loaded. -/
theorem TrustedHostStore.load_save (h : Accepted setting bindings) :
    load setting true (some (fileOf setting bindings)) = .ok bindings := by
  simp only [load, bind_eq_ok, ensure_eq_ok]
  exact ⟨(), trivial, decodeTrustedHosts_fileOf h⟩

end Store

end Client

end Roammand
