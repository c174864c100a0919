import Roammand.Client.PairingCancellation
import Roammand.Client.TrustedHostEnvelope
import Roammand.Library.Base64

/-!
# The address of an invitation

A Host shows its invitation as an address: a scheme, the name `pair`, a version and the bytes of
the invitation in base 64.  The controller reads such an address from a code or a link, and accepts
it only if it is what it would write itself for the invitation that it has read.

The address may be longer than the bytes that the reader takes.  Addresses are built and parsed by
a library, and messages are written and read by another; both enter with what is documented of
them.

Main results:

- Definition `encodeQrPairingUri` and `parseQrPairingUri`.
- Theorem `parseQrPairingUri_eq_some`: which addresses are accepted, and for which invitation.
- Theorem `QrPairingUri.canonicity`: an invitation is read back from its address exactly if its
  bytes are few enough.
-/

namespace Roammand

namespace Client

open Library Protocol Protobuf Host ControllerPairingEngine HostPairingInvitation Option

/-! ## Libraries -/

/-- A scheme or the name of a host that is the same after it was parsed. -/
def IsUriName (name : String) : Prop :=
  name ≠ "" ∧ ∀ c ∈ name.toList, 'a' ≤ c ∧ c ≤ 'z'

/-- A segment of a path that is not escaped. -/
def IsUriSegment (segment : String) : Prop :=
  segment ≠ "" ∧ ∀ c ∈ segment.toList, isBase64UrlDigit c = true

/-- The parts of addresses that the library parses, and the addresses that it builds. -/
structure DartUriParts extends DartUris where
  hasPort : Uri → Bool
  query : Uri → String
  fragment : Uri → String
  pathSegments : Uri → List String
  build (scheme host : String) (pathSegments : List String) : Uri
  text_build : ∀ s h segments, IsUriName s → IsUriName h → segments ≠ [] →
    (∀ segment ∈ segments, IsUriSegment segment) →
    (text (build s h segments)).toList = s.toList ++ "://".toList ++ h.toList ++
      segments.flatMap fun segment => '/' :: segment.toList
  build_parts : ∀ s h segments, IsUriName s → IsUriName h → segments ≠ [] →
    (∀ segment ∈ segments, IsUriSegment segment) →
    let uri := build s h segments
    scheme uri = s ∧ host uri = h ∧ userInfo uri = "" ∧ hasAuthority uri = true ∧
      hasPort uri = false ∧ query uri = "" ∧ fragment uri = "" ∧ pathSegments uri = segments

/-- The bytes of an invitation: each of its ten fields, and each of the two of its version, adds
at most 20 to its contents. -/
def invitationBound (m : HostPairingInvitation) : Nat :=
  240 + m.rendezvousId.length + m.hostIdentity.elim 0 identityBound +
    m.hostPublicKeyFingerprintSha256.length + m.hostEphemeralPublicKey.length +
    (utf8 m.signalingEndpoint).length + (utf8 m.pairingCode).length

/-- Messages with an invitation.  Besides the values of its fields a message has fields that are
not known, and it may tell a field that is absent from one with the default value. -/
structure DartInvitations where
  Message : Type
  invitation : Message → HostPairingInvitation
  unknownFields : Message → Bool
  versionUnknownFields : Message → Bool
  identityUnknownFields : Message → Bool
  writeToBuffer : Message → Bytes
  fromBuffer : Bytes → Option Message
  fromBuffer_nil : ∀ m, fromBuffer [] = some m → (invitation m).protocolVersion = none
  fromBuffer_writeToBuffer : ∀ m, (writeToBuffer m).length < 2 ^ 31 →
    fromBuffer (writeToBuffer m) = some m
  length_writeToBuffer_le : ∀ m, unknownFields m = false →
    ((invitation m).protocolVersion.isSome → versionUnknownFields m = false) →
    ((invitation m).hostIdentity.isSome → identityUnknownFields m = false) →
    (writeToBuffer m).length ≤ invitationBound (invitation m)

/-- What the addresses of invitations depend on. -/
structure QrSetting where
  crypto : Crypto
  uris : DartUriParts
  policy : EndpointPolicy
  messages : DartInvitations

/-- The lowest version of the protocol. -/
def minimumProtocolMinorVersion : UInt32 := 0

/-- The longest address of an invitation. -/
def maxQrPairingUriBytes : Nat := 8192

/-! ## Writing and reading -/

namespace QrPairingUri

def scheme : String := "roammand"

def legacyScheme : String := "prd"

def host : String := "pair"

def pathVersion : String := "v1"

/-- The pattern of the bytes in an address. -/
def matchesPayload (payload : String) : Bool :=
  payload ≠ "" ∧ payload.toList.all isBase64UrlDigit

section Setting

variable (setting : QrSetting)

/-- The address of a signaling service is one that a controller connects to. -/
def validEndpoint (endpoint : String) : Bool :=
  (setting.uris.parse endpoint).any
    (validateSignalingEndpoint setting.uris.toDartUris setting.policy)

/-- `_validateInvitation`. -/
def validateInvitation (invitation : HostPairingInvitation) (nowUnixMs : Option Int) : Bool :=
  decide (invitation.protocolVersion.map ProtocolVersion.major = some protocolMajorVersion) &&
    invitation.protocolVersion.all (fun version => minimumProtocolMinorVersion ≤ version.minor) &&
    decide (invitation.kind = .qr ∧ invitation.rendezvousId.length = rendezvousIdBytes ∧
      invitation.hostIdentity.isSome ∧
      invitation.hostEphemeralPublicKey.length = publicKeyBytes ∧ invitation.pairingCode = "" ∧
      invitation.signalingEndpoint ≠ "") &&
    validHost setting.crypto (identityOf invitation.hostIdentity)
      invitation.hostPublicKeyFingerprintSha256 &&
    validEndpoint setting invitation.signalingEndpoint &&
    decide (0 < signed invitation.issuedAtUnixMs ∧
      signed invitation.issuedAtUnixMs ≤ signed invitation.expiresAtUnixMs ∧
      signed invitation.expiresAtUnixMs - signed invitation.issuedAtUnixMs ≤
        pairingRendezvousLifetimeMs) &&
    nowUnixMs.all fun now => now ≤ signed invitation.expiresAtUnixMs

/-- `_rejectUnknownFields`: there are none. -/
def rejectUnknownFields (m : setting.messages.Message) : Bool :=
  let invitation := setting.messages.invitation m
  !(setting.messages.unknownFields m ||
    invitation.protocolVersion.isSome && setting.messages.versionUnknownFields m ||
    invitation.hostIdentity.isSome && setting.messages.identityUnknownFields m)

/-- The bytes of an invitation as they stand in its address. -/
def payloadOf (bytes : Bytes) : String :=
  String.ofList ((base64UrlEncode bytes).toList.filter (· ≠ '='))

/-- The address of a message under a scheme. -/
def addressOf (scheme : String) (m : setting.messages.Message) : String :=
  setting.uris.text (setting.uris.build scheme host
    [pathVersion, payloadOf (setting.messages.writeToBuffer m)])

/-- `_encodeQrPairingUri`. -/
def encodeWithScheme (scheme : String) (m : setting.messages.Message) : Option String :=
  if validateInvitation setting (setting.messages.invitation m) none ∧
      rejectUnknownFields setting m then
    let encoded := addressOf setting scheme m
    if (utf8 encoded).length ≤ maxQrPairingUriBytes then some encoded else none
  else none

/-- The parts of an address that is an invitation's, and that is written as it is parsed. -/
def validUri (encoded : String) (uri : setting.uris.Uri) : Bool :=
  decide ((setting.uris.scheme uri = scheme ∨ setting.uris.scheme uri = legacyScheme) ∧
      setting.uris.host uri = host) &&
    setting.uris.hasAuthority uri && !setting.uris.hasPort uri &&
    decide (setting.uris.userInfo uri = "" ∧ setting.uris.query uri = "" ∧
      setting.uris.fragment uri = "") &&
    decide ((setting.uris.pathSegments uri).length = 2 ∧
      (setting.uris.pathSegments uri).head? = some pathVersion ∧
      (setting.uris.pathSegments uri).getLast? ≠ some "" ∧ setting.uris.text uri = encoded)

/-- The bytes in an address, if they are few enough. -/
def readPayload (payload : String) : Option Bytes :=
  if matchesPayload payload ∧ '=' ∉ payload.toList then
    ((base64Normalize payload).bind base64Decode).filter fun bytes =>
      bytes ≠ [] ∧ bytes.length ≤ maxQrPairingPayloadBytes
  else none

/-- The message with these bytes, if it is an invitation. -/
def readInvitation (bytes : Bytes) (nowUnixMs : Int) : Option setting.messages.Message :=
  (setting.messages.fromBuffer bytes).filter fun m =>
    rejectUnknownFields setting m && decide (setting.messages.writeToBuffer m = bytes) &&
      validateInvitation setting (setting.messages.invitation m) (some nowUnixMs)

end Setting

end QrPairingUri

open QrPairingUri

/-- The address of an invitation. -/
def encodeQrPairingUri (setting : QrSetting) (m : setting.messages.Message) : Option String :=
  encodeWithScheme setting QrPairingUri.scheme m

/-- The invitation with an address, unless it has expired. -/
def parseQrPairingUri (setting : QrSetting) (encoded : String) (nowUnixMs : Int) :
    Option setting.messages.Message :=
  if encoded = "" ∨ maxQrPairingUriBytes < (utf8 encoded).length then none
  else do
    let uri ← (setting.uris.parse encoded).filter (validUri setting encoded)
    let bytes ← readPayload ((setting.uris.pathSegments uri).getLastD "")
    let m ← readInvitation setting bytes nowUnixMs
    if encodeWithScheme setting (setting.uris.scheme uri) m = some encoded then some m else none

/-! ## What is written is read -/

namespace QrPairingUri

theorem isUriName_of_all {name : String} (hne : name ≠ "")
    (h : (name.toList.all fun c => 'a' ≤ c ∧ c ≤ 'z') = true) : IsUriName name :=
  ⟨hne, fun c hc => of_decide_eq_true (List.all_eq_true.mp h c hc)⟩

theorem isUriName_scheme : IsUriName scheme := isUriName_of_all (by decide) (by decide)

theorem isUriName_legacyScheme : IsUriName legacyScheme :=
  isUriName_of_all (by decide) (by decide)

/-- A scheme of invitations' addresses. -/
def IsScheme (s : String) : Prop := s = scheme ∨ s = legacyScheme

theorem IsScheme.isUriName {s : String} (h : IsScheme s) : IsUriName s := by
  rcases h with rfl | rfl
  · exact isUriName_scheme
  · exact isUriName_legacyScheme

theorem isUriName_host : IsUriName host := isUriName_of_all (by decide) (by decide)

theorem isUriSegment_pathVersion : IsUriSegment pathVersion := by
  have hdigits : pathVersion.toList.all isBase64UrlDigit = true := by decide
  exact ⟨by decide, List.all_eq_true.mp hdigits⟩

theorem toList_payloadOf (bytes : Bytes) : (payloadOf bytes).toList = base64Digits bytes := by
  unfold payloadOf
  rw [String.toList_ofList, filter_base64UrlEncode]

variable {bytes : Bytes}

theorem isUriSegment_payloadOf (h : bytes ≠ []) :
    IsUriSegment (payloadOf bytes) := by
  constructor
  · intro hempty
    apply base64Digits_ne_nil h
    rw [← toList_payloadOf, hempty]
    rfl
  · rw [toList_payloadOf]
    exact isBase64UrlDigit_of_mem bytes

theorem isUriSegment_of_mem (h : bytes ≠ []) :
    ∀ segment ∈ [pathVersion, payloadOf bytes], IsUriSegment segment :=
  List.forall_mem_cons.mpr ⟨isUriSegment_pathVersion,
    List.forall_mem_cons.mpr ⟨isUriSegment_payloadOf h, List.forall_mem_nil _⟩⟩

/-- The bytes of an address are read back from it, if they are few enough. -/
theorem readPayload_payloadOf (h : bytes ≠ []) :
    readPayload (payloadOf bytes) =
      if bytes.length ≤ maxQrPairingPayloadBytes then some bytes else none := by
  obtain ⟨hempty, hdigits⟩ := isUriSegment_payloadOf h
  have hmatches : matchesPayload (payloadOf bytes) = true :=
    decide_eq_true ⟨hempty, List.all_eq_true.mpr hdigits⟩
  have hfilling : '=' ∉ (payloadOf bytes).toList := fun hmem =>
    absurd (hdigits '=' hmem) (by decide)
  have hread : (base64Normalize (payloadOf bytes)).bind base64Decode = some bytes := by
    have hpayload : payloadOf bytes = String.ofList (base64Digits bytes) := by
      rw [← toList_payloadOf, String.ofList_toList]
    rw [hpayload, base64Decode_normalize_digits]
  unfold readPayload
  rw [if_pos ⟨hmatches, hfilling⟩, hread]
  by_cases hfits : bytes.length ≤ maxQrPairingPayloadBytes
  · rw [if_pos hfits]
    exact if_pos (decide_eq_true ⟨h, hfits⟩)
  · rw [if_neg hfits]
    exact if_neg fun hboth => hfits (of_decide_eq_true hboth).2

/-- In an address of few characters each takes one byte. -/
theorem length_utf8_of_ascii {text : List Char} (h : ∀ c ∈ text, c.val.toNat ≤ 127) :
    (utf8 (String.ofList text)).length = text.length := by
  unfold utf8
  rw [String.toList_ofList]
  induction text with
  | nil => rfl
  | cons c text ih =>
    obtain ⟨hc, htext⟩ := List.forall_mem_cons.mp h
    have hone : (String.utf8EncodeChar c).length = 1 := by
      rw [String.length_utf8EncodeChar, Char.utf8Size_eq_one_iff, UInt32.le_iff_toNat_le]
      exact hc
    rw [List.flatMap_cons, List.length_append, hone, ih htext, List.length_cons, Nat.add_comm]

theorem ascii_of_isBase64UrlDigit {c : Char} (h : isBase64UrlDigit c = true) :
    c.val.toNat ≤ 127 := by
  unfold isBase64UrlDigit at h
  simp only [decide_eq_true_eq, Char.le_def, UInt32.le_iff_toNat_le] at h
  have hz : ('z' : Char).val.toNat = 122 := rfl
  have hZ : ('Z' : Char).val.toNat = 90 := rfl
  have h9 : ('9' : Char).val.toNat = 57 := rfl
  rcases h with h | h | h | rfl | rfl
  · omega
  · omega
  · omega
  · decide
  · decide

variable {setting : QrSetting} {m : setting.messages.Message}

theorem ascii_of_isUriName {name : String} (h : IsUriName name) :
    ∀ c ∈ name.toList, c.val.toNat ≤ 127 := fun c hc => by
  have hle := (h.2 c hc).2
  rw [Char.le_def, UInt32.le_iff_toNat_le] at hle
  exact hle.trans (by decide)

/-- The length of the address of an invitation that takes some bytes. -/
theorem length_addressOf {s : String} (hs : IsScheme s)
    (hbytes : setting.messages.writeToBuffer m ≠ []) :
    (utf8 (addressOf setting s m)).length =
      s.toList.length + 11 + (base64Digits (setting.messages.writeToBuffer m)).length := by
  have hsegments := isUriSegment_of_mem hbytes
  have htext := congrArg String.ofList (setting.uris.text_build s host _ hs.isUriName
    isUriName_host (List.cons_ne_nil _ _) hsegments)
  rw [String.ofList_toList] at htext
  rw [addressOf, htext, length_utf8_of_ascii]
  · have hhost : host.toList.length = 4 := by decide
    have hversion : pathVersion.toList.length = 2 := by decide
    have hmark : "://".toList.length = 3 := by decide
    simp only [List.length_append, List.flatMap_cons, List.flatMap_nil, List.append_nil,
      List.length_cons, toList_payloadOf, hhost, hversion, hmark]
    omega
  · intro c hc
    simp only [List.mem_append, List.mem_flatMap] at hc
    rcases hc with ((hc | hc) | hc) | ⟨segment, hmem, hc⟩
    · exact ascii_of_isUriName hs.isUriName c hc
    · have hmark : "://".toList.all (·.val.toNat ≤ 127) = true := by decide
      exact of_decide_eq_true (List.all_eq_true.mp hmark c hc)
    · exact ascii_of_isUriName isUriName_host c hc
    · rcases List.mem_cons.mp hc with rfl | hc
      · decide
      · exact ascii_of_isBase64UrlDigit ((hsegments segment hmem).2 c hc)

/-- The clock only adds that the invitation has not expired. -/
theorem validateInvitation_some (invitation : HostPairingInvitation) (now : Int) :
    validateInvitation setting invitation (some now) = true ↔
      validateInvitation setting invitation none = true ∧
        now ≤ signed invitation.expiresAtUnixMs := by
  unfold validateInvitation
  rw [all_some, all_none, Bool.and_true, Bool.and_eq_true, decide_eq_true_eq]

/-- What is written for an invitation. -/
theorem encodeWithScheme_eq_some {scheme encoded : String} :
    encodeWithScheme setting scheme m = some encoded ↔
      validateInvitation setting (setting.messages.invitation m) none = true ∧
        rejectUnknownFields setting m = true ∧
        encoded = addressOf setting scheme m ∧
        (utf8 encoded).length ≤ maxQrPairingUriBytes := by
  unfold encodeWithScheme
  constructor
  · intro h
    dsimp only at h
    split_ifs at h with hvalid hfits
    obtain rfl := some.inj h
    exact ⟨hvalid.1, hvalid.2, rfl, hfits⟩
  · rintro ⟨hvalid, hknown, rfl, hfits⟩
    rw [if_pos ⟨hvalid, hknown⟩, if_pos hfits]

/-- A valid invitation is written as some bytes, if they can be read again. -/
theorem writeToBuffer_ne_nil
    (hvalid : validateInvitation setting (setting.messages.invitation m) none = true) :
    setting.messages.writeToBuffer m ≠ [] := by
  intro hempty
  have hread := setting.messages.fromBuffer_writeToBuffer m
  rw [hempty] at hread
  have hversion := setting.messages.fromBuffer_nil m (hread (by decide))
  unfold validateInvitation at hvalid
  rw [hversion] at hvalid
  revert hvalid
  simp

/-- The parts of an address that is built are those of an invitation's address. -/
theorem validUri_build {s encoded : String} {bytes : Bytes}
    (hscheme : IsScheme s) (hbytes : bytes ≠ [])
    (hencoded : encoded = setting.uris.text (setting.uris.build s host
      [pathVersion, payloadOf bytes])) :
    let uri := setting.uris.build s host [pathVersion, payloadOf bytes]
    validUri setting encoded uri = true ∧ setting.uris.scheme uri = s ∧
      setting.uris.pathSegments uri = [pathVersion, payloadOf bytes] ∧ encoded ≠ "" := by
  have hname := hscheme.isUriName
  have hpayload := isUriSegment_payloadOf hbytes
  have hsegments := isUriSegment_of_mem hbytes
  have hlist := List.cons_ne_nil pathVersion [payloadOf bytes]
  obtain ⟨hschemeOf, hhost, huser, hauthority, hport, hquery, hfragment, hpath⟩ :=
    setting.uris.build_parts s host _ hname isUriName_host hlist hsegments
  have htext := setting.uris.text_build s host _ hname isUriName_host hlist hsegments
  refine ⟨?_, hschemeOf, hpath, ?_⟩
  · unfold validUri
    rw [hschemeOf, hhost, huser, hauthority, hport, hquery, hfragment, hpath, ← hencoded]
    have hscheme : s = scheme ∨ s = legacyScheme := hscheme
    simp [hscheme, hpayload.1]
  · rw [hencoded]
    intro hempty
    rw [hempty] at htext
    simp at htext

end QrPairingUri

/-- The addresses that are accepted, and for which invitation: those that are written for an
invitation that has not expired and that has few enough bytes, under one of the two schemes. -/
theorem parseQrPairingUri_eq_some {setting : QrSetting} {encoded : String} {now : Int}
    {m : setting.messages.Message} :
    parseQrPairingUri setting encoded now = some m ↔
      (encodeWithScheme setting QrPairingUri.scheme m = some encoded ∨
        encodeWithScheme setting legacyScheme m = some encoded) ∧
      now ≤ signed (setting.messages.invitation m).expiresAtUnixMs ∧
      (setting.messages.writeToBuffer m).length ≤ maxQrPairingPayloadBytes := by
  unfold parseQrPairingUri
  constructor
  · intro h
    split_ifs at h with hlength
    simp only [bind_eq_bind, bind_eq_some_iff, filter_eq_some_iff] at h
    obtain ⟨uri, ⟨-, huri⟩, bytes, hbytes, m', hm, hsame⟩ := h
    split_ifs at hsame with hencode
    obtain rfl := some.inj hsame
    unfold readInvitation at hm
    rw [filter_eq_some_iff] at hm
    obtain ⟨-, hchecks⟩ := hm
    simp only [Bool.and_eq_true, decide_eq_true_eq, validateInvitation_some] at hchecks
    obtain ⟨⟨-, hwritten⟩, -, hnow⟩ := hchecks
    have hfew : bytes.length ≤ maxQrPairingPayloadBytes := by
      unfold readPayload at hbytes
      split_ifs at hbytes
      exact (of_decide_eq_true (filter_eq_some_iff.mp hbytes).2).2
    refine ⟨?_, hnow, hwritten ▸ hfew⟩
    unfold validUri at huri
    simp only [Bool.and_eq_true, decide_eq_true_eq] at huri
    obtain ⟨⟨⟨⟨⟨hscheme, -⟩, -⟩, -⟩, -⟩, -⟩ := huri
    rcases hscheme with hscheme | hscheme
    · exact .inl (hscheme ▸ hencode)
    · exact .inr (hscheme ▸ hencode)
  · rintro ⟨hencode, hnow, hfew⟩
    have hscheme : ∃ s, IsScheme s ∧
        encodeWithScheme setting s m = some encoded := by
      rcases hencode with hencode | hencode
      · exact ⟨_, .inl rfl, hencode⟩
      · exact ⟨_, .inr rfl, hencode⟩
    obtain ⟨s, hs, hencode⟩ := hscheme
    obtain ⟨hvalid, hknown, hencoded, hfits⟩ := encodeWithScheme_eq_some.mp hencode
    have hbytes := writeToBuffer_ne_nil hvalid
    obtain ⟨huri, hschemeOf, hpath, hne⟩ := validUri_build hs hbytes hencoded
    have hparse : (setting.uris.parse encoded).filter (validUri setting encoded) =
        some (setting.uris.build s host
          [pathVersion, payloadOf (setting.messages.writeToBuffer m)]) := by
      rw [filter_eq_some_iff]
      refine ⟨?_, huri⟩
      rw [hencoded]
      exact setting.uris.parse_text _
    have hpayload : readPayload (payloadOf (setting.messages.writeToBuffer m)) =
        some (setting.messages.writeToBuffer m) := by
      rw [readPayload_payloadOf hbytes, if_pos hfew]
    have hread : readInvitation setting (setting.messages.writeToBuffer m) now = some m := by
      unfold readInvitation
      rw [filter_eq_some_iff]
      refine ⟨setting.messages.fromBuffer_writeToBuffer m ?_, ?_⟩
      · rw [maxQrPairingPayloadBytes] at hfew
        omega
      · rw [hknown, (validateInvitation_some _ now).mpr ⟨hvalid, hnow⟩]
        simp
    rw [if_neg (by rintro (hempty | hlong) <;> [exact hne hempty; omega])]
    rw [hparse, bind_eq_bind, bind_some, hpath]
    change (readPayload (payloadOf _)).bind _ = some m
    rw [hpayload, bind_some, hread]
    dsimp only [bind_eq_bind, bind_some]
    rw [hschemeOf, if_pos hencode]

/-! ## One address for each invitation -/

namespace QrPairingUri

/-- What is written under a scheme is parsed as an address with that scheme. -/
theorem scheme_of_encode {setting : QrSetting} {m : setting.messages.Message}
    {s encoded : String} (hs : IsScheme s) (h : encodeWithScheme setting s m = some encoded) :
    (setting.uris.parse encoded).map setting.uris.scheme = some s := by
  obtain ⟨hvalid, -, hencoded, -⟩ := encodeWithScheme_eq_some.mp h
  obtain ⟨-, hscheme, -⟩ := validUri_build hs (writeToBuffer_ne_nil hvalid) hencoded
  rw [hencoded]
  unfold addressOf
  rw [setting.uris.parse_text, map_some, hscheme]

/-- An address tells the bytes that it was written for. -/
theorem bytes_of_encode {setting : QrSetting} {m m' : setting.messages.Message}
    {s s' encoded : String} (hs : IsScheme s) (hs' : IsScheme s')
    (h : encodeWithScheme setting s m = some encoded)
    (h' : encodeWithScheme setting s' m' = some encoded) :
    setting.messages.writeToBuffer m = setting.messages.writeToBuffer m' := by
  obtain ⟨hvalid, -, hencoded, -⟩ := encodeWithScheme_eq_some.mp h
  obtain ⟨hvalid', -, hencoded', -⟩ := encodeWithScheme_eq_some.mp h'
  obtain ⟨-, -, hpath, -⟩ := validUri_build hs (writeToBuffer_ne_nil hvalid) hencoded
  obtain ⟨-, -, hpath', -⟩ := validUri_build hs' (writeToBuffer_ne_nil hvalid') hencoded'
  have hparsed : setting.uris.parse encoded = setting.uris.parse encoded := rfl
  nth_rewrite 1 [hencoded] at hparsed
  nth_rewrite 1 [hencoded'] at hparsed
  unfold addressOf at hparsed
  rw [setting.uris.parse_text, setting.uris.parse_text] at hparsed
  have hsegments := congrArg setting.uris.pathSegments (some.inj hparsed)
  rw [hpath, hpath'] at hsegments
  have hpayload : payloadOf (setting.messages.writeToBuffer m) =
      payloadOf (setting.messages.writeToBuffer m') :=
    (List.cons.inj (List.cons.inj hsegments).2).1
  have hread := base64Decode_normalize_digits (setting.messages.writeToBuffer m)
  rw [← toList_payloadOf, hpayload, toList_payloadOf, base64Decode_normalize_digits] at hread
  exact (some.inj hread).symm

/-- A valid invitation takes few bytes if the text of its endpoint does. -/
theorem length_writeToBuffer_le
    (hvalid : validateInvitation setting (setting.messages.invitation m) none = true)
    (hknown : rejectUnknownFields setting m = true)
    (hendpoint : (utf8 (setting.messages.invitation m).signalingEndpoint).length ≤
      maximumSignalingEndpointBytes) :
    (setting.messages.writeToBuffer m).length ≤ 2700 := by
  unfold rejectUnknownFields at hknown
  simp only [Bool.not_eq_true', Bool.or_eq_false_iff, Bool.and_eq_false_imp] at hknown
  obtain ⟨⟨hfields, hversion⟩, hidentity⟩ := hknown
  have hwritten := setting.messages.length_writeToBuffer_le m hfields hversion hidentity
  unfold validateInvitation validHost at hvalid
  simp only [Bool.and_eq_true, decide_eq_true_eq] at hvalid
  obtain ⟨⟨⟨⟨⟨-, -, hid, hsome, hkey, hcode, -⟩, ⟨⟨⟨hhost, -⟩, -⟩, -⟩, hfingerprint⟩, -⟩, -⟩, -⟩ :=
    hvalid
  obtain ⟨identity, hidentity⟩ := isSome_iff_exists.mp hsome
  rw [hidentity] at hhost
  have hidentityBound : identityBound identity ≤ 292 := identityBound_le hhost
  have hhash := congrArg List.length hfingerprint
  rw [Vector.length_toList] at hhash
  rw [rendezvousIdBytes] at hid
  rw [publicKeyBytes] at hkey
  rw [maximumSignalingEndpointBytes] at hendpoint
  simp only [invitationBound, hidentity, hcode, ← hhash, hid, hkey, elim_some] at hwritten
  have hempty : (utf8 "").length = 0 := rfl
  omega

/-- Whether the address of a valid invitation is read back. -/
theorem parse_encode_iff {s encoded : String} {now : Int} (hs : IsScheme s)
    (hvalid : validateInvitation setting (setting.messages.invitation m) (some now) = true)
    (hencode : encodeWithScheme setting s m = some encoded) :
    parseQrPairingUri setting encoded now = some m ↔
      (setting.messages.writeToBuffer m).length ≤ maxQrPairingPayloadBytes := by
  obtain ⟨-, hnow⟩ := (validateInvitation_some _ now).mp hvalid
  rw [parseQrPairingUri_eq_some]
  refine ⟨fun h => h.2.2, fun hfew => ⟨?_, hnow, hfew⟩⟩
  rcases hs with rfl | rfl
  · exact .inl hencode
  · exact .inr hencode

/-- The address of a valid invitation that is not too long is read back as that invitation exactly
if the invitation has few enough bytes; it is written and read back whenever the text of its
endpoint is no longer than a parsed endpoint may be; whatever is accepted is the address of the
invitation that is read from it; and an invitation is read from one address only under a scheme. -/
theorem canonicity (setting : QrSetting) :
    (∀ s, IsScheme s → ∀ m now,
      validateInvitation setting (setting.messages.invitation m) (some now) = true →
      rejectUnknownFields setting m = true →
      (utf8 (addressOf setting s m)).length ≤ maxQrPairingUriBytes →
      ∃ encoded, encodeWithScheme setting s m = some encoded ∧
        (parseQrPairingUri setting encoded now = some m ↔
          (setting.messages.writeToBuffer m).length ≤ maxQrPairingPayloadBytes)) ∧
    (∀ s, IsScheme s → ∀ m now,
      validateInvitation setting (setting.messages.invitation m) (some now) = true →
      rejectUnknownFields setting m = true →
      (utf8 (setting.messages.invitation m).signalingEndpoint).length ≤
        maximumSignalingEndpointBytes →
      ∃ encoded, encodeWithScheme setting s m = some encoded ∧
        parseQrPairingUri setting encoded now = some m) ∧
    (∀ encoded now m, parseQrPairingUri setting encoded now = some m →
      ∃ s, IsScheme s ∧ (setting.uris.parse encoded).map setting.uris.scheme = some s ∧
        encodeWithScheme setting s m = some encoded) ∧
    (∀ encoded encoded' now now' m, parseQrPairingUri setting encoded now = some m →
      parseQrPairingUri setting encoded' now' = some m →
      (setting.uris.parse encoded).map setting.uris.scheme =
        (setting.uris.parse encoded').map setting.uris.scheme → encoded = encoded') := by
  have hwritten : ∀ encoded now m, parseQrPairingUri setting encoded now = some m →
      ∃ s, IsScheme s ∧ (setting.uris.parse encoded).map setting.uris.scheme = some s ∧
        encodeWithScheme setting s m = some encoded := by
    intro encoded now m h
    obtain ⟨hencode, -, -⟩ := parseQrPairingUri_eq_some.mp h
    rcases hencode with hencode | hencode
    · exact ⟨_, .inl rfl, scheme_of_encode (.inl rfl) hencode, hencode⟩
    · exact ⟨_, .inr rfl, scheme_of_encode (.inr rfl) hencode, hencode⟩
  refine ⟨?_, ?_, hwritten, ?_⟩
  · intro s hs m now hvalid hknown hfits
    have halways := ((validateInvitation_some _ now).mp hvalid).1
    have hencode : encodeWithScheme setting s m = some (addressOf setting s m) :=
      encodeWithScheme_eq_some.mpr ⟨halways, hknown, rfl, hfits⟩
    exact ⟨_, hencode, parse_encode_iff hs hvalid hencode⟩
  · intro s hs m now hvalid hknown hendpoint
    have halways := ((validateInvitation_some _ now).mp hvalid).1
    have hfew := length_writeToBuffer_le halways hknown hendpoint
    have hlength : s.toList.length ≤ 8 := by
      rcases hs with rfl | rfl <;> decide
    have hfits : (utf8 (addressOf setting s m)).length ≤ maxQrPairingUriBytes := by
      rw [length_addressOf hs (writeToBuffer_ne_nil halways), length_base64Digits,
        maxQrPairingUriBytes]
      omega
    have hencode : encodeWithScheme setting s m = some (addressOf setting s m) :=
      encodeWithScheme_eq_some.mpr ⟨halways, hknown, rfl, hfits⟩
    exact ⟨_, hencode, (parse_encode_iff hs hvalid hencode).mpr (hfew.trans (by decide))⟩
  · intro encoded encoded' now now' m h h' hsame
    obtain ⟨s, -, hscheme, hencode⟩ := hwritten _ _ _ h
    obtain ⟨s', -, hscheme', hencode'⟩ := hwritten _ _ _ h'
    rw [hscheme, hscheme'] at hsame
    obtain rfl := some.inj hsame
    exact some.inj (hencode.symm.trans hencode')

end QrPairingUri

/-! ## Messages on the wire -/

/-- The kind with a wire value; those that are not known are not set. -/
def PairingInvitationKind.ofInt32 (value : Int32) : PairingInvitationKind :=
  if value = 1 then .qr else if value = 2 then .desktopCode else .unspecified

/-- The invitation with every field at its default. -/
def emptyInvitation : HostPairingInvitation where
  protocolVersion := none
  kind := .unspecified
  rendezvousId := []
  hostIdentity := none
  hostPublicKeyFingerprintSha256 := []
  hostEphemeralPublicKey := []
  signalingEndpoint := ""
  pairingCode := ""
  issuedAtUnixMs := 0
  expiresAtUnixMs := 0

/-- Merge one field into an invitation. -/
def mergeInvitation (m : HostPairingInvitation) (field : Field) :
    Option HostPairingInvitation :=
  match field.number, field.value with
  | 1, .delimited b =>
    (decodeWith mergeProtocolVersion (m.protocolVersion.getD ⟨0, 0⟩) b).map fun version =>
      { m with protocolVersion := some version }
  | 2, .varint n => some { m with kind := PairingInvitationKind.ofInt32 (ofEnumValue n) }
  | 3, .delimited b => some { m with rendezvousId := b }
  | 4, .delimited b =>
    (decodeWith DeviceIdentity.merge (m.hostIdentity.getD .empty) b).map fun identity =>
      { m with hostIdentity := some identity }
  | 5, .delimited b => some { m with hostPublicKeyFingerprintSha256 := b }
  | 6, .delimited b => some { m with hostEphemeralPublicKey := b }
  | 7, .delimited b => (ofUtf8? b).map fun s => { m with signalingEndpoint := s }
  | 8, .delimited b => (ofUtf8? b).map fun s => { m with pairingCode := s }
  | 9, .varint n => some { m with issuedAtUnixMs := n }
  | 10, .varint n => some { m with expiresAtUnixMs := n }
  | number, _ => if 1 ≤ number ∧ number ≤ 10 then none else some m

theorem number_of_mem_invitation {m : HostPairingInvitation} :
    ∀ f ∈ m.fields, f.number < 2 ^ 32 := by
  intro f h
  simp only [fields, stringField, List.mem_append] at h
  rcases h with h | h | h | h | h | h | h | h | h | h
  · rw [number_of_mem_optionalMessageField h]; decide
  · rw [number_of_mem_enumField h]; decide
  · rw [number_of_mem_bytesField h]; decide
  · rw [number_of_mem_optionalMessageField h]; decide
  · rw [number_of_mem_bytesField h]; decide
  · rw [number_of_mem_bytesField h]; decide
  · rw [number_of_mem_bytesField h]; decide
  · rw [number_of_mem_bytesField h]; decide
  · rw [number_of_mem_uint64Field h]; decide
  · rw [number_of_mem_uint64Field h]; decide

theorem PairingInvitationKind.ofInt32_toInt32 (kind : PairingInvitationKind) :
    PairingInvitationKind.ofInt32 kind.toInt32 = kind := by
  cases kind <;> rfl

/-- An invitation of representable size is read back from its encoding. -/
theorem decodeWith_mergeInvitation (m : HostPairingInvitation)
    (hlength : (encodeFields m.fields).length < 2 ^ 64) :
    decodeWith mergeInvitation emptyInvitation (encodeFields m.fields) = some m := by
  rw [decodeWith_encodeFields (fits_of_length number_of_mem_invitation hlength)]
  have hnested : ∀ identity, m.hostIdentity = some identity →
      (encodeFields identity.fields).length < 2 ^ 64 := by
    intro identity hidentity
    have hmem : (⟨4, .delimited (encodeFields identity.fields)⟩ : Field) ∈ m.fields := by
      simp [fields, hidentity, optionalMessageField, messageField]
    exact Nat.lt_of_le_of_lt (length_contents_le hmem) hlength
  rw [fields]
  obtain ⟨version, kind, rendezvous, identity, fingerprint, key, endpoint, code, issued,
    expires⟩ := m
  refine (foldlM_append_of_some (foldlM_optionalMessageField
    (fun v => (⟨v, .unspecified, [], none, [], [], "", "", 0, 0⟩ : HostPairingInvitation))
    version rfl fun value _ => by
      simp [mergeInvitation, decodeWith_mergeProtocolVersion value])).trans ?_
  refine (foldlM_append_of_some (foldlM_enumField
    (fun k => (⟨version, PairingInvitationKind.ofInt32 k, [], none, [], [], "", "", 0, 0⟩ :
      HostPairingInvitation)) kind.toInt32 rfl fun n => rfl)).trans ?_
  rw [PairingInvitationKind.ofInt32_toInt32]
  refine (foldlM_append_of_some (foldlM_bytesField
    (fun b => (⟨version, kind, b, none, [], [], "", "", 0, 0⟩ : HostPairingInvitation))
    rendezvous rfl fun b => rfl)).trans ?_
  refine (foldlM_append_of_some (foldlM_optionalMessageField
    (fun i => (⟨version, kind, rendezvous, i, [], [], "", "", 0, 0⟩ : HostPairingInvitation))
    identity rfl fun value hvalue => by
      simp [mergeInvitation, DeviceIdentity.decode_encode value (hnested value hvalue)])).trans ?_
  refine (foldlM_append_of_some (foldlM_bytesField
    (fun b => (⟨version, kind, rendezvous, identity, b, [], "", "", 0, 0⟩ :
      HostPairingInvitation)) fingerprint rfl fun b => rfl)).trans ?_
  refine (foldlM_append_of_some (foldlM_bytesField
    (fun b => (⟨version, kind, rendezvous, identity, fingerprint, b, "", "", 0, 0⟩ :
      HostPairingInvitation)) key rfl fun b => rfl)).trans ?_
  refine (foldlM_append_of_some (foldlM_stringField
    (fun s => (⟨version, kind, rendezvous, identity, fingerprint, key, s, "", 0, 0⟩ :
      HostPairingInvitation)) endpoint rfl fun b s hread => by simp [mergeInvitation, hread])).trans
        ?_
  refine (foldlM_append_of_some (foldlM_stringField
    (fun s => (⟨version, kind, rendezvous, identity, fingerprint, key, endpoint, s, 0, 0⟩ :
      HostPairingInvitation)) code rfl fun b s hread => by simp [mergeInvitation, hread])).trans ?_
  refine (foldlM_append_of_some (foldlM_uint64Field
    (fun t => (⟨version, kind, rendezvous, identity, fingerprint, key, endpoint, code, t, 0⟩ :
      HostPairingInvitation)) issued rfl fun n => rfl)).trans ?_
  exact foldlM_uint64Field
    (fun t => (⟨version, kind, rendezvous, identity, fingerprint, key, endpoint, code, issued, t⟩ :
      HostPairingInvitation)) expires rfl fun n => rfl

theorem length_invitationFields_le (m : HostPairingInvitation) :
    (encodeFields m.fields).length ≤ invitationBound m := by
  have h1 := length_optionalMessageField_le 1 ProtocolVersion.fields m.protocolVersion _
    fun version _ => length_version_le version
  have h2 := length_enumField_le 2 m.kind.toInt32
  have h3 := length_bytesField_le 3 m.rendezvousId
  have h4 := length_optionalIdentity_le 4 m.hostIdentity
  have h5 := length_bytesField_le 5 m.hostPublicKeyFingerprintSha256
  have h6 := length_bytesField_le 6 m.hostEphemeralPublicKey
  have h7 := length_bytesField_le 7 (utf8 m.signalingEndpoint)
  have h8 := length_bytesField_le 8 (utf8 m.pairingCode)
  have h9 := length_uint64Field_le 9 m.issuedAtUnixMs
  have h10 := length_uint64Field_le 10 m.expiresAtUnixMs
  simp only [fields, invitationBound, stringField, encodeFields_append, List.length_append]
  omega

/-- Messages that hold nothing but an invitation, with their encoding. -/
def plainInvitations : DartInvitations where
  Message := HostPairingInvitation
  invitation m := m
  unknownFields _ := false
  versionUnknownFields _ := false
  identityUnknownFields _ := false
  writeToBuffer m := encodeFields m.fields
  fromBuffer := decodeWith mergeInvitation emptyInvitation
  fromBuffer_nil m h := by
    obtain rfl : emptyInvitation = m := some.inj h
    rfl
  fromBuffer_writeToBuffer m h := decodeWith_mergeInvitation m (by omega)
  length_writeToBuffer_le m _ _ _ := length_invitationFields_le m

/-! ## An invitation that is written but not read -/

namespace QrPairingUri

section Dotted

open PairingHost SampleExchange

variable (n : Nat)

/-- Texts that are the same after they were parsed. -/
structure ParsedText where
  text : String
  normal : text ≠ dottedEndpoint (n + 1)

theorem short_ne_dottedEndpoint : "wss://desk.example/" ≠ dottedEndpoint (n + 1) := by
  intro h
  have hlength := length_dottedEndpoint (n + 1)
  have hshort : (utf8 "wss://desk.example/").length = 19 := by decide
  rw [← h, hshort] at hlength
  omega

/-- Parse a text: the dot segments of the one address are dropped. -/
def parseText (text : String) : ParsedText n :=
  if h : text = dottedEndpoint (n + 1) then ⟨"wss://desk.example/", short_ne_dottedEndpoint n⟩
  else ⟨text, h⟩

variable {n} in
theorem parseText_of_ne {text : String} (h : text ≠ dottedEndpoint (n + 1)) :
    parseText n text = ⟨text, h⟩ := dif_neg h

/-- A scheme, a host and segments as a text. -/
def joinParts (s h : String) (segments : List String) : List Char :=
  s.toList ++ "://".toList ++ h.toList ++ segments.flatMap fun segment => '/' :: segment.toList

/-- The scheme of a text. -/
def schemeOfText (text : List Char) : List Char := text.takeWhile (· ≠ ':')

/-- What follows the scheme and the two strokes. -/
def afterScheme (text : List Char) : List Char := (text.dropWhile (· ≠ ':')).drop 3

/-- The host of a text. -/
def hostOfText (text : List Char) : List Char := (afterScheme text).takeWhile (· ≠ '/')

/-- The segments of a text. -/
def segmentsOfText (text : List Char) : List (List Char) :=
  (((afterScheme text).dropWhile (· ≠ '/')).drop 1).splitOn '/'

section Parts

variable {s h : String} {segments : List String}

theorem ne_of_isUriName (hname : IsUriName s) (separator : Char) (hsep : ¬ 'a' ≤ separator) :
    ∀ c ∈ s.toList, (decide (c ≠ separator)) = true := by
  intro c hc
  apply decide_eq_true
  rintro rfl
  exact hsep (hname.2 c hc).1

theorem schemeOfText_joinParts (hs : IsUriName s) :
    schemeOfText (joinParts s h segments) = s.toList := by
  unfold schemeOfText joinParts
  rw [List.append_assoc, List.append_assoc,
    List.takeWhile_append_of_pos (ne_of_isUriName hs ':' (by decide))]
  simp

theorem afterScheme_joinParts (hs : IsUriName s) :
    afterScheme (joinParts s h segments) =
      h.toList ++ segments.flatMap fun segment => '/' :: segment.toList := by
  unfold afterScheme joinParts
  rw [List.append_assoc, List.append_assoc,
    List.dropWhile_append_of_pos (ne_of_isUriName hs ':' (by decide))]
  rfl

theorem hostOfText_joinParts (hs : IsUriName s) (hh : IsUriName h) :
    hostOfText (joinParts s h segments) = h.toList := by
  unfold hostOfText
  rw [afterScheme_joinParts hs, List.takeWhile_append_of_pos (ne_of_isUriName hh '/' (by decide))]
  cases segments with
  | nil => simp
  | cons segment segments => simp

theorem segmentsOfText_joinParts (hs : IsUriName s) (hh : IsUriName h) (hne : segments ≠ [])
    (hsegments : ∀ segment ∈ segments, IsUriSegment segment) :
    segmentsOfText (joinParts s h segments) = segments.map String.toList := by
  unfold segmentsOfText
  rw [afterScheme_joinParts hs, List.dropWhile_append_of_pos (ne_of_isUriName hh '/' (by decide))]
  have hjoined : ∀ more : List String, more ≠ [] →
      (more.flatMap fun segment => '/' :: segment.toList) =
        '/' :: ['/'].intercalate (more.map String.toList) := by
    intro more
    induction more with
    | nil => exact fun h => absurd rfl h
    | cons segment more ih =>
      intro _
      cases more with
      | nil => simp [List.intercalate]
      | cons next more =>
        rw [List.flatMap_cons, ih (List.cons_ne_nil _ _)]
        simp [List.intercalate]
  have hplain : ∀ l ∈ segments.map String.toList, '/' ∉ l := by
    intro l hl hmem
    obtain ⟨segment, hsegment, rfl⟩ := List.mem_map.mp hl
    exact absurd ((hsegments segment hsegment).2 '/' hmem) (by decide)
  rw [hjoined segments hne]
  have hstroke : ∀ rest : List Char, ('/' :: rest).dropWhile (· ≠ '/') = '/' :: rest :=
    fun _ => rfl
  rw [hstroke, List.drop_succ_cons, List.drop_zero]
  exact List.splitOn_intercalate '/' hplain fun h => hne (List.map_eq_nil_iff.mp h)

/-- A text that is built has no dot. -/
theorem joinParts_ne_dotted (hs : IsUriName s) (hh : IsUriName h)
    (hsegments : ∀ segment ∈ segments, IsUriSegment segment) :
    String.ofList (joinParts s h segments) ≠ dottedEndpoint (n + 1) := by
  intro hsame
  have hdot : '.' ∈ (dottedEndpoint (n + 1)).toList := by
    unfold dottedEndpoint
    rw [String.toList_ofList, List.mem_append]
    exact .inl (by decide)
  rw [← hsame, String.toList_ofList] at hdot
  unfold joinParts at hdot
  simp only [List.mem_append, List.mem_flatMap, List.mem_cons] at hdot
  rcases hdot with ((hdot | hdot) | hdot) | ⟨segment, hmem, hdot | hdot⟩
  · exact absurd (hs.2 '.' hdot).1 (by decide)
  · exact absurd hdot (by decide)
  · exact absurd (hh.2 '.' hdot).1 (by decide)
  · exact absurd hdot (by decide)
  · exact absurd ((hsegments segment hmem).2 '.' hdot) (by decide)

end Parts

/-- The library on such texts. -/
def dottedParts : DartUriParts where
  Uri := ParsedText n
  parse text := some (parseText n text)
  text := ParsedText.text
  scheme uri := String.ofList (schemeOfText uri.text.toList)
  host uri := String.ofList (hostOfText uri.text.toList)
  userInfo _ := ""
  hasAuthority _ := true
  parse_text uri := congrArg some (parseText_of_ne uri.normal)
  hasPort _ := false
  query _ := ""
  fragment _ := ""
  pathSegments uri := (segmentsOfText uri.text.toList).map String.ofList
  build s h segments := parseText n (String.ofList (joinParts s h segments))
  text_build s h segments hs hh _ hsegments := by
    rw [parseText_of_ne (joinParts_ne_dotted n hs hh hsegments)]
    exact String.toList_ofList
  build_parts s h segments hs hh hne hsegments := by
    rw [parseText_of_ne (joinParts_ne_dotted n hs hh hsegments)]
    dsimp only
    rw [String.toList_ofList, schemeOfText_joinParts hs, hostOfText_joinParts hs hh,
      segmentsOfText_joinParts hs hh hne hsegments, String.ofList_toList, String.ofList_toList,
      List.map_map]
    refine ⟨rfl, rfl, rfl, rfl, rfl, rfl, rfl, ?_⟩
    simp [Function.comp_def]

/-- A setting with that library. -/
def dottedQrSetting : QrSetting where
  crypto := SampleExchange.crypto.toCrypto
  uris := dottedParts n
  policy := { allowInsecureLan := false, toLowerCase := String.toLower, tryParse := fun _ => none }
  messages := plainInvitations

/-- An invitation of a Host whose service is at the address with dot segments. -/
def dottedInvitation : HostPairingInvitation :=
  { sampleInvitation with signalingEndpoint := dottedEndpoint (n + 1) }

theorem dottedInvitation_valid :
    validateInvitation (dottedQrSetting n) (dottedInvitation n) (some 1700000000000) = true := by
  have hendpoint : validEndpoint (dottedQrSetting n) (dottedEndpoint (n + 1)) = true := by
    have hparse : (dottedQrSetting n).uris.parse (dottedEndpoint (n + 1)) =
        some ⟨"wss://desk.example/", short_ne_dottedEndpoint n⟩ :=
      congrArg some (dif_pos rfl)
    have hlength : utf16Length "wss://desk.example/" ≤ maximumSignalingEndpointBytes := by decide
    have hscheme : String.ofList (schemeOfText "wss://desk.example/".toList) = "wss" := by decide
    have hhost : String.ofList (hostOfText "wss://desk.example/".toList) ≠ "" := by decide
    have hvalid : validateSignalingEndpoint (dottedParts n).toDartUris (dottedQrSetting n).policy
        (⟨"wss://desk.example/", short_ne_dottedEndpoint n⟩ : ParsedText n) = true := by
      unfold validateSignalingEndpoint
      simp only [Bool.and_eq_true, Bool.or_eq_true, decide_eq_true_eq]
      exact ⟨⟨⟨⟨hlength, rfl⟩, hhost⟩, rfl⟩, .inl hscheme⟩
    unfold validEndpoint
    rw [hparse]
    exact hvalid
  have hcrypto : (dottedQrSetting n).crypto = SampleExchange.crypto.toCrypto := rfl
  have hne : dottedEndpoint (n + 1) ≠ "" := by
    intro hempty
    have hlength := length_dottedEndpoint (n + 1)
    rw [hempty] at hlength
    have hzero : (utf8 "").length = 0 := rfl
    omega
  unfold validateInvitation dottedInvitation
  dsimp only
  rw [hendpoint, hcrypto]
  simp only [Bool.and_eq_true, decide_eq_true_eq, and_true, all_some]
  exact ⟨⟨⟨⟨⟨by decide, by decide⟩, rfl, by decide +kernel, rfl, by decide +kernel, rfl, hne⟩,
    by decide +kernel⟩, by decide +kernel⟩, by decide +kernel⟩

/-- The bytes of the invitation, up to those of its address. -/
theorem length_dottedInvitation :
    5 * n + 24 ≤ (encodeFields (dottedInvitation n).fields).length ∧
      (encodeFields (dottedInvitation n).fields).length ≤ 5 * n + 400 := by
  have hlength := length_dottedEndpoint (n + 1)
  constructor
  · have hne : utf8 (dottedEndpoint (n + 1)) ≠ [] := by
      apply List.ne_nil_of_length_pos
      omega
    have hfield : (⟨7, .delimited (utf8 (dottedEndpoint (n + 1)))⟩ : Field) ∈
        (dottedInvitation n).fields := by
      unfold fields stringField bytesField dottedInvitation
      dsimp only
      rw [if_neg hne]
      simp
    have hcontents := length_contents_le hfield
    omega
  · have hendpoint := length_bytesField_le 7 (utf8 (dottedEndpoint (n + 1)))
    have hothers : (encodeFields sampleInvitation.fields).length ≤ 320 := by decide +kernel
    unfold fields at hothers ⊢
    unfold dottedInvitation stringField at *
    simp only [encodeFields_append, List.length_append] at hothers ⊢
    omega

variable {n} in
/-- The address of the invitation is short enough for the reader, the invitation is not: whatever
were read would have the same bytes, which are too many. -/
theorem dottedInvitation_unread (hlow : 820 ≤ n) (hhigh : n ≤ 1000) :
    maxQrPairingPayloadBytes < (encodeFields (dottedInvitation n).fields).length ∧
      ∃ encoded, encodeQrPairingUri (dottedQrSetting n) (dottedInvitation n) = some encoded ∧
        parseQrPairingUri (dottedQrSetting n) encoded 1700000000000 = none := by
  have hvalid := (validateInvitation_some _ _).mp (dottedInvitation_valid n)
  obtain ⟨hlong, hshort⟩ := length_dottedInvitation n
  generalize hm : dottedInvitation n = m at *
  have hmany : maxQrPairingPayloadBytes < (encodeFields m.fields).length := by
    rw [maxQrPairingPayloadBytes]
    omega
  have hbytes : encodeFields m.fields ≠ [] := by
    apply List.ne_nil_of_length_pos
    omega
  have hfits : (utf8 (addressOf (dottedQrSetting n) scheme m)).length ≤
      maxQrPairingUriBytes := by
    have haddress := @length_addressOf (dottedQrSetting n) m scheme (.inl rfl) hbytes
    have hscheme : scheme.toList.length = 8 := by decide
    have hwritten : (dottedQrSetting n).messages.writeToBuffer m = encodeFields m.fields := rfl
    rw [length_base64Digits, hscheme, hwritten] at haddress
    rw [haddress, maxQrPairingUriBytes]
    omega
  have hknown : rejectUnknownFields (dottedQrSetting n) m = true := by
    simp [rejectUnknownFields, dottedQrSetting, plainInvitations]
  have hencode : encodeQrPairingUri (dottedQrSetting n) m =
      some (addressOf (dottedQrSetting n) scheme m) :=
    encodeWithScheme_eq_some.mpr ⟨hvalid.1, hknown, rfl, hfits⟩
  refine ⟨hmany, _, hencode, ?_⟩
  rw [eq_none_iff_forall_ne_some]
  intro read hread
  obtain ⟨hwritten, -, hfew⟩ := parseQrPairingUri_eq_some.mp hread
  have hsame : encodeFields m.fields = encodeFields (fields read) := by
    rcases hwritten with hwritten | hwritten
    · exact bytes_of_encode (.inl rfl) (.inl rfl) hencode hwritten
    · exact bytes_of_encode (.inl rfl) (.inr rfl) hencode hwritten
  rw [hsame] at hmany
  exact absurd hfew (Nat.not_le.mpr hmany)

/-- A valid invitation whose address is written, but from which nothing is read. -/
theorem written_not_read :
    let setting := dottedQrSetting 839
    let invitation := dottedInvitation 839
    validateInvitation setting invitation (some 1700000000000) = true ∧
      maxQrPairingPayloadBytes < (encodeFields invitation.fields).length ∧
      ∃ encoded, encodeQrPairingUri setting invitation = some encoded ∧
        parseQrPairingUri setting encoded 1700000000000 = none :=
  ⟨dottedInvitation_valid 839, dottedInvitation_unread (by decide) (by decide)⟩

end Dotted

end QrPairingUri

end Client

end Roammand
