import Roammand.Protocol.Transcript

/-!
# Canonical transcripts in three languages

The codec of canonical transcripts exists three times: for the Host, for the signaling
service and for the controller application.  This module models the two ports, with
their own readers, error codes and integer types, and compares them with the Host's
codec.

Main results:

- Definitions `Go.encode`, `Go.decode`, `Dart.encode` and `Dart.decode`.
- Theorems `Go.encode_corresponds` and `Go.decode_corresponds`, and the same for Dart: a
  port answers as the Host's codec does, errors included.
- Theorem `canonical_transcript_codec`: in all three languages encoder and decoder are
  inverse to each other, and the three agree on every transcript and every byte string.
-/

namespace Roammand

namespace Protocol

open Library TranscriptPurpose List

/-! ## The signaling service -/

namespace Go

/-- Error codes of the codec. -/
inductive ErrorCode where
  | badMagic
  | unknownVersion
  | unknownPurpose
  | tooManyFields
  | duplicateField
  | fieldOrder
  | fieldTooLong
  | transcriptTooLong
  | unexpectedField
  | missingField
  | invalidFieldLen
  | trailingBytes
  | truncated

/-- The text of an error code. -/
def ErrorCode.wireName : ErrorCode → String
  | .badMagic => "bad_magic"
  | .unknownVersion => "unknown_version"
  | .unknownPurpose => "unknown_purpose"
  | .tooManyFields => "too_many_fields"
  | .duplicateField => "duplicate_field"
  | .fieldOrder => "field_order"
  | .fieldTooLong => "field_too_long"
  | .transcriptTooLong => "transcript_too_long"
  | .unexpectedField => "unexpected_field"
  | .missingField => "missing_field"
  | .invalidFieldLen => "invalid_field_length"
  | .trailingBytes => "trailing_bytes"
  | .truncated => "truncated"

/-- A transcript; the purpose is any 16-bit number. -/
structure Transcript where
  purpose : UInt16
  fields : List TranscriptField

/-- The tags of a purpose, if it is a known one. -/
def tagsForPurpose (purpose : UInt16) : Option (List UInt16) :=
  if purpose = 1 then some [1, 2, 3, 4, 5, 6, 7]
  else if purpose = 2 then some [1, 2, 8, 9, 10, 11, 12, 13, 14]
  else if purpose = 3 then some [1, 2, 8, 9, 10, 11, 12, 13, 14, 15, 16]
  else if purpose = 4 then some [1, 2, 8, 9, 10, 11, 12, 13, 14, 15, 16, 17]
  else none

/-- The fixed length of the field with a given tag. -/
def lengthForTag (tag : UInt16) : Nat :=
  if tag = 3 ∨ tag = 8 then 16
  else if tag = 10 ∨ tag = 11 then 8
  else if tag = 12 ∨ tag = 17 then 4
  else 32

/-- Check the fields one by one; the previous tag counts once there is one. -/
def checkFields (requiredTags : List UInt16) :
    (previousTag : UInt16) → (hasPreviousTag : Bool) → List TranscriptField →
    Except ErrorCode Unit
  | _, _, [] => .ok ()
  | previousTag, hasPreviousTag, field :: fields => do
    ensure (¬ (hasPreviousTag = true ∧ field.tag = previousTag)) .duplicateField
    ensure (¬ (hasPreviousTag = true ∧ field.tag < previousTag)) .fieldOrder
    ensure (field.value.length ≤ maxFieldLength) .fieldTooLong
    ensure (field.tag ∈ requiredTags) .unexpectedField
    ensure (field.value.length = lengthForTag field.tag) .invalidFieldLen
    checkFields requiredTags field.tag true fields

/-- The fields are exactly those of the purpose. -/
def validateFields (purpose : UInt16) (fields : List TranscriptField) :
    Except ErrorCode Unit := do
  let requiredTags ← okOr (tagsForPurpose purpose) .unknownPurpose
  ensure (fields.length ≤ maxFields) .tooManyFields
  checkFields requiredTags 0 false fields
  ensure (requiredTags.length ≤ fields.length) .missingField
  ensure (fields.length ≤ requiredTags.length) .unexpectedField
  ensure (requiredTags.zipIdx.all fun (tag, index) => (fields[index]?).map (·.tag) = some tag)
    .missingField

/-- The bytes of the fields; a length is cut to its low 32 bits. -/
def appendFields : List TranscriptField → Bytes
  | [] => []
  | field :: fields =>
    bigEndian 2 field.tag.toNat ++ bigEndian 4 (field.value.length % 2 ^ 32) ++
      field.value ++ appendFields fields

/-- Encode a transcript. -/
def encode (transcript : Transcript) : Except ErrorCode Bytes := do
  validateFields transcript.purpose transcript.fields
  ensure (encodedLength transcript.fields ≤ maxTranscriptLength) .transcriptTooLong
  return transcriptMagic ++ bigEndian 2 transcriptVersion ++
    bigEndian 2 transcript.purpose.toNat ++ bigEndian 2 (transcript.fields.length % 2 ^ 16) ++
    appendFields transcript.fields

/-- A position in the bytes that are read. -/
structure TranscriptReader where
  encoded : Bytes
  offset : Int

namespace TranscriptReader

/-- The next `length` bytes. -/
def read (reader : TranscriptReader) (length : Int) :
    Except ErrorCode (Bytes × TranscriptReader) := do
  ensure (¬ (length < 0 ∨ (reader.encoded.length : Int) - reader.offset < length)) .truncated
  return ((reader.encoded.drop reader.offset.toNat).take length.toNat,
    { reader with offset := reader.offset + length })

/-- The next two bytes as a number. -/
def readUint16 (reader : TranscriptReader) : Except ErrorCode (UInt16 × TranscriptReader) := do
  let (value, reader) ← reader.read 2
  return (UInt16.ofNat (ofBigEndian value), reader)

/-- The next four bytes as a number. -/
def readUint32 (reader : TranscriptReader) : Except ErrorCode (UInt32 × TranscriptReader) := do
  let (value, reader) ← reader.read 4
  return (UInt32.ofNat (ofBigEndian value), reader)

/-- Whether all bytes have been read. -/
def finished (reader : TranscriptReader) : Bool :=
  reader.offset = (reader.encoded.length : Int)

end TranscriptReader

/-- Read a number of fields in ascending tag order. -/
def decodeFields : Nat → (previousTag : UInt16) → (hasPreviousTag : Bool) → TranscriptReader →
    Except ErrorCode (List TranscriptField × TranscriptReader)
  | 0, _, _, reader => .ok ([], reader)
  | count + 1, previousTag, hasPreviousTag, reader => do
    let (tag, reader) ← reader.readUint16
    ensure (¬ (hasPreviousTag = true ∧ tag = previousTag)) .duplicateField
    ensure (¬ (hasPreviousTag = true ∧ tag < previousTag)) .fieldOrder
    let (length, reader) ← reader.readUint32
    ensure (length.toNat ≤ maxFieldLength) .fieldTooLong
    let (value, reader) ← reader.read length.toNat
    let (fields, reader) ← decodeFields count tag true reader
    return (⟨tag, value⟩ :: fields, reader)

/-- Decode and validate a transcript. -/
def decode (encoded : Bytes) : Except ErrorCode Transcript := do
  ensure (encoded.length ≤ maxTranscriptLength) .transcriptTooLong
  let (magic, reader) ← TranscriptReader.read ⟨encoded, 0⟩ transcriptMagic.length
  ensure (magic = transcriptMagic) .badMagic
  let (version, reader) ← reader.readUint16
  ensure (version.toNat = transcriptVersion) .unknownVersion
  let (purpose, reader) ← reader.readUint16
  ensure ((tagsForPurpose purpose).isSome) .unknownPurpose
  let (fieldCount, reader) ← reader.readUint16
  ensure (fieldCount.toNat ≤ maxFields) .tooManyFields
  let (fields, reader) ← decodeFields fieldCount.toNat 0 false reader
  ensure (reader.finished) .trailingBytes
  validateFields purpose fields
  return { purpose, fields }

end Go

/-! ## The controller application -/

namespace Dart

/-- Error codes of the codec. -/
inductive TranscriptErrorCode where
  | badMagic
  | unknownVersion
  | unknownPurpose
  | tooManyFields
  | duplicateField
  | fieldOrder
  | fieldTooLong
  | transcriptTooLong
  | missingField
  | unexpectedField
  | invalidFieldLength
  | trailingBytes
  | truncated

/-- The name of an error code. -/
def TranscriptErrorCode.wireName : TranscriptErrorCode → String
  | .badMagic => "bad_magic"
  | .unknownVersion => "unknown_version"
  | .unknownPurpose => "unknown_purpose"
  | .tooManyFields => "too_many_fields"
  | .duplicateField => "duplicate_field"
  | .fieldOrder => "field_order"
  | .fieldTooLong => "field_too_long"
  | .transcriptTooLong => "transcript_too_long"
  | .missingField => "missing_field"
  | .unexpectedField => "unexpected_field"
  | .invalidFieldLength => "invalid_field_length"
  | .trailingBytes => "trailing_bytes"
  | .truncated => "truncated"

/-- A field; its tag is any integer. -/
structure TranscriptField where
  tag : Int
  value : Bytes

/-- A purpose with its fields. -/
structure CanonicalTranscript where
  purpose : TranscriptPurpose
  fields : List TranscriptField

/-- The purpose with a given code. -/
def fromCode (code : Int) : Except TranscriptErrorCode TranscriptPurpose :=
  okOr ([.pairingSas, .sessionOffer, .sessionAnswer, .sessionReconnect].find?
    fun purpose : TranscriptPurpose => (purpose.toNat : Int) = code) .unknownPurpose

/-- The tags of a purpose, in order. -/
def requiredTags : TranscriptPurpose → List Int
  | .pairingSas => [1, 2, 3, 4, 5, 6, 7]
  | .sessionOffer => [1, 2, 8, 9, 10, 11, 12, 13, 14]
  | .sessionAnswer => [1, 2, 8, 9, 10, 11, 12, 13, 14, 15, 16]
  | .sessionReconnect => [1, 2, 8, 9, 10, 11, 12, 13, 14, 15, 16, 17]

/-- The length of each known field. -/
def fieldLengths : List (Int × Nat) :=
  [(1, 32), (2, 32), (3, 16), (4, 32), (5, 32), (6, 32), (7, 32), (8, 16), (9, 32), (10, 8),
    (11, 8), (12, 4), (13, 32), (14, 32), (15, 32), (16, 32), (17, 4)]

/-- Check the fields one by one. -/
def checkFields (requiredTags : List Int) :
    (previousTag : Int) → List TranscriptField → Except TranscriptErrorCode Unit
  | _, [] => .ok ()
  | previousTag, field :: fields => do
    ensure (field.tag ≠ previousTag) .duplicateField
    ensure (¬ field.tag < previousTag) .fieldOrder
    ensure (field.value.length ≤ maxFieldLength) .fieldTooLong
    ensure (field.tag ∈ requiredTags) .unexpectedField
    ensure (fieldLengths.lookup field.tag = some field.value.length) .invalidFieldLength
    checkFields requiredTags field.tag fields

/-- The fields are exactly those of the purpose. -/
def validateFields (purpose : TranscriptPurpose) (fields : List TranscriptField) :
    Except TranscriptErrorCode Unit := do
  ensure (fields.length ≤ maxFields) .tooManyFields
  checkFields (requiredTags purpose) (-1) fields
  ensure ((requiredTags purpose).length ≤ fields.length) .missingField
  ensure (fields.length ≤ (requiredTags purpose).length) .unexpectedField
  ensure ((requiredTags purpose).zipIdx.all fun (tag, index) =>
    (fields[index]?).map (·.tag) = some tag) .missingField

/-- The low 16 bits of an integer. -/
def uint16 (value : Int) : Bytes := bigEndian 2 (value % 2 ^ 16).toNat

/-- The low 32 bits of an integer. -/
def uint32 (value : Int) : Bytes := bigEndian 4 (value % 2 ^ 32).toNat

/-- The bytes of the fields. -/
def addFields : List TranscriptField → Bytes
  | [] => []
  | field :: fields =>
    uint16 field.tag ++ uint32 field.value.length ++ field.value ++ addFields fields

/-- The length of the encoded transcript. -/
def encodedLength (fields : List TranscriptField) : Nat :=
  fields.foldl (fun length field => length + fieldHeaderLength + field.value.length)
    transcriptHeaderLength

/-- Encode a transcript. -/
def encode (transcript : CanonicalTranscript) : Except TranscriptErrorCode Bytes := do
  validateFields transcript.purpose transcript.fields
  ensure (encodedLength transcript.fields ≤ maxTranscriptLength) .transcriptTooLong
  return transcriptMagic ++ uint16 transcriptVersion ++ uint16 transcript.purpose.toNat ++
    uint16 transcript.fields.length ++ addFields transcript.fields

section Reading

variable (encoded : Bytes)

/-- Fail unless `count` more bytes are there. -/
def requireBytes (offset count : Int) : Except TranscriptErrorCode Unit :=
  ensure (offset + count ≤ encoded.length) .truncated

/-- The next two bytes as a number, and the offset after them. -/
def readUint16 (offset : Int) : Except TranscriptErrorCode (Int × Int) := do
  requireBytes encoded offset 2
  return ((ofBigEndian ((encoded.drop offset.toNat).take 2) : Int), offset + 2)

/-- The next four bytes as a number, and the offset after them. -/
def readUint32 (offset : Int) : Except TranscriptErrorCode (Int × Int) := do
  requireBytes encoded offset 4
  return ((ofBigEndian ((encoded.drop offset.toNat).take 4) : Int), offset + 4)

/-- Compare the next bytes with a magic, byte by byte. -/
def readMagic : Bytes → Int → Except TranscriptErrorCode Int
  | [], offset => .ok offset
  | byte :: magic, offset => do
    ensure (encoded[offset.toNat]? = some byte) .badMagic
    readMagic magic (offset + 1)

/-- Read a number of fields in ascending tag order. -/
def decodeFields : Nat → (previousTag : Int) → (offset : Int) →
    Except TranscriptErrorCode (List TranscriptField × Int)
  | 0, _, offset => .ok ([], offset)
  | count + 1, previousTag, offset => do
    let (tag, offset) ← readUint16 encoded offset
    ensure (tag ≠ previousTag) .duplicateField
    ensure (¬ tag < previousTag) .fieldOrder
    let (length, offset) ← readUint32 encoded offset
    ensure (length ≤ maxFieldLength) .fieldTooLong
    requireBytes encoded offset length
    let value := (encoded.drop offset.toNat).take length.toNat
    let (fields, offset) ← decodeFields count tag (offset + length)
    return (⟨tag, value⟩ :: fields, offset)

/-- Decode and validate a transcript. -/
def decode : Except TranscriptErrorCode CanonicalTranscript := do
  ensure (encoded.length ≤ maxTranscriptLength) .transcriptTooLong
  requireBytes encoded 0 transcriptMagic.length
  let offset ← readMagic encoded transcriptMagic 0
  let (version, offset) ← readUint16 encoded offset
  ensure (version = transcriptVersion) .unknownVersion
  let (code, offset) ← readUint16 encoded offset
  let purpose ← fromCode code
  let (fieldCount, offset) ← readUint16 encoded offset
  ensure (fieldCount ≤ maxFields) .tooManyFields
  let (fields, offset) ← decodeFields encoded fieldCount.toNat (-1) offset
  ensure (offset = encoded.length) .trailingBytes
  validateFields purpose fields
  return { purpose, fields }

end Reading

end Dart

/-! ## Agreement of the checks -/

/-- The position-wise comparison of two lists of the same length. -/
theorem zip_all_eq_iff {α : Type} [DecidableEq α] {xs ys : List α} (h : xs.length = ys.length) :
    ((xs.zip ys).all fun p => p.1 = p.2) = true ↔ xs = ys := by
  induction xs generalizing ys with
  | nil =>
    have : ys = [] := length_eq_zero_iff.mp h.symm
    simp [this]
  | cons x xs ih =>
    obtain ⟨y, ys, rfl⟩ := exists_cons_of_length_eq_add_one h.symm
    have hrest : xs.length = ys.length := by simpa using h
    simp only [zip_cons_cons, all_cons, Bool.and_eq_true, ih hrest, cons.injEq, decide_eq_true_eq]

/-- The comparison by index does the same. -/
theorem zipIdx_all_eq_iff {α β : Type} [DecidableEq α] {tags : List α} {fields : List β}
    (f : β → α) (h : fields.length = tags.length) :
    (tags.zipIdx.all fun (tag, index) => (fields[index]?).map f = some tag) = true ↔
      fields.map f = tags := by
  simp only [all_eq_true, mem_zipIdx_iff_getElem?, decide_eq_true_eq, Prod.forall]
  constructor
  · intro hall
    refine ext_getElem? fun i => ?_
    rw [getElem?_map]
    by_cases hi : i < tags.length
    · rw [getElem?_eq_getElem hi]
      exact hall _ i (getElem?_eq_getElem hi)
    · rw [getElem?_eq_none (by omega), getElem?_eq_none (by omega)]
      rfl
  · rintro rfl tag i htag
    rw [getElem?_map] at htag
    exact htag

namespace Go

/-- The error of a port has the name of the Host's error. -/
def SameName (e : TranscriptError) (e' : ErrorCode) : Prop := e.wireName = e'.wireName

/-- The previous tag as the Host's codec keeps it. -/
def previous (previousTag : UInt16) (hasPreviousTag : Bool) : Option UInt16 :=
  if hasPreviousTag then some previousTag else none

theorem ne_previous_iff (previousTag tag : UInt16) (hasPreviousTag : Bool) :
    previous previousTag hasPreviousTag ≠ some tag ↔
      ¬ (hasPreviousTag = true ∧ tag = previousTag) := by
  cases hasPreviousTag with
  | false => simp [previous]
  | true => simp [previous, eq_comm]

theorem all_previous_iff (previousTag tag : UInt16) (hasPreviousTag : Bool) :
    ((previous previousTag hasPreviousTag).all fun p => p ≤ tag) = true ↔
      ¬ (hasPreviousTag = true ∧ tag < previousTag) := by
  cases hasPreviousTag with
  | false => simp [previous]
  | true => simp [previous, UInt16.not_lt]

theorem checkFields_corresponds (required : List UInt16) (previousTag : UInt16)
    (hasPreviousTag : Bool) (fields : List TranscriptField) :
    Corresponds SameName (fun _ _ => True)
      (Protocol.checkFields required (previous previousTag hasPreviousTag) fields)
      (checkFields required previousTag hasPreviousTag fields) := by
  induction fields generalizing previousTag hasPreviousTag with
  | nil => exact .ok trivial
  | cons field fields ih =>
    unfold Protocol.checkFields checkFields
    refine .bind (.ensure (ne_previous_iff _ _ _) rfl) fun _ _ _ => ?_
    refine .bind (.ensure (all_previous_iff _ _ _) rfl) fun _ _ _ => ?_
    refine .bind (.ensure Iff.rfl rfl) fun _ _ _ => ?_
    refine .bind (.ensure Iff.rfl rfl) fun _ _ _ => ?_
    refine .bind (.ensure Iff.rfl rfl) fun _ _ _ => ?_
    exact ih field.tag true

theorem tagsForPurpose_toNat (purpose : TranscriptPurpose) :
    tagsForPurpose (UInt16.ofNat purpose.toNat) = some (Protocol.requiredTags purpose) := by
  cases purpose <;> rfl

theorem validateFields_corresponds (purpose : TranscriptPurpose) (fields : List TranscriptField) :
    Corresponds SameName (fun _ _ => True) (Protocol.validateFields purpose fields)
      (validateFields (UInt16.ofNat purpose.toNat) fields) := by
  unfold Protocol.validateFields validateFields
  rw [tagsForPurpose_toNat]
  change Corresponds _ _ _ (do
    ensure (fields.length ≤ maxFields) ErrorCode.tooManyFields
    _)
  refine .bind (.ensure Iff.rfl rfl) fun _ _ _ => ?_
  refine .bind (checkFields_corresponds _ 0 false fields) fun _ _ _ => ?_
  refine .bind (.ensure Iff.rfl rfl) fun _ _ hmin => ?_
  refine .bind (.ensure Iff.rfl rfl) fun _ _ hmax => ?_
  have hlength : fields.length = (Protocol.requiredTags purpose).length := by
    have := hmin.1
    have := hmax.1
    omega
  refine Corresponds.imp (.ensure ?_ rfl) fun _ _ _ => trivial
  rw [zip_all_eq_iff (by simpa using hlength), zipIdx_all_eq_iff _ hlength]

variable (transcript : CanonicalTranscript)

/-- A transcript of the Host in the types of the service. -/
def ofTranscript : Transcript :=
  { purpose := UInt16.ofNat transcript.purpose.toNat, fields := transcript.fields }

theorem appendFields_eq {fields : List TranscriptField}
    (h : ∀ field ∈ fields, field.value.length < 2 ^ 32) :
    appendFields fields = fieldBytes fields := by
  induction fields with
  | nil => rfl
  | cons field fields ih =>
    rw [forall_mem_cons] at h
    rw [appendFields, fieldBytes, Nat.mod_eq_of_lt h.1, ih h.2]

/-- The service encodes as the Host does. -/
theorem encode_corresponds :
    Corresponds SameName Eq (encodeTranscript transcript) (encode (ofTranscript transcript)) := by
  unfold encodeTranscript encode
  refine .bind (validateFields_corresponds transcript.purpose transcript.fields).returned
    fun _ _ hvalid => ?_
  obtain ⟨hcount, hbody, hshort⟩ := encodeFieldList_of_valid hvalid.2.1
  refine .bind (.ensure Iff.rfl rfl) fun _ _ _ => ?_
  have hpurpose : (UInt16.ofNat transcript.purpose.toNat).toNat = transcript.purpose.toNat := by
    cases transcript.purpose <;> rfl
  rw [ensure, if_pos hcount, hbody]
  refine .ok ?_
  simp only [ofTranscript, hpurpose, Nat.mod_eq_of_lt hcount, appendFields_eq hshort]

/-- The reader of the service is at the position of the Host's reader. -/
def SamePosition (r : Protocol.TranscriptReader) (r' : TranscriptReader) : Prop :=
  r'.encoded = r.bytes ∧ r'.offset = (r.offset : Int)

/-- Two reads return the same value and leave corresponding readers. -/
def SameRead {α : Type} (a : α × Protocol.TranscriptReader) (b : α × TranscriptReader) : Prop :=
  b.1 = a.1 ∧ SamePosition a.2 b.2

variable {r : Protocol.TranscriptReader} {r' : TranscriptReader}

theorem read_corresponds (h : SamePosition r r') (length : Nat) :
    Corresponds SameName SameRead (r.readExact length) (r'.read length) := by
  obtain ⟨hbytes, hoffset⟩ := h
  have hbound := r.bound
  unfold Protocol.TranscriptReader.readExact TranscriptReader.read ensure
  by_cases hfits : r.offset + length ≤ r.bytes.length
  · rw [dif_pos hfits, if_pos (by rw [hbytes, hoffset]; omega)]
    refine .ok ⟨?_, hbytes, ?_⟩
    · simp [hbytes, hoffset]
    · simp [hoffset]
  · rw [dif_neg hfits, if_neg (by rw [hbytes, hoffset]; omega)]
    exact .error rfl

theorem readUint16_corresponds
    (h : SamePosition r r') : Corresponds SameName SameRead r.readU16 r'.readUint16 := by
  unfold Protocol.TranscriptReader.readU16 TranscriptReader.readUint16
  refine .bind (read_corresponds h 2) ?_
  rintro ⟨value, r₁⟩ ⟨value', r₁'⟩ ⟨hvalue, hposition⟩
  dsimp only at hvalue
  exact .ok ⟨by rw [hvalue], hposition⟩

theorem readUint32_corresponds
    (h : SamePosition r r') : Corresponds SameName SameRead r.readU32 r'.readUint32 := by
  unfold Protocol.TranscriptReader.readU32 TranscriptReader.readUint32
  refine .bind (read_corresponds h 4) ?_
  rintro ⟨value, r₁⟩ ⟨value', r₁'⟩ ⟨hvalue, hposition⟩
  dsimp only at hvalue
  exact .ok ⟨by rw [hvalue], hposition⟩

theorem finished_iff (h : SamePosition r r') : r.isFinished = true ↔ r'.finished = true := by
  simp only [Protocol.TranscriptReader.isFinished, TranscriptReader.finished, h.1, h.2,
    decide_eq_true_eq]
  omega

theorem decodeFields_corresponds (count : Nat) (previousTag : UInt16) (hasPreviousTag : Bool)
    {r : Protocol.TranscriptReader} {r' : TranscriptReader} (h : SamePosition r r') :
    Corresponds SameName SameRead (decodeFieldList count (previous previousTag hasPreviousTag) r)
      (decodeFields count previousTag hasPreviousTag r') := by
  induction count generalizing previousTag hasPreviousTag r r' with
  | zero => exact .ok ⟨rfl, h⟩
  | succ count ih =>
    unfold decodeFieldList decodeFields
    refine .bind (readUint16_corresponds h) ?_
    rintro ⟨_, r₁⟩ ⟨tag, r₁'⟩ ⟨rfl, h₁⟩
    refine .bind (.ensure (ne_previous_iff _ _ _) rfl) fun _ _ _ => ?_
    refine .bind (.ensure (all_previous_iff _ _ _) rfl) fun _ _ _ => ?_
    refine .bind (readUint32_corresponds h₁) ?_
    rintro ⟨_, r₂⟩ ⟨length, r₂'⟩ ⟨rfl, h₂⟩
    refine .bind (.ensure Iff.rfl rfl) fun _ _ _ => ?_
    refine .bind (read_corresponds h₂ _) ?_
    rintro ⟨_, r₃⟩ ⟨value, r₃'⟩ ⟨rfl, h₃⟩
    refine .bind (ih tag true h₃) ?_
    rintro ⟨_, r₄⟩ ⟨fields, r₄'⟩ ⟨rfl, h₄⟩
    exact .ok ⟨rfl, h₄⟩

theorem tagsForPurpose_isSome (value : UInt16) :
    (tagsForPurpose value).isSome = (ofUInt16? value).isSome := by
  unfold tagsForPurpose ofUInt16?
  split
  · rfl
  · split
    · rfl
    · split
      · rfl
      · split
        · rfl
        · rfl

theorem purpose_corresponds (value : UInt16) :
    Corresponds SameName (fun purpose _ => value = UInt16.ofNat purpose.toNat)
      (okOr (ofUInt16? value) TranscriptError.unknownPurpose)
      (ensure ((tagsForPurpose value).isSome = true) ErrorCode.unknownPurpose) := by
  rw [tagsForPurpose_isSome]
  cases hpurpose : ofUInt16? value with
  | none => exact .error rfl
  | some purpose =>
    refine .ok ?_
    rw [← ofUInt16?_eq_some.mp hpurpose]
    simp

/-- The service decodes as the Host does. -/
theorem decode_corresponds (bytes : Bytes) :
    Corresponds SameName (fun t t' => t' = ofTranscript t) (decodeTranscript bytes)
      (decode bytes) := by
  unfold decodeTranscript decode
  refine .bind (.ensure Iff.rfl rfl) fun _ _ _ => ?_
  refine .bind (read_corresponds ⟨rfl, rfl⟩ _) ?_
  rintro ⟨_, r₁⟩ ⟨magic, r₁'⟩ ⟨rfl, h₁⟩
  refine .bind (.ensure Iff.rfl rfl) fun _ _ _ => ?_
  refine .bind (readUint16_corresponds h₁) ?_
  rintro ⟨_, r₂⟩ ⟨version, r₂'⟩ ⟨rfl, h₂⟩
  refine .bind (.ensure Iff.rfl rfl) fun _ _ _ => ?_
  refine .bind (readUint16_corresponds h₂) ?_
  rintro ⟨_, r₃⟩ ⟨value, r₃'⟩ ⟨rfl, h₃⟩
  refine .bind (purpose_corresponds value) ?_
  rintro purpose _ rfl
  refine .bind (readUint16_corresponds h₃) ?_
  rintro ⟨_, r₄⟩ ⟨count, r₄'⟩ ⟨rfl, h₄⟩
  refine .bind (.ensure Iff.rfl rfl) fun _ _ _ => ?_
  refine .bind (decodeFields_corresponds _ 0 false h₄) ?_
  rintro ⟨_, r₅⟩ ⟨fields, r₅'⟩ ⟨rfl, h₅⟩
  refine .bind (.ensure (finished_iff h₅) rfl) fun _ _ _ => ?_
  refine .bind (validateFields_corresponds _ fields) fun _ _ _ => ?_
  exact .ok rfl

end Go

namespace Dart

/-- The error of a port has the name of the Host's error. -/
def SameName (e : TranscriptError) (e' : TranscriptErrorCode) : Prop := e.wireName = e'.wireName

/-- A field of the Host in the types of the application. -/
def ofField (field : Protocol.TranscriptField) : TranscriptField :=
  { tag := field.tag.toNat, value := field.value }

/-- A transcript of the Host in the types of the application. -/
def ofTranscript (transcript : Protocol.CanonicalTranscript) : CanonicalTranscript :=
  { purpose := transcript.purpose, fields := transcript.fields.map ofField }

/-- The previous tag as the application keeps it. -/
def previous : Option UInt16 → Int
  | none => -1
  | some tag => tag.toNat

variable (purpose : TranscriptPurpose) (previousTag : Option UInt16)

variable (tag : UInt16)

theorem ne_previous_iff :
    previousTag ≠ some tag ↔ (tag.toNat : Int) ≠ previous previousTag := by
  cases previousTag with
  | none =>
    simp [previous]
  | some p =>
    simp only [previous, ne_eq, Option.some.injEq, not_iff_not]
    constructor
    · rintro rfl
      rfl
    · intro h
      exact UInt16.toNat.inj (by omega)

theorem all_previous_iff :
    (previousTag.all fun p => p ≤ tag) = true ↔ ¬ (tag.toNat : Int) < previous previousTag := by
  cases previousTag with
  | none =>
    simp only [previous, Option.all_none, true_iff]
    omega
  | some p =>
    simp only [previous, Option.all_some, decide_eq_true_eq, UInt16.le_iff_toNat_le]
    omega

theorem requiredTags_eq :
    requiredTags purpose = (Protocol.requiredTags purpose).map fun tag => (tag.toNat : Int) := by
  cases purpose <;> rfl

theorem toNat_mem_requiredTags :
    tag ∈ Protocol.requiredTags purpose ↔ (tag.toNat : Int) ∈ requiredTags purpose := by
  rw [requiredTags_eq]
  refine (mem_map_of_injective ?_).symm
  intro a b h
  exact UInt16.toNat.inj (by simpa using h)

/-- On the tags of a purpose the table of lengths is the length of the field. -/
theorem lookup_fieldLengths {purpose : TranscriptPurpose} {tag : UInt16}
    (h : tag ∈ Protocol.requiredTags purpose) :
    fieldLengths.lookup (tag.toNat : Int) = some (fieldLength tag) := by
  have hall : ∀ purpose, ((Protocol.requiredTags purpose).all fun tag =>
      fieldLengths.lookup (tag.toNat : Int) = some (fieldLength tag)) = true := by
    intro purpose
    cases purpose <;> decide
  exact of_decide_eq_true (all_eq_true.mp (hall purpose) tag h)

variable (fields : List Protocol.TranscriptField)

theorem checkFields_corresponds :
    Corresponds SameName (fun _ _ => True)
      (Protocol.checkFields (Protocol.requiredTags purpose) previousTag fields)
      (checkFields (requiredTags purpose) (previous previousTag) (fields.map ofField)) := by
  induction fields generalizing previousTag with
  | nil => exact .ok trivial
  | cons field fields ih =>
    rw [map_cons]
    unfold Protocol.checkFields checkFields
    refine .bind (.ensure (ne_previous_iff _ _) rfl) fun _ _ _ => ?_
    refine .bind (.ensure (all_previous_iff _ _) rfl) fun _ _ _ => ?_
    refine .bind (.ensure Iff.rfl rfl) fun _ _ _ => ?_
    refine .bind (.ensure (toNat_mem_requiredTags purpose field.tag) rfl) fun _ _ hmem => ?_
    have hlength : field.value.length = fieldLength field.tag ↔
        fieldLengths.lookup (ofField field).tag = some (ofField field).value.length := by
      rw [show (ofField field).tag = (field.tag.toNat : Int) from rfl,
        lookup_fieldLengths hmem.1, Option.some.injEq]
      exact eq_comm
    refine .bind (.ensure hlength rfl) fun _ _ _ => ?_
    exact ih (some field.tag)

theorem validateFields_corresponds :
    Corresponds SameName (fun _ _ => True) (Protocol.validateFields purpose fields)
      (validateFields purpose (fields.map ofField)) := by
  have hsame : (requiredTags purpose).length = (Protocol.requiredTags purpose).length := by
    rw [requiredTags_eq, length_map]
  unfold Protocol.validateFields validateFields
  rw [length_map, hsame]
  refine .bind (.ensure Iff.rfl rfl) fun _ _ _ => ?_
  refine .bind (checkFields_corresponds purpose none fields) fun _ _ _ => ?_
  refine .bind (.ensure Iff.rfl rfl) fun _ _ hmin => ?_
  refine .bind (.ensure Iff.rfl rfl) fun _ _ hmax => ?_
  have hlength : fields.length = (Protocol.requiredTags purpose).length := by
    have := hmin.1
    have := hmax.1
    omega
  refine Corresponds.imp (.ensure ?_ rfl) fun _ _ _ => trivial
  rw [zip_all_eq_iff (by simpa using hlength),
    zipIdx_all_eq_iff _ (by rw [length_map, hsame, hlength]), requiredTags_eq]
  have hmap : (fields.map ofField).map TranscriptField.tag =
      (fields.map Protocol.TranscriptField.tag).map fun tag => (tag.toNat : Int) := by
    simp [ofField]
  rw [hmap, map_inj_right]
  intro a b h
  exact UInt16.toNat.inj (by simpa using h)

theorem encodedLength_map :
    encodedLength (fields.map ofField) = Protocol.encodedLength fields := by
  simp [encodedLength, Protocol.encodedLength, foldl_map, ofField]

theorem uint16_of_lt {n : Nat} (h : n < 2 ^ 16) : uint16 n = bigEndian 2 n := by
  have hmod : ((n : Int) % 2 ^ 16).toNat = n := by omega
  rw [uint16, hmod]

theorem uint32_of_lt {n : Nat} (h : n < 2 ^ 32) : uint32 n = bigEndian 4 n := by
  have hmod : ((n : Int) % 2 ^ 32).toNat = n := by omega
  rw [uint32, hmod]

theorem addFields_eq {fields : List Protocol.TranscriptField}
    (h : ∀ field ∈ fields, field.value.length < 2 ^ 32) :
    addFields (fields.map ofField) = fieldBytes fields := by
  induction fields with
  | nil => rfl
  | cons field fields ih =>
    rw [forall_mem_cons] at h
    rw [map_cons, addFields, fieldBytes, ih h.2]
    simp only [ofField]
    rw [uint16_of_lt field.tag.toNat_lt, uint32_of_lt h.1]

/-- The application encodes as the Host does. -/
theorem encode_corresponds (transcript : Protocol.CanonicalTranscript) :
    Corresponds SameName Eq (encodeTranscript transcript) (encode (ofTranscript transcript)) := by
  unfold encodeTranscript encode ofTranscript
  dsimp only
  refine .bind (validateFields_corresponds transcript.purpose transcript.fields).returned
    fun _ _ hvalid => ?_
  obtain ⟨hcount, hbody, hshort⟩ := encodeFieldList_of_valid hvalid.2.1
  rw [encodedLength_map]
  refine .bind (.ensure Iff.rfl rfl) fun _ _ _ => ?_
  have hpurpose : transcript.purpose.toNat < 2 ^ 16 := by
    cases transcript.purpose <;> decide
  rw [ensure, if_pos hcount, hbody]
  refine .ok ?_
  rw [length_map, uint16_of_lt hcount, uint16_of_lt hpurpose, addFields_eq hshort,
    uint16_of_lt (by decide)]

section Reading

variable {encoded : Bytes}

/-- The Host's reader is at the given offset of the bytes. -/
def AtOffset (encoded : Bytes) (r : TranscriptReader) (offset : Int) : Prop :=
  r.bytes = encoded ∧ offset = (r.offset : Int)

variable {r : TranscriptReader}

variable {offset : Int}

theorem requireBytes_corresponds (h : AtOffset encoded r offset) (length : Nat) :
    Corresponds SameName
      (fun a _ => a.1 = (encoded.drop offset.toNat).take length ∧
        AtOffset encoded a.2 (offset + length) ∧ offset.toNat + length ≤ encoded.length)
      (r.readExact length) (requireBytes encoded offset length) := by
  obtain ⟨rfl, rfl⟩ := h
  unfold TranscriptReader.readExact requireBytes ensure
  by_cases hfits : r.offset + length ≤ r.bytes.length
  · rw [dif_pos hfits, if_pos (by omega)]
    refine .ok ⟨rfl, ⟨rfl, ?_⟩, hfits⟩
    simp
  · rw [dif_neg hfits, if_neg (by omega)]
    exact .error rfl

theorem readUint16_corresponds (h : AtOffset encoded r offset) :
    Corresponds SameName (fun a b => b.1 = (a.1.toNat : Int) ∧ AtOffset encoded a.2 b.2)
      r.readU16 (readUint16 encoded offset) := by
  unfold TranscriptReader.readU16 readUint16
  refine .bind (requireBytes_corresponds h 2) ?_
  rintro ⟨value, r₁⟩ _ ⟨hvalue, h₁, hbound⟩
  dsimp only at hvalue h₁ ⊢
  refine .ok ⟨?_, h₁⟩
  have hlt := ofBigEndian_lt value
  have hlength : value.length ≤ 2 := by
    rw [hvalue, length_take]
    omega
  have hpow : 256 ^ value.length ≤ 256 ^ 2 := Nat.pow_le_pow_right (by decide) hlength
  have htoNat : (UInt16.ofNat (ofBigEndian value)).toNat = ofBigEndian value := by
    rw [UInt16.toNat_ofNat']
    omega
  dsimp only
  rw [htoNat, hvalue]

theorem readUint32_corresponds (h : AtOffset encoded r offset) :
    Corresponds SameName (fun a b => b.1 = (a.1.toNat : Int) ∧ AtOffset encoded a.2 b.2)
      r.readU32 (readUint32 encoded offset) := by
  unfold TranscriptReader.readU32 readUint32
  refine .bind (requireBytes_corresponds h 4) ?_
  rintro ⟨value, r₁⟩ _ ⟨hvalue, h₁, hbound⟩
  dsimp only at hvalue h₁ ⊢
  refine .ok ⟨?_, h₁⟩
  have hlt := ofBigEndian_lt value
  have hlength : value.length ≤ 4 := by
    rw [hvalue, length_take]
    omega
  have hpow : 256 ^ value.length ≤ 256 ^ 4 := Nat.pow_le_pow_right (by decide) hlength
  have htoNat : (UInt32.ofNat (ofBigEndian value)).toNat = ofBigEndian value := by
    rw [UInt32.toNat_ofNat']
    omega
  dsimp only
  rw [htoNat, hvalue]

/-- Comparing byte by byte is comparing the bytes. -/
theorem readMagic_corresponds (magic : Bytes) (offset : Nat)
    (h : offset + magic.length ≤ encoded.length) :
    Corresponds SameName (fun _ after => after = (offset : Int) + magic.length)
      (ensure ((encoded.drop offset).take magic.length = magic) TranscriptError.invalidMagic)
      (readMagic encoded magic offset) := by
  induction magic generalizing offset with
  | nil =>
    rw [ensure, if_pos (by simp)]
    exact .ok (by simp)
  | cons byte magic ih =>
    rw [length_cons] at h
    have hlt : offset < encoded.length := by omega
    have hdrop : encoded.drop offset = encoded[offset] :: encoded.drop (offset + 1) :=
      drop_eq_getElem_cons hlt
    have hget : encoded[(offset : Int).toNat]? = some encoded[offset] := by
      rw [Int.toNat_natCast, getElem?_eq_getElem hlt]
    unfold readMagic
    rw [hget, hdrop, length_cons, take_succ_cons]
    by_cases hbyte : encoded[offset] = byte
    · have hnext := ih (offset + 1) (by omega)
      have hiff : (encoded[offset] :: (encoded.drop (offset + 1)).take magic.length =
          byte :: magic) ↔ (encoded.drop (offset + 1)).take magic.length = magic := by
        simp [hbyte]
      have hleft : ensure (encoded[offset] :: (encoded.drop (offset + 1)).take magic.length =
          byte :: magic) TranscriptError.invalidMagic =
          ensure ((encoded.drop (offset + 1)).take magic.length = magic) .invalidMagic := by
        unfold ensure
        exact if_congr hiff rfl rfl
      have hright : ensure (some encoded[offset] = some byte) TranscriptErrorCode.badMagic =
          .ok ⟨⟩ := by
        rw [ensure, if_pos (by rw [hbyte])]
      rw [hleft, hright]
      refine hnext.imp fun _ after hafter => ?_
      rw [hafter]
      push_cast
      omega
    · rw [ensure, if_neg (by simp [hbyte]), ensure, if_neg (by simp [hbyte])]
      exact .error rfl

theorem decodeFields_corresponds (count : Nat) (previousTag : Option UInt16)
    {r : TranscriptReader} {offset : Int} (h : AtOffset encoded r offset) :
    Corresponds SameName (fun a b => b.1 = a.1.map ofField ∧ AtOffset encoded a.2 b.2)
      (decodeFieldList count previousTag r)
      (decodeFields encoded count (previous previousTag) offset) := by
  induction count generalizing previousTag r offset with
  | zero => exact .ok ⟨rfl, h⟩
  | succ count ih =>
    unfold decodeFieldList decodeFields
    refine .bind (readUint16_corresponds h) ?_
    rintro ⟨tag, r₁⟩ ⟨_, offset₁⟩ ⟨rfl, h₁⟩
    refine .bind (.ensure (ne_previous_iff _ _) rfl) fun _ _ _ => ?_
    refine .bind (.ensure (all_previous_iff _ _) rfl) fun _ _ _ => ?_
    refine .bind (readUint32_corresponds h₁) ?_
    rintro ⟨length, r₂⟩ ⟨_, offset₂⟩ ⟨rfl, h₂⟩
    refine .bind (.ensure Int.ofNat_le.symm rfl) fun _ _ _ => ?_
    refine .bind (requireBytes_corresponds h₂ length.toNat) ?_
    rintro ⟨value, r₃⟩ _ ⟨hvalue, h₃, -⟩
    refine .bind (ih (some tag) h₃) ?_
    rintro ⟨fields, r₄⟩ ⟨_, offset₄⟩ ⟨rfl, h₄⟩
    refine .ok ⟨?_, h₄⟩
    simp only [map_cons, ofField, Int.toNat_natCast]
    rw [← hvalue]

theorem fromCode_corresponds (value : UInt16) :
    Corresponds SameName Eq (okOr (ofUInt16? value) TranscriptError.unknownPurpose)
      (fromCode (value.toNat : Int)) := by
  cases hpurpose : ofUInt16? value with
  | some purpose =>
    have hvalue := ofUInt16?_eq_some.mp hpurpose
    have hcode : fromCode (value.toNat : Int) = .ok purpose := by
      rw [hvalue]
      cases purpose <;> rfl
    rw [hcode]
    exact .ok rfl
  | none =>
    have hne : ∀ purpose : TranscriptPurpose, (purpose.toNat : Int) ≠ value.toNat := by
      intro purpose heq
      have := ofUInt16?_eq_some.mpr (show value.toNat = purpose.toNat by omega)
      rw [hpurpose] at this
      cases this
    have hcode : fromCode (value.toNat : Int) = .error .unknownPurpose := by
      simp [fromCode, find?, hne, okOr]
    rw [hcode]
    exact .error rfl

end Reading

/-- The application decodes as the Host does. -/
theorem decode_corresponds (bytes : Bytes) :
    Corresponds SameName (fun t t' => t' = ofTranscript t) (decodeTranscript bytes)
      (decode bytes) := by
  unfold decodeTranscript decode
  refine .bind (.ensure Iff.rfl rfl) fun _ _ _ => ?_
  refine .bind (requireBytes_corresponds ⟨rfl, rfl⟩ _) ?_
  rintro ⟨magic, r₁⟩ _ ⟨hmagic, h₁, hbound⟩
  dsimp only at hmagic h₁
  subst hmagic
  refine .bind (readMagic_corresponds transcriptMagic 0 hbound) ?_
  rintro _ _ rfl
  refine .bind (readUint16_corresponds h₁) ?_
  rintro ⟨version, r₂⟩ ⟨_, offset₂⟩ ⟨rfl, h₂⟩
  refine .bind (.ensure Int.ofNat_inj.symm rfl) fun _ _ _ => ?_
  refine .bind (readUint16_corresponds h₂) ?_
  rintro ⟨value, r₃⟩ ⟨_, offset₃⟩ ⟨rfl, h₃⟩
  refine .bind (fromCode_corresponds value) ?_
  rintro purpose _ rfl
  refine .bind (readUint16_corresponds h₃) ?_
  rintro ⟨count, r₄⟩ ⟨_, offset₄⟩ ⟨rfl, h₄⟩
  refine .bind (.ensure Int.ofNat_le.symm rfl) fun _ _ _ => ?_
  refine .bind (decodeFields_corresponds count.toNat none h₄) ?_
  rintro ⟨fields, r₅⟩ ⟨_, offset₅⟩ ⟨rfl, h₅⟩
  have hfinished : r₅.isFinished = true ↔ offset₅ = bytes.length := by
    obtain ⟨hbytes, hoffset⟩ := h₅
    dsimp only at hbytes hoffset
    simp only [TranscriptReader.isFinished, hoffset, hbytes, decide_eq_true_eq]
    omega
  refine .bind (.ensure hfinished rfl) fun _ _ _ => ?_
  refine .bind (validateFields_corresponds purpose fields) fun _ _ _ => ?_
  exact .ok rfl

end Dart

/-! ## The codec in all languages -/

/-- Encoder and decoder of one implementation are inverse to each other, so that every
transcript has one encoding, and purposes do not share bytes. -/
structure CanonicalCodec {τ π ε : Type} (purpose : τ → π) (encode : τ → Except ε Bytes)
    (decode : Bytes → Except ε τ) : Prop where
  decode_encode : ∀ t bytes, encode t = .ok bytes → decode bytes = .ok t
  encode_decode : ∀ t bytes, decode bytes = .ok t → encode t = .ok bytes
  injective : ∀ t t' bytes, encode t = .ok bytes → encode t' = .ok bytes → t = t'
  separated : ∀ t t' bytes bytes', purpose t ≠ purpose t' → encode t = .ok bytes →
    encode t' = .ok bytes' → bytes ≠ bytes'

theorem CanonicalCodec.of_inverse {τ π ε : Type} {purpose : τ → π}
    {encode : τ → Except ε Bytes} {decode : Bytes → Except ε τ}
    (h : ∀ t bytes, encode t = .ok bytes ↔ decode bytes = .ok t) :
    CanonicalCodec purpose encode decode := by
  have hinjective : ∀ t t' bytes, encode t = .ok bytes → encode t' = .ok bytes → t = t' := by
    intro t t' bytes ht ht'
    have heq := ((h t bytes).mp ht).symm.trans ((h t' bytes).mp ht')
    exact Except.ok.inj heq
  refine ⟨fun t bytes => (h t bytes).mp, fun t bytes => (h t bytes).mpr, hinjective, ?_⟩
  rintro t t' bytes _ hpurpose ht ht' rfl
  exact hpurpose (congrArg purpose (hinjective t t' bytes ht ht'))

section Ports

variable {τ ε : Type} {E : TranscriptError → ε → Prop} {of : CanonicalTranscript → τ}
  {encode : τ → Except ε Bytes} {decode : Bytes → Except ε τ}

/-- A port that corresponds to the Host's codec and accepts nothing else is inverse to
itself as well. -/
theorem inverse_of_corresponds
    (hencode : ∀ t, Corresponds E Eq (encodeTranscript t) (encode (of t)))
    (hdecode : ∀ bytes, Corresponds E (fun t t' => t' = of t) (decodeTranscript bytes)
      (decode bytes))
    (honly : ∀ t bytes, encode t = .ok bytes → ∃ t', t = of t') (t : τ) (bytes : Bytes) :
    encode t = .ok bytes ↔ decode bytes = .ok t := by
  constructor
  · intro h
    obtain ⟨t', rfl⟩ := honly t bytes h
    obtain ⟨_, ht', rfl⟩ := (hencode t').exists_of_ok_right h
    obtain ⟨_, hport, rfl⟩ := (hdecode _).exists_of_ok_left (decodeTranscript_eq_ok.mpr ht')
    exact hport
  · intro h
    obtain ⟨t', ht', rfl⟩ := (hdecode bytes).exists_of_ok_right h
    obtain ⟨_, hport, rfl⟩ := (hencode t').exists_of_ok_left (decodeTranscript_eq_ok.mp ht')
    exact hport

theorem encode_iff_of_corresponds
    (hencode : ∀ t, Corresponds E Eq (encodeTranscript t) (encode (of t)))
    (t : CanonicalTranscript) (bytes : Bytes) :
    encodeTranscript t = .ok bytes ↔ encode (of t) = .ok bytes := by
  constructor
  · intro h
    obtain ⟨_, hport, rfl⟩ := (hencode t).exists_of_ok_left h
    exact hport
  · intro h
    obtain ⟨_, hhost, rfl⟩ := (hencode t).exists_of_ok_right h
    exact hhost

theorem accepts_iff_of_corresponds
    (hdecode : ∀ bytes, Corresponds E (fun t t' => t' = of t) (decodeTranscript bytes)
      (decode bytes)) (bytes : Bytes) :
    (∃ t, decodeTranscript bytes = .ok t) ↔ ∃ t, decode bytes = .ok t := by
  constructor
  · rintro ⟨t, h⟩
    obtain ⟨t', hport, -⟩ := (hdecode bytes).exists_of_ok_left h
    exact ⟨t', hport⟩
  · rintro ⟨t, h⟩
    obtain ⟨t', hhost, -⟩ := (hdecode bytes).exists_of_ok_right h
    exact ⟨t', hhost⟩

end Ports

/-- The service encodes transcripts of a known purpose only. -/
theorem Go.exists_ofTranscript {t : Go.Transcript} {bytes : Bytes}
    (h : Go.encode t = .ok bytes) : ∃ t', t = Go.ofTranscript t' := by
  simp only [Go.encode, Go.validateFields, bind_eq_ok, okOr_eq_ok] at h
  obtain ⟨-, ⟨tags, htags, -⟩, -⟩ := h
  have hknown : (ofUInt16? t.purpose).isSome = true := by
    rw [← Go.tagsForPurpose_isSome, htags]
    rfl
  obtain ⟨purpose, hpurpose⟩ := Option.isSome_iff_exists.mp hknown
  refine ⟨{ purpose, fields := t.fields }, ?_⟩
  have hvalue : t.purpose = UInt16.ofNat purpose.toNat := by
    rw [← ofUInt16?_eq_some.mp hpurpose]
    simp
  rw [Go.ofTranscript, ← hvalue]

theorem Dart.checkFields_tags {tags : List Int} {previousTag : Int}
    {fields : List Dart.TranscriptField} {u : Unit}
    (h : Dart.checkFields tags previousTag fields = .ok u) :
    ∀ field ∈ fields, field.tag ∈ tags := by
  induction fields generalizing previousTag with
  | nil => simp
  | cons field fields ih =>
    simp only [Dart.checkFields, bind_eq_ok, ensure_eq_ok, exists_and_left, exists_const] at h
    obtain ⟨-, -, -, hmem, -, hrest⟩ := h
    rw [forall_mem_cons]
    exact ⟨hmem, ih hrest⟩

/-- The application encodes fields with 16-bit tags only. -/
theorem Dart.exists_ofTranscript {t : Dart.CanonicalTranscript} {bytes : Bytes}
    (h : Dart.encode t = .ok bytes) : ∃ t', t = Dart.ofTranscript t' := by
  obtain ⟨purpose, fields⟩ := t
  simp only [Dart.encode, Dart.validateFields, bind_eq_ok] at h
  obtain ⟨-, ⟨-, -, _, hcheck, -⟩, -⟩ := h
  have htags := Dart.checkFields_tags hcheck
  rw [Dart.requiredTags_eq] at htags
  have hfields : ∃ fields' : List Protocol.TranscriptField,
      fields = fields'.map Dart.ofField := by
    clear hcheck
    induction fields with
    | nil => exact ⟨[], rfl⟩
    | cons field fields ih =>
      rw [forall_mem_cons] at htags
      obtain ⟨fields', rfl⟩ := ih htags.2
      obtain ⟨tag, -, htag⟩ := mem_map.mp htags.1
      refine ⟨⟨tag, field.value⟩ :: fields', ?_⟩
      rw [map_cons, Dart.ofField, htag]
  obtain ⟨fields', rfl⟩ := hfields
  exact ⟨{ purpose, fields := fields' }, rfl⟩

/-- The three implementations are canonical codecs, give the same bytes for the same
transcript and accept the same byte strings. -/
theorem canonical_transcript_codec :
    CanonicalCodec CanonicalTranscript.purpose encodeTranscript decodeTranscript ∧
    CanonicalCodec Go.Transcript.purpose Go.encode Go.decode ∧
    CanonicalCodec Dart.CanonicalTranscript.purpose Dart.encode Dart.decode ∧
    (∀ (t : CanonicalTranscript) (bytes : Bytes),
      (encodeTranscript t = .ok bytes ↔ Go.encode (Go.ofTranscript t) = .ok bytes) ∧
      (encodeTranscript t = .ok bytes ↔ Dart.encode (Dart.ofTranscript t) = .ok bytes)) ∧
    ∀ bytes : Bytes,
      ((∃ t, decodeTranscript bytes = .ok t) ↔ ∃ t, Go.decode bytes = .ok t) ∧
      ((∃ t, decodeTranscript bytes = .ok t) ↔ ∃ t, Dart.decode bytes = .ok t) := by
  refine ⟨.of_inverse fun t bytes => decodeTranscript_eq_ok.symm, ?_, ?_, ?_, ?_⟩
  · exact .of_inverse (inverse_of_corresponds Go.encode_corresponds Go.decode_corresponds
      fun _ _ => Go.exists_ofTranscript)
  · exact .of_inverse (inverse_of_corresponds Dart.encode_corresponds Dart.decode_corresponds
      fun _ _ => Dart.exists_ofTranscript)
  · intro t bytes
    exact ⟨encode_iff_of_corresponds Go.encode_corresponds t bytes,
      encode_iff_of_corresponds Dart.encode_corresponds t bytes⟩
  · intro bytes
    exact ⟨accepts_iff_of_corresponds Go.decode_corresponds bytes,
      accepts_iff_of_corresponds Dart.decode_corresponds bytes⟩

end Protocol

end Roammand
