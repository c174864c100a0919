import Roammand.Library.Bytes
import Roammand.Library.Except

/-!
# Canonical transcripts

A transcript is the byte string that is signed: a header with magic, version, purpose
and field count, followed by the fields of the purpose in ascending tag order, each with
its tag and length.

Main results:

- Definitions `requiredTags`, `fieldLength`, `validateFields`, `encodeTranscript` and
  `decodeTranscript`.
- Theorem `decodeTranscript_eq_ok`: the decoder returns a transcript exactly for the
  bytes that the encoder gives for it.
-/

namespace Roammand

namespace Protocol

open Library List

/-- What a transcript is signed for. -/
inductive TranscriptPurpose where
  | pairingSas
  | sessionOffer
  | sessionAnswer
  | sessionReconnect
  deriving DecidableEq

/-- The wire value of a purpose. -/
def TranscriptPurpose.toNat : TranscriptPurpose → Nat
  | .pairingSas => 1
  | .sessionOffer => 2
  | .sessionAnswer => 3
  | .sessionReconnect => 4

/-- A tagged field. -/
structure TranscriptField where
  tag : UInt16
  value : Bytes

/-- A purpose with its fields. -/
structure CanonicalTranscript where
  purpose : TranscriptPurpose
  fields : List TranscriptField

/-- The purpose of a wire value. -/
def TranscriptPurpose.ofUInt16? (value : UInt16) : Option TranscriptPurpose :=
  if value = 1 then some .pairingSas
  else if value = 2 then some .sessionOffer
  else if value = 3 then some .sessionAnswer
  else if value = 4 then some .sessionReconnect
  else none

/-- Errors of the codec. -/
inductive TranscriptError where
  | invalidMagic
  | unknownVersion
  | unknownPurpose
  | tooManyFields
  | duplicateField
  | fieldOrder
  | fieldTooLong
  | transcriptTooLong
  | unknownField
  | missingField
  | invalidFieldLength
  | truncated
  | trailingBytes

/-- The name of an error that all implementations share. -/
def TranscriptError.wireName : TranscriptError → String
  | .invalidMagic => "bad_magic"
  | .unknownVersion => "unknown_version"
  | .unknownPurpose => "unknown_purpose"
  | .tooManyFields => "too_many_fields"
  | .duplicateField => "duplicate_field"
  | .fieldOrder => "field_order"
  | .fieldTooLong => "field_too_long"
  | .transcriptTooLong => "transcript_too_long"
  | .unknownField => "unexpected_field"
  | .missingField => "missing_field"
  | .invalidFieldLength => "invalid_field_length"
  | .truncated => "truncated"
  | .trailingBytes => "trailing_bytes"

/-- The magic of a transcript, the bytes of `PRDT`. -/
def transcriptMagic : Bytes := [0x50, 0x52, 0x44, 0x54]

/-- The transcript version. -/
def transcriptVersion : Nat := 1

/-- Length of the header. -/
def transcriptHeaderLength : Nat := 10

/-- Length of a field's tag and length. -/
def fieldHeaderLength : Nat := 6

/-- The most fields of a transcript. -/
def maxFields : Nat := 16

/-- The longest field. -/
def maxFieldLength : Nat := 1024

/-- The longest transcript. -/
def maxTranscriptLength : Nat := 4096

/-- The tags of a purpose, in order. -/
def requiredTags : TranscriptPurpose → List UInt16
  | .pairingSas => [1, 2, 3, 4, 5, 6, 7]
  | .sessionOffer => [1, 2, 8, 9, 10, 11, 12, 13, 14]
  | .sessionAnswer => [1, 2, 8, 9, 10, 11, 12, 13, 14, 15, 16]
  | .sessionReconnect => [1, 2, 8, 9, 10, 11, 12, 13, 14, 15, 16, 17]

/-- The fixed length of the field with a given tag. -/
def fieldLength (tag : UInt16) : Nat :=
  if tag = 3 ∨ tag = 8 then 16
  else if tag = 10 ∨ tag = 11 then 8
  else if tag = 12 ∨ tag = 17 then 4
  else 32

/-- Check the fields one by one against the tags of the purpose. -/
def checkFields (required : List UInt16) :
    Option UInt16 → List TranscriptField → Except TranscriptError Unit
  | _, [] => .ok ()
  | previousTag, field :: fields => do
    ensure (previousTag ≠ some field.tag) .duplicateField
    ensure (previousTag.all fun previous => previous ≤ field.tag) .fieldOrder
    ensure (field.value.length ≤ maxFieldLength) .fieldTooLong
    ensure (field.tag ∈ required) .unknownField
    ensure (field.value.length = fieldLength field.tag) .invalidFieldLength
    checkFields required (some field.tag) fields

/-- The fields are exactly those of the purpose. -/
def validateFields (purpose : TranscriptPurpose) (fields : List TranscriptField) :
    Except TranscriptError Unit := do
  ensure (fields.length ≤ maxFields) .tooManyFields
  checkFields (requiredTags purpose) none fields
  ensure ((requiredTags purpose).length ≤ fields.length) .missingField
  ensure (fields.length ≤ (requiredTags purpose).length) .unknownField
  ensure (((fields.map (·.tag)).zip (requiredTags purpose)).all fun p => p.1 = p.2)
    .missingField

/-- The bytes of the fields. -/
def encodeFieldList : List TranscriptField → Except TranscriptError Bytes
  | [] => .ok []
  | field :: fields => do
    ensure (field.value.length < 2 ^ 32) .fieldTooLong
    let rest ← encodeFieldList fields
    return bigEndian 2 field.tag.toNat ++ bigEndian 4 field.value.length ++ field.value ++
      rest

/-- The length of the encoded transcript. -/
def encodedLength (fields : List TranscriptField) : Nat :=
  fields.foldl (fun length field => length + fieldHeaderLength + field.value.length)
    transcriptHeaderLength

/-- Encode a transcript. -/
def encodeTranscript (transcript : CanonicalTranscript) : Except TranscriptError Bytes := do
  validateFields transcript.purpose transcript.fields
  ensure (encodedLength transcript.fields ≤ maxTranscriptLength) .transcriptTooLong
  ensure (transcript.fields.length < 2 ^ 16) .tooManyFields
  let body ← encodeFieldList transcript.fields
  return transcriptMagic ++ bigEndian 2 transcriptVersion ++
    bigEndian 2 transcript.purpose.toNat ++ bigEndian 2 transcript.fields.length ++ body

/-! ## Reading a transcript -/

/-- A position in the bytes that are read. -/
structure TranscriptReader where
  bytes : Bytes
  offset : Nat
  bound : offset ≤ bytes.length

namespace TranscriptReader

/-- A reader at the start. -/
def new (bytes : Bytes) : TranscriptReader :=
  { bytes, offset := 0, bound := Nat.zero_le _ }

/-- The next `length` bytes. -/
def readExact (reader : TranscriptReader) (length : Nat) :
    Except TranscriptError (Bytes × TranscriptReader) :=
  if h : reader.offset + length ≤ reader.bytes.length then
    .ok ((reader.bytes.drop reader.offset).take length,
      { bytes := reader.bytes, offset := reader.offset + length, bound := h })
  else .error .truncated

/-- The next two bytes as a number. -/
def readU16 (reader : TranscriptReader) :
    Except TranscriptError (UInt16 × TranscriptReader) := do
  let (bytes, reader) ← reader.readExact 2
  return (UInt16.ofNat (ofBigEndian bytes), reader)

/-- The next four bytes as a number. -/
def readU32 (reader : TranscriptReader) :
    Except TranscriptError (UInt32 × TranscriptReader) := do
  let (bytes, reader) ← reader.readExact 4
  return (UInt32.ofNat (ofBigEndian bytes), reader)

/-- Whether all bytes have been read. -/
def isFinished (reader : TranscriptReader) : Bool := reader.offset = reader.bytes.length

end TranscriptReader

/-- Read a number of fields in ascending tag order. -/
def decodeFieldList : Nat → Option UInt16 → TranscriptReader →
    Except TranscriptError (List TranscriptField × TranscriptReader)
  | 0, _, reader => .ok ([], reader)
  | count + 1, previousTag, reader => do
    let (tag, reader) ← reader.readU16
    ensure (previousTag ≠ some tag) .duplicateField
    ensure (previousTag.all fun previous => previous ≤ tag) .fieldOrder
    let (length, reader) ← reader.readU32
    ensure (length.toNat ≤ maxFieldLength) .fieldTooLong
    let (value, reader) ← reader.readExact length.toNat
    let (fields, reader) ← decodeFieldList count (some tag) reader
    return (⟨tag, value⟩ :: fields, reader)

/-- Decode and validate a transcript. -/
def decodeTranscript (bytes : Bytes) : Except TranscriptError CanonicalTranscript := do
  ensure (bytes.length ≤ maxTranscriptLength) .transcriptTooLong
  let (magic, reader) ← (TranscriptReader.new bytes).readExact transcriptMagic.length
  ensure (magic = transcriptMagic) .invalidMagic
  let (version, reader) ← reader.readU16
  ensure (version.toNat = transcriptVersion) .unknownVersion
  let (purposeValue, reader) ← reader.readU16
  let purpose ← okOr (TranscriptPurpose.ofUInt16? purposeValue) .unknownPurpose
  let (fieldCount, reader) ← reader.readU16
  ensure (fieldCount.toNat ≤ maxFields) .tooManyFields
  let (fields, reader) ← decodeFieldList fieldCount.toNat none reader
  ensure (reader.isFinished) .trailingBytes
  validateFields purpose fields
  return { purpose, fields }

/-! ## The decoder inverts the encoder -/

theorem TranscriptPurpose.ofUInt16?_eq_some {value : UInt16} {purpose : TranscriptPurpose} :
    ofUInt16? value = some purpose ↔ value.toNat = purpose.toNat := by
  by_cases h1 : value = 1
  · subst h1
    cases purpose <;> decide
  by_cases h2 : value = 2
  · subst h2
    cases purpose <;> decide
  by_cases h3 : value = 3
  · subst h3
    cases purpose <;> decide
  by_cases h4 : value = 4
  · subst h4
    cases purpose <;> decide
  have hne : value.toNat ≠ purpose.toNat := by
    cases purpose with
    | pairingSas => exact fun h => h1 (UInt16.toNat.inj h)
    | sessionOffer => exact fun h => h2 (UInt16.toNat.inj h)
    | sessionAnswer => exact fun h => h3 (UInt16.toNat.inj h)
    | sessionReconnect => exact fun h => h4 (UInt16.toNat.inj h)
  simp [ofUInt16?, h1, h2, h3, h4, hne]

namespace TranscriptReader

variable {r r' : TranscriptReader} (reader : TranscriptReader)

/-- The bytes that have not been read. -/
def rest : Bytes := reader.bytes.drop reader.offset

@[simp]
theorem rest_new (bytes : Bytes) : (new bytes).rest = bytes := rfl

theorem length_rest :
    reader.offset + reader.rest.length = reader.bytes.length := by
  have := reader.bound
  simp only [rest, length_drop]
  omega

theorem isFinished_iff :
    reader.isFinished = true ↔ reader.rest = [] := by
  have hlength := reader.length_rest
  rw [← length_eq_zero_iff]
  simp only [isFinished, decide_eq_true_eq]
  omega

/-- Two readers of the same bytes with the same rest are at the same position. -/
theorem eq_of_rest (hbytes : r.bytes = r'.bytes)
    (hrest : r.rest.length = r'.rest.length) : r = r' := by
  have h := r.length_rest
  have h' := r'.length_rest
  obtain ⟨bytes, offset, bound⟩ := r
  obtain ⟨bytes', offset', bound'⟩ := r'
  subst hbytes
  obtain rfl : offset = offset' := by
    dsimp only at h h' hrest
    omega
  rfl

theorem exists_rest {r : TranscriptReader} {value tail : Bytes} (h : r.rest = value ++ tail) :
    ∃ r' : TranscriptReader, r'.rest = tail ∧ r'.bytes = r.bytes := by
  have htotal := congrArg length h
  have hlength := r.length_rest
  rw [length_append] at htotal
  have hbound : r.offset + value.length ≤ r.bytes.length := by omega
  refine ⟨⟨r.bytes, r.offset + value.length, hbound⟩, ?_, rfl⟩
  rw [rest] at h
  rw [rest, ← drop_drop, h, drop_left]

/-- What a successful read returns and leaves. -/
theorem readExact_eq_ok {length : Nat} {value : Bytes} :
    r.readExact length = .ok (value, r') ↔
      value.length = length ∧ r.rest = value ++ r'.rest ∧ r'.bytes = r.bytes := by
  have hrest := r.length_rest
  unfold readExact
  split
  · next h =>
    have htake : (r.rest.take length).length = length := by
      rw [length_take]
      omega
    constructor
    · intro heq
      cases heq
      refine ⟨htake, ?_, rfl⟩
      simp only [rest, ← drop_drop, take_append_drop]
    · rintro ⟨hlength, hsplit, hbytes⟩
      have hvalue : r.rest.take length = value := by
        rw [hsplit, ← hlength, take_left]
      have hafter : (⟨r.bytes, r.offset + length, h⟩ : TranscriptReader) = r' := by
        refine eq_of_rest ?_ ?_
        · exact hbytes.symm
        have htotal := congrArg List.length hsplit
        have hlen := length_rest ⟨r.bytes, r.offset + length, h⟩
        rw [length_append] at htotal
        dsimp only at hlen
        omega
      rw [hafter]
      exact congrArg (fun v => Except.ok (v, r')) hvalue
  · next h =>
    constructor
    · intro heq
      cases heq
    · rintro ⟨hlength, hsplit, -⟩
      have htotal := congrArg List.length hsplit
      rw [length_append] at htotal
      omega

theorem readU16_eq_ok {value : UInt16} :
    r.readU16 = .ok (value, r') ↔
      r.rest = bigEndian 2 value.toNat ++ r'.rest ∧ r'.bytes = r.bytes := by
  unfold readU16
  simp only [bind_eq_ok, Prod.exists, readExact_eq_ok, pure, Except.pure, Except.ok.injEq,
    Prod.mk.injEq]
  constructor
  · rintro ⟨bytes, after, ⟨hlength, hsplit, hbytes⟩, rfl, rfl⟩
    have hlt := ofBigEndian_lt bytes
    rw [hlength] at hlt
    have hvalue : (UInt16.ofNat (ofBigEndian bytes)).toNat = ofBigEndian bytes := by
      rw [UInt16.toNat_ofNat']
      omega
    refine ⟨?_, hbytes⟩
    rw [hvalue, ← hlength, bigEndian_ofBigEndian]
    exact hsplit
  · rintro ⟨hsplit, hbytes⟩
    refine ⟨_, r', ⟨length_bigEndian 2 _, hsplit, hbytes⟩, ?_, rfl⟩
    rw [ofBigEndian_bigEndian value.toNat_lt]
    simp

theorem readU32_eq_ok {value : UInt32} :
    r.readU32 = .ok (value, r') ↔
      r.rest = bigEndian 4 value.toNat ++ r'.rest ∧ r'.bytes = r.bytes := by
  unfold readU32
  simp only [bind_eq_ok, Prod.exists, readExact_eq_ok, pure, Except.pure, Except.ok.injEq,
    Prod.mk.injEq]
  constructor
  · rintro ⟨bytes, after, ⟨hlength, hsplit, hbytes⟩, rfl, rfl⟩
    have hlt := ofBigEndian_lt bytes
    rw [hlength] at hlt
    have hvalue : (UInt32.ofNat (ofBigEndian bytes)).toNat = ofBigEndian bytes := by
      rw [UInt32.toNat_ofNat']
      omega
    refine ⟨?_, hbytes⟩
    rw [hvalue, ← hlength, bigEndian_ofBigEndian]
    exact hsplit
  · rintro ⟨hsplit, hbytes⟩
    refine ⟨_, r', ⟨length_bigEndian 4 _, hsplit, hbytes⟩, ?_, rfl⟩
    rw [ofBigEndian_bigEndian value.toNat_lt]
    simp

end TranscriptReader

/-- Tags in strictly ascending order after a previous tag. -/
def Ascending : Option UInt16 → List TranscriptField → Prop
  | _, [] => True
  | previousTag, field :: fields =>
    previousTag ≠ some field.tag ∧ (previousTag.all fun previous => previous ≤ field.tag) ∧
      Ascending (some field.tag) fields

/-- The bytes of a field list. -/
def fieldBytes : List TranscriptField → Bytes
  | [] => []
  | field :: fields =>
    bigEndian 2 field.tag.toNat ++ bigEndian 4 field.value.length ++ field.value ++
      fieldBytes fields

theorem checkFields_eq_ok {required : List UInt16} {previousTag : Option UInt16}
    {fields : List TranscriptField} {u : Unit} :
    checkFields required previousTag fields = .ok u ↔
      Ascending previousTag fields ∧ ∀ field ∈ fields, field.value.length ≤ maxFieldLength ∧
        field.tag ∈ required ∧ field.value.length = fieldLength field.tag := by
  induction fields generalizing previousTag with
  | nil => simp [checkFields, Ascending]
  | cons field fields ih =>
    simp only [checkFields, bind_eq_ok, ensure_eq_ok, exists_and_left, exists_const, ih,
      Ascending, forall_mem_cons]
    constructor
    · rintro ⟨hne, hle, hlong, htag, hlength, hascending, hrest⟩
      exact ⟨⟨hne, hle, hascending⟩, ⟨hlong, htag, hlength⟩, hrest⟩
    · rintro ⟨⟨hne, hle, hascending⟩, ⟨hlong, htag, hlength⟩, hrest⟩
      exact ⟨hne, hle, hlong, htag, hlength, hascending, hrest⟩

variable {transcript : CanonicalTranscript} {purpose : TranscriptPurpose}
  {fields : List TranscriptField}

theorem encodeFieldList_eq_ok {body : Bytes} :
    encodeFieldList fields = .ok body ↔
      body = fieldBytes fields ∧ ∀ field ∈ fields, field.value.length < 2 ^ 32 := by
  induction fields generalizing body with
  | nil => simp [encodeFieldList, fieldBytes, eq_comm]
  | cons field fields ih =>
    simp only [encodeFieldList, bind_eq_ok, ensure_eq_ok, exists_and_left, exists_const, ih,
      forall_mem_cons, pure, Except.pure, Except.ok.injEq, fieldBytes]
    constructor
    · rintro ⟨hlength, rest, ⟨rfl, hrest⟩, rfl⟩
      exact ⟨rfl, hlength, hrest⟩
    · rintro ⟨rfl, hlength, hrest⟩
      exact ⟨hlength, _, ⟨rfl, hrest⟩, rfl⟩

theorem length_fieldBytes (fields : List TranscriptField) :
    transcriptHeaderLength + (fieldBytes fields).length = encodedLength fields := by
  have hfold : ∀ (fields : List TranscriptField) (length : Nat),
      fields.foldl (fun length field => length + fieldHeaderLength + field.value.length) length =
        length + (fieldBytes fields).length := by
    intro fields
    induction fields with
    | nil => simp [fieldBytes]
    | cons field fields ih =>
      intro length
      rw [foldl_cons, ih]
      simp only [fieldBytes, length_append, length_bigEndian, fieldHeaderLength]
      omega
  rw [encodedLength, hfold]

theorem decodeFieldList_eq_ok {count : Nat} {previousTag : Option UInt16}
    {r r' : TranscriptReader} {fields : List TranscriptField} :
    decodeFieldList count previousTag r = .ok (fields, r') ↔
      fields.length = count ∧ Ascending previousTag fields ∧
        (∀ field ∈ fields, field.value.length ≤ maxFieldLength) ∧
        r.rest = fieldBytes fields ++ r'.rest ∧ r'.bytes = r.bytes := by
  induction count generalizing previousTag r r' fields with
  | zero =>
    rw [length_eq_zero_iff]
    constructor
    · intro h
      cases h
      exact ⟨rfl, trivial, by simp, rfl, rfl⟩
    · rintro ⟨rfl, -, -, hrest, hbytes⟩
      simp only [fieldBytes, nil_append] at hrest
      have hsame : r = r' := TranscriptReader.eq_of_rest hbytes.symm (by rw [hrest])
      rw [hsame]
      rfl
  | succ count ih =>
    simp only [decodeFieldList, bind_eq_ok, Prod.exists, TranscriptReader.readU16_eq_ok,
      TranscriptReader.readU32_eq_ok, TranscriptReader.readExact_eq_ok, ensure_eq_ok,
      exists_and_left, exists_const, ih, pure, Except.pure, Except.ok.injEq, Prod.mk.injEq]
    constructor
    · rintro ⟨tag, r₁, ⟨hr₁, hb₁⟩, hne, hle, length, r₂, ⟨hr₂, hb₂⟩, hlong, value, r₃,
        ⟨hlength, hr₃, hb₃⟩, rest, r₄, ⟨hcount, hascending, hlongs, hr₄, hb₄⟩, rfl, rfl⟩
      refine ⟨by rw [length_cons, hcount], ⟨hne, hle, hascending⟩, ?_, ?_, ?_⟩
      · rw [forall_mem_cons]
        exact ⟨hlength ▸ hlong, hlongs⟩
      · rw [hr₁, hr₂, hr₃, hr₄, fieldBytes, hlength]
        simp only [append_assoc]
      · rw [hb₄, hb₃, hb₂, hb₁]
    · rintro ⟨hcount, hascending, hlongs, hrest, hbytes⟩
      obtain ⟨field, fields, rfl⟩ := exists_cons_of_length_eq_add_one hcount
      obtain ⟨hne, hle, hascending⟩ := hascending
      rw [forall_mem_cons] at hlongs
      rw [fieldBytes, append_assoc, append_assoc, append_assoc] at hrest
      obtain ⟨r₁, hr₁, hb₁⟩ := TranscriptReader.exists_rest hrest
      obtain ⟨r₂, hr₂, hb₂⟩ := TranscriptReader.exists_rest hr₁
      obtain ⟨r₃, hr₃, hb₃⟩ := TranscriptReader.exists_rest hr₂
      have hlength : (UInt32.ofNat field.value.length).toNat = field.value.length := by
        have := hlongs.1
        simp only [maxFieldLength] at this
        rw [UInt32.toNat_ofNat']
        omega
      refine ⟨field.tag, r₁, ⟨hr₁ ▸ hrest, hb₁⟩, hne, hle,
        UInt32.ofNat field.value.length, r₂, ⟨?_, hb₂⟩, ?_, field.value, r₃,
        ⟨hlength.symm, hr₃ ▸ hr₂, hb₃⟩, fields, r', ⟨?_, hascending, hlongs.2, hr₃, ?_⟩, rfl, rfl⟩
      · rw [hlength, hr₁, hr₂]
      · rw [hlength]
        exact hlongs.1
      · simpa using hcount
      · rw [hbytes, hb₃, hb₂, hb₁]

/-- The header of a transcript with the given purpose and field count. -/
def headerBytes (purpose count : Nat) : Bytes :=
  transcriptMagic ++ (bigEndian 2 transcriptVersion ++ (bigEndian 2 purpose ++ bigEndian 2 count))

/-- What the bytes of a transcript are. -/
structure IsEncoding (transcript : CanonicalTranscript) (bytes : Bytes) : Prop where
  valid : validateFields transcript.purpose transcript.fields = .ok ()
  encoded : bytes = headerBytes transcript.purpose.toNat transcript.fields.length ++
    fieldBytes transcript.fields
  bounded : bytes.length ≤ maxTranscriptLength

/-- Valid fields are bounded in number and length, and ascend. -/
theorem validateFields_ok (h : validateFields purpose fields = .ok ()) :
    fields.length ≤ maxFields ∧ Ascending none fields ∧
      ∀ field ∈ fields, field.value.length ≤ maxFieldLength := by
  unfold validateFields at h
  simp only [bind_eq_ok, ensure_eq_ok, checkFields_eq_ok, exists_and_left, exists_const] at h
  obtain ⟨hcount, ⟨hascending, hfields⟩, -⟩ := h
  exact ⟨hcount, hascending, fun field hfield => (hfields field hfield).1⟩

variable {bytes : Bytes}

theorem encodeTranscript_eq_ok :
    encodeTranscript transcript = .ok bytes ↔ IsEncoding transcript bytes := by
  have hlength := length_fieldBytes transcript.fields
  have hheader : (headerBytes transcript.purpose.toNat transcript.fields.length).length =
      transcriptHeaderLength := by
    simp [headerBytes, transcriptMagic, transcriptHeaderLength]
  unfold encodeTranscript
  simp only [bind_eq_ok, ensure_eq_ok, encodeFieldList_eq_ok, exists_and_left, exists_const,
    pure, Except.pure, Except.ok.injEq]
  constructor
  · rintro ⟨_, hvalid, hbound, -, body, ⟨rfl, -⟩, rfl⟩
    have hbytes : transcriptMagic ++ bigEndian 2 transcriptVersion ++
        bigEndian 2 transcript.purpose.toNat ++ bigEndian 2 transcript.fields.length ++
        fieldBytes transcript.fields =
        headerBytes transcript.purpose.toNat transcript.fields.length ++
          fieldBytes transcript.fields := by
      simp only [headerBytes, append_assoc]
    refine ⟨hvalid, hbytes, ?_⟩
    rw [hbytes, length_append, hheader, hlength]
    exact hbound
  · rintro ⟨hvalid, rfl, hbound⟩
    obtain ⟨hcount, -, hlongs⟩ := validateFields_ok hvalid
    rw [length_append, hheader, hlength] at hbound
    simp only [maxFields] at hcount
    refine ⟨⟨⟩, hvalid, hbound, by omega, _, ⟨rfl, fun field hfield => ?_⟩, ?_⟩
    · have := hlongs field hfield
      simp only [maxFieldLength] at this
      omega
    · simp only [headerBytes, append_assoc]

/-- The fields of a valid transcript are encoded without a further error. -/
theorem encodeFieldList_of_valid (h : validateFields purpose fields = .ok ()) :
    fields.length < 2 ^ 16 ∧ encodeFieldList fields = .ok (fieldBytes fields) ∧
      ∀ field ∈ fields, field.value.length < 2 ^ 32 := by
  obtain ⟨hcount, -, hlongs⟩ := validateFields_ok h
  have hshort : ∀ field ∈ fields, field.value.length < 2 ^ 32 := by
    intro field hfield
    have := hlongs field hfield
    simp only [maxFieldLength] at this
    omega
  simp only [maxFields] at hcount
  exact ⟨by omega, encodeFieldList_eq_ok.mpr ⟨rfl, hshort⟩, hshort⟩

/-- The decoder returns a transcript exactly for the bytes of that transcript. -/
theorem decodeTranscript_eq_ok :
    decodeTranscript bytes = .ok transcript ↔ encodeTranscript transcript = .ok bytes := by
  rw [encodeTranscript_eq_ok]
  unfold decodeTranscript
  simp only [bind_eq_ok, ensure_eq_ok, okOr_eq_ok, Prod.exists, TranscriptReader.readU16_eq_ok,
    TranscriptReader.readExact_eq_ok, decodeFieldList_eq_ok, TranscriptReader.isFinished_iff,
    TranscriptPurpose.ofUInt16?_eq_some, exists_and_left, exists_const, pure, Except.pure,
    Except.ok.injEq]
  constructor
  · rintro ⟨hbound, magic, r₁, ⟨-, hr₁, hb₁⟩, rfl, version, r₂, ⟨hr₂, hb₂⟩, hversion, value,
      r₃, ⟨hr₃, hb₃⟩, purpose, hpurpose, count, r₄, ⟨hr₄, hb₄⟩, -, fields, r₅,
      ⟨hcount, -, -, hr₅, hb₅⟩, hfinished, _, hvalid, rfl⟩
    refine ⟨hvalid, ?_, hbound⟩
    rw [TranscriptReader.rest_new] at hr₁
    rw [hr₁, hr₂, hr₃, hr₄, hr₅, hfinished, hversion, hpurpose, hcount, headerBytes]
    simp only [append_assoc, append_nil]
  · rintro ⟨hvalid, hbytes, hbound⟩
    obtain ⟨purpose, fields⟩ := transcript
    obtain ⟨hcount, hascending, hlongs⟩ := validateFields_ok hvalid
    dsimp only at hvalid hbytes hcount hascending hlongs
    have hstart : (TranscriptReader.new bytes).rest = transcriptMagic ++
        (bigEndian 2 transcriptVersion ++ (bigEndian 2 purpose.toNat ++
          (bigEndian 2 fields.length ++ fieldBytes fields))) := by
      rw [TranscriptReader.rest_new, hbytes, headerBytes]
      simp only [append_assoc]
    obtain ⟨r₁, hr₁, hb₁⟩ := TranscriptReader.exists_rest hstart
    obtain ⟨r₂, hr₂, hb₂⟩ := TranscriptReader.exists_rest hr₁
    obtain ⟨r₃, hr₃, hb₃⟩ := TranscriptReader.exists_rest hr₂
    obtain ⟨r₄, hr₄, hb₄⟩ := TranscriptReader.exists_rest hr₃
    rw [← append_nil (fieldBytes fields)] at hr₄
    obtain ⟨r₅, hr₅, hb₅⟩ := TranscriptReader.exists_rest hr₄
    simp only [maxFields] at hcount
    have hpurpose : (UInt16.ofNat purpose.toNat).toNat = purpose.toNat := by
      cases purpose <;> rfl
    have hfields : (UInt16.ofNat fields.length).toNat = fields.length := by
      rw [UInt16.toNat_ofNat']
      omega
    refine ⟨hbound, transcriptMagic, r₁, ⟨rfl, hr₁ ▸ hstart, hb₁⟩, rfl, 1, r₂, ⟨?_, hb₂⟩, rfl,
      UInt16.ofNat purpose.toNat, r₃, ⟨?_, hb₃⟩, purpose, hpurpose,
      UInt16.ofNat fields.length, r₄, ⟨?_, hb₄⟩, ?_, fields, r₅,
      ⟨hfields.symm, hascending, hlongs, ?_, hb₅⟩, hr₅, ⟨⟩, hvalid, rfl⟩
    · rw [hr₁, hr₂]
      rfl
    · rw [hr₂, hr₃, hpurpose]
    · rw [hr₃, hr₄, hfields, append_nil]
    · rw [hfields]
      exact hcount
    · rw [hr₄, hr₅]

end Protocol

end Roammand
