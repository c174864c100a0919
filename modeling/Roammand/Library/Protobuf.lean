import Roammand.Library.Bytes

/-!
# The protobuf wire format

A message is a list of numbered fields.  An encoder writes each field as a key and a
value, leaves scalar fields out at their default and packs repeated enumerations; a
reader takes the bytes apart into the same list again.

Main results:

- Definitions `bytesField`, `stringField`, `uint64Field`, `enumField`,
  `packedEnumField`, `messageField` and `encodeFields`.
- Theorem `readFields_encodeFields`: reading an encoded field list returns it.
- Theorems `length_bytesField_le` and its siblings: how long a field can get.
-/

namespace Library

namespace Protobuf

/-- The value of a field as it stands on the wire. -/
inductive FieldValue where
  | varint (value : UInt64)
  | delimited (contents : Bytes)

/-- A numbered field. -/
structure Field where
  number : Nat
  value : FieldValue

/-! ## Encoding -/

/-- Base-128 groups of `n`, least significant first, with at most `fuel`
continuations. -/
def varint : Nat → Nat → Bytes
  | 0, n => [UInt8.ofNat n]
  | fuel + 1, n =>
    if n < 128 then [UInt8.ofNat n]
    else UInt8.ofNat (n % 128 + 128) :: varint fuel (n / 128)

/-- The varint of an unsigned 64-bit value has at most ten groups. -/
def varint64 (n : Nat) : Bytes := varint 9 n

variable (field : Field)

/-- The wire form of a field. -/
def Field.encode : Bytes :=
  match field.value with
  | .varint value => varint64 (field.number * 8) ++ varint64 value.toNat
  | .delimited contents =>
    varint64 (field.number * 8 + 2) ++ varint64 contents.length ++ contents

variable (fields : List Field)

/-- The wire form of a message. -/
def encodeFields : Bytes := fields.flatMap Field.encode

/-- A `bytes` field, left out when empty. -/
def bytesField (number : Nat) (value : Bytes) : List Field :=
  if value = [] then [] else [⟨number, .delimited value⟩]

/-- A `string` field, left out when empty. -/
def stringField (number : Nat) (value : String) : List Field :=
  bytesField number (utf8 value)

/-- A `uint64` field, left out at zero. -/
def uint64Field (number : Nat) (value : UInt64) : List Field :=
  if value = 0 then [] else [⟨number, .varint value⟩]

variable (value : Int32)

/-- An enumeration value travels sign-extended to 64 bits. -/
def enumValue : UInt64 := value.toInt64.toUInt64

/-- An enumeration field, left out at zero. -/
def enumField (number : Nat) (value : Int32) : List Field :=
  if value = 0 then [] else [⟨number, .varint (enumValue value)⟩]

/-- A packed repeated enumeration, left out when empty. -/
def packedEnumField (number : Nat) (values : List Int32) : List Field :=
  if values = [] then []
  else [⟨number, .delimited (values.flatMap fun value => varint64 (enumValue value).toNat)⟩]

/-- A nested message that is present. -/
def messageField (number : Nat) (message : List Field) : List Field :=
  [⟨number, .delimited (encodeFields message)⟩]

/-- An optional nested message. -/
def optionalMessageField {α : Type} (number : Nat) (fields : α → List Field)
    (message : Option α) : List Field :=
  match message with
  | none => []
  | some value => messageField number (fields value)

/-! ## Reading -/

/-- Read a varint of at most `fuel` groups. -/
def readVarint : Nat → Bytes → Option (Nat × Bytes)
  | 0, _ => none
  | _ + 1, [] => none
  | fuel + 1, b :: bs =>
    if b.toNat < 128 then some (b.toNat, bs)
    else (readVarint fuel bs).map fun r => (b.toNat - 128 + 128 * r.1, r.2)

/-- Read the value of a field of the given wire type. -/
def readValue (wireType : Nat) (bytes : Bytes) : Option (FieldValue × Bytes) :=
  match wireType with
  | 0 => (readVarint 10 bytes).map fun r => (.varint (UInt64.ofNat r.1), r.2)
  | 2 => (readVarint 10 bytes).bind fun r =>
    if r.2.length < r.1 then none
    else some (.delimited (r.2.take r.1), r.2.drop r.1)
  | _ => none

/-- Read one field. -/
def readField (bytes : Bytes) : Option (Field × Bytes) :=
  (readVarint 10 bytes).bind fun r =>
    (readValue (r.1 % 8) r.2).map fun v => (⟨r.1 / 8, v.1⟩, v.2)

/-- Read fields until the bytes are used up. -/
def readFields : Nat → Bytes → Option (List Field)
  | _, [] => some []
  | 0, _ :: _ => none
  | fuel + 1, bytes@(_ :: _) =>
    (readField bytes).bind fun r => (readFields fuel r.2).map (r.1 :: ·)

/-- Read varints until the bytes are used up, as a packed field holds them. -/
def readPacked : Nat → Bytes → Option (List Nat)
  | _, [] => some []
  | 0, _ :: _ => none
  | fuel + 1, bytes@(_ :: _) =>
    (readVarint 10 bytes).bind fun r => (readPacked fuel r.2).map (r.1 :: ·)

/-- The enumeration value of a 64-bit varint is its low 32 bits. -/
def ofEnumValue (value : UInt64) : Int32 := value.toUInt32.toInt32

/-! ## Round trip -/

variable (fuel n : Nat)

theorem varint_ne_nil : varint fuel n ≠ [] := by
  cases fuel with
  | zero => simp [varint]
  | succ fuel =>
    unfold varint
    split <;> simp

variable (rest : Bytes)

theorem readVarint_varint (h : n < 128 ^ (fuel + 1)) :
    readVarint (fuel + 1) (varint fuel n ++ rest) = some (n, rest) := by
  induction fuel generalizing n with
  | zero =>
    have hn : (UInt8.ofNat n).toNat = n := by
      rw [UInt8.toNat_ofNat']
      omega
    simp only [varint, List.singleton_append, readVarint, hn]
    rw [if_pos (by omega)]
  | succ fuel ih =>
    unfold varint
    split
    · next hsmall =>
      have hn : (UInt8.ofNat n).toNat = n := by
        rw [UInt8.toNat_ofNat']
        omega
      simp only [List.singleton_append, readVarint, hn]
      rw [if_pos hsmall]
    · have hb : (UInt8.ofNat (n % 128 + 128)).toNat = n % 128 + 128 := by
        rw [UInt8.toNat_ofNat']
        omega
      have hrest : n / 128 < 128 ^ (fuel + 1) := by
        rw [Nat.div_lt_iff_lt_mul (by decide), ← Nat.pow_succ]
        exact h
      rw [List.cons_append, readVarint, hb, if_neg (by omega), ih _ hrest]
      simp only [Option.map_some, Option.some.injEq, Prod.mk.injEq, and_true]
      omega

theorem readVarint_varint64 (n : Nat) (rest : Bytes) (h : n < 2 ^ 64) :
    readVarint 10 (varint64 n ++ rest) = some (n, rest) :=
  readVarint_varint 9 n rest (Nat.lt_of_lt_of_le h (by decide))

/-- A field whose number and contents fit the wire format. -/
def Field.Fits : Prop :=
  field.number < 2 ^ 32 ∧
    match field.value with
    | .varint _ => True
    | .delimited contents => contents.length < 2 ^ 64

theorem readField_encode (h : field.Fits) :
    readField (field.encode ++ rest) = some (field, rest) := by
  obtain ⟨number, value⟩ := field
  obtain ⟨hnumber, hvalue⟩ := h
  replace hnumber : number < 2 ^ 32 := hnumber
  cases value with
  | varint value =>
    simp only [Field.encode, List.append_assoc, readField]
    rw [readVarint_varint64 _ _ (by omega)]
    have hmod : number * 8 % 8 = 0 := by omega
    simp only [Option.bind_some, hmod, readValue]
    rw [readVarint_varint64 _ _ value.toNat_lt]
    simp
  | delimited contents =>
    simp only [Field.encode, List.append_assoc, readField]
    rw [readVarint_varint64 _ _ (by omega)]
    have hmod : (number * 8 + 2) % 8 = 2 := by omega
    have hdiv : (number * 8 + 2) / 8 = number := by omega
    simp only [Option.bind_some, hmod, readValue, hdiv]
    rw [readVarint_varint64 _ _ hvalue]
    simp

theorem encode_ne_nil : field.encode ≠ [] := by
  obtain ⟨number, value⟩ := field
  cases value <;> simp [Field.encode, varint64, varint_ne_nil]

/-- Reading the encoding of a field list returns the list. -/
theorem readFields_encodeFields (fuel : Nat)
    (hfuel : fields.length ≤ fuel) (h : ∀ field ∈ fields, field.Fits) :
    readFields fuel (encodeFields fields) = some fields := by
  induction fields generalizing fuel with
  | nil => simp [encodeFields, readFields]
  | cons field fields ih =>
    cases fuel with
    | zero => simp at hfuel
    | succ fuel =>
      have hread := readField_encode field (encodeFields fields) (h field (by simp))
      have hrest := ih fuel (by simpa using hfuel) fun f hf => h f (List.mem_cons_of_mem _ hf)
      obtain ⟨b, bs, hbytes⟩ := List.exists_cons_of_ne_nil
        (l := field.encode ++ encodeFields fields) (by simp [encode_ne_nil])
      have hencode : encodeFields (field :: fields) = b :: bs := by
        simpa [encodeFields] using hbytes
      rw [hencode, readFields, ← hbytes, hread]
      simp [hrest]

theorem readPacked_varints (values : List Nat) (fuel : Nat) (hfuel : values.length ≤ fuel)
    (h : ∀ n ∈ values, n < 2 ^ 64) :
    readPacked fuel (values.flatMap varint64) = some values := by
  induction values generalizing fuel with
  | nil => simp [readPacked]
  | cons n values ih =>
    cases fuel with
    | zero => simp at hfuel
    | succ fuel =>
      have hread := readVarint_varint64 n (values.flatMap varint64) (h n (by simp))
      have hrest := ih fuel (by simpa using hfuel) fun m hm => h m (List.mem_cons_of_mem _ hm)
      obtain ⟨b, bs, hbytes⟩ := List.exists_cons_of_ne_nil
        (l := varint64 n ++ values.flatMap varint64) (by simp [varint64, varint_ne_nil])
      rw [List.flatMap_cons, hbytes, readPacked, ← hbytes, hread]
      simp [hrest]

theorem ofEnumValue_enumValue : ofEnumValue (enumValue value) = value := by
  unfold ofEnumValue enumValue
  apply Int32.toBitVec_inj.mp
  simp only [UInt32.toBitVec_toInt32, UInt64.toBitVec_toUInt32, Int64.toBitVec_toUInt64,
    Int32.toBitVec_toInt64]
  apply BitVec.eq_of_getLsbD_eq
  intro i hi
  have hlow : i < 64 := by omega
  rw [BitVec.getLsbD_setWidth, BitVec.getLsbD_signExtend]
  simp only [hi, hlow, decide_true, Bool.true_and, if_true]

/-- Contents are never longer than the message that holds them. -/
theorem length_contents_le {fields : List Field} {number : Nat} {contents : Bytes}
    (h : (⟨number, .delimited contents⟩ : Field) ∈ fields) :
    contents.length ≤ (encodeFields fields).length := by
  obtain ⟨xs, ys, rfl⟩ := List.append_of_mem h
  simp only [encodeFields, List.flatMap_append, List.flatMap_cons, Field.encode, List.length_append]
  omega

/-- The fields of a message of representable length fit. -/
theorem fits_of_length {fields : List Field} (hnumber : ∀ f ∈ fields, f.number < 2 ^ 32)
    (hlength : (encodeFields fields).length < 2 ^ 64) : ∀ f ∈ fields, f.Fits := by
  rintro ⟨number, value⟩ hf
  refine ⟨hnumber _ hf, ?_⟩
  cases value with
  | varint value => trivial
  | delimited contents => exact Nat.lt_of_le_of_lt (length_contents_le hf) hlength

theorem number_of_mem_bytesField {number : Nat} {value : Bytes} {f : Field}
    (h : f ∈ bytesField number value) : f.number = number := by
  unfold bytesField at h
  split at h
  · cases h
  · rw [List.mem_singleton.mp h]

theorem number_of_mem_uint64Field {number : Nat} {value : UInt64} {f : Field}
    (h : f ∈ uint64Field number value) : f.number = number := by
  unfold uint64Field at h
  split at h
  · cases h
  · rw [List.mem_singleton.mp h]

theorem number_of_mem_enumField {number : Nat} {value : Int32} {f : Field}
    (h : f ∈ enumField number value) : f.number = number := by
  unfold enumField at h
  split at h
  · cases h
  · rw [List.mem_singleton.mp h]

theorem number_of_mem_packedEnumField {number : Nat} {values : List Int32} {f : Field}
    (h : f ∈ packedEnumField number values) : f.number = number := by
  unfold packedEnumField at h
  split at h
  · cases h
  · rw [List.mem_singleton.mp h]

theorem number_of_mem_optionalMessageField {α : Type} {number : Nat}
    {fields : α → List Field} {message : Option α} {f : Field}
    (h : f ∈ optionalMessageField number fields message) : f.number = number := by
  unfold optionalMessageField messageField at h
  split at h
  · cases h
  · rw [List.mem_singleton.mp h]

/-! ## Merging fields into a message -/

section Merge

variable {α : Type} {merge : α → Field → Option α} {number : Nat} {m : α}

/-- Decode a message by merging its fields one by one into the default message. -/
def decodeWith (merge : α → Field → Option α) (default : α) (bytes : Bytes) : Option α :=
  (readFields bytes.length bytes).bind fun fields => fields.foldlM merge default

theorem length_le_encodeFields (fields : List Field) :
    fields.length ≤ (encodeFields fields).length := by
  induction fields with
  | nil => simp [encodeFields]
  | cons field fields ih =>
    have hpos := List.length_pos_of_ne_nil (encode_ne_nil field)
    have hcons : encodeFields (field :: fields) = field.encode ++ encodeFields fields := by
      simp [encodeFields]
    rw [hcons, List.length_append, List.length_cons]
    omega

theorem decodeWith_encodeFields {default : α} {fields : List Field}
    (h : ∀ field ∈ fields, field.Fits) :
    decodeWith merge default (encodeFields fields) = fields.foldlM merge default := by
  unfold decodeWith
  rw [readFields_encodeFields fields _ (length_le_encodeFields fields) h]
  rfl

theorem foldlM_append_of_some {xs ys : List Field} {m' : α} (h : xs.foldlM merge m = some m') :
    (xs ++ ys).foldlM merge m = ys.foldlM merge m' := by
  rw [List.foldlM_append, h]
  rfl

theorem foldlM_bytesField (set : Bytes → α) (value : Bytes) (hdefault : set [] = m)
    (hmerge : ∀ b, merge m ⟨number, .delimited b⟩ = some (set b)) :
    (bytesField number value).foldlM merge m = some (set value) := by
  unfold bytesField
  split
  · next h => simp [h, hdefault]
  · simp [hmerge]

theorem foldlM_stringField (set : String → α) (value : String) (hdefault : set "" = m)
    (hmerge : ∀ b s, ofUtf8? b = some s → merge m ⟨number, .delimited b⟩ = some (set s)) :
    (stringField number value).foldlM merge m = some (set value) := by
  have hread := ofUtf8?_utf8 value
  unfold stringField bytesField
  split
  · next hempty =>
    have hnil : ofUtf8? [] = some "" := ofUtf8?_utf8 ""
    rw [hempty] at hread
    rw [← Option.some.inj (hnil.symm.trans hread), hdefault]
    rfl
  · rw [List.foldlM_cons, hmerge _ _ hread]
    rfl

theorem foldlM_uint64Field (set : UInt64 → α) (value : UInt64) (hdefault : set 0 = m)
    (hmerge : ∀ n, merge m ⟨number, .varint n⟩ = some (set n)) :
    (uint64Field number value).foldlM merge m = some (set value) := by
  unfold uint64Field
  split
  · next h => simp [h, hdefault]
  · simp [hmerge]

theorem foldlM_enumField (set : Int32 → α) (value : Int32) (hdefault : set 0 = m)
    (hmerge : ∀ n, merge m ⟨number, .varint n⟩ = some (set (ofEnumValue n))) :
    (enumField number value).foldlM merge m = some (set value) := by
  unfold enumField
  split
  · next h => simp [h, hdefault]
  · simp [hmerge, ofEnumValue_enumValue]

theorem foldlM_packedEnumField (set : List Int32 → α) (values : List Int32) (hdefault : set [] = m)
    (hmerge : ∀ b ns, readPacked b.length b = some ns →
      merge m ⟨number, .delimited b⟩ =
        some (set (ns.map fun n => ofEnumValue (UInt64.ofNat n)))) :
    (packedEnumField number values).foldlM merge m = some (set values) := by
  unfold packedEnumField
  split
  · next h => simp [h, hdefault]
  · set ns := values.map fun value => (enumValue value).toNat with hns
    have hbytes : (values.flatMap fun value => varint64 (enumValue value).toNat) =
        ns.flatMap varint64 := by
      simp [hns, List.flatMap_map]
    have hlength : ns.length ≤ (ns.flatMap varint64).length := by
      clear_value ns
      clear hns hbytes
      induction ns with
      | nil => simp
      | cons n ns ih =>
        have hpos := List.length_pos_of_ne_nil (varint_ne_nil 9 n)
        simp only [List.flatMap_cons, List.length_append, List.length_cons, varint64] at ih ⊢
        omega
    have hread := readPacked_varints ns _ hlength (by
      intro n hn
      obtain ⟨value, -, rfl⟩ := List.mem_map.mp (hns ▸ hn)
      exact (enumValue value).toNat_lt)
    have hvalues : (ns.map fun n => ofEnumValue (UInt64.ofNat n)) = values := by
      simp [hns, Function.comp_def, ofEnumValue_enumValue]
    rw [hbytes, List.foldlM_cons, hmerge _ ns hread, hvalues]
    rfl

theorem foldlM_optionalMessageField {β : Type} {fields : β → List Field}
    (set : Option β → α) (message : Option β) (hdefault : set none = m)
    (hmerge : ∀ value, message = some value →
      merge m ⟨number, .delimited (encodeFields (fields value))⟩ = some (set (some value))) :
    (optionalMessageField number fields message).foldlM merge m = some (set message) := by
  cases message with
  | none => simp [optionalMessageField, hdefault]
  | some value => simp [optionalMessageField, messageField, hmerge value rfl]

end Merge

/-! ## Lengths -/

theorem length_varint64_le (n : Nat) : (varint64 n).length ≤ 10 := by
  have hgen : ∀ fuel m, (varint fuel m).length ≤ fuel + 1 := by
    intro fuel
    induction fuel with
    | zero => simp [varint]
    | succ fuel ih =>
      intro m
      unfold varint
      split
      · simp
      · have := ih (m / 128)
        simp only [List.length_cons]
        omega
  exact hgen 9 n

theorem encodeFields_append (xs ys : List Field) :
    encodeFields (xs ++ ys) = encodeFields xs ++ encodeFields ys := by
  simp [encodeFields]

theorem length_delimited_le (number : Nat) (contents : Bytes) :
    (encodeFields [⟨number, .delimited contents⟩]).length ≤ 20 + contents.length := by
  have hkey := length_varint64_le (number * 8 + 2)
  have hlen := length_varint64_le contents.length
  simp only [encodeFields, List.flatMap_singleton, Field.encode, List.length_append]
  omega

theorem length_messageField_le (number : Nat) (message : List Field) :
    (encodeFields (messageField number message)).length ≤ 20 + (encodeFields message).length :=
  length_delimited_le number (encodeFields message)

theorem length_bytesField_le (number : Nat) (value : Bytes) :
    (encodeFields (bytesField number value)).length ≤ 20 + value.length := by
  unfold bytesField
  split
  · simp [encodeFields]
  · exact length_delimited_le number value

theorem length_varintField_le (number : Nat) (value : UInt64) :
    (encodeFields [⟨number, .varint value⟩]).length ≤ 20 := by
  have hkey := length_varint64_le (number * 8)
  have hval := length_varint64_le value.toNat
  simp only [encodeFields, List.flatMap_singleton, Field.encode, List.length_append]
  omega

theorem length_uint64Field_le (number : Nat) (value : UInt64) :
    (encodeFields (uint64Field number value)).length ≤ 20 := by
  unfold uint64Field
  split
  · simp [encodeFields]
  · exact length_varintField_le number value

theorem length_enumField_le (number : Nat) (value : Int32) :
    (encodeFields (enumField number value)).length ≤ 20 := by
  unfold enumField
  split
  · simp [encodeFields]
  · exact length_varintField_le number (enumValue value)

theorem length_packedEnumField_le (number : Nat) (values : List Int32) :
    (encodeFields (packedEnumField number values)).length ≤ 20 + 10 * values.length := by
  have hvalues : (values.flatMap fun value => varint64 (enumValue value).toNat).length ≤
      10 * values.length := by
    induction values with
    | nil => simp
    | cons value values ih =>
      have := length_varint64_le (enumValue value).toNat
      simp only [List.flatMap_cons, List.length_append, List.length_cons]
      omega
  unfold packedEnumField
  split
  · simp [encodeFields]
  · have := length_delimited_le number
      (values.flatMap fun value => varint64 (enumValue value).toNat)
    omega

end Protobuf

end Library
