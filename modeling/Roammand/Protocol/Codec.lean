import Roammand.Protocol.Messages

/-!
# Reading protocol messages back

A decoder for the authorization snapshot and the messages nested in it: fields are
merged one by one into the default message, unknown fields are skipped and a known
field of the wrong wire type is an error.

Main results:

- Theorem `HostAuthorizationSnapshot.decode_encode`: a snapshot of representable size is
  read back from its encoding.
-/

namespace Roammand

namespace Protocol

open Library Protobuf

/-- Merge one field into an identity. -/
def DeviceIdentity.merge (m : DeviceIdentity) (field : Field) : Option DeviceIdentity :=
  match field.number, field.value with
  | 1, .delimited b => some { m with deviceId := b }
  | 2, .varint n => some { m with publicKeyAlgorithm := ofEnumValue n }
  | 3, .delimited b => some { m with publicKey := b }
  | 4, .delimited b => (ofUtf8? b).map fun s => { m with displayName := s }
  | 5, .varint n => some { m with platform := ofEnumValue n }
  | number, _ => if 1 ≤ number ∧ number ≤ 5 then none else some m

/-- The identity with every field at its default. -/
def DeviceIdentity.empty : DeviceIdentity :=
  { deviceId := [], publicKeyAlgorithm := 0, publicKey := [], displayName := ""
    platform := 0 }

/-- Merge one field into a grant. -/
def ControllerGrant.merge (m : ControllerGrant) (field : Field) : Option ControllerGrant :=
  match field.number, field.value with
  | 1, .delimited b => some { m with grantId := b }
  | 2, .delimited b => some { m with hostDeviceId := b }
  | 3, .delimited b =>
    (decodeWith DeviceIdentity.merge (m.controller.getD .empty) b).map fun controller =>
      { m with controller := some controller }
  | 4, .varint n => some { m with createdAtUnixMs := n }
  | 5, .varint n => some { m with permissions := m.permissions ++ [ofEnumValue n] }
  | 5, .delimited b => (readPacked b.length b).map fun ns =>
    { m with permissions :=
        m.permissions ++ ns.map fun n => ofEnumValue (UInt64.ofNat n) }
  | number, _ => if 1 ≤ number ∧ number ≤ 5 then none else some m

/-- The grant with every field at its default. -/
def ControllerGrant.empty : ControllerGrant :=
  { grantId := [], hostDeviceId := [], controller := none, createdAtUnixMs := 0
    permissions := [] }

/-- Merge one field into a grant view. -/
def ControllerGrantView.merge (m : ControllerGrantView) (field : Field) :
    Option ControllerGrantView :=
  match field.number, field.value with
  | 1, .delimited b =>
    (decodeWith ControllerGrant.merge (m.grant.getD .empty) b).map fun grant =>
      { m with grant := some grant }
  | 2, .varint n => some { m with lastSuccessfulConnectionAtUnixMs := n }
  | number, _ => if 1 ≤ number ∧ number ≤ 2 then none else some m

/-- The grant view with every field at its default. -/
def ControllerGrantView.empty : ControllerGrantView :=
  { grant := none, lastSuccessfulConnectionAtUnixMs := 0 }

/-- Merge one field into a snapshot. -/
def HostAuthorizationSnapshot.merge (m : HostAuthorizationSnapshot) (field : Field) :
    Option HostAuthorizationSnapshot :=
  match field.number, field.value with
  | 1, .delimited b => some { m with hostDeviceId := b }
  | 2, .delimited b =>
    (decodeWith ControllerGrantView.merge .empty b).map fun view =>
      { m with grants := m.grants ++ [view] }
  | number, _ => if 1 ≤ number ∧ number ≤ 2 then none else some m

/-- Decode a snapshot. -/
def HostAuthorizationSnapshot.decode (bytes : Bytes) : Option HostAuthorizationSnapshot :=
  decodeWith HostAuthorizationSnapshot.merge { hostDeviceId := [], grants := [] } bytes

/-! ## Round trips -/

theorem DeviceIdentity.number_le {m : DeviceIdentity} {f : Field} (h : f ∈ m.fields) :
    f.number ≤ 5 := by
  simp only [fields, stringField, List.mem_append] at h
  rcases h with h | h | h | h | h
  · rw [number_of_mem_bytesField h]; decide
  · rw [number_of_mem_enumField h]; decide
  · rw [number_of_mem_bytesField h]; decide
  · rw [number_of_mem_bytesField h]; decide
  · exact Nat.le_of_eq (number_of_mem_enumField h)

theorem DeviceIdentity.decode_encode (m : DeviceIdentity)
    (hlength : (encodeFields m.fields).length < 2 ^ 64) :
    decodeWith merge empty (encodeFields m.fields) = some m := by
  have hfits := fits_of_length (fun f hf => Nat.lt_of_le_of_lt (number_le hf) (by decide))
    hlength
  rw [decodeWith_encodeFields hfits, fields, stringField]
  obtain ⟨deviceId, algorithm, publicKey, displayName, platform⟩ := m
  refine (foldlM_append_of_some (foldlM_bytesField
    (fun b => (⟨b, 0, [], "", 0⟩ : DeviceIdentity)) deviceId rfl fun b => rfl)).trans ?_
  refine (foldlM_append_of_some (foldlM_enumField
    (fun v => (⟨deviceId, v, [], "", 0⟩ : DeviceIdentity)) algorithm rfl fun n => rfl)).trans ?_
  refine (foldlM_append_of_some (foldlM_bytesField
    (fun b => (⟨deviceId, algorithm, b, "", 0⟩ : DeviceIdentity)) publicKey rfl
      fun b => rfl)).trans ?_
  have hname : (bytesField 4 (utf8 displayName)).foldlM merge
      (⟨deviceId, algorithm, publicKey, "", 0⟩ : DeviceIdentity) =
      some ⟨deviceId, algorithm, publicKey, displayName, 0⟩ := by
    have hread := ofUtf8?_utf8 displayName
    unfold bytesField
    split
    · next hempty =>
      rw [hempty] at hread
      have hnil : ofUtf8? [] = some "" := ofUtf8?_utf8 ""
      rw [← Option.some.inj (hnil.symm.trans hread)]
      rfl
    · simp [merge, hread]
  refine (foldlM_append_of_some hname).trans ?_
  exact foldlM_enumField
    (fun v => (⟨deviceId, algorithm, publicKey, displayName, v⟩ : DeviceIdentity)) platform
    rfl fun n => rfl

theorem ControllerGrant.number_le {m : ControllerGrant} {f : Field} (h : f ∈ m.fields) :
    f.number ≤ 5 := by
  simp only [fields, List.mem_append] at h
  rcases h with h | h | h | h | h
  · rw [number_of_mem_bytesField h]; decide
  · rw [number_of_mem_bytesField h]; decide
  · rw [number_of_mem_optionalMessageField h]; decide
  · rw [number_of_mem_uint64Field h]; decide
  · exact Nat.le_of_eq (number_of_mem_packedEnumField h)

theorem ControllerGrant.decode_encode (m : ControllerGrant)
    (hlength : (encodeFields m.fields).length < 2 ^ 64) :
    decodeWith merge empty (encodeFields m.fields) = some m := by
  have hfits := fits_of_length (fun f hf => Nat.lt_of_le_of_lt (number_le hf) (by decide))
    hlength
  rw [decodeWith_encodeFields hfits]
  have hnested : ∀ identity, m.controller = some identity →
      (encodeFields identity.fields).length < 2 ^ 64 := by
    intro identity hidentity
    have hmem : (⟨3, .delimited (encodeFields identity.fields)⟩ : Field) ∈ m.fields := by
      simp [fields, hidentity, optionalMessageField, messageField]
    exact Nat.lt_of_le_of_lt (length_contents_le hmem) hlength
  rw [fields]
  obtain ⟨grantId, hostDeviceId, controller, createdAt, permissions⟩ := m
  refine (foldlM_append_of_some (foldlM_bytesField
    (fun b => (⟨b, [], none, 0, []⟩ : ControllerGrant)) grantId rfl fun b => rfl)).trans ?_
  refine (foldlM_append_of_some (foldlM_bytesField
    (fun b => (⟨grantId, b, none, 0, []⟩ : ControllerGrant)) hostDeviceId rfl fun b => rfl)).trans
      ?_
  refine (foldlM_append_of_some (foldlM_optionalMessageField
    (fun c => (⟨grantId, hostDeviceId, c, 0, []⟩ : ControllerGrant)) controller rfl
    fun identity hidentity => by
      simp [merge, DeviceIdentity.decode_encode identity (hnested identity hidentity)])).trans ?_
  refine (foldlM_append_of_some (foldlM_uint64Field
    (fun t => (⟨grantId, hostDeviceId, controller, t, []⟩ : ControllerGrant)) createdAt rfl
    fun n => rfl)).trans ?_
  exact foldlM_packedEnumField
    (fun ps => (⟨grantId, hostDeviceId, controller, createdAt, ps⟩ : ControllerGrant))
    permissions rfl fun b ns hread => by simp [merge, hread]

theorem ControllerGrantView.decode_encode (m : ControllerGrantView)
    (hlength : (encodeFields m.fields).length < 2 ^ 64) :
    decodeWith merge empty (encodeFields m.fields) = some m := by
  have hnumber : ∀ f ∈ m.fields, f.number < 2 ^ 32 := by
    intro f h
    simp only [fields, List.mem_append] at h
    rcases h with h | h
    · rw [number_of_mem_optionalMessageField h]; decide
    · rw [number_of_mem_uint64Field h]; decide
  rw [decodeWith_encodeFields (fits_of_length hnumber hlength)]
  have hnested : ∀ grant, m.grant = some grant →
      (encodeFields grant.fields).length < 2 ^ 64 := by
    intro grant hgrant
    have hmem : (⟨1, .delimited (encodeFields grant.fields)⟩ : Field) ∈ m.fields := by
      simp [fields, hgrant, optionalMessageField, messageField]
    exact Nat.lt_of_le_of_lt (length_contents_le hmem) hlength
  rw [fields]
  obtain ⟨grant, last⟩ := m
  refine (foldlM_append_of_some (foldlM_optionalMessageField
    (fun g => (⟨g, 0⟩ : ControllerGrantView)) grant rfl fun value hvalue => by
      simp [merge, ControllerGrant.decode_encode value (hnested value hvalue)])).trans ?_
  exact foldlM_uint64Field (fun t => (⟨grant, t⟩ : ControllerGrantView)) last rfl fun n => rfl

/-- A snapshot of representable size is read back from its encoding. -/
theorem HostAuthorizationSnapshot.decode_encode (m : HostAuthorizationSnapshot)
    (hlength : m.encode.length < 2 ^ 64) : decode m.encode = some m := by
  have hnumber : ∀ f ∈ m.fields, f.number < 2 ^ 32 := by
    intro f h
    simp only [fields, messageField, List.mem_append, List.mem_flatMap, List.mem_singleton] at h
    rcases h with h | ⟨view, -, rfl⟩
    · rw [number_of_mem_bytesField h]; decide
    · exact (by decide : 2 < 2 ^ 32)
  have hnested : ∀ view ∈ m.grants, (encodeFields view.fields).length < 2 ^ 64 := by
    intro view hview
    have hmem : (⟨2, .delimited (encodeFields view.fields)⟩ : Field) ∈ m.fields := by
      simp only [fields, messageField, List.mem_append, List.mem_flatMap, List.mem_singleton]
      exact .inr ⟨view, hview, rfl⟩
    exact Nat.lt_of_le_of_lt (length_contents_le hmem) hlength
  unfold decode encode
  rw [decodeWith_encodeFields (fits_of_length hnumber hlength), fields]
  obtain ⟨hostDeviceId, grants⟩ := m
  refine (foldlM_append_of_some (foldlM_bytesField
    (fun b => (⟨b, []⟩ : HostAuthorizationSnapshot)) hostDeviceId rfl fun b => rfl)).trans ?_
  have hgrants : ∀ (views done : List ControllerGrantView),
      (∀ view ∈ views, (encodeFields view.fields).length < 2 ^ 64) →
      (views.flatMap fun view => messageField 2 view.fields).foldlM merge
        (⟨hostDeviceId, done⟩ : HostAuthorizationSnapshot) =
        some ⟨hostDeviceId, done ++ views⟩ := by
    intro views
    induction views with
    | nil => simp
    | cons view views ih =>
      intro done hviews
      have hview := ControllerGrantView.decode_encode view (hviews view (by simp))
      have hone : (messageField 2 view.fields).foldlM merge
          (⟨hostDeviceId, done⟩ : HostAuthorizationSnapshot) =
          some ⟨hostDeviceId, done ++ [view]⟩ := by
        simp [messageField, merge, hview]
      rw [List.flatMap_cons, foldlM_append_of_some hone]
      rw [ih _ fun v hv => hviews v (List.mem_cons_of_mem _ hv)]
      simp
  simpa using hgrants grants [] hnested

end Protocol

end Roammand
