import Roammand.Host.LocalIpc
import Roammand.Host.PairingInvariant

/-!
# What is shown of a pairing is short

The published view of a pairing holds texts and byte strings that came from outside: the
endpoint of a request, the identity of a controller, the words of the transcript.  Each of them
has been checked against its limit on the way in, so the view has a bounded encoding.

Main results:

- Definition `HostPairingCoordinator.Modest`: what is bounded about a pairing.
- Theorem `PairingHost.step_modest`: every action keeps it.
- Theorem `HostPairingCoordinator.Modest.length_le`: what is shown of a pairing is short.
-/

namespace Roammand

namespace Host

open Library Protocol Protobuf Fallible

/-! ## Bounded attempts -/

/-- An attempt of this Host whose texts and byte strings are bounded. -/
structure ModestAttempt (active : ActivePairing) : Prop where
  rendezvousId : active.invitation.rendezvousId.length ≤ 16
  hostIdentity : ∀ identity, active.invitation.hostIdentity = some identity →
    validateDeviceIdentity identity = .ok ()
  fingerprint : active.invitation.hostPublicKeyFingerprintSha256.length ≤ 32
  ephemeral : active.invitation.hostEphemeralPublicKey.length ≤ 32
  endpoint : (utf8 active.invitation.signalingEndpoint).length ≤ maxSignalingEndpointUtf8Bytes
  code : (utf8 active.invitation.pairingCode).length ≤ 8
  controller : ∀ controller, active.controller = some controller →
    validateDeviceIdentity controller = .ok ()
  wordCount : active.sasWords.length ≤ 4
  words : ∀ word ∈ active.sasWords, (utf8 word).length ≤ 8

namespace HostPairingCoordinator

/-- The attempt is bounded, and the error that is shown is the known one. -/
structure Modest (c : HostPairingCoordinator) : Prop where
  host : validateDeviceIdentity c.hostIdentity = .ok ()
  attempt : ∀ active, c.active = some active → ModestAttempt active
  error : c.status.error = none ∨ c.status.error = some pairingFailedError

variable {c c' : HostPairingCoordinator}

/-- A change of neither the attempt nor the error keeps a modest pairing. -/
theorem Modest.of_unseen (h : c.Modest) (hhost : c'.hostIdentity = c.hostIdentity)
    (hactive : c'.active = c.active) (hstatus : c'.status = c.status) : c'.Modest := by
  refine ⟨?_, ?_, ?_⟩
  · rw [hhost]
    exact h.host
  · rw [hactive]
    exact h.attempt
  · rw [hstatus]
    exact h.error

theorem push_modest (item : PairingOutbound) (c : HostPairingCoordinator) :
    Carried Modest c (push item c) := fun h => h.of_unseen rfl rfl rfl

theorem record_modest (use : CipherUse) (c : HostPairingCoordinator) :
    Carried Modest c (record use c) := fun h => h.of_unseen rfl rfl rfl

theorem abandon_modest (active : ActivePairing) (c : HostPairingCoordinator) :
    Carried Modest c (abandon active c) := by
  unfold abandon
  split
  · exact fun h => h.of_unseen rfl rfl rfl
  · exact push_modest _ _

/-- The end of an attempt shows the known error or none. -/
theorem finish_modest (state : HostPairingState) {error : Option UnifiedError}
    (herror : error = none ∨ error = some pairingFailedError) (c : HostPairingCoordinator) :
    Carried Modest c (finish state error c) :=
  fun h => ⟨h.host, (fun _ hactive => nomatch hactive), herror⟩

/-- Publishing shows no error. -/
theorem publishActive_modest {crypto : Crypto} (state : HostPairingState) (h : c.Modest) :
    (publishActive crypto state c).Modest := by
  unfold publishActive
  cases hactive : c.active with
  | none => exact h
  | some active => exact ⟨h.host, fun _ hsome => h.attempt _ hsome, .inl rfl⟩

variable (crypto : PairingCrypto) (signingIdentity : HostIdentity) {active : ActivePairing}

theorem setActive_modest (h : c.Modest) (hactive : ModestAttempt active) :
    (setActive active c).Modest :=
  ⟨h.host, fun _ hsome => Option.some.inj hsome ▸ hactive, h.error⟩

theorem tick_modest (nowUnixMs : UInt64) (c : HostPairingCoordinator) :
    Carried Modest c (tick nowUnixMs c) := by
  unfold tick
  cases c.active with
  | none => exact id
  | some active =>
    dsimp only
    split
    · exact id
    · exact fun h => finish_modest .expired (.inl rfl) _ (abandon_modest active c h)

theorem failActive_modest (c : HostPairingCoordinator) : Carried Modest c (failActive c) := by
  unfold failActive
  refine fun h => finish_modest .failed (.inr rfl) _ ?_
  cases c.active with
  | none => exact h
  | some active =>
    dsimp only
    split
    · exact h
    · exact push_modest _ c h

theorem signalingLost_modest (c : HostPairingCoordinator) : Carried Modest c (signalingLost c) := by
  intro h
  have hlost : Modest { c with signalingConnected := false, pendingCancelledCreate := none } :=
    h.of_unseen rfl rfl rfl
  unfold signalingLost
  dsimp only
  split
  · exact finish_modest .failed (.inr rfl) _ hlost
  · exact hlost

theorem shutdown_modest (c : HostPairingCoordinator) : Carried Modest c (shutdown c) := by
  intro h
  have hstopped : Modest { c with
      signalingConnected := false, pendingCancelledCreate := none, outbound := [] } :=
    h.of_unseen rfl rfl rfl
  unfold shutdown
  dsimp only
  split
  · exact finish_modest .cancelled (.inl rfl) _ hstopped
  · exact hstopped

theorem returnToIdle_modest : Keeps (Carried Modest) returnToIdle :=
  .bind .get fun _ => .bind .require fun _ => .modify fun _ h =>
    ⟨h.host, h.attempt, .inl rfl⟩

/-- A desktop code has eight letters of one byte each. -/
theorem length_desktopCode (random : Vector UInt8 5) : (utf8 (desktopCode random)).length ≤ 8 := by
  have halphabet : base32Alphabet.all (·.toNat < 128) = true := by decide
  have hshort : ∀ char ∈ (desktopCode random).toList, char.toNat < 128 := by
    intro char hchar
    unfold desktopCode at hchar
    rw [String.toList_ofList] at hchar
    obtain ⟨index, -, rfl⟩ := List.mem_map.mp hchar
    generalize ofBigEndian random.toList / 2 ^ ((7 - index) * 5) % 32 = position
    rw [List.getD_eq_getElem?_getD]
    cases hget : base32Alphabet[position]? with
    | none => decide
    | some letter =>
      exact of_decide_eq_true (List.all_eq_true.mp halphabet _ (List.mem_of_getElem? hget))
  rw [utf8_of_lt hshort, List.length_map]
  unfold desktopCode
  rw [String.toList_ofList, List.length_map, List.length_range]

/-- A new attempt is bounded, for the endpoint was checked. -/
theorem start_modest {validEndpoint : String → Bool}
    (hendpoint : ∀ endpoint, validEndpoint endpoint = true →
      (utf8 endpoint).length ≤ maxSignalingEndpointUtf8Bytes)
    (kind : PairingInvitationKind) (signalingEndpoint : String) (nowUnixMs : UInt64)
    (draws : PairingDraws) :
    Keeps (Carried Modest) (start crypto validEndpoint kind signalingEndpoint nowUnixMs draws) := by
  refine .of_carried fun c₀ hc₀ => ?_
  rw [start, wp_get_bind, wp_bind, wp_require]
  refine ⟨fun _ => ?_, fun _ => hc₀⟩
  rw [andThen_ok, wp_bind]
  have hidle : Keeps (Carried Modest) (onlyIf (c₀.status.state ≠ .idle) returnToIdle) :=
    .onlyIf returnToIdle_modest
  refine wp_mono (hidle c₀) ?_
  intro r c hcarried
  have hc : c.Modest := hcarried hc₀
  rcases r with e | ⟨⟩
  · exact hc
  rw [andThen_ok, wp_bind, wp_require]
  refine ⟨fun hvalid => ?_, fun _ => hc⟩
  rw [andThen_ok, wp_bind, wp_orThrow]
  refine ⟨fun expires _ => ?_, fun _ => hc⟩
  rw [andThen_ok, wp_bind, wp_orThrow]
  refine ⟨fun rendezvousId _ => ?_, fun _ => hc⟩
  rw [andThen_ok, wp_bind, wp_orThrow]
  refine ⟨fun privateKey _ => ?_, fun _ => hc⟩
  rw [andThen_ok, wp_bind, wp_ofResult, x25519PublicKey_toList, Except.mapError,
    andThen_ok, wp_bind]
  refine wp_mono (drawDesktopCode_ok (c := c)) ?_
  rintro r _ ⟨rfl, hcode⟩
  rcases r with e | code
  · exact hc
  simp only [andThen_ok, wp_bind, wp_modify, wp_get, wp_pure]
  refine publishActive_modest .creating (push_modest _ _ (record_modest _ _ ?_))
  refine ⟨hc.host, fun active hactive => ?_, hc.error⟩
  rw [← Option.some.inj hactive]
  refine ⟨le_of_eq rendezvousId.length_toList, fun identity hidentity => ?_,
    le_of_eq Vector.length_toList, le_of_eq Vector.length_toList, hendpoint _ hvalid.2, ?_,
    fun _ h => (by cases h), Nat.zero_le _, List.forall_mem_nil _⟩
  · rw [← Option.some.inj hidentity]
    exact hc₀.host
  · rcases hcode code rfl with ⟨-, rfl⟩ | ⟨random, -, rfl⟩
    · exact Nat.zero_le 8
    · exact length_desktopCode random

variable (rendezvousId : Bytes)

theorem cancel_modest : Keeps (Carried Modest) (cancel rendezvousId) :=
  .bind .get fun _ => .bind .orThrow fun active => .bind .require fun _ =>
    .bind (.modify (abandon_modest active)) fun _ => .modify (finish_modest .cancelled (.inl rfl))

theorem ensureWaitingDecision_modest (rendezvousId controllerDeviceId : Bytes)
    (nowUnixMs : UInt64) :
    Keeps (Carried Modest) (ensureWaitingDecision rendezvousId controllerDeviceId nowUnixMs) :=
  .bind (.modify (tick_modest nowUnixMs)) fun _ => .bind .get fun _ => .bind .orThrow fun _ =>
    .bind .require fun _ => .pure _

theorem encryptFinalDecision_modest (status : PairingDecisionStatus)
    (grant : Option ControllerGrant) :
    Keeps (Carried Modest) (encryptFinalDecision crypto status grant) :=
  .bind .get fun _ => .bind .orThrow fun _ => .bind .orThrow fun _ => .bind .orThrow fun _ =>
    .bind (.modify (record_modest _)) fun _ => .ofResult

theorem reject_modest (rendezvousId controllerDeviceId : Bytes) (nowUnixMs : UInt64) :
    Keeps (Carried Modest) (reject crypto rendezvousId controllerDeviceId nowUnixMs) :=
  .bind (ensureWaitingDecision_modest _ _ _) fun _ =>
    .bind (encryptFinalDecision_modest _ _ _) fun _ => .bind (.modify (push_modest _)) fun _ =>
    .bind (.modify (push_modest _)) fun _ => .modify (finish_modest .rejected (.inl rfl))

theorem handleCreated_modest
    (kind : PairingRendezvousKind) (serverExpiresAtUnixMs nowUnixMs : UInt64) :
    Keeps (Carried Modest)
      (handleCreated crypto rendezvousId kind serverExpiresAtUnixMs nowUnixMs) := by
  refine .of_carried fun c hc => ?_
  simp only [handleCreated, wp_bind, wp_get, andThen_ok, andThen_error, wp_ite, wp_orThrow,
    wp_require, wp_modify]
  refine ⟨fun _ => push_modest _ _ (hc.of_unseen rfl rfl rfl), fun _ => ⟨fun active hactive =>
    ⟨fun _ => publishActive_modest .inviting (setActive_modest hc ?_), fun _ => hc⟩, fun _ => hc⟩⟩
  obtain ⟨hid, hidentity, hfingerprint, hephemeral, hendpoint, hcode, hcontroller, hcount, hwords⟩
    := hc.attempt active hactive
  exact ⟨hid, hidentity, hfingerprint, hephemeral, hendpoint, hcode, hcontroller, hcount, hwords⟩

theorem handleJoined_modest (rendezvousId peerDeviceId : Bytes)
    (expiresAtUnixMs nowUnixMs : UInt64) :
    Keeps (Carried Modest)
      (handleJoined crypto rendezvousId peerDeviceId expiresAtUnixMs nowUnixMs) := by
  refine .of_carried fun c hc => ?_
  simp only [handleJoined, wp_bind, wp_get, andThen_ok, andThen_error, wp_orThrow, wp_require,
    wp_modify, wp_onlyIf]
  refine ⟨fun active hactive => ⟨fun _ => ?_, fun _ => hc⟩, fun _ => hc⟩
  obtain ⟨hid, hidentity, hfingerprint, hephemeral, hendpoint, hcode, hcontroller, hcount, hwords⟩
    := hc.attempt active hactive
  have hjoined : (setActive { active with
      peerDeviceId := some peerDeviceId, phase := .waitingHello } c).Modest :=
    setActive_modest hc
      ⟨hid, hidentity, hfingerprint, hephemeral, hendpoint, hcode, hcontroller, hcount, hwords⟩
  exact ⟨fun _ => publishActive_modest .verifyingController (push_modest _ _ hjoined),
    fun _ => publishActive_modest .verifyingController hjoined⟩

/-- The words of a pairing are four short ones, or none. -/
theorem sasWordsFor_ok {crypto : PairingCrypto} {kind : PairingInvitationKind}
    {transcriptSha256 : Bytes} {words : List String}
    (h : sasWordsFor crypto kind transcriptSha256 = .ok words) :
    words.length ≤ 4 ∧ ∀ word ∈ words, (utf8 word).length ≤ 8 := by
  unfold sasWordsFor at h
  split_ifs at h
  · unfold pairingSasWords sasWords at h
    obtain ⟨_, hlist, h⟩ := bind_eq_ok.mp (mapError_eq_ok.mp h)
    obtain ⟨indexes, hindexes, h⟩ := bind_eq_ok.mp h
    unfold ensure at hlist
    split_ifs at hlist with hwords
    obtain rfl := Except.ok.inj h
    have hcount : indexes.length = 4 := by
      unfold sasIndexes at hindexes
      obtain ⟨_, -, hindexes⟩ := bind_eq_ok.mp hindexes
      rw [← Except.ok.inj hindexes]
      rfl
    refine ⟨by rw [List.length_map, hcount], fun word hword => ?_⟩
    obtain ⟨index, -, rfl⟩ := List.mem_map.mp hword
    rw [List.getD_eq_getElem?_getD]
    cases hget : crypto.wordList[index.toNat]? with
    | none => exact Nat.zero_le 8
    | some word => exact (hwords.2 word (List.mem_of_getElem? hget)).2.1
  · obtain rfl := Except.ok.inj h
    exact ⟨Nat.zero_le 4, List.forall_mem_nil _⟩

theorem handleControllerHello_modest (hello : ControllerPairingHello) (senderDeviceId : Bytes)
    (hc : c.Modest) (hactive : c.active = some active) :
    wp (handleControllerHello crypto signingIdentity active hello senderDeviceId)
      (fun _ c' => c'.Modest) c := by
  simp only [handleControllerHello, wp_bind, wp_get, andThen_ok, wp_ofResult]
  cases hverified : verifyControllerHello crypto hello senderDeviceId
      active.invitation.rendezvousId c.hostIdentity active.hostEphemeralPrivateKey.toList
      active.invitation.hostEphemeralPublicKey with
  | error e => exact hc
  | ok verified =>
  simp only [Except.mapError, andThen_ok, wp_bind, wp_modify, wp_ofResult]
  cases signingIdentity.signPairingTranscript crypto verified.transcript .host with
  | error e => exact record_modest _ c hc
  | ok signature =>
  simp only [andThen_ok, wp_bind, sealForController, wp_modify, wp_ofResult]
  have hrecorded : ∀ use use', (record use' (record use c)).Modest := fun use use' =>
    record_modest use' _ (record_modest use c hc)
  cases sealHostPlaintext crypto verified.keys.hostToController.toList 1
      active.invitation.rendezvousId verified.controller.deviceId c.hostIdentity.deviceId
      (.hostProof
        { confirmation := some (confirmationData verified active
            (active.invitation.hostIdentity.getD c.hostIdentity))
          hostSignature := signature
          expiresAtUnixMs := active.invitation.expiresAtUnixMs }) with
  | error e => exact hrecorded _ _
  | ok encrypted =>
  simp only [Except.mapError, andThen_ok, wp_bind, wp_ofResult]
  cases hwords : sasWordsFor crypto active.invitation.kind verified.transcriptSha256.toList with
  | error e => exact hrecorded _ _
  | ok words =>
  simp only [andThen_ok, wp_bind, wp_modify]
  obtain ⟨hcount, hshort⟩ := sasWordsFor_ok hwords
  obtain ⟨hid, hidentity, hfingerprint, hephemeral, hendpoint, hcode, -, -, -⟩ :=
    hc.attempt active hactive
  refine push_modest _ _ (setActive_modest (hrecorded _ _)
    ⟨hid, hidentity, hfingerprint, hephemeral, hendpoint, hcode, fun controller hsome => ?_,
      hcount, hshort⟩)
  rw [← Option.some.inj hsome]
  exact (verifyControllerHello_ok hverified).valid

theorem handleControllerReady_modest
    (opaqueEnvelope : Bytes) (hc : c.Modest) (hactive : c.active = some active) :
    wp (handleControllerReady crypto active opaqueEnvelope) (fun _ c' => c'.Modest) c := by
  simp only [handleControllerReady, wp_bind, wp_get, andThen_ok, andThen_error, wp_orThrow]
  refine ⟨fun controller _ => ⟨fun keys _ => ?_, fun _ => hc⟩, fun _ => hc⟩
  simp only [openFromController, wp_bind, wp_ofResult]
  cases openControllerPlaintext crypto keys.controllerToHost.toList 1
      active.invitation.rendezvousId controller.deviceId c.hostIdentity.deviceId
      opaqueEnvelope with
  | error e => exact hc
  | ok plaintext =>
  simp only [Except.mapError, andThen_ok, andThen_error, wp_bind, wp_modify, wp_pure, wp_orThrow,
    wp_require]
  refine ⟨fun ready _ => ⟨fun _ => ?_, fun _ => record_modest _ c hc⟩,
    fun _ => record_modest _ c hc⟩
  obtain ⟨hid, hidentity, hfingerprint, hephemeral, hendpoint, hcode, hcontroller, hcount, hwords⟩
    := hc.attempt active hactive
  exact publishActive_modest .waitingLocalDecision (setActive_modest (record_modest _ c hc)
    ⟨hid, hidentity, hfingerprint, hephemeral, hendpoint, hcode, hcontroller, hcount, hwords⟩)

theorem handleRoutedInner_modest (rendezvousId senderDeviceId opaqueEnvelope : Bytes) :
    Keeps (Carried Modest) (handleRoutedInner crypto signingIdentity rendezvousId
      senderDeviceId opaqueEnvelope) := by
  refine .of_carried fun c hc => ?_
  simp only [handleRoutedInner, wp_bind, wp_get, andThen_ok, andThen_error, wp_orThrow, wp_require]
  refine ⟨fun active hactive => ⟨fun _ => ?_, fun _ => hc⟩, fun _ => hc⟩
  cases active.phase with
  | waitingHello =>
    simp only [wp_bind, wp_ofResult]
    cases decodePairingMessage crypto opaqueEnvelope with
    | error e => exact hc
    | ok message =>
    simp only [Except.mapError, andThen_ok, andThen_error, wp_bind, wp_orThrow]
    exact ⟨fun hello _ => handleControllerHello_modest _ _ _ _ hc hactive, fun _ => hc⟩
  | waitingReady => exact handleControllerReady_modest _ _ hc hactive
  | creating => exact hc
  | inviting => exact hc
  | waitingDecision => exact hc

theorem handleRouted_modest (rendezvousId senderDeviceId opaqueEnvelope : Bytes) :
    Keeps (Carried Modest) (handleRouted crypto signingIdentity rendezvousId
      senderDeviceId opaqueEnvelope) := by
  refine .bind (handleRoutedInner_modest _ _ _ _ _).outcome fun result => ?_
  cases result with
  | ok _ => exact .pure _
  | error e =>
    exact .bind .get fun c => .bind (.onlyIf (.modify failActive_modest)) fun _ => .throw _

theorem handleClosed_modest (completion : PairingRendezvousCompletion) :
    Keeps (Carried Modest) (handleClosed rendezvousId completion) := by
  refine .bind .get fun c => .ite (.pure _) ?_
  refine .bind .orThrow fun active => .bind .require fun _ => .modify (finish_modest _ ?_)
  split_ifs
  · exact .inr rfl
  · exact .inl rfl

theorem handleSignalingEvent_modest (event : SignalingEvent) (nowUnixMs : UInt64) :
    Keeps (Carried Modest) (handleSignalingEvent crypto signingIdentity event nowUnixMs) := by
  refine .bind (.modify (tick_modest nowUnixMs)) fun _ => ?_
  cases event with
  | pairingCreated rendezvousId kind expiresAtUnixMs => exact handleCreated_modest _ _ _ _ _
  | pairingJoined rendezvousId peerDeviceId expiresAtUnixMs => exact handleJoined_modest _ _ _ _ _
  | routedPairing rendezvousId senderDeviceId opaqueEnvelope => exact handleRouted_modest _ _ _ _ _
  | pairingClosed rendezvousId completion => exact handleClosed_modest _ _
  | remoteError code requestId =>
    exact .bind .get fun c => .ite (.modify failActive_modest) (.throw _)
  | registered _ => exact .throw _
  | heartbeatAcknowledged _ _ => exact .throw _
  | routedSession _ _ => exact .throw _

/-! ## The length of the view -/

/-- The encoding of a bounded invitation is short. -/
theorem length_invitation_le (h : ModestAttempt active) :
    (encodeFields active.invitation.fields).length ≤ 2800 := by
  obtain ⟨hid, hidentity, hfingerprint, hephemeral, hendpoint, hcode, -, -, -⟩ := h
  have h1 := length_optionalMessageField_le 1 ProtocolVersion.fields
    active.invitation.protocolVersion _ fun version _ => length_version_le version
  have h2 := length_enumField_le 2 active.invitation.kind.toInt32
  have h3 := length_bytesField_le 3 active.invitation.rendezvousId
  have h4 := length_optionalMessageField_le 4 DeviceIdentity.fields
    active.invitation.hostIdentity _
    fun identity hsome => length_encode_identity_le (hidentity identity hsome)
  have h5 := length_bytesField_le 5 active.invitation.hostPublicKeyFingerprintSha256
  have h6 := length_bytesField_le 6 active.invitation.hostEphemeralPublicKey
  have h7 := length_stringField_le 7 active.invitation.signalingEndpoint
  have h8 := length_stringField_le 8 active.invitation.pairingCode
  have h9 := length_uint64Field_le 9 active.invitation.issuedAtUnixMs
  have h10 := length_uint64Field_le 10 active.invitation.expiresAtUnixMs
  rw [maxSignalingEndpointUtf8Bytes] at hendpoint
  simp only [HostPairingInvitation.fields, encodeFields_append, List.length_append]
  omega

/-- The encoding of the view of a bounded pairing is short. -/
theorem Modest.length_le {crypto : Crypto} (h : c.Modest) (hconsistent : Consistent crypto c) :
    (encodeFields c.status.fields).length ≤ 4000 := by
  have hview : (encodeFields (optionalMessageField 3 HostPairingInvitation.fields
        c.status.invitation)).length ≤ 2820 ∧
      (encodeFields (optionalMessageField 4 DeviceIdentity.fields
        c.status.pendingController)).length ≤ 320 ∧
      c.status.pendingControllerFingerprintSha256.length ≤ 32 ∧
      c.status.sasWords.length ≤ 4 ∧ ∀ word ∈ c.status.sasWords, (utf8 word).length ≤ 8 := by
    cases hactive : c.active with
    | none =>
      obtain ⟨state, error, -, hstatus⟩ := hconsistent.ended hactive
      rw [hstatus]
      exact ⟨Nat.zero_le _, Nat.zero_le _, Nat.zero_le _, Nat.zero_le _,
        List.forall_mem_nil _⟩
    | some active =>
      have hmodest := h.attempt active hactive
      rw [(hconsistent.attempt active hactive).2]
      refine ⟨length_optionalMessageField_le 3 HostPairingInvitation.fields _ 2800
        fun invitation hsome => ?_, ?_⟩
      · rw [← Option.some.inj hsome]
        exact length_invitation_le hmodest
      by_cases hdeciding : active.phase = .waitingDecision
      · simp only [ActivePairing.snapshot, if_pos hdeciding]
        refine ⟨length_optionalMessageField_le 4 DeviceIdentity.fields _ 300
          fun controller hsome => length_encode_identity_le (hmodest.controller _ hsome), ?_,
          hmodest.wordCount, hmodest.words⟩
        cases active.controller with
        | none => exact Nat.zero_le _
        | some controller => exact le_of_eq (Vector.length_toList)
      · simp only [ActivePairing.snapshot, if_neg hdeciding]
        exact ⟨Nat.zero_le _, Nat.zero_le _, Nat.zero_le _, List.forall_mem_nil _⟩
  obtain ⟨h3, h4, hfingerprint, hcount, hwords⟩ := hview
  have h1 := length_enumField_le 1 c.status.state.toInt32
  have h2 := length_uint64Field_le 2 c.status.revision
  have h5 := length_bytesField_le 5 c.status.pendingControllerFingerprintSha256
  have h6 := length_texts_le 6 8 hwords
  have h7 := length_uint64Field_le 7 c.status.expiresAtUnixMs
  have herror : ∀ error, c.status.error = some error →
      (encodeFields error.fields).length ≤ 80 + 64 := by
    intro error hsome
    refine length_error_le ?_
    rcases h.error with hnone | hknown
    · rw [hnone] at hsome
      cases hsome
    · rw [hknown] at hsome
      rw [← Option.some.inj hsome]
      decide
  have h8 := length_optionalMessageField_le 8 UnifiedError.fields c.status.error _ herror
  simp only [HostPairingStatusSnapshot.fields, encodeFields_append, List.length_append]
  omega

/-- What a start returns is what it shows. -/
theorem start_returns (validEndpoint : String → Bool)
    (kind : PairingInvitationKind) (signalingEndpoint : String) (nowUnixMs : UInt64)
    (draws : PairingDraws) (c : HostPairingCoordinator) :
    wp (start crypto validEndpoint kind signalingEndpoint nowUnixMs draws)
      (fun r c' => ∀ snapshot, r = .ok snapshot → snapshot = c'.status) c := by
  unfold start
  iterate 9 refine wp_bind_last (fun _ c => ?_) c
  dsimp only
  iterate 4 refine wp_bind_last (fun _ c => ?_) c
  rw [wp_get_bind, wp_pure]
  rintro _ ⟨⟩
  rfl

end HostPairingCoordinator

namespace PairingHost

open HostPairingCoordinator

/-- The coordinator's part of a relation between two points of an operation. -/
def CarriesModest (s s' : PairingHost) : Prop := Carried Modest s.pairing s'.pairing

instance : IsPreorder PairingHost CarriesModest where
  refl _ := id
  trans _ _ _ h h' := h' ∘ h

theorem onPairing_modest {α : Type} {m : HostPairingCoordinator.Operation α}
    (h : Keeps (Carried Modest) m) : Keeps CarriesModest (onPairing m) :=
  fun s => h s.pairing

variable (crypto : PairingCrypto) (rendezvousId controllerDeviceId : Bytes) (nowUnixMs : UInt64)
  (faults : FileFaults)

variable (random : Nat → Option (Vector UInt8 16))

theorem accept_modest :
    Keeps CarriesModest
      (accept crypto rendezvousId controllerDeviceId nowUnixMs faults random) := by
  refine .bind (onPairing_modest (ensureWaitingDecision_modest _ _ _)) fun active =>
    .bind .orThrow fun controller => .bind (fun s => id) fun result => .bind ?_ fun grant =>
    .bind (onPairing_modest (encryptFinalDecision_modest _ _ _)) fun encrypted =>
    .bind (onPairing_modest (.modify (push_modest _))) fun _ =>
    .bind (onPairing_modest (.modify (push_modest _))) fun _ =>
    onPairing_modest (.modify (finish_modest .accepted (.inl rfl)))
  cases result with
  | ok view => exact .orThrow
  | error e => exact .bind (onPairing_modest (.modify failActive_modest)) fun _ => .throw _

variable {setting : Setting}

/-- Every action keeps a bounded pairing, where only bounded endpoints are valid. -/
theorem step_modest (hendpoint : ∀ endpoint, setting.validEndpoint endpoint = true →
      (utf8 endpoint).length ≤ maxSignalingEndpointUtf8Bytes) (s : PairingHost)
    (a : PairingAction) : Carried Modest s.pairing (step setting s a).1.pairing := by
  have hperform : ∀ {α : Type} {m : Operation α}, Keeps CarriesModest m →
      Carried Modest s.pairing (perform m s).1.pairing := fun h => h s
  cases a with
  | signalingConnected =>
    exact hperform (onPairing_modest (.modify fun _ h => h.of_unseen rfl rfl rfl))
  | signalingLost => exact hperform (onPairing_modest (.modify signalingLost_modest))
  | shutdown => exact hperform (onPairing_modest (.modify shutdown_modest))
  | takeOutbound => exact fun h => h.of_unseen rfl rfl rfl
  | tick nowUnixMs => exact hperform (onPairing_modest (.modify (tick_modest nowUnixMs)))
  | returnToIdle => exact hperform (onPairing_modest returnToIdle_modest)
  | start kind signalingEndpoint nowUnixMs draws =>
    exact hperform (onPairing_modest (start_modest _ hendpoint _ _ _ _))
  | event event nowUnixMs =>
    exact hperform (onPairing_modest (handleSignalingEvent_modest _ _ _ _))
  | accept rendezvousId controllerDeviceId nowUnixMs faults random =>
    exact hperform (accept_modest _ _ _ _ _ _)
  | reject rendezvousId controllerDeviceId nowUnixMs =>
    exact hperform (onPairing_modest (reject_modest _ _ _ _))
  | cancel rendezvousId => exact hperform (onPairing_modest (cancel_modest _))

/-- A Host whose pairing is bounded and whose grants are well formed. -/
structure Bounded (crypto : Crypto) (s : PairingHost) : Prop where
  consistent : Consistent crypto s.pairing
  modest : s.pairing.Modest
  grants : s.authorization.registry.WellFormed crypto

theorem onPairing_bounded {crypto : Crypto} {α : Type} {m : HostPairingCoordinator.Operation α}
    (hpublishes : Keeps (Publishes crypto) m) (hmodest : Keeps (Carried Modest) m) :
    Keeps (Carried (Bounded crypto)) (onPairing m) :=
  fun s h => ⟨(hpublishes s.pairing).consistent h.consistent, hmodest s.pairing h.modest, h.grants⟩

/-- An acceptance keeps the registry well formed. -/
theorem accept_wellFormed :
    Keeps (Carried fun s => s.authorization.registry.WellFormed crypto.toCrypto)
      (accept crypto rendezvousId controllerDeviceId nowUnixMs faults random) := by
  have hpairing : ∀ {α : Type} (m : HostPairingCoordinator.Operation α),
      Keeps (Carried fun s => s.authorization.registry.WellFormed crypto.toCrypto)
        (onPairing m) := fun m s h => h
  refine .bind (hpairing _) fun active => .bind .orThrow fun controller => .bind ?_ fun result =>
    .bind ?_ fun grant => .bind (hpairing _) fun encrypted => .bind (hpairing _) fun _ =>
    .bind (hpairing _) fun _ => hpairing _
  · exact fun s h => (AuthorizationRegistry.createControllerGrant_writes h _ _ _ _ _ _).wellFormed h
  · cases result with
    | ok view => exact .orThrow
    | error e => exact .bind (hpairing _) fun _ => .throw _

theorem accept_bounded :
    Keeps (Carried (Bounded crypto.toCrypto))
      (accept crypto rendezvousId controllerDeviceId nowUnixMs faults random) :=
  fun s h => ⟨(accept_publishes _ _ _ _ _ _ s).consistent h.consistent,
    accept_modest _ _ _ _ _ _ s h.modest, accept_wellFormed _ _ _ _ _ _ s h.grants⟩

/-- Every action keeps a bounded Host. -/
theorem step_bounded (hendpoint : ∀ endpoint, setting.validEndpoint endpoint = true →
      (utf8 endpoint).length ≤ maxSignalingEndpointUtf8Bytes) {s : PairingHost}
    (h : s.Bounded setting.crypto.toCrypto) (a : PairingAction) :
    (step setting s a).1.Bounded setting.crypto.toCrypto := by
  refine ⟨(step_publishes setting s a).consistent h.consistent,
    step_modest hendpoint s a h.modest, ?_⟩
  cases a with
  | accept rendezvousId controllerDeviceId nowUnixMs faults random =>
    exact accept_wellFormed setting.crypto _ _ _ _ _ s h.grants
  | signalingConnected | signalingLost | shutdown | takeOutbound | tick | returnToIdle | start
  | event | reject | cancel => exact h.grants

end PairingHost

end Host

end Roammand
