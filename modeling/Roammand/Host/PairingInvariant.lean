import Roammand.Host.PairingEffects

/-!
# The attempt under way

What is always true of an attempt: its rendezvous has a proper identifier, its
invitation names this Host, and from the answered hello on its controller, keys and
transcript are those of one verified hello.

With it a final decision can always be sealed, so a decision that was taken is also
queued.

Main results:

- Definition `PairingCore.Sound`.
- Theorem `PairingHost.step_sound`: every action keeps it.
- Theorem `seal_finalDecision`: the final decision of a sound attempt can be sealed.
-/

namespace Roammand

namespace Host

open Library Protocol AuthorizationRegistry

/-- The controller, keys and transcript of an attempt are those of a verified hello. -/
def Identified (crypto : PairingCrypto) (host : DeviceIdentity) (active : ActivePairing)
    (verified : VerifiedControllerHello) : Prop :=
  active.controller = some verified.controller ∧ active.keys = some verified.keys ∧
    active.transcriptSha256 = verified.transcriptSha256.toList ∧
    ∃ hello senderDeviceId, active.peerDeviceId = some senderDeviceId ∧
      verifyControllerHello crypto hello senderDeviceId active.invitation.rendezvousId host
        active.hostEphemeralPrivateKey.toList active.invitation.hostEphemeralPublicKey =
          .ok verified

/-- What is always true of an attempt. -/
structure SoundAttempt (crypto : PairingCrypto) (host : DeviceIdentity)
    (active : ActivePairing) : Prop where
  rendezvousId : active.invitation.rendezvousId.length = rendezvousIdBytes
  hostIdentity : active.invitation.hostIdentity = some host
  identified : active.phase = .waitingReady ∨ active.phase = .waitingDecision →
    ∃ verified, Identified crypto host active verified

/-- What is always true of the pairing state. -/
structure PairingCore.Sound (crypto : PairingCrypto) (c : PairingCore) : Prop where
  host : c.hostIdentity.deviceId.length = deviceIdBytes
  active : ∀ active, c.active = some active → SoundAttempt crypto c.hostIdentity active

namespace PairingCore

variable {crypto : PairingCrypto} {c c' : PairingCore}

variable (active : ActivePairing)

@[simp]
theorem abandon_hostIdentity (c : PairingCore) :
    (c.abandon active).hostIdentity = c.hostIdentity := by
  unfold abandon
  split
  · rfl
  · rfl

@[simp]
theorem failActive_hostIdentity (c : PairingCore) :
    c.failActive.hostIdentity = c.hostIdentity := by
  unfold failActive
  split
  · rfl
  · split
    · rfl
    · rfl

theorem abandon_journal (c : PairingCore) :
    (c.abandon active).journal = c.journal := by
  unfold abandon
  split
  · rfl
  · rfl

theorem failActive_journal (c : PairingCore) :
    c.failActive.journal = c.journal := by
  unfold failActive
  split
  · rfl
  · split
    · rfl
    · rfl

/-- The state after an attempt has ended is sound. -/
theorem Sound.end (h : c.Sound crypto) (hid : c'.hostIdentity = c.hostIdentity)
    (hnone : c'.active = none) : c'.Sound crypto := by
  refine ⟨hid ▸ h.host, ?_⟩
  intro active hactive
  rw [hnone] at hactive
  cases hactive

/-- The state with a sound attempt is sound. -/
theorem Sound.set (h : c.Sound crypto) (hid : c'.hostIdentity = c.hostIdentity)
    {active : ActivePairing} (hactive : c'.active = some active)
    (hsound : SoundAttempt crypto c.hostIdentity active) : c'.Sound crypto := by
  refine ⟨hid ▸ h.host, ?_⟩
  intro active' hactive'
  obtain rfl : active = active' := Option.some.inj (hactive.symm.trans hactive')
  exact hid ▸ hsound

/-- A change outside the attempt keeps a sound state. -/
theorem Sound.keep (h : c.Sound crypto) (hid : c'.hostIdentity = c.hostIdentity)
    (hactive : c'.active = c.active) : c'.Sound crypto := by
  refine ⟨hid ▸ h.host, ?_⟩
  intro active hsome
  exact hid ▸ h.active active (hactive ▸ hsome)

theorem Sound.tick (h : c.Sound crypto) (nowUnixMs : UInt64) :
    (c.tick nowUnixMs).Sound crypto := by
  unfold PairingCore.tick
  cases hactive : c.active with
  | none => exact h
  | some active =>
    dsimp only
    split
    · exact h
    · exact h.end (abandon_hostIdentity active c) rfl

theorem Sound.atTime (h : c.Sound crypto) (a : PairingAction) : (c.atTime a).Sound crypto := by
  unfold PairingCore.atTime
  split
  · exact h.tick _
  · exact h

end PairingCore

/-! ## The effects keep a sound state -/

variable {setting : PairingHost.Setting} {c c' : PairingCore}

theorem Effect.sound {a : PairingAction} (h : Effect setting c a c')
    (hsound : c.Sound setting.crypto) : c'.Sound setting.crypto := by
  cases h with
  | refused => exact hsound
  | connected => exact hsound.keep rfl rfl
  | lost => exact hsound.end rfl rfl
  | stopped => exact hsound.end rfl rfl
  | flushed => exact hsound.keep rfl rfl
  | forgot hnone => exact hsound.keep rfl rfl
  | startFailed hnone => exact hsound.keep rfl rfl
  | started hconnected hnone hfresh =>
    refine hsound.set rfl rfl ⟨?_, hfresh.hostIdentity, fun hphase => ?_⟩
    · obtain ⟨id, -, hid⟩ := hfresh.rendezvousId
      rw [hid, id.length_toList]
      rfl
    · rw [hfresh.phase] at hphase
      rcases hphase with hphase | hphase <;> cases hphase
  | cancelled hactive => exact hsound.end (PairingCore.abandon_hostIdentity _ c) rfl
  | createdLate hnone hpending => exact hsound.keep rfl rfl
  | created hactive hphase hexpires =>
    have h := hsound.active _ hactive
    refine hsound.set rfl rfl ⟨h.rendezvousId, h.hostIdentity, fun hphase => ?_⟩
    rcases hphase with hphase | hphase <;> cases hphase
  | joined hactive hphase hpeer =>
    have h := hsound.active _ hactive
    refine hsound.set rfl rfl ⟨h.rendezvousId, h.hostIdentity, fun hphase => ?_⟩
    rcases hphase with hphase | hphase <;> cases hphase
  | greeted hactive hgreets hproof hsealed hwords =>
    have h := hsound.active _ hactive
    obtain ⟨hello, -, hverified⟩ := hgreets.hello
    exact hsound.set rfl rfl ⟨h.rendezvousId, h.hostIdentity, fun _ =>
      ⟨_, rfl, rfl, rfl, hello, _, hgreets.peerDeviceId, hverified⟩⟩
  | confirmed hactive hopens =>
    have h := hsound.active _ hactive
    exact hsound.set rfl rfl ⟨h.rendezvousId, h.hostIdentity, fun _ =>
      h.identified (.inl hopens.phase)⟩
  | failed hactive hevent huses =>
    exact hsound.end (PairingCore.failActive_hostIdentity _) rfl
  | closed hactive => exact hsound.end rfl rfl
  | rejected hactive hdecides hsealed => exact hsound.end rfl rfl
  | rejectFailed hactive hdecides hsealed => exact hsound.keep rfl rfl

theorem AcceptEffect.sound {authorization authorization' : AuthorizationState}
    {rendezvousId controllerDeviceId : Bytes} {nowUnixMs : UInt64} {faults : FileFaults}
    {random : Nat → Option (Vector UInt8 16)} {r : Except PairingCoordinatorError Unit}
    (h : AcceptEffect setting c authorization rendezvousId controllerDeviceId nowUnixMs faults
      random r c' authorization') (hsound : c.Sound setting.crypto) :
    c'.Sound setting.crypto := by
  cases h with
  | refused error => exact hsound
  | grantFailed hactive hphase hgrant =>
    exact hsound.end (PairingCore.failActive_hostIdentity _) rfl
  | unanswered hactive hphase hcontroller hgrant hcause =>
    rcases hcause with ⟨-, rfl⟩ | ⟨-, rfl⟩ | ⟨_, _, _, -, -, -, rfl⟩
    · exact hsound
    · exact hsound
    · exact hsound.keep rfl rfl
  | accepted hactive hdecides hid hgrant hview hsealed => exact hsound.end rfl rfl

/-- Every action keeps a sound state. -/
theorem PairingHost.step_sound {s : PairingHost} (h : s.pairing.Sound setting.crypto)
    (a : PairingAction) : (step setting s a).1.pairing.Sound setting.crypto := by
  rcases accept_or_not a with ⟨rendezvousId, controllerDeviceId, nowUnixMs, faults, random, rfl⟩ |
    haccept
  · obtain ⟨r, c', authorization', heffect, -, rfl, -⟩ := step_accept s
      rendezvousId controllerDeviceId nowUnixMs faults random
    exact heffect.sound (h.tick nowUnixMs)
  · exact (step_effect s haccept).1.sound (h.atTime a)

/-! ## Deciding -/

/-- A valid identity has an identifier of the proper length. -/
theorem length_deviceId_of_valid {identity : DeviceIdentity}
    (h : validateDeviceIdentity identity = .ok ()) : identity.deviceId.length = deviceIdBytes := by
  simp only [validateDeviceIdentity, validateLength, bind_eq_ok, ensure_eq_ok] at h
  obtain ⟨_, hlength, -⟩ := h
  exact hlength

/-- A sound attempt that waits for a decision has a controller and keys, and its final
decision with a grant for that controller can be sealed. -/
theorem seal_finalDecision (hencrypts : EncryptsBounded setting.crypto)
    (hsound : c.Sound setting.crypto) {active : ActivePairing} (hactive : c.active = some active)
    (hphase : active.phase = .waitingDecision) (status : PairingDecisionStatus)
    (grant : Option ControllerGrant)
    (hgrant : ∀ g, grant = some g → (Protobuf.encodeFields g.fields).length ≤ 600) :
    ∃ verified encrypted, Identified setting.crypto c.hostIdentity active verified ∧
      sealHostPlaintext setting.crypto verified.keys.hostToController.toList 2
        active.invitation.rendezvousId verified.controller.deviceId c.hostIdentity.deviceId
        (finalDecision active status grant) = .ok encrypted := by
  have hattempt := hsound.active active hactive
  obtain ⟨verified, hidentified⟩ := hattempt.identified (.inr hphase)
  obtain ⟨-, -, htranscript, hello, sender, -, hverified⟩ := id hidentified
  have hlength : (finalDecision active status grant).encode.length ≤ 800 := by
    refine length_encode_finalDecision_le ?_ hgrant
    change active.transcriptSha256.length ≤ 32
    rw [htranscript, Vector.length_toList]
  obtain ⟨encrypted, hencrypted⟩ := sealHostPlaintext_exists hencrypts
    verified.keys.hostToController 2 (by decide) (by decide) hattempt.rendezvousId
    (length_deviceId_of_valid (verifyControllerHello_ok hverified).valid) hsound.host
    (Nat.le_trans hlength (by decide))
  exact ⟨verified, encrypted, hidentified, hencrypted⟩

/-! ## Granting -/

namespace AuthorizationRegistry

variable {crypto : Crypto} {r r' : AuthorizationRegistry} {faults : FileFaults}
  {file file' : Option Bytes} {controller : DeviceIdentity}
  {permissions : List SessionPermission} {createdAtUnixMs : UInt64}
  {random : Nat → Option (Vector UInt8 16)} {view : ControllerGrantView}

variable {next : List ControllerGrantView}

theorem persistThen_error {grants : GrantMap}
    {answer : ControllerGrantView} {e : AuthorizationError}
    (h : r.persistThen crypto faults file next grants answer = ((r', file'), .error e)) :
    r' = r := by
  unfold persistThen at h
  split at h
  · cases h
    rfl
  · cases h

theorem persistThen_ok {grants : GrantMap} {answer : ControllerGrantView}
    (h : r.persistThen crypto faults file next grants answer = ((r', file'), .ok view)) :
    r' = { r with grantsByController := grants } ∧ view = answer := by
  unfold persistThen at h
  split at h
  · cases h
  · cases h
    exact ⟨rfl, rfl⟩

/-- A grant that is refused leaves the registry as it was. -/
theorem createControllerGrant_error {e : AuthorizationError} (hwf : r.WellFormed crypto)
    (h : r.createControllerGrant crypto faults file controller permissions createdAtUnixMs
      random = ((r', file'), .error e)) : r' = r := by
  rcases createControllerGrant_writes hwf faults file controller permissions createdAtUnixMs
      random with ⟨out, heq⟩ | ⟨next, grants, answer, heq, -⟩
  · rw [h] at heq
    cases heq
    rfl
  · rw [h] at heq
    exact persistThen_error heq.symm

/-- A grant that is given is filed under its controller, and all else stays. -/
theorem createControllerGrant_ok
    (h : r.createControllerGrant crypto faults file controller permissions createdAtUnixMs
      random = ((r', file'), .ok view)) :
    (∃ grant, view.grant = some grant ∧ grant.controller = some controller) ∧
      (r'.grantsByController = r.grantsByController ∨
        r.grantsByController[controller.deviceId]? = none ∧
        r'.grantsByController = r.grantsByController.insert controller.deviceId view) ∧
      r'.grantsByController[controller.deviceId]? = some view := by
  unfold createControllerGrant at h
  split at h
  · cases h
  · next normalized hrequest =>
    split at h
    · next existing hexisting =>
      split at h
      · cases h
      · next grant hgrant =>
        split at h
        · next hsame =>
          cases h
          exact ⟨⟨grant, hgrant, hsame.1⟩, .inl rfl, hexisting⟩
        · cases h
    · next hfree =>
      split at h
      · cases h
      · split at h
        · cases h
        · obtain ⟨rfl, rfl⟩ := persistThen_ok h
          exact ⟨⟨_, rfl, rfl⟩, .inr ⟨hfree, rfl⟩, getElem?_insert_self _ _ _⟩

theorem createControllerGrant_wellFormed (hwf : r.WellFormed crypto)
    (h : r.createControllerGrant crypto faults file controller permissions createdAtUnixMs
      random = ((r', file'), .ok view)) :
    r'.WellFormed crypto ∧ r'.hostDeviceId = r.hostDeviceId := by
  rcases createControllerGrant_writes hwf faults file controller permissions createdAtUnixMs
      random with ⟨out, heq⟩ | ⟨next, grants, answer, heq, hnext⟩
  · rw [h] at heq
    cases heq
    exact ⟨hwf, rfl⟩
  · rw [h] at heq
    obtain ⟨rfl, -⟩ := persistThen_ok heq.symm
    exact ⟨hnext.wellFormed, rfl⟩

end AuthorizationRegistry

/-- A valid stored grant has a short encoding. -/
theorem length_encode_grant_of_valid {crypto : Crypto} {view : ControllerGrantView}
    {host k : Bytes} {grant : ControllerGrant} (hhost : host.length = deviceIdBytes)
    (h : validateStoredGrant crypto view host = .ok k) (hgrant : view.grant = some grant) :
    (Protobuf.encodeFields grant.fields).length ≤ 600 := by
  obtain ⟨g, controller, hg, hcontroller, -, hid, hghost, hvalid, -, hpermissions⟩ :=
    validateStoredGrant_eq_ok.mp h
  obtain rfl : grant = g := Option.some.inj (hgrant.symm.trans hg)
  refine length_encode_grant_le ?_ ?_ ?_ ?_
  · rw [hid]
    decide
  · rw [hghost, hhost]
    decide
  · intro controller' hcontroller'
    obtain rfl : controller = controller' :=
      Option.some.inj (hcontroller.symm.trans hcontroller')
    simp only [validateController, bind_eq_ok, mapError_eq_ok] at hvalid
    obtain ⟨⟨⟩, hidentity, -⟩ := hvalid
    exact hidentity
  · rcases normalizeStoredPermissions_ok hpermissions with heq | heq
    · rw [heq]
      decide
    · rw [heq]
      decide

/-! ## The Host's state in a run -/

/-- What is always true of the coordinator and the grants. -/
structure PairingHost.Valid (crypto : PairingCrypto) (s : PairingHost) : Prop where
  pairing : s.pairing.Sound crypto
  grants : s.authorization.registry.WellFormed crypto.toCrypto

/-- In a valid state an acceptance that has granted access also answers. -/
theorem acceptance_answered {authorization : AuthorizationState} {nowUnixMs : UInt64}
    {faults : FileFaults} {random : Nat → Option (Vector UInt8 16)} {active : ActivePairing}
    {controller : DeviceIdentity} {view : ControllerGrantView} {registry : AuthorizationRegistry}
    {file : Option Bytes} (hencrypts : EncryptsBounded setting.crypto)
    (hsound : c.Sound setting.crypto)
    (hwf : authorization.registry.WellFormed setting.crypto.toCrypto)
    (hactive : c.active = some active) (hphase : active.phase = .waitingDecision)
    (hcontroller : active.controller = some controller)
    (hgrant : authorization.registry.createControllerGrant setting.crypto.toCrypto faults
      authorization.file controller viewAndControlPermissions nowUnixMs random =
        ((registry, file), .ok view)) :
    ¬ ((view.grant = none ∧ c' = c) ∨ (active.keys = none ∧ c' = c) ∨
      ∃ keys grant error, Decides active active.invitation.rendezvousId controller keys ∧
        view.grant = some grant ∧
        sealHostPlaintext setting.crypto keys.hostToController.toList 2
          active.invitation.rendezvousId controller.deviceId c.hostIdentity.deviceId
          (finalDecision active .accepted (some grant)) = .error error ∧
        c' = c.logged [sealedUse active keys 2 (finalDecision active .accepted (some grant))]) := by
  obtain ⟨⟨grant', hgrant', -⟩, -, hfiled⟩ :=
    createControllerGrant_ok hgrant
  obtain ⟨hwf', hhost⟩ := createControllerGrant_wellFormed hwf hgrant
  obtain ⟨verified, encrypted, hidentified, hencrypted⟩ := seal_finalDecision hencrypts hsound
    hactive hphase .accepted view.grant fun g hg =>
      length_encode_grant_of_valid hwf'.host (hwf'.valid _ _ hfiled) hg
  obtain ⟨hsome, hkeys, -⟩ := hidentified
  rintro (⟨hnone, -⟩ | ⟨hnone, -⟩ | ⟨keys, grant, e, hdecides, hview, hsealed, -⟩)
  · rw [hnone] at hgrant'
    cases hgrant'
  · rw [hnone] at hkeys
    cases hkeys
  · obtain rfl : verified.controller = controller := Option.some.inj (hsome.symm.trans hcontroller)
    obtain rfl : verified.keys = keys := Option.some.inj (hkeys.symm.trans hdecides.keys)
    rw [hview, hsealed] at hencrypted
    cases hencrypted

/-- In a valid state a rejection is answered. -/
theorem rejection_answered {active : ActivePairing} {rendezvousId : Bytes}
    {controller : DeviceIdentity} {keys : PairingKeySchedule} {error : HostPairingCryptoError}
    (hencrypts : EncryptsBounded setting.crypto) (hsound : c.Sound setting.crypto)
    (hactive : c.active = some active) (hdecides : Decides active rendezvousId controller keys) :
    sealHostPlaintext setting.crypto keys.hostToController.toList 2 rendezvousId
      controller.deviceId c.hostIdentity.deviceId (finalDecision active .rejected none) ≠
        .error error := by
  obtain ⟨verified, encrypted, ⟨hsome, hkeys, -⟩, hencrypted⟩ := seal_finalDecision hencrypts
    hsound hactive hdecides.phase .rejected none (fun g hg => by cases hg)
  obtain rfl : verified.controller = controller :=
    Option.some.inj (hsome.symm.trans hdecides.controller)
  obtain rfl : verified.keys = keys := Option.some.inj (hkeys.symm.trans hdecides.keys)
  rw [hdecides.rendezvousId] at hencrypted
  rw [hencrypted]
  exact fun h => by cases h

theorem PairingHost.Valid.step {s : PairingHost} (h : s.Valid setting.crypto)
    (a : PairingAction) : (step setting s a).1.Valid setting.crypto := by
  refine ⟨step_sound h.pairing a, ?_⟩
  rcases accept_or_not a with ⟨rendezvousId, controllerDeviceId, nowUnixMs, faults, random, rfl⟩ |
    haccept
  · obtain ⟨r, c', authorization', heffect, -, -, hauthorization⟩ := step_accept
      s rendezvousId controllerDeviceId nowUnixMs faults random
    rw [hauthorization]
    cases heffect with
    | refused error => exact h.grants
    | grantFailed hactive hphase hgrant =>
      rw [createControllerGrant_error h.grants hgrant]
      exact h.grants
    | unanswered hactive hphase hcontroller hgrant hcause =>
      exact (createControllerGrant_wellFormed h.grants hgrant).1
    | accepted hactive hdecides hid hgrant hview hsealed =>
      exact (createControllerGrant_wellFormed h.grants hgrant).1
  · rw [(step_effect s haccept).2]
    exact h.grants

/-- A new coordinator with loaded grants is valid. -/
theorem PairingHost.valid_initial {crypto : PairingCrypto} {hostIdentity : DeviceIdentity}
    {pairing : HostPairingCoordinator} {authorization : AuthorizationState}
    (hnew : HostPairingCoordinator.withRandom crypto.toCrypto hostIdentity = .ok pairing)
    (hwf : authorization.registry.WellFormed crypto.toCrypto) :
    PairingHost.Valid crypto { pairing, authorization } := by
  simp only [HostPairingCoordinator.withRandom, bind_eq_ok, mapError_eq_ok, ensure_eq_ok, pure,
    Except.pure, Except.ok.injEq] at hnew
  obtain ⟨⟨⟩, hvalid, _, -, _, -, _, -, _, -, _, -, rfl⟩ := hnew
  exact ⟨⟨length_deviceId_of_valid hvalid, fun _ hactive => by cases hactive⟩, hwf⟩

/-- The cipher of the sample exchange encrypts everything. -/
theorem sampleExchange_encrypts : EncryptsBounded SampleExchange.setting.crypto := by
  intro key nonce aad plaintext _
  simp only [SampleExchange.setting, SampleExchange.crypto]
  split
  · exact ⟨_, rfl⟩
  · exact ⟨_, rfl⟩

end Host

end Roammand
