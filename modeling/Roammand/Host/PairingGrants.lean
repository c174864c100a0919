import Roammand.Host.PairingInvariant

/-!
# Grants of the pairing coordinator

Access is granted by acceptance alone, at the end of a complete exchange: the hello of
the controller was verified in this pairing, its confirmation was opened and the user
has decided.  The grant is persisted before the acceptance is sealed and queued.

Main results:

- Definition `Durable`: what is granted survives a restart.
- Theorem `PairingHost.grant_after_exchange`: what acceptance and all other actions do to the
  grants and to the queue, over every run.
-/

namespace Roammand

namespace Host

open Library Protocol AuthorizationRegistry PairingCore

/-! ## Grants survive a restart -/

/-- A restart would load every grant in memory. -/
def Durable (crypto : Crypto) (decode : Bytes → Option HostAuthorizationSnapshot)
    (s : AuthorizationState) : Prop :=
  ∃ stored, load crypto decode noFaults s.file s.registry.hostDeviceId = .ok stored ∧
    ∀ (k : Bytes) view, s.registry.grantsByController[k]? = some view →
      stored.grantsByController[k]? = some view

section Durability

variable {crypto : Crypto} {decode : Bytes → Option HostAuthorizationSnapshot}
  {r r' : AuthorizationRegistry} {faults : FileFaults} {file file' : Option Bytes}

/-- A persisted snapshot is loaded. -/
theorem load_of_persisted (hdecode : DecodesSnapshots decode)
    {next : List ControllerGrantView} {grants : GrantMap}
    (hnext : NextSnapshot crypto r next grants)
    (hpersist : FileGrantStore.persist crypto faults file r.hostDeviceId next = (file', .ok ())) :
    load crypto decode noFaults file' r.hostDeviceId =
      .ok { r with grantsByController := grants } :=
  load_eq_ok.mpr ⟨hnext.wellFormed.host, next, FileGrantStore.load_persist hdecode hpersist,
    hnext.bounded, load_of_represents hnext.wellFormed hnext.represents, rfl⟩

/-- Whether a grant is given or refused, what is granted survives a restart. -/
theorem createControllerGrant_durable (hdecode : DecodesSnapshots decode)
    (hwf : r.WellFormed crypto) (hdurable : Durable crypto decode ⟨r, file⟩)
    {controller : DeviceIdentity} {permissions : List SessionPermission}
    {createdAtUnixMs : UInt64} {random : Nat → Option (Vector UInt8 16)}
    {out : Except AuthorizationError ControllerGrantView}
    (h : r.createControllerGrant crypto faults file controller permissions createdAtUnixMs
      random = ((r', file'), out)) :
    Durable crypto decode ⟨r', file'⟩ := by
  rcases createControllerGrant_cases hwf faults file controller permissions createdAtUnixMs
      random with ⟨out', heq⟩ | ⟨next, view, hfree, heq, hnext⟩
  · rw [h] at heq
    cases heq
    exact hdurable
  · rw [h] at heq
    unfold persistThen at heq
    split at heq
    · next file'' e hpersist =>
      cases heq
      rcases FileGrantStore.persist_error_cases hpersist with rfl | hwritten
      · exact hdurable
      · refine ⟨_, load_of_persisted hdecode hnext hwritten, ?_⟩
        intro k view' hget
        have hne : controller.deviceId ≠ k := by
          rintro rfl
          rw [hfree] at hget
          cases hget
        rw [getElem?_insert_of_ne hne]
        exact hget
    · next file'' hpersist =>
      cases heq
      have hloaded := load_of_persisted hdecode hnext hpersist
      exact ⟨_, hloaded, fun _ _ hget => hget⟩

end Durability

/-! ## The hello of a pairing -/

/-- The action delivered the hello from which the attempt has its controller, keys and
transcript. -/
def GreetedBy (crypto : PairingCrypto) (host : DeviceIdentity) (active : ActivePairing)
    (verified : VerifiedControllerHello) (a : PairingAction) : Prop :=
  active.controller = some verified.controller ∧ active.keys = some verified.keys ∧
    active.transcriptSha256 = verified.transcriptSha256.toList ∧
    ∃ hello senderDeviceId opaqueEnvelope nowUnixMs,
      a = .event (.routedPairing active.invitation.rendezvousId senderDeviceId opaqueEnvelope)
        nowUnixMs ∧
      decodePairingMessage crypto opaqueEnvelope = .ok (.controllerHello hello) ∧
      verifyControllerHello crypto hello senderDeviceId active.invitation.rendezvousId host
        active.hostEphemeralPrivateKey.toList active.invitation.hostEphemeralPublicKey =
          .ok verified

/-- An attempt that has answered a hello was greeted by an earlier action. -/
def Greeted (crypto : PairingCrypto) (past : List PairingAction) (c : PairingCore) : Prop :=
  ∀ active, c.active = some active →
    active.phase = .waitingReady ∨ active.phase = .waitingDecision →
    ∃ verified, ∃ a ∈ past, GreetedBy crypto c.hostIdentity active verified a

section Greeting

variable {setting : PairingHost.Setting} {c c' : PairingCore} {past : List PairingAction}

variable {a : PairingAction}

/-- An action that keeps the attempt or ends it. -/
theorem Greeted.keep (h : Greeted setting.crypto past c) (hid : c'.hostIdentity = c.hostIdentity)
    (hactive : c'.active = c.active ∨ c'.active = none) :
    Greeted setting.crypto (past ++ [a]) c' := by
  intro active hsome hphase
  rcases hactive with heq | hnone
  · obtain ⟨verified, b, hb, hgreeted⟩ := h active (heq ▸ hsome) hphase
    rw [hid]
    exact ⟨verified, b, List.mem_append_left _ hb, hgreeted⟩
  · rw [hnone] at hsome
    cases hsome

/-- An action that moves the attempt to a phase before the answer. -/
theorem Greeted.early {active : ActivePairing} (hactive : c'.active = some active)
    {phase : ActivePhase} (hphase : active.phase = phase) (hready : phase ≠ .waitingReady)
    (hdecision : phase ≠ .waitingDecision) : Greeted setting.crypto past c' := by
  intro active' hsome hanswered
  obtain rfl : active = active' := Option.some.inj (hactive.symm.trans hsome)
  rcases hanswered with hanswered | hanswered
  · exact absurd (hphase.symm.trans hanswered) hready
  · exact absurd (hphase.symm.trans hanswered) hdecision

theorem Greeted.tick (h : Greeted setting.crypto past c) (nowUnixMs : UInt64) :
    Greeted setting.crypto past (c.tick nowUnixMs) := by
  unfold PairingCore.tick
  cases hactive : c.active with
  | none => exact h
  | some active =>
    dsimp only
    split
    · exact h
    · exact fun _ hnone => by cases hnone

theorem Greeted.atTime (h : Greeted setting.crypto past c) (a : PairingAction) :
    Greeted setting.crypto past (c.atTime a) := by
  unfold PairingCore.atTime
  split
  · exact h.tick _
  · exact h

theorem Effect.greeted_past (h : Effect setting c a c')
    (hpast : Greeted setting.crypto past c) : Greeted setting.crypto (past ++ [a]) c' := by
  cases h with
  | refused => exact hpast.keep rfl (.inl rfl)
  | connected => exact hpast.keep rfl (.inl rfl)
  | lost => exact hpast.keep rfl (.inr rfl)
  | stopped => exact hpast.keep rfl (.inr rfl)
  | flushed => exact hpast.keep rfl (.inl rfl)
  | forgot hnone => exact hpast.keep rfl (.inl rfl)
  | startFailed hnone => exact hpast.keep rfl (.inl rfl)
  | started hconnected hnone hfresh =>
    exact .early rfl hfresh.phase (by decide) (by decide)
  | cancelled hactive => exact hpast.keep (abandon_hostIdentity _ c) (.inr rfl)
  | createdLate hnone hpending => exact hpast.keep rfl (.inl rfl)
  | created hactive hphase hexpires =>
    exact .early rfl (show _ = ActivePhase.inviting from rfl) (by decide) (by decide)
  | joined hactive hphase hpeer =>
    exact .early rfl (show _ = ActivePhase.waitingHello from rfl) (by decide) (by decide)
  | greeted hactive hgreets hproof hsealed hwords =>
    obtain ⟨hello, hmessage, hverified⟩ := hgreets.hello
    intro active' hactive' _
    cases hactive'
    exact ⟨_, _, List.mem_append_right _ (List.mem_singleton_self _), rfl, rfl, rfl, hello, _,
      _, _, rfl, hmessage, hverified⟩
  | confirmed hactive hopens =>
    intro active' hactive' _
    cases hactive'
    obtain ⟨verified, b, hb, hgreeted⟩ := hpast _ hactive (.inl hopens.phase)
    exact ⟨verified, b, List.mem_append_left _ hb, hgreeted⟩
  | failed hactive hevent huses =>
    exact hpast.keep (failActive_hostIdentity _) (.inr rfl)
  | closed hactive => exact hpast.keep rfl (.inr rfl)
  | rejected hactive hdecides hsealed => exact hpast.keep rfl (.inr rfl)
  | rejectFailed hactive hdecides hsealed => exact hpast.keep rfl (.inl rfl)

end Greeting

/-! ## Acceptances in the journal -/

/-- The record of a sealed acceptance. -/
def CipherUse.SealsAcceptance : CipherUse → Prop
  | .sealed _ _ _ (.finalDecision decision) =>
    decision.status = PairingDecisionStatus.accepted.toInt32
  | _ => False

/-- The journal grows, without a sealed acceptance. -/
def LogsNoAcceptance (c c' : PairingCore) : Prop :=
  ∃ uses, c'.journal = c.journal ++ uses ∧ ∀ u ∈ uses, ¬ u.SealsAcceptance

section Journal

variable {setting : PairingHost.Setting} {c c' c'' : PairingCore}

theorem LogsNoAcceptance.same (h : c'.journal = c.journal) : LogsNoAcceptance c c' :=
  ⟨[], by rw [h, List.append_nil], fun _ hu => absurd hu List.not_mem_nil⟩

theorem LogsNoAcceptance.one {u : CipherUse} (h : c'.journal = c.journal ++ [u])
    (hu : ¬ u.SealsAcceptance) : LogsNoAcceptance c c' := by
  refine ⟨[u], h, ?_⟩
  intro v hv
  rw [List.mem_singleton.mp hv]
  exact hu

variable (active : ActivePairing)

theorem rejected_not_accepted (keys : PairingKeySchedule) :
    ¬ (sealedUse active keys 2 (finalDecision active .rejected none)).SealsAcceptance := by
  intro h
  exact absurd (show PairingDecisionStatus.rejected.toInt32 = _ from h) (by decide)

theorem greeting_not_accepted (verified : VerifiedControllerHello) (proof : HostPairingProof) :
    ∀ u ∈ [derivedUse active verified, sealedUse active verified.keys 1 (.hostProof proof)],
      ¬ u.SealsAcceptance := by
  intro u hu
  simp only [List.mem_cons, List.not_mem_nil, or_false] at hu
  rcases hu with rfl | rfl
  · exact id
  · exact id

theorem FailedUses.not_accepted {active : ActivePairing} {host : DeviceIdentity}
    {uses : List CipherUse} (h : FailedUses setting host active uses) :
    ∀ u ∈ uses, ¬ u.SealsAcceptance := by
  cases h with
  | none => exact fun _ hu => absurd hu List.not_mem_nil
  | derived hgreets =>
    intro u hu
    rw [List.mem_singleton.mp hu]
    exact id
  | sealed hgreets hproof => exact greeting_not_accepted _ _ _
  | opened hopens =>
    intro u hu
    rw [List.mem_singleton.mp hu]
    exact id

/-- Only acceptance seals an acceptance. -/
theorem Effect.logsNoAcceptance {a : PairingAction} (h : Effect setting c a c') :
    LogsNoAcceptance c c' := by
  cases h with
  | refused => exact .same rfl
  | connected => exact .same rfl
  | lost => exact .same rfl
  | stopped => exact .same rfl
  | flushed => exact .same rfl
  | forgot hnone => exact .same rfl
  | startFailed hnone => exact .same rfl
  | started hconnected hnone hfresh => exact .one rfl id
  | cancelled hactive => exact .same (abandon_journal _ c)
  | createdLate hnone hpending => exact .same rfl
  | created hactive hphase hexpires => exact .same rfl
  | joined hactive hphase hpeer => exact .same rfl
  | greeted hactive hgreets hproof hsealed hwords => exact ⟨_, rfl, greeting_not_accepted _ _ _⟩
  | confirmed hactive hopens => exact .one rfl id
  | failed hactive hevent huses =>
    exact ⟨_, failActive_journal _, huses.not_accepted⟩
  | closed hactive => exact .same rfl
  | rejected hactive hdecides hsealed => exact .one rfl (rejected_not_accepted _ _)
  | rejectFailed hactive hdecides hsealed => exact .one rfl (rejected_not_accepted _ _)

theorem PairingCore.tick_journal (c : PairingCore) (nowUnixMs : UInt64) :
    (c.tick nowUnixMs).journal = c.journal := by
  unfold tick
  cases c.active with
  | none => rfl
  | some active =>
    dsimp only
    split
    · rfl
    · exact abandon_journal active c

theorem PairingCore.atTime_journal (c : PairingCore) (a : PairingAction) :
    (c.atTime a).journal = c.journal := by
  unfold atTime
  split
  · exact c.tick_journal _
  · rfl

/-- An attempt that is there after its time has been looked at was there before. -/
theorem PairingCore.tick_of_active {nowUnixMs : UInt64} {active : ActivePairing}
    (h : (c.tick nowUnixMs).active = some active) : c.tick nowUnixMs = c := by
  unfold tick at h ⊢
  cases hactive : c.active with
  | none => rfl
  | some active' =>
    rw [hactive] at h
    dsimp only at h ⊢
    split at h
    · next hbefore => rw [if_pos hbefore]
    · cases h

end Journal

/-! ## Grants over a run -/

namespace PairingHost

variable {setting : Setting} {decode : Bytes → Option HostAuthorizationSnapshot}

/-- What a successful acceptance has done: the attempt waited for the decision about the
controller whose hello was verified in it, the registry durably holds a grant for exactly
that controller, and the sealed acceptance and the completion are queued. -/
def AcceptedExchange (setting : Setting) (decode : Bytes → Option HostAuthorizationSnapshot)
    (past : List PairingAction) (s s' : PairingHost) (rendezvousId controllerDeviceId : Bytes) :
    Prop :=
  ∃ active verified view grant encrypted, ∃ a ∈ past,
    s.pairing.active = some active ∧ active.phase = .waitingDecision ∧
    active.invitation.rendezvousId = rendezvousId ∧
    GreetedBy setting.crypto s.pairing.hostIdentity active verified a ∧
    verified.controller.deviceId = controllerDeviceId ∧
    s'.authorization.registry.controllerGrant controllerDeviceId = some view ∧
    view.grant = some grant ∧ grant.controller = some verified.controller ∧
    (∀ k, k ≠ controllerDeviceId → s'.authorization.registry.controllerGrant k =
      s.authorization.registry.controllerGrant k) ∧
    Durable setting.crypto.toCrypto decode s'.authorization ∧
    sealHostPlaintext setting.crypto verified.keys.hostToController.toList 2 rendezvousId
      controllerDeviceId s.pairing.hostIdentity.deviceId
      (finalDecision active .accepted (some grant)) = .ok encrypted ∧
    s'.pairing.outbound = s.pairing.outbound ++
      [.relay rendezvousId encrypted, .complete rendezvousId .succeeded]

/-- What an acceptance that was refused has left alone. -/
def RefusedExchange (faults : FileFaults) (s s' : PairingHost) : Prop :=
  s'.authorization.registry = s.authorization.registry ∧
    (attempt faults stepsAfterRename = .ok () → s'.authorization.file = s.authorization.file)

/-- What an action does to the grants. -/
structure GrantStep (setting : Setting) (decode : Bytes → Option HostAuthorizationSnapshot)
    (past : List PairingAction) (s : PairingHost) (a : PairingAction) (out : PairingOutput)
    (s' : PairingHost) : Prop where
  others : (∀ rendezvousId controllerDeviceId nowUnixMs faults random,
      a ≠ .accept rendezvousId controllerDeviceId nowUnixMs faults random) →
    s'.authorization = s.authorization
  accepted : ∀ rendezvousId controllerDeviceId nowUnixMs faults random,
    a = .accept rendezvousId controllerDeviceId nowUnixMs faults random → out = .done (.ok ()) →
    AcceptedExchange setting decode past s s' rendezvousId controllerDeviceId
  refused : ∀ rendezvousId controllerDeviceId nowUnixMs faults random error,
    a = .accept rendezvousId controllerDeviceId nowUnixMs faults random →
    out = .done (.error error) → RefusedExchange faults s s'
  answers : (∃ u ∈ s'.pairing.journal.drop s.pairing.journal.length, u.SealsAcceptance) →
    ∃ rendezvousId controllerDeviceId nowUnixMs faults random,
      a = .accept rendezvousId controllerDeviceId nowUnixMs faults random ∧ out = .done (.ok ())

/-- What is always true of the Host, its grants on disk and the hello of its attempt. -/
structure Granting (setting : Setting) (decode : Bytes → Option HostAuthorizationSnapshot)
    (past : List PairingAction) (s : PairingHost) : Prop where
  valid : s.Valid setting.crypto
  durable : Durable setting.crypto.toCrypto decode s.authorization
  greeted : Greeted setting.crypto past s.pairing.toPairingCore

/-- An action other than acceptance writes no grant and seals no acceptance. -/
theorem Granting.other {past : List PairingAction} {s : PairingHost} {a : PairingAction}
    (h : Granting setting decode past s)
    (ha : ∀ rendezvousId controllerDeviceId nowUnixMs faults random,
      a ≠ .accept rendezvousId controllerDeviceId nowUnixMs faults random) :
    GrantStep setting decode past s a (step setting s a).2 (step setting s a).1 ∧
      Granting setting decode (past ++ [a]) (step setting s a).1 := by
  obtain ⟨heffect, hsame⟩ : Effect setting _ a _ ∧ _ := step_effect s ha
  refine ⟨⟨fun _ => hsame, ?_, ?_, ?_⟩, h.valid.step a, hsame ▸ h.durable,
    heffect.greeted_past (h.greeted.atTime a)⟩
  · intro _ _ _ _ _ heq
    exact absurd heq (ha _ _ _ _ _)
  · intro _ _ _ _ _ _ heq
    exact absurd heq (ha _ _ _ _ _)
  · rintro ⟨u, hu, haccepts⟩
    obtain ⟨uses, huses, hnone⟩ := heffect.logsNoAcceptance
    rw [atTime_journal] at huses
    rw [huses, List.drop_left] at hu
    exact absurd haccepts (hnone u hu)

/-- A grant that was refused. -/
theorem refusedExchange_of_failed {s s' : PairingHost} {faults : FileFaults}
    {controller : DeviceIdentity} {nowUnixMs : UInt64}
    {random : Nat → Option (Vector UInt8 16)} {registry : AuthorizationRegistry}
    {file : Option Bytes} {error : AuthorizationError}
    (hwf : s.authorization.registry.WellFormed setting.crypto.toCrypto)
    (hgrant : s.authorization.registry.createControllerGrant setting.crypto.toCrypto faults
      s.authorization.file controller viewAndControlPermissions nowUnixMs random =
        ((registry, file), .error error))
    (hauthorization : s'.authorization = ⟨registry, file⟩) : RefusedExchange faults s s' := by
  rw [RefusedExchange, hauthorization]
  refine ⟨createControllerGrant_error hwf hgrant, fun hlate => ?_⟩
  rcases createControllerGrant_writes hwf faults s.authorization.file controller
      viewAndControlPermissions nowUnixMs random with ⟨out, heq⟩ | ⟨next, grants, answer, heq, -⟩
  · rw [hgrant] at heq
    cases heq
    rfl
  · rw [hgrant] at heq
    unfold persistThen at heq
    split at heq
    · next hpersist =>
      cases heq
      exact FileGrantStore.persist_error hlate hpersist
    · cases heq

/-- Acceptance. -/
theorem Granting.accept (hdecode : DecodesSnapshots decode)
    (hencrypts : EncryptsBounded setting.crypto) {past : List PairingAction} {s : PairingHost}
    (h : Granting setting decode past s) (rendezvousId controllerDeviceId : Bytes)
    (nowUnixMs : UInt64) (faults : FileFaults) (random : Nat → Option (Vector UInt8 16)) :
    GrantStep setting decode past s
        (.accept rendezvousId controllerDeviceId nowUnixMs faults random)
        (step setting s (.accept rendezvousId controllerDeviceId nowUnixMs faults random)).2
        (step setting s (.accept rendezvousId controllerDeviceId nowUnixMs faults random)).1 ∧
      Granting setting decode
        (past ++ [.accept rendezvousId controllerDeviceId nowUnixMs faults random])
        (step setting s (.accept rendezvousId controllerDeviceId nowUnixMs faults random)).1 := by
  have hvalid := h.valid.step (.accept rendezvousId controllerDeviceId nowUnixMs faults random)
  obtain ⟨r, c', authorization', heffect, hout, hcore, hauthorization⟩ := step_accept s
    rendezvousId controllerDeviceId nowUnixMs faults random
  generalize step setting s (.accept rendezvousId controllerDeviceId nowUnixMs faults random) =
    result at hvalid hout hcore hauthorization ⊢
  obtain ⟨s', out⟩ := result
  dsimp only at hvalid hout hcore hauthorization ⊢
  have hgreeted := h.greeted.tick nowUnixMs
  have hwf := h.valid.grants
  cases heffect with
  | refused error =>
    refine ⟨⟨fun hne => absurd rfl (hne _ _ _ _ _), ?_, ?_, ?_⟩, hvalid, ?_, ?_⟩
    · intro _ _ _ _ _ _ hok
      rw [hout] at hok
      cases hok
    · intro _ _ _ _ _ _ heq _
      rw [RefusedExchange, hauthorization]
      exact ⟨rfl, fun _ => rfl⟩
    · rintro ⟨u, hu, -⟩
      rw [hcore, tick_journal, List.drop_length] at hu
      cases hu
    · rw [hauthorization]
      exact h.durable
    · rw [hcore]
      exact hgreeted.keep rfl (.inl rfl)
  | grantFailed hactive hphase hgrant =>
    refine ⟨⟨fun hne => absurd rfl (hne _ _ _ _ _), ?_, ?_, ?_⟩, hvalid, ?_, ?_⟩
    · intro _ _ _ _ _ _ hok
      rw [hout] at hok
      cases hok
    · intro _ _ _ _ _ _ heq _
      cases heq
      exact refusedExchange_of_failed hwf hgrant hauthorization
    · rintro ⟨u, hu, -⟩
      rw [hcore, failActive_journal, tick_journal, List.drop_length] at hu
      cases hu
    · rw [hauthorization]
      exact createControllerGrant_durable hdecode hwf h.durable hgrant
    · rw [hcore]
      exact hgreeted.keep (failActive_hostIdentity _) (.inr rfl)
  | unanswered hactive hphase hcontroller hgrant hcause =>
    exact absurd hcause (acceptance_answered hencrypts (h.valid.pairing.tick nowUnixMs) hwf
      hactive hphase hcontroller hgrant)
  | accepted hactive hdecides hid hgrant hview hsealed =>
    have hdurable := createControllerGrant_durable hdecode hwf h.durable hgrant
    rw [← hauthorization] at hdurable
    refine ⟨⟨fun hne => absurd rfl (hne _ _ _ _ _), ?_, ?_, fun _ => ⟨_, _, _, _, _, rfl, hout⟩⟩,
      hvalid, hdurable, ?_⟩
    · intro _ _ _ _ _ heq _
      cases heq
      have htick := tick_of_active hactive
      rw [htick] at hactive hsealed hcore
      obtain ⟨verified, a, ha, hgreets⟩ := h.greeted _ hactive (.inr hdecides.phase)
      obtain ⟨hcontroller, hkeys, -⟩ := id hgreets
      obtain rfl := Option.some.inj (hcontroller.symm.trans hdecides.controller)
      obtain rfl := Option.some.inj (hkeys.symm.trans hdecides.keys)
      subst hid
      obtain ⟨⟨grant', hgrant', hfor⟩, hgrants, hfiled⟩ := createControllerGrant_ok hgrant
      obtain rfl := Option.some.inj (hview.symm.trans hgrant')
      refine ⟨_, verified, _, _, _, a, ha, hactive, hdecides.phase, hdecides.rendezvousId, hgreets,
        rfl, ?_, hview, hfor, ?_, hdurable, hsealed, ?_⟩
      · rw [hauthorization]
        exact hfiled
      · intro k hk
        rw [hauthorization, controllerGrant, controllerGrant]
        rcases hgrants with hsame | ⟨-, hinsert⟩
        · rw [hsame]
        · rw [hinsert, getElem?_insert_of_ne (Ne.symm hk)]
      · rw [hcore]
        rfl
    · intro _ _ _ _ _ _ _ herror
      rw [hout] at herror
      cases herror
    · rw [hcore]
      exact hgreeted.keep rfl (.inr rfl)

theorem Granting.step (hdecode : DecodesSnapshots decode)
    (hencrypts : EncryptsBounded setting.crypto) {past : List PairingAction} {s : PairingHost}
    (h : Granting setting decode past s) (a : PairingAction) :
    GrantStep setting decode past s a (step setting s a).2 (step setting s a).1 ∧
      Granting setting decode (past ++ [a]) (step setting s a).1 := by
  rcases accept_or_not a with ⟨rendezvousId, controllerDeviceId, nowUnixMs, faults, random, rfl⟩ |
    haccept
  · exact h.accept hdecode hencrypts _ _ _ _ _
  · exact h.other haccept

/-- Over every run of the coordinator with any frames, commands and failures of the file
system: grants are written by acceptance alone, a successful acceptance durably grants
access to exactly the controller whose hello was verified in this pairing and queues the
sealed acceptance and the completion, a refused one leaves the registry unchanged, and an
acceptance is sealed by a successful acceptance only. -/
theorem grant_after_exchange (hdecode : DecodesSnapshots decode)
    (hencrypts : EncryptsBounded setting.crypto) {hostIdentity : DeviceIdentity}
    {pairing : HostPairingCoordinator}
    (hnew : HostPairingCoordinator.withRandom setting.crypto.toCrypto hostIdentity = .ok pairing)
    {faults : FileFaults} {file : Option Bytes} {host : Bytes} {registry : AuthorizationRegistry}
    (hload : load setting.crypto.toCrypto decode faults file host = .ok registry)
    (actions : List PairingAction)
    {past future : List (Occurrence PairingHost PairingAction PairingOutput)}
    {e : Occurrence PairingHost PairingAction PairingOutput}
    (htrace : (machine setting).trace ⟨pairing, ⟨registry, file⟩⟩ actions =
      past ++ e :: future) :
    GrantStep setting decode (past.map (·.input)) e.before e.input e.output e.after := by
  have hinit : Granting setting decode [] ⟨pairing, ⟨registry, file⟩⟩ := by
    obtain ⟨-, -, -, -, -, hhost⟩ := load_eq_ok.mp hload
    refine ⟨valid_initial hnew (load_wellFormed hload), ⟨registry, ?_, fun _ _ hget => hget⟩, ?_⟩
    · rw [hhost]
      exact load_noFaults hload
    · simp only [HostPairingCoordinator.withRandom, bind_eq_ok, ensure_eq_ok, pure, Except.pure,
        Except.ok.injEq] at hnew
      obtain ⟨_, -, _, -, _, -, _, -, _, -, _, -, rfl⟩ := hnew
      exact fun _ hactive => by cases hactive
  obtain ⟨before, a, after, -, rfl, rfl, -⟩ := Machine.trace_split htrace
  have hbefore := (machine setting).history_invariant
    (fun past s => Granting setting decode (past.map (·.input)) s)
    (fun past s a hs _ => by
      rw [List.map_append]
      exact (hs.step hdecode hencrypts a).2)
    [] hinit (Machine.guarded_true _ before)
  exact (hbefore.step hdecode hencrypts a).1

/-- The sample Host when the user is asked. -/
def sampleWaiting : PairingHost :=
  (machine SampleExchange.setting).run
    ⟨SampleExchange.coordinator, ⟨sampleRegistry, none⟩⟩ SampleExchange.actions

/-- The sample exchange ends with a grant for its controller. -/
theorem grant_after_exchange_sample :
    (step SampleExchange.setting sampleWaiting (SampleExchange.accept noFaults)).2 =
      .done (.ok ()) ∧
    AcceptedExchange SampleExchange.setting HostAuthorizationSnapshot.decode
      SampleExchange.actions sampleWaiting
      (step SampleExchange.setting sampleWaiting (SampleExchange.accept noFaults)).1
      SampleExchange.rendezvousId.toList SampleExchange.controller.deviceId := by
  have hnew : HostPairingCoordinator.withRandom SampleExchange.setting.crypto.toCrypto
      sampleHostIdentity = .ok SampleExchange.coordinator := by decide +kernel
  have hload : load SampleExchange.setting.crypto.toCrypto
      HostAuthorizationSnapshot.decode noFaults none sampleHostId = .ok sampleRegistry := by
    decide +kernel
  have hok : (step SampleExchange.setting sampleWaiting (SampleExchange.accept noFaults)).2 =
      .done (.ok ()) := by decide +kernel
  have hstep := grant_after_exchange decodesSnapshots_decode sampleExchange_encrypts hnew hload _
    ((machine SampleExchange.setting).trace_snoc ⟨SampleExchange.coordinator,
      ⟨sampleRegistry, none⟩⟩ SampleExchange.actions (SampleExchange.accept noFaults))
  rw [Machine.trace_map_input, Machine.occurrence_before, Machine.occurrence_input,
    Machine.occurrence_output, Machine.occurrence_after, ← sampleWaiting] at hstep
  refine ⟨hok, hstep.accepted _ _ SampleExchange.now noFaults
    (fun _ => some (Vector.replicate 16 5)) ?_ hok⟩
  unfold SampleExchange.accept
  rfl

end PairingHost

end Host

end Roammand
