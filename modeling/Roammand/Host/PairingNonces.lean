import Roammand.Host.PairingInvariant

/-!
# Nonces of the pairing ciphers

The journal of a run lists the ephemeral keys its attempts have drawn, the keys derived
from them and every plaintext sealed and envelope opened with those.  An attempt seals
its proof with the first nonce and its decision with the second one and then ends; it
opens one confirmation.

Under the assumptions that the attempts of a run have drawn different ephemeral keys, that
its transcripts give different keys and that no ciphertext opens under two of its keys, no
nonce is used twice with the same key.

Main results:

- Definition `JournalSound`: what the journal of a run looks like.
- Theorem `PairingHost.pairing_nonces_unique`: no two seals of a run have the same key and
  nonce, and no envelope is opened twice.
-/

namespace Roammand

namespace Host

open Library Protocol AuthorizationRegistry PairingCore

/-! ## Reading a journal -/

namespace CipherUse

/-- The attempt of a use. -/
def attempt : CipherUse → Bytes
  | drew a | derived a _ _ | sealed a _ _ _ | opened a _ _ _ _ => a

/-- The ephemeral key that was drawn. -/
def drew? : CipherUse → Option Bytes
  | drew a => some a
  | _ => none

/-- Two uses that one attempt cannot both make. -/
def Apart : CipherUse → CipherUse → Prop
  | drew a, drew b => a ≠ b
  | derived a _ _, derived b _ _ => a ≠ b
  | sealed a _ s _, sealed b _ t _ => ¬ (a = b ∧ s = t)
  | opened a _ _ _ _, opened b _ _ _ _ => a ≠ b
  | _, _ => True

end CipherUse

/-- The ephemeral keys of a journal. -/
def drawnKeys (journal : List CipherUse) : List Bytes := journal.filterMap CipherUse.drew?

/-- A plaintext that was sealed. -/
structure Seal where
  key : Bytes
  sequence : UInt64
  plaintext : PairingPlaintext

/-- An envelope that was opened. -/
structure Opening where
  key : Bytes
  sequence : UInt64
  phase : ActivePhase
  opaqueEnvelope : Bytes

/-- The derivation of a use. -/
def CipherUse.derivation? : CipherUse → Option (Bytes × PairingKeySchedule)
  | .derived _ transcript keys => some (transcript, keys)
  | _ => none

/-- The seal of a use. -/
def CipherUse.seal? : CipherUse → Option Seal
  | .sealed _ key sequence plaintext => some { key, sequence, plaintext }
  | _ => none

/-- The opening of a use. -/
def CipherUse.opening? : CipherUse → Option Opening
  | .opened _ key sequence phase opaqueEnvelope => some { key, sequence, phase, opaqueEnvelope }
  | _ => none

/-- The transcripts and the keys derived from them. -/
def derivations (journal : List CipherUse) : List (Bytes × PairingKeySchedule) :=
  journal.filterMap CipherUse.derivation?

/-- All that was sealed. -/
def seals (journal : List CipherUse) : List Seal := journal.filterMap CipherUse.seal?

/-- All that was opened. -/
def openings (journal : List CipherUse) : List Opening := journal.filterMap CipherUse.opening?

/-- The sequence number that a phase expects of an envelope. -/
def expectedSequence? : ActivePhase → Option UInt64
  | .waitingReady => some 1
  | _ => none

/-! ## What a journal looks like -/

/-- The keys have been derived from a transcript that names the attempt. -/
def KeysOf (crypto : PairingCrypto) (host : DeviceIdentity) (attempt transcript : Bytes)
    (keys : PairingKeySchedule) : Prop :=
  (∃ controller rendezvousId ephemeral,
    encodePairingTranscript controller host rendezvousId ephemeral attempt = .ok transcript) ∧
  ∃ secret, derivePairingKeys crypto secret (crypto.sha256 transcript).toList = .ok keys

/-- A use follows from earlier ones of its attempt. -/
def TracedUse (crypto : PairingCrypto) (host : DeviceIdentity) (journal : List CipherUse) :
    CipherUse → Prop
  | .drew _ => True
  | .derived a t keys => .drew a ∈ journal ∧ KeysOf crypto host a t keys
  | .sealed a key sequence _ => (sequence = 1 ∨ sequence = 2) ∧
      ∃ t keys, .derived a t keys ∈ journal ∧ key = keys.hostToController.toList
  | .opened a key sequence phase opaqueEnvelope => expectedSequence? phase = some sequence ∧
      (∃ t keys, .derived a t keys ∈ journal ∧ key = keys.controllerToHost.toList) ∧
      ∃ rendezvousId controllerDeviceId hostDeviceId plaintext,
        openControllerPlaintext crypto key sequence rendezvousId controllerDeviceId hostDeviceId
          opaqueEnvelope = .ok plaintext

/-- Every use follows from earlier ones. -/
def Traced (crypto : PairingCrypto) (host : DeviceIdentity) (journal : List CipherUse) : Prop :=
  ∀ u ∈ journal, TracedUse crypto host journal u

/-- When the drawn keys differ, no attempt makes a use twice. -/
def Distinct (journal : List CipherUse) : Prop :=
  (drawnKeys journal).Nodup → journal.Pairwise CipherUse.Apart

/-- The attempt has answered a hello. -/
def ActivePairing.Answered (active : ActivePairing) : Prop :=
  active.phase = .waitingReady ∨ active.phase = .waitingDecision

/-- What the attempt under way can have done in its phase. -/
def Allowed (active : ActivePairing) : CipherUse → Prop
  | .drew _ => True
  | .derived _ _ _ => active.Answered
  | .sealed _ _ sequence _ => active.Answered ∧ sequence = 1
  | .opened _ _ _ _ _ => active.phase = .waitingDecision

/-- The journal of the attempt under way. -/
structure Staged (journal : List CipherUse) (active : ActivePairing) : Prop where
  drawn : .drew active.invitation.hostEphemeralPublicKey ∈ journal
  keys : active.Answered → ∃ t keys, active.keys = some keys ∧
    .derived active.invitation.hostEphemeralPublicKey t keys ∈ journal
  allowed : (drawnKeys journal).Nodup → ∀ u ∈ journal,
    u.attempt = active.invitation.hostEphemeralPublicKey → Allowed active u

/-- What the journal of a run looks like. -/
structure JournalSound (crypto : PairingCrypto) (c : PairingCore) : Prop where
  traced : Traced crypto c.hostIdentity c.journal
  distinct : Distinct c.journal
  staged : ∀ active, c.active = some active → Staged c.journal active

/-! ## Growing a journal -/

section Journal

variable {crypto : PairingCrypto} {host : DeviceIdentity} {journal : List CipherUse}
  {u : CipherUse} {active active' : ActivePairing}

theorem TracedUse.mono {journal' : List CipherUse} (hsub : journal ⊆ journal')
    (h : TracedUse crypto host journal u) : TracedUse crypto host journal' u := by
  cases u with
  | drew a => trivial
  | derived a t keys => exact ⟨hsub h.1, h.2⟩
  | sealed a key sequence plaintext =>
    obtain ⟨hsequence, t, keys, hmem, hkey⟩ := h
    exact ⟨hsequence, t, keys, hsub hmem, hkey⟩
  | opened a key sequence phase envelope =>
    obtain ⟨hsequence, ⟨t, keys, hmem, hkey⟩, hopened⟩ := h
    exact ⟨hsequence, ⟨t, keys, hsub hmem, hkey⟩, hopened⟩

theorem Traced.snoc (h : Traced crypto host journal) (hu : TracedUse crypto host journal u) :
    Traced crypto host (journal ++ [u]) := by
  intro v hv
  rcases List.mem_append.mp hv with hold | hnew
  · exact (h v hold).mono (List.subset_append_left _ _)
  · rw [List.mem_singleton.mp hnew]
    exact hu.mono (List.subset_append_left _ _)

/-- The attempt of a use has drawn its key. -/
theorem Traced.drawn (h : Traced crypto host journal) (hu : u ∈ journal) :
    .drew u.attempt ∈ journal := by
  have hderived : ∀ {a t keys}, CipherUse.derived a t keys ∈ journal → .drew a ∈ journal :=
    fun hmem => (h _ hmem).1
  have huse := h u hu
  cases u with
  | drew a => exact hu
  | derived a t keys => exact hderived hu
  | sealed a key sequence plaintext =>
    obtain ⟨-, t, keys, hmem, -⟩ := huse
    exact hderived hmem
  | opened a key sequence phase envelope =>
    obtain ⟨-, ⟨t, keys, hmem, -⟩, -⟩ := huse
    exact hderived hmem

theorem drawnKeys_append (journal uses : List CipherUse) :
    drawnKeys (journal ++ uses) = drawnKeys journal ++ drawnKeys uses :=
  List.filterMap_append

theorem mem_drawnKeys {a : Bytes} : a ∈ drawnKeys journal ↔ .drew a ∈ journal := by
  simp only [drawnKeys, List.mem_filterMap]
  constructor
  · rintro ⟨u, hu, hdrew⟩
    cases u with
    | drew b =>
      cases hdrew
      exact hu
    | derived b t keys => cases hdrew
    | sealed b key sequence plaintext => cases hdrew
    | opened b key sequence phase envelope => cases hdrew
  · intro h
    exact ⟨_, h, rfl⟩

theorem Distinct.snoc (h : Distinct journal)
    (hu : (drawnKeys (journal ++ [u])).Nodup → ∀ v ∈ journal, v.Apart u) :
    Distinct (journal ++ [u]) := by
  intro hnodup
  have hold : (drawnKeys journal).Nodup := by
    rw [drawnKeys_append] at hnodup
    exact (List.nodup_append.mp hnodup).1
  rw [List.pairwise_append]
  refine ⟨h hold, List.pairwise_singleton _ _, ?_⟩
  intro v hv w hw
  rw [List.mem_singleton.mp hw]
  exact hu hnodup v hv

/-- Uses of different attempts do not clash. -/
theorem CipherUse.Apart.of_attempt_ne {v : CipherUse} (h : v.attempt ≠ u.attempt) :
    v.Apart u := by
  cases v with
  | drew a =>
    cases u with
    | drew b => exact h
    | derived b t keys => trivial
    | sealed b key sequence plaintext => trivial
    | opened b key sequence phase envelope => trivial
  | derived a t keys =>
    cases u with
    | derived b t keys => exact h
    | drew b => trivial
    | sealed b key sequence plaintext => trivial
    | opened b key sequence phase envelope => trivial
  | sealed a key sequence plaintext =>
    cases u with
    | sealed b key sequence plaintext => exact fun heq => h heq.1
    | drew b => trivial
    | derived b t keys => trivial
    | opened b key sequence phase envelope => trivial
  | opened a key sequence phase envelope =>
    cases u with
    | opened b key sequence phase envelope => exact h
    | drew b => trivial
    | derived b t keys => trivial
    | sealed b key sequence plaintext => trivial

/-- A use that does not clash with what the attempt can have done so far clashes with
nothing in the journal. -/
theorem Staged.apart (h : Staged journal active)
    (hu : u.attempt = active.invitation.hostEphemeralPublicKey)
    (hnodup : (drawnKeys journal).Nodup) (hallowed : ∀ v, Allowed active v → v.Apart u) :
    ∀ v ∈ journal, v.Apart u := by
  intro v hv
  by_cases heq : v.attempt = u.attempt
  · exact hallowed v (h.allowed hnodup v hv (heq.trans hu))
  · exact .of_attempt_ne heq

/-- Keys are derived once in an attempt that has not answered yet. -/
theorem Staged.apart_derived (h : Staged journal active) (hphase : active.phase = .waitingHello)
    (hnodup : (drawnKeys journal).Nodup) (t : Bytes) (keys : PairingKeySchedule) :
    ∀ v ∈ journal, v.Apart
      (.derived active.invitation.hostEphemeralPublicKey t keys) := by
  refine h.apart rfl hnodup ?_
  intro v hv
  cases v with
  | derived a t keys =>
    rcases hv with hv | hv
    · rw [hphase] at hv
      cases hv
    · rw [hphase] at hv
      cases hv
  | drew a => trivial
  | sealed a key sequence plaintext => trivial
  | opened a key sequence phase envelope => trivial

/-- The proof is sealed once in an attempt that has not answered yet. -/
theorem Staged.apart_proof (h : Staged journal active) (hphase : active.phase = .waitingHello)
    (hnodup : (drawnKeys journal).Nodup) (key : Bytes) (plaintext : PairingPlaintext) :
    ∀ v ∈ journal, v.Apart
      (.sealed active.invitation.hostEphemeralPublicKey key 1 plaintext) := by
  refine h.apart rfl hnodup ?_
  intro v hv
  cases v with
  | sealed a key sequence plaintext =>
    rcases hv.1 with hv | hv
    · rw [hphase] at hv
      cases hv
    · rw [hphase] at hv
      cases hv
  | drew a => trivial
  | derived a t keys => trivial
  | opened a key sequence phase envelope => trivial

/-- One confirmation is opened while the attempt waits for it. -/
theorem Staged.apart_opened (h : Staged journal active) (hphase : active.phase = .waitingReady)
    (hnodup : (drawnKeys journal).Nodup) (key : Bytes) (opaqueEnvelope : Bytes) :
    ∀ v ∈ journal, v.Apart (.opened active.invitation.hostEphemeralPublicKey key 1 .waitingReady
      opaqueEnvelope) := by
  refine h.apart rfl hnodup ?_
  intro v hv
  cases v with
  | opened a key sequence phase envelope =>
    have hdecided : active.phase = .waitingDecision := hv
    rw [hphase] at hdecided
    cases hdecided
  | drew a => trivial
  | derived a t keys => trivial
  | sealed a key sequence plaintext => trivial

/-- A decision is sealed with another number than the proof. -/
theorem Staged.apart_decision (h : Staged journal active) (hnodup : (drawnKeys journal).Nodup)
    (key : Bytes) (plaintext : PairingPlaintext) :
    ∀ v ∈ journal, v.Apart
      (.sealed active.invitation.hostEphemeralPublicKey key 2 plaintext) := by
  refine h.apart rfl hnodup ?_
  intro v hv
  cases v with
  | sealed a key sequence plaintext =>
    intro heq
    rw [hv.2] at heq
    exact absurd heq.2 (by decide)
  | drew a => trivial
  | derived a t keys => trivial
  | opened a key sequence phase envelope => trivial

end Journal

/-! ## The effects keep the journal sound -/

section Effects

variable {setting : PairingHost.Setting} {c c' : PairingCore} {active : ActivePairing}

namespace JournalSound

/-- A change outside the journal that keeps or ends the attempt. -/
theorem keep (h : JournalSound setting.crypto c) (hid : c'.hostIdentity = c.hostIdentity)
    (hjournal : c'.journal = c.journal) (hactive : c'.active = c.active ∨ c'.active = none) :
    JournalSound setting.crypto c' := by
  refine ⟨?_, ?_, ?_⟩
  · rw [hid, hjournal]
    exact h.traced
  · rw [hjournal]
    exact h.distinct
  · intro active hsome
    rw [hjournal]
    rcases hactive with heq | hnone
    · exact h.staged active (heq ▸ hsome)
    · rw [hnone] at hsome
      cases hsome

/-- A step of an attempt that has not answered yet. -/
theorem advance (h : JournalSound setting.crypto c) {active' : ActivePairing}
    (hactive : c.active = some active) (hid : c'.hostIdentity = c.hostIdentity)
    (hjournal : c'.journal = c.journal) (hactive' : c'.active = some active')
    (hkey : active'.invitation.hostEphemeralPublicKey = active.invitation.hostEphemeralPublicKey)
    (hbefore : ¬ active.Answered) (hafter : ¬ active'.Answered) :
    JournalSound setting.crypto c' := by
  have hstaged := h.staged active hactive
  refine ⟨?_, ?_, ?_⟩
  · rw [hid, hjournal]
    exact h.traced
  · rw [hjournal]
    exact h.distinct
  · intro active'' hsome
    obtain rfl : active' = active'' := Option.some.inj (hactive'.symm.trans hsome)
    rw [hjournal]
    refine ⟨hkey ▸ hstaged.drawn, fun hanswered => absurd hanswered hafter, ?_⟩
    intro hnodup u hu hattempt
    have hallowed := hstaged.allowed hnodup u hu (hattempt.trans hkey)
    cases u with
    | drew a => trivial
    | derived a t keys => exact absurd hallowed hbefore
    | sealed a key sequence plaintext => exact absurd hallowed.1 hbefore
    | opened a key sequence phase envelope => exact absurd (.inr hallowed) hbefore

end JournalSound

/-- The keys of a verified hello are those of its attempt. -/
theorem Greets.keysOf {host : DeviceIdentity} {senderDeviceId opaqueEnvelope : Bytes}
    {verified : VerifiedControllerHello}
    (h : Greets setting.crypto host active senderDeviceId opaqueEnvelope verified) :
    KeysOf setting.crypto host active.invitation.hostEphemeralPublicKey verified.transcript
      verified.keys := by
  obtain ⟨hello, -, hverified⟩ := h.hello
  have hfacts := verifyControllerHello_ok hverified
  obtain ⟨secret, -, hkeys⟩ := hfacts.keys
  rw [hfacts.digest] at hkeys
  exact ⟨⟨_, _, _, hfacts.transcript⟩, _, hkeys⟩

/-- The journal after the keys of an attempt have been derived. -/
theorem JournalSound.derive (h : JournalSound setting.crypto c) (hactive : c.active = some active)
    {senderDeviceId opaqueEnvelope : Bytes} {verified : VerifiedControllerHello}
    (hgreets : Greets setting.crypto c.hostIdentity active senderDeviceId opaqueEnvelope verified) :
    Traced setting.crypto c.hostIdentity (c.journal ++ [derivedUse active verified]) ∧
      Distinct (c.journal ++ [derivedUse active verified]) := by
  have hstaged := h.staged active hactive
  refine ⟨h.traced.snoc ⟨hstaged.drawn, hgreets.keysOf⟩, h.distinct.snoc fun hnodup => ?_⟩
  rw [drawnKeys_append, show drawnKeys [derivedUse active verified] = [] from rfl,
    List.append_nil] at hnodup
  exact hstaged.apart_derived hgreets.phase hnodup _ _

/-- The journal after the proof of an attempt has been sealed. -/
theorem JournalSound.prove (h : JournalSound setting.crypto c) (hactive : c.active = some active)
    {senderDeviceId opaqueEnvelope : Bytes} {verified : VerifiedControllerHello}
    (hgreets : Greets setting.crypto c.hostIdentity active senderDeviceId opaqueEnvelope
      verified) (proof : PairingPlaintext) :
    Traced setting.crypto c.hostIdentity
        (c.journal ++ [derivedUse active verified, sealedUse active verified.keys 1 proof]) ∧
      Distinct
        (c.journal ++ [derivedUse active verified, sealedUse active verified.keys 1 proof]) := by
  obtain ⟨htraced, hdistinct⟩ := h.derive hactive hgreets
  rw [List.append_cons]
  refine ⟨htraced.snoc ⟨.inl rfl, verified.transcript, verified.keys, ?_, rfl⟩,
    hdistinct.snoc fun hnodup v hv => ?_⟩
  · exact List.mem_append_right _ (List.mem_singleton_self _)
  · rw [drawnKeys_append, drawnKeys_append,
      show drawnKeys [derivedUse active verified] = [] from rfl,
      show drawnKeys [sealedUse active verified.keys 1 proof] = [] from rfl, List.append_nil,
      List.append_nil] at hnodup
    rcases List.mem_append.mp hv with hold | hnew
    · exact (h.staged active hactive).apart_proof hgreets.phase hnodup _ _ v hold
    · rw [List.mem_singleton.mp hnew]
      trivial

/-- The journal after a confirmation has been opened. -/
theorem JournalSound.open (h : JournalSound setting.crypto c) (hactive : c.active = some active)
    {senderDeviceId opaqueEnvelope : Bytes} {keys : PairingKeySchedule}
    {plaintext : PairingPlaintext}
    (hopens : Opens setting.crypto c.hostIdentity active senderDeviceId opaqueEnvelope keys
      plaintext) :
    Traced setting.crypto c.hostIdentity (c.journal ++ [openedUse active keys opaqueEnvelope]) ∧
      Distinct (c.journal ++ [openedUse active keys opaqueEnvelope]) := by
  have hstaged := h.staged active hactive
  obtain ⟨t, keys', hkeys', hderived⟩ := hstaged.keys (.inl hopens.phase)
  obtain rfl : keys = keys' := Option.some.inj (hopens.keys.symm.trans hkeys')
  obtain ⟨controller, -, hopened⟩ := hopens.opened
  refine ⟨h.traced.snoc ⟨rfl, ⟨t, keys, hderived, rfl⟩, _, _, _, _, hopened⟩,
    h.distinct.snoc fun hnodup => ?_⟩
  rw [drawnKeys_append, show drawnKeys [openedUse active keys opaqueEnvelope] = [] from rfl,
    List.append_nil] at hnodup
  exact hstaged.apart_opened hopens.phase hnodup _ _

/-- The journal after a decision has been sealed. -/
theorem JournalSound.decide (h : JournalSound setting.crypto c) (hactive : c.active = some active)
    {rendezvousId : Bytes} {controller : DeviceIdentity} {keys : PairingKeySchedule}
    (hdecides : Decides active rendezvousId controller keys) (decision : PairingPlaintext) :
    Traced setting.crypto c.hostIdentity (c.journal ++ [sealedUse active keys 2 decision]) ∧
      Distinct (c.journal ++ [sealedUse active keys 2 decision]) := by
  have hstaged := h.staged active hactive
  obtain ⟨t, keys', hkeys', hderived⟩ := hstaged.keys (.inr hdecides.phase)
  obtain rfl : keys = keys' := Option.some.inj (hdecides.keys.symm.trans hkeys')
  refine ⟨h.traced.snoc ⟨.inr rfl, t, keys, hderived, rfl⟩, h.distinct.snoc fun hnodup => ?_⟩
  rw [drawnKeys_append, show drawnKeys [sealedUse active keys 2 decision] = [] from rfl,
    List.append_nil] at hnodup
  exact hstaged.apart_decision hnodup _ _

/-- The state after an attempt has ended with a grown journal. -/
theorem JournalSound.ofEnded {journal : List CipherUse}
    (h : Traced setting.crypto c.hostIdentity journal ∧ Distinct journal)
    (hid : c'.hostIdentity = c.hostIdentity) (hjournal : c'.journal = journal)
    (hnone : c'.active = none) : JournalSound setting.crypto c' := by
  refine ⟨?_, ?_, ?_⟩
  · rw [hid, hjournal]
    exact h.1
  · rw [hjournal]
    exact h.2
  · intro active hactive
    rw [hnone] at hactive
    cases hactive

theorem nodup_of_append {journal uses : List CipherUse}
    (h : (drawnKeys (journal ++ uses)).Nodup) : (drawnKeys journal).Nodup := by
  rw [drawnKeys_append] at h
  exact (List.nodup_append.mp h).1

theorem not_answered_of_phase (phase : ActivePhase) (hphase : active.phase = phase)
    (hready : phase ≠ .waitingReady) (hdecision : phase ≠ .waitingDecision) :
    ¬ active.Answered := by
  rintro (heq | heq)
  · exact hready (hphase.symm.trans heq)
  · exact hdecision (hphase.symm.trans heq)

/-- A new attempt has a key that the journal does not know. -/
theorem Staged.start (htraced : Traced setting.crypto c.hostIdentity c.journal)
    (hphase : active.phase = .creating) :
    Staged (c.journal ++ [.drew active.invitation.hostEphemeralPublicKey]) active := by
  have hbefore := not_answered_of_phase .creating hphase (by decide) (by decide)
  refine ⟨List.mem_append_right _ (List.mem_singleton_self _),
    fun hanswered => absurd hanswered hbefore, ?_⟩
  intro hnodup u hu hattempt
  rcases List.mem_append.mp hu with hold | hnew
  · rw [drawnKeys_append, List.nodup_append] at hnodup
    have hdrawn := mem_drawnKeys.mpr (htraced.drawn hold)
    rw [hattempt] at hdrawn
    exact absurd rfl (hnodup.2.2 _ hdrawn _ (List.mem_singleton_self _))
  · rw [List.mem_singleton.mp hnew]
    trivial

/-- The attempt that has answered a hello. -/
theorem Staged.greet {verified : VerifiedControllerHello} (h : Staged c.journal active)
    (hphase : active.phase = .waitingHello) (words : List String) (proof : PairingPlaintext) :
    Staged (c.journal ++ [derivedUse active verified, sealedUse active verified.keys 1 proof])
      (active.greet verified words) := by
  have hbefore := not_answered_of_phase .waitingHello hphase (by decide) (by decide)
  refine ⟨List.mem_append_left _ h.drawn, fun _ => ⟨_, _, rfl, List.mem_append_right _
    (List.mem_cons_self ..)⟩, ?_⟩
  intro hnodup u hu hattempt
  rcases List.mem_append.mp hu with hold | hnew
  · have hallowed := h.allowed (nodup_of_append hnodup) u hold hattempt
    cases u with
    | drew a => trivial
    | derived a t keys => exact absurd hallowed hbefore
    | sealed a key sequence plaintext => exact absurd hallowed.1 hbefore
    | opened a key sequence phase envelope => exact absurd (.inr hallowed) hbefore
  · simp only [List.mem_cons, List.not_mem_nil, or_false] at hnew
    rcases hnew with rfl | rfl
    · exact .inl rfl
    · exact ⟨.inl rfl, rfl⟩

/-- The attempt whose confirmation has been opened. -/
theorem Staged.confirm {keys : PairingKeySchedule} {opaqueEnvelope : Bytes}
    (h : Staged c.journal active) (hphase : active.phase = .waitingReady) :
    Staged (c.journal ++ [openedUse active keys opaqueEnvelope])
      { active with phase := .waitingDecision } := by
  obtain ⟨t, keys', hkeys, hderived⟩ := h.keys (.inl hphase)
  refine ⟨List.mem_append_left _ h.drawn, fun _ => ⟨t, keys', hkeys,
    List.mem_append_left _ hderived⟩, ?_⟩
  intro hnodup u hu hattempt
  rcases List.mem_append.mp hu with hold | hnew
  · have hallowed := h.allowed (nodup_of_append hnodup) u hold hattempt
    cases u with
    | drew a => trivial
    | derived a t keys => exact .inr rfl
    | sealed a key sequence plaintext => exact ⟨.inr rfl, hallowed.2⟩
    | opened a key sequence phase envelope => rfl
  · rw [List.mem_singleton.mp hnew]
    rfl

theorem FailedUses.sound {uses : List CipherUse} (h : JournalSound setting.crypto c)
    (hactive : c.active = some active) (huses : FailedUses setting c.hostIdentity active uses) :
    Traced setting.crypto c.hostIdentity (c.journal ++ uses) ∧ Distinct (c.journal ++ uses) := by
  cases huses with
  | none =>
    rw [List.append_nil]
    exact ⟨h.traced, h.distinct⟩
  | derived hgreets => exact h.derive hactive hgreets
  | sealed hgreets hproof => exact h.prove hactive hgreets _
  | opened hopens => exact h.open hactive hopens

theorem JournalSound.tick (h : JournalSound setting.crypto c) (nowUnixMs : UInt64) :
    JournalSound setting.crypto (c.tick nowUnixMs) := by
  unfold PairingCore.tick
  cases hactive : c.active with
  | none => exact h
  | some active =>
    dsimp only
    split
    · exact h
    · exact h.keep (abandon_hostIdentity active c) (abandon_journal active c) (.inr rfl)

theorem JournalSound.atTime (h : JournalSound setting.crypto c) (a : PairingAction) :
    JournalSound setting.crypto (c.atTime a) := by
  unfold PairingCore.atTime
  split
  · exact h.tick _
  · exact h

theorem Effect.journalSound {a : PairingAction} (h : Effect setting c a c')
    (hencrypts : EncryptsBounded setting.crypto) (hsound : c.Sound setting.crypto)
    (hj : JournalSound setting.crypto c) : JournalSound setting.crypto c' := by
  cases h with
  | refused => exact hj
  | connected => exact hj.keep rfl rfl (.inl rfl)
  | lost => exact hj.keep rfl rfl (.inr rfl)
  | stopped => exact hj.keep rfl rfl (.inr rfl)
  | flushed => exact hj.keep rfl rfl (.inl rfl)
  | forgot hnone => exact hj.keep rfl rfl (.inl rfl)
  | startFailed hnone => exact hj.keep rfl rfl (.inl rfl)
  | started hconnected hnone hfresh =>
    refine ⟨hj.traced.snoc trivial, hj.distinct.snoc fun hnodup v hv => ?_, ?_⟩
    · rw [drawnKeys_append, List.nodup_append] at hnodup
      refine .of_attempt_ne fun heq => ?_
      have hdrawn := mem_drawnKeys.mpr (hj.traced.drawn hv)
      exact hnodup.2.2 _ hdrawn _ (List.mem_singleton_self _) heq
    · rintro active' hactive'
      cases hactive'
      exact Staged.start hj.traced hfresh.phase
  | cancelled hactive =>
    exact hj.keep (abandon_hostIdentity _ c) (abandon_journal _ c) (.inr rfl)
  | createdLate hnone hpending => exact hj.keep rfl rfl (.inl rfl)
  | created hactive hphase hexpires =>
    exact hj.advance hactive rfl rfl rfl rfl
      (not_answered_of_phase .creating hphase (by decide) (by decide))
      (not_answered_of_phase .inviting rfl (by decide) (by decide))
  | joined hactive hphase hpeer =>
    exact hj.advance hactive rfl rfl rfl rfl
      (not_answered_of_phase .inviting hphase (by decide) (by decide))
      (not_answered_of_phase .waitingHello rfl (by decide) (by decide))
  | greeted hactive hgreets hproof hsealed hwords =>
    obtain ⟨htraced, hdistinct⟩ := hj.prove hactive hgreets (.hostProof _)
    refine ⟨htraced, hdistinct, ?_⟩
    rintro active' hactive'
    cases hactive'
    exact (hj.staged _ hactive).greet hgreets.phase _ _
  | confirmed hactive hopens =>
    obtain ⟨htraced, hdistinct⟩ := hj.open hactive hopens
    refine ⟨htraced, hdistinct, ?_⟩
    rintro active' hactive'
    cases hactive'
    exact (hj.staged _ hactive).confirm hopens.phase
  | failed hactive hevent huses =>
    exact .ofEnded (huses.sound hj hactive) (failActive_hostIdentity _) (failActive_journal _) rfl
  | closed hactive => exact hj.keep rfl rfl (.inr rfl)
  | rejected hactive hdecides hsealed =>
    exact .ofEnded (hj.decide hactive hdecides _) rfl rfl rfl
  | rejectFailed hactive hdecides hsealed =>
    exact absurd hsealed (rejection_answered hencrypts hsound hactive hdecides)

theorem PairingHost.step_journalSound {s : PairingHost} (hencrypts : EncryptsBounded setting.crypto)
    (hvalid : s.Valid setting.crypto) (hj : JournalSound setting.crypto s.pairing.toPairingCore)
    (a : PairingAction) :
    JournalSound setting.crypto (step setting s a).1.pairing.toPairingCore := by
  rcases accept_or_not a with ⟨rendezvousId, controllerDeviceId, nowUnixMs, faults, random, rfl⟩ |
    haccept
  · obtain ⟨r, c', authorization', heffect, -, rfl, -⟩ :=
      step_accept s rendezvousId controllerDeviceId nowUnixMs faults random
    have hj := hj.tick nowUnixMs
    have hsound := hvalid.pairing.tick nowUnixMs
    generalize (step setting s _).1.pairing.toPairingCore = c' at heffect ⊢
    cases heffect with
    | refused error => exact hj
    | grantFailed hactive hphase hgrant =>
      exact hj.keep (failActive_hostIdentity _) (failActive_journal _) (.inr rfl)
    | unanswered hactive hphase hcontroller hgrant hcause =>
      exact absurd hcause (acceptance_answered hencrypts hsound hvalid.grants hactive hphase
        hcontroller hgrant)
    | accepted hactive hdecides hid hgrant hview hsealed =>
      exact .ofEnded (hj.decide hactive hdecides _) rfl rfl rfl
  · exact (step_effect s haccept).1.journalSound hencrypts (hvalid.pairing.atTime a) (hj.atTime a)

end Effects

/-! ## No nonce is used twice -/

section Run

variable {crypto : PairingCrypto} {host : DeviceIdentity} {journal : List CipherUse}

/-- Keys that a run has derived from different transcripts are different. -/
def SeparatesTranscripts (journal : List CipherUse) : Prop :=
  ∀ d₁ ∈ derivations journal, ∀ d₂ ∈ derivations journal,
    d₁.2.hostToController = d₂.2.hostToController ∨
      d₁.2.controllerToHost = d₂.2.controllerToHost → d₁.1 = d₂.1

/-- Ciphertexts that a run has opened in one rendezvous under different keys are different. -/
def AuthenticatesKeys (crypto : PairingCrypto) (journal : List CipherUse) : Prop :=
  ∀ o₁ ∈ openings journal, ∀ o₂ ∈ openings journal, ∀ e₁ e₂,
    decodePairingMessage crypto o₁.opaqueEnvelope = .ok (.encryptedEnvelope e₁) →
    decodePairingMessage crypto o₂.opaqueEnvelope = .ok (.encryptedEnvelope e₂) →
    e₁.rendezvousId = e₂.rendezvousId → e₁.ciphertext = e₂.ciphertext → o₁.key = o₂.key

/-- A pairing transcript names the ephemeral key of the Host. -/
theorem encodePairingTranscript_hostEphemeral {controller₁ controller₂ host₁ host₂ :
    DeviceIdentity} {rendezvousId₁ rendezvousId₂ ephemeral₁ ephemeral₂ attempt₁ attempt₂ t : Bytes}
    (h₁ : encodePairingTranscript controller₁ host₁ rendezvousId₁ ephemeral₁ attempt₁ = .ok t)
    (h₂ : encodePairingTranscript controller₂ host₂ rendezvousId₂ ephemeral₂ attempt₂ = .ok t) :
    attempt₁ = attempt₂ := by
  simp only [encodePairingTranscript, bind_eq_ok, mapError_eq_ok] at h₁ h₂
  obtain ⟨_, -, h₁⟩ := h₁
  obtain ⟨_, -, h₂⟩ := h₂
  have heq := (decodeTranscript_eq_ok.mpr h₁).symm.trans (decodeTranscript_eq_ok.mpr h₂)
  simp only [Except.ok.injEq, CanonicalTranscript.mk.injEq, List.cons.injEq,
    TranscriptField.mk.injEq, true_and, and_true] at heq
  exact heq.2.2.2.2.2.2

/-- Attempts that share a key are one attempt. -/
theorem Traced.attempt_unique (htraced : Traced crypto host journal)
    (hseparates : SeparatesTranscripts journal) {a₁ a₂ t₁ t₂ : Bytes}
    {keys₁ keys₂ : PairingKeySchedule} (h₁ : .derived a₁ t₁ keys₁ ∈ journal)
    (h₂ : .derived a₂ t₂ keys₂ ∈ journal)
    (hkeys : keys₁.hostToController = keys₂.hostToController ∨
      keys₁.controllerToHost = keys₂.controllerToHost) : a₁ = a₂ := by
  obtain ⟨-, ⟨_, _, _, htranscript₁⟩, -⟩ := htraced _ h₁
  obtain ⟨-, ⟨_, _, _, htranscript₂⟩, -⟩ := htraced _ h₂
  have ht : t₁ = t₂ := hseparates (t₁, keys₁) (List.mem_filterMap.mpr ⟨_, h₁, rfl⟩) (t₂, keys₂)
    (List.mem_filterMap.mpr ⟨_, h₂, rfl⟩) hkeys
  exact encodePairingTranscript_hostEphemeral htranscript₁ (ht ▸ htranscript₂)

/-- The two numbers with which an attempt seals give different nonces. -/
theorem sequence_of_nonce {s₁ s₂ : UInt64} (h₁ : s₁ = 1 ∨ s₁ = 2) (h₂ : s₂ = 1 ∨ s₂ = 2)
    (h : pairingNonce .hostToController s₁ = pairingNonce .hostToController s₂) : s₁ = s₂ := by
  have hne : pairingNonce .hostToController 1 ≠ pairingNonce .hostToController 2 := by decide
  rcases h₁ with rfl | rfl
  · rcases h₂ with rfl | rfl
    · rfl
    · exact absurd h hne
  · rcases h₂ with rfl | rfl
    · exact absurd h.symm hne
    · rfl

/-- No two seals have the same key and nonce. -/
theorem seals_pairwise (htraced : Traced crypto host journal)
    (hapart : journal.Pairwise CipherUse.Apart)
    (hseparates : SeparatesTranscripts journal) :
    (seals journal).Pairwise fun a b => ¬ (a.key = b.key ∧
      pairingNonce .hostToController a.sequence = pairingNonce .hostToController b.sequence) := by
  unfold seals
  rw [List.pairwise_filterMap]
  refine hapart.imp_of_mem ?_
  intro u v hu hv huv a ha b hb
  rintro ⟨hkey, hnonce⟩
  cases u with
  | drew a => cases ha
  | derived a t keys => cases ha
  | opened a key sequence phase envelope => cases ha
  | sealed a₁ key₁ s₁ p₁ =>
  cases v with
  | drew a => cases hb
  | derived a t keys => cases hb
  | opened a key sequence phase envelope => cases hb
  | sealed a₂ key₂ s₂ p₂ =>
  cases ha
  cases hb
  obtain ⟨hs₁, t₁, keys₁, hderived₁, rfl⟩ := htraced _ hu
  obtain ⟨hs₂, t₂, keys₂, hderived₂, rfl⟩ := htraced _ hv
  refine huv ⟨?_, sequence_of_nonce hs₁ hs₂ hnonce⟩
  exact htraced.attempt_unique hseparates hderived₁ hderived₂ (.inl (Vector.toList_inj.mp hkey))

/-- Every opened envelope has the number its phase expects. -/
theorem openings_expected (htraced : Traced crypto host journal) :
    ∀ o ∈ openings journal, expectedSequence? o.phase = some o.sequence ∧
      ∃ envelope, decodePairingMessage crypto o.opaqueEnvelope =
        .ok (.encryptedEnvelope envelope) ∧ envelope.sequence = o.sequence := by
  intro o ho
  obtain ⟨u, hu, hopening⟩ := List.mem_filterMap.mp ho
  cases u with
  | drew a => cases hopening
  | derived a t keys => cases hopening
  | sealed a key sequence plaintext => cases hopening
  | opened a key sequence phase envelope =>
    cases hopening
    obtain ⟨hsequence, -, _, _, _, _, hopened⟩ := htraced _ hu
    obtain ⟨envelope, _, _, hmessage, -, henvelope, -⟩ := openControllerPlaintext_ok hopened
    exact ⟨hsequence, envelope, hmessage, henvelope⟩

/-- No envelope is opened twice. -/
theorem openings_pairwise (htraced : Traced crypto host journal)
    (hapart : journal.Pairwise CipherUse.Apart) (hseparates : SeparatesTranscripts journal)
    (hauthenticates : AuthenticatesKeys crypto journal) :
    (openings journal).Pairwise fun a b => a.opaqueEnvelope ≠ b.opaqueEnvelope := by
  unfold openings
  rw [List.pairwise_filterMap]
  refine hapart.imp_of_mem ?_
  intro u v hu hv huv a ha b hb
  cases u with
  | drew a => cases ha
  | derived a t keys => cases ha
  | sealed a key sequence plaintext => cases ha
  | opened a₁ key₁ s₁ phase₁ envelope₁ =>
  cases v with
  | drew a => cases hb
  | derived a t keys => cases hb
  | sealed a key sequence plaintext => cases hb
  | opened a₂ key₂ s₂ phase₂ envelope₂ =>
  have ha' := List.mem_filterMap.mpr ⟨_, hu, ha⟩
  have hb' := List.mem_filterMap.mpr ⟨_, hv, hb⟩
  cases ha
  cases hb
  rintro rfl
  obtain ⟨-, ⟨t₁, keys₁, hderived₁, rfl⟩, _, _, _, _, hopened₁⟩ := htraced _ hu
  obtain ⟨-, ⟨t₂, keys₂, hderived₂, rfl⟩, -⟩ := htraced _ hv
  obtain ⟨e, -, -, hmessage, -⟩ := openControllerPlaintext_ok hopened₁
  have hkey := hauthenticates _ ha' _ hb' e e hmessage hmessage rfl rfl
  exact huv (htraced.attempt_unique hseparates hderived₁ hderived₂
    (.inr (Vector.toList_inj.mp hkey)))

end Run

namespace PairingHost

variable {setting : Setting} {decode : Bytes → Option HostAuthorizationSnapshot}

/-- The journal of every run is sound. -/
theorem run_journalSound (hencrypts : EncryptsBounded setting.crypto) {s : PairingHost}
    (hvalid : s.Valid setting.crypto) (hj : JournalSound setting.crypto s.pairing.toPairingCore)
    (actions : List PairingAction) :
    JournalSound setting.crypto ((machine setting).run s actions).pairing.toPairingCore := by
  have hrun := (machine setting).run_invariant
    (fun s => s.Valid setting.crypto ∧ JournalSound setting.crypto s.pairing.toPairingCore)
    (fun s a hs _ => ⟨hs.1.step a, step_journalSound hencrypts hs.1 hs.2 a⟩) ⟨hvalid, hj⟩
    (Machine.guarded_true s actions)
  exact hrun.2

/-- Over every run in which the attempts have drawn different ephemeral keys, no two seals
have the same key and nonce, every opened envelope has the number its phase expects, and
no envelope is opened twice. -/
theorem pairing_nonces_unique (hencrypts : EncryptsBounded setting.crypto)
    {hostIdentity : DeviceIdentity} {pairing : HostPairingCoordinator}
    (hnew : HostPairingCoordinator.withRandom setting.crypto.toCrypto hostIdentity = .ok pairing)
    {faults : FileFaults} {file : Option Bytes} {host : Bytes} {registry : AuthorizationRegistry}
    (hload : load setting.crypto.toCrypto decode faults file host =
      .ok registry)
    (actions : List PairingAction) {journal : List CipherUse}
    (hjournal : journal =
      ((machine setting).run ⟨pairing, ⟨registry, file⟩⟩ actions).pairing.journal)
    (hdrawn : (drawnKeys journal).Nodup)
    (hseparates : SeparatesTranscripts journal)
    (hauthenticates : AuthenticatesKeys setting.crypto journal) :
    ((seals journal).Pairwise fun a b => ¬ (a.key = b.key ∧
      pairingNonce .hostToController a.sequence = pairingNonce .hostToController b.sequence)) ∧
    (∀ o ∈ openings journal, expectedSequence? o.phase = some o.sequence ∧
      ∃ envelope, decodePairingMessage setting.crypto o.opaqueEnvelope =
        .ok (.encryptedEnvelope envelope) ∧ envelope.sequence = o.sequence) ∧
    (openings journal).Pairwise fun a b => a.opaqueEnvelope ≠ b.opaqueEnvelope := by
  have hvalid : Valid setting.crypto ⟨pairing, ⟨registry, file⟩⟩ :=
    valid_initial hnew (load_wellFormed hload)
  have hempty : JournalSound setting.crypto pairing.toPairingCore := by
    simp only [HostPairingCoordinator.withRandom, bind_eq_ok, ensure_eq_ok, pure, Except.pure,
      Except.ok.injEq] at hnew
    obtain ⟨_, -, _, -, _, -, _, -, _, -, _, -, rfl⟩ := hnew
    exact ⟨fun u hu => absurd hu List.not_mem_nil, fun _ => List.Pairwise.nil,
      fun _ hactive => by cases hactive⟩
  have hj := run_journalSound hencrypts hvalid hempty actions
  subst hjournal
  have hapart := hj.distinct hdrawn
  exact ⟨seals_pairwise hj.traced hapart hseparates, openings_expected hj.traced,
    openings_pairwise hj.traced hapart hseparates hauthenticates⟩

end PairingHost

/-! ## Two pairings of one run

The values that the primitives take when the same controller is paired again, over another
rendezvous and with another ephemeral key of the Host. -/

namespace SecondExchange

open SampleExchange

/-- The second rendezvous. -/
def secondRendezvous : Vector UInt8 16 := Vector.replicate 16 8

/-- The Host's second ephemeral private key. -/
def secondPrivateKey : Vector UInt8 32 := Vector.replicate 32 6

/-- The Host's second ephemeral public key. -/
def secondEphemeral : Vector UInt8 32 :=
  #v[245, 178, 214, 230, 15, 148, 119, 227, 16, 194, 152, 45, 170, 166, 201, 19, 108, 16, 138, 23,
     119, 197, 148, 126, 68, 143, 163, 125, 104, 23, 69, 87]

/-- The shared secret of the second exchange. -/
def secondSecret : Vector UInt8 32 :=
  #v[233, 188, 18, 130, 28, 101, 177, 165, 66, 223, 233, 100, 76, 198, 17, 22, 136, 221, 227, 93,
     130, 22, 115, 192, 195, 137, 250, 43, 175, 183, 12, 103]

/-- The second transcript. -/
def secondTranscript : Bytes :=
  match encodePairingTranscript controller sampleHostIdentity secondRendezvous.toList
    controllerEphemeral.toList secondEphemeral.toList with
  | .ok bytes => bytes
  | .error _ => []

/-- The hash of the second transcript. -/
def secondSha256 : Vector UInt8 32 :=
  #v[61, 18, 5, 35, 47, 10, 64, 199, 2, 132, 74, 6, 247, 166, 152, 227, 245, 7, 21, 51, 115, 23,
     240, 127, 172, 0, 115, 152, 39, 6, 173, 204]

/-- The second keys. -/
def secondKeys : PairingKeySchedule where
  controllerToHost :=
    #v[218, 63, 181, 119, 69, 248, 182, 57, 52, 247, 120, 86, 114, 21, 174, 48, 164, 61, 25, 109,
       5, 250, 122, 209, 58, 235, 191, 210, 28, 149, 212, 147]
  hostToController :=
    #v[152, 55, 26, 56, 206, 110, 54, 53, 246, 230, 147, 187, 144, 185, 132, 41, 231, 110, 44,
       123, 219, 89, 3, 154, 182, 237, 227, 1, 96, 18, 77, 123]

/-- The controller's signature of the second transcript. -/
def secondControllerSignature : Vector UInt8 64 :=
  #v[143, 30, 58, 9, 36, 202, 79, 221, 7, 190, 14, 218, 207, 40, 156, 133, 207, 211, 174, 59, 212,
     236, 177, 238, 10, 151, 138, 213, 74, 179, 47, 215, 26, 194, 65, 72, 84, 231, 107, 190, 147,
     201, 134, 7, 188, 164, 170, 56, 246, 191, 131, 2, 147, 235, 4, 43, 6, 73, 147, 97, 62, 122,
     16, 3]

/-- The Host's signature of the second transcript. -/
def secondHostSignature : Vector UInt8 64 :=
  #v[90, 175, 136, 204, 9, 135, 163, 148, 146, 25, 70, 247, 246, 237, 213, 156, 88, 229, 210, 29,
     167, 150, 182, 239, 120, 78, 222, 207, 147, 14, 212, 62, 172, 8, 100, 96, 123, 98, 164, 249,
     166, 211, 175, 237, 102, 135, 129, 139, 222, 135, 251, 66, 244, 220, 58, 62, 165, 10, 100,
     41, 124, 169, 110, 6]

/-- The second hello. -/
def secondHello : ControllerPairingHello :=
  { hello with
    rendezvousId := secondRendezvous.toList
    transcriptSha256 := secondSha256.toList
    signature := secondControllerSignature.toList }

/-- The second proof of the Host. -/
def secondProof : PairingPlaintext := .hostProof
  { confirmation := some
      { controllerDeviceId := controller.deviceId
        hostDeviceId := sampleHostIdentity.deviceId
        rendezvousId := secondRendezvous.toList
        controllerIdentityPublicKey := controller.publicKey
        hostIdentityPublicKey := sampleHostIdentity.publicKey
        controllerEphemeralPublicKey := controllerEphemeral.toList
        hostEphemeralPublicKey := secondEphemeral.toList
        transcriptSha256 := secondSha256.toList }
    hostSignature := secondHostSignature.toList
    expiresAtUnixMs := 1700000120000 }

/-- The second confirmation of the controller. -/
def secondReady : PairingPlaintext :=
  .controllerReady { transcriptSha256 := secondSha256.toList }

/-- The second sealed proof. -/
def secondProofCiphertext : Bytes :=
  bigEndian 40 0x8c8709d9eb130cbd3c728c674c1cd12ada911bf2921af789caa9fe6036925962263459e309d99244 ++
  bigEndian 40 0xe1856b8c6e82edf00c296b5f8819dbfe9845e51f22a19634f13a5b5fa0b19b92a86fa3fdbdb9824a ++
  bigEndian 40 0x1c4334a94084c3a988fd9ea019c144e2a11a4127e53e1a954d5e349af37dcaaaecac793d1a8f4538 ++
  bigEndian 40 0x1dd87111ef117101e2c9abad03af96b01620a08c99d0cc77d3c3a758677c0ddacd30cdd25041a607 ++
  bigEndian 40 0xf708ab4ecf332ff745389efb1d8237f8ea68d245e7758b4cd1e9152a606f4e8ac61dc78b4d5c1a44 ++
  bigEndian 40 0x6ecf962c543b1c16b811a764acc6059c69e79ab622ca7aa911c96bf32aba8a6740894241a43a7579 ++
  bigEndian 40 0x0bc412d4790cfa082a6917e6c3ee3a00f81c151ad0a707bb4c8c8f001b0ac6ddce5c32eaa87aec9e ++
  bigEndian 40 0x30fcc73f6d00e10d46a7b61e2daf611bb21ad39b5b51cce3a54a726ff496c12bd304b6ac56b53681 ++
  bigEndian 31 0x623f90fbe28b4dedc8032fb8dc1e8691a5ec8f43b56d6f487395eba5553f35

/-- The second sealed confirmation. -/
def secondReadyCiphertext : Bytes :=
  bigEndian 40 0xfaf6bb873b87886746da9997b1a47cdfa5c6ee0c0470772d02d6887cfc8644fd2c8cd0aa79171a85 ++
  bigEndian 12 0xd7e3643aa5cc4fc4111c7e1f

/-- The envelope of the second confirmation. -/
def secondEnvelope : PairingMessage :=
  .encryptedEnvelope
    { protocolVersion := some { major := protocolMajorVersion, minor := 0 }
      rendezvousId := secondRendezvous.toList
      direction := 1
      sequence := 1
      ciphertext := secondReadyCiphertext }

/-- The primitives on the inputs of both exchanges. -/
def crypto : PairingCrypto :=
  { SampleExchange.crypto with
    sha256 := fun input =>
      if input = secondTranscript then secondSha256 else SampleExchange.sha256 input
    verifies := fun key message signature =>
      if message = secondTranscript then
        (key.toList = controller.publicKey ∧ signature = secondControllerSignature) ∨
          (key.toList = sampleHostIdentity.publicKey ∧ signature = secondHostSignature)
      else SampleExchange.crypto.verifies key message signature
    x25519PublicKey := fun key =>
      if key = secondPrivateKey then secondEphemeral
      else SampleExchange.crypto.x25519PublicKey key
    x25519SharedSecret := fun privateKey publicKey =>
      if privateKey = secondPrivateKey ∧ publicKey = controllerEphemeral then secondSecret
      else SampleExchange.crypto.x25519SharedSecret privateKey publicKey
    hkdfExpand := fun salt secret info =>
      if salt = secondSha256.toList ∧ secret = secondSecret.toList then
        if info = controllerToHostInfo then some secondKeys.controllerToHost
        else if info = hostToControllerInfo then some secondKeys.hostToController
        else none
      else SampleExchange.crypto.hkdfExpand salt secret info
    aesGcmEncrypt := fun key nonce aad plaintext =>
      if key = secondKeys.hostToController ∧ nonce.back? = some 1 ∧
          plaintext = secondProof.encode then
        some secondProofCiphertext
      else SampleExchange.crypto.aesGcmEncrypt key nonce aad plaintext
    aesGcmDecrypt := fun key nonce aad ciphertext =>
      if key = secondKeys.controllerToHost then
        if nonce.back? = some 1 ∧ ciphertext = secondReadyCiphertext then some secondReady.encode
        else none
      else SampleExchange.crypto.aesGcmDecrypt key nonce aad ciphertext
    sign := fun key message =>
      if message = secondTranscript then secondHostSignature
      else SampleExchange.crypto.sign key message
    decodeMessage := fun encoded =>
      if encoded = PairingMessage.encode (.controllerHello secondHello) then
        some (.controllerHello secondHello)
      else if encoded = secondEnvelope.encode then some secondEnvelope
      else SampleExchange.crypto.decodeMessage encoded
    decodePlaintext := fun encoded =>
      if encoded = secondReady.encode then some secondReady
      else SampleExchange.crypto.decodePlaintext encoded }

/-- The surroundings of both exchanges. -/
def setting : PairingHost.Setting := { SampleExchange.setting with crypto := crypto }

/-- The second exchange up to the confirmation. -/
def actions : List PairingAction :=
  [.start .qr "wss://signal.example/v1" now
      { rendezvousId := some secondRendezvous, privateKey := some secondPrivateKey
        desktopCode := none },
    .takeOutbound, .event (.pairingCreated secondRendezvous.toList .qr 1700000120000) now,
    .event (.pairingJoined secondRendezvous.toList controller.deviceId 1700000120000) now,
    .event (.routedPairing secondRendezvous.toList controller.deviceId
      (PairingMessage.encode (.controllerHello secondHello))) now,
    .event (.routedPairing secondRendezvous.toList controller.deviceId secondEnvelope.encode) now]

/-- Both exchanges, the first one with its acceptance. -/
def bothActions : List PairingAction := SampleExchange.actions ++ accept noFaults :: actions

/-- The Host after both exchanges. -/
def paired : PairingHost :=
  (PairingHost.machine setting).run SampleExchange.host bothActions

end SecondExchange

namespace PairingHost

open SecondExchange

/-- The cipher of both exchanges encrypts everything. -/
theorem secondExchange_encrypts : EncryptsBounded setting.crypto := by
  intro key nonce aad plaintext hbound
  simp only [setting, crypto]
  split
  · exact ⟨_, rfl⟩
  · exact sampleExchange_encrypts key nonce aad plaintext hbound

theorem pairing_nonces_unique_sample :
    (seals paired.pairing.journal).map Seal.sequence = [1, 2, 1] ∧
    (openings paired.pairing.journal).map Opening.key =
      [SampleExchange.keys.controllerToHost.toList, secondKeys.controllerToHost.toList] ∧
    (derivations paired.pairing.journal).map Prod.fst =
      [SampleExchange.transcript, secondTranscript] ∧
    ((seals paired.pairing.journal).Pairwise fun a b => ¬ (a.key = b.key ∧
      pairingNonce .hostToController a.sequence = pairingNonce .hostToController b.sequence)) ∧
    (openings paired.pairing.journal).Pairwise fun a b => a.opaqueEnvelope ≠ b.opaqueEnvelope := by
  have hnew : HostPairingCoordinator.withRandom setting.crypto.toCrypto sampleHostIdentity =
      .ok SampleExchange.coordinator := by decide +kernel
  have hload : load setting.crypto.toCrypto
      HostAuthorizationSnapshot.decode noFaults none sampleHostId =
        .ok sampleRegistry := by decide +kernel
  have hdrawn : (drawnKeys paired.pairing.journal).Nodup := by decide +kernel
  have hseparates : SeparatesTranscripts paired.pairing.journal := by
    unfold SeparatesTranscripts
    decide +kernel
  have hauthenticates : AuthenticatesKeys setting.crypto paired.pairing.journal := by
    have hrendezvous : ∀ o₁ ∈ openings paired.pairing.journal,
        ∀ o₂ ∈ openings paired.pairing.journal, o₁.key = o₂.key ∨
          ((decodePairingMessage setting.crypto o₁.opaqueEnvelope).toOption.bind
            PairingMessage.envelope?).map (·.rendezvousId) ≠
          ((decodePairingMessage setting.crypto o₂.opaqueEnvelope).toOption.bind
            PairingMessage.envelope?).map (·.rendezvousId) := by decide +kernel
    intro o₁ h₁ o₂ h₂ e₁ e₂ he₁ he₂ hid _
    refine (hrendezvous o₁ h₁ o₂ h₂).resolve_right fun hne => hne ?_
    rw [he₁, he₂]
    exact congrArg some hid
  have hjournal : paired.pairing.journal = ((machine setting).run
      ⟨SampleExchange.coordinator, ⟨sampleRegistry, none⟩⟩
      bothActions).pairing.journal := by
    unfold paired SampleExchange.host
    rfl
  obtain ⟨hseals, -, hopenings⟩ := pairing_nonces_unique secondExchange_encrypts hnew hload _
    hjournal hdrawn hseparates hauthenticates
  exact ⟨by decide +kernel, by decide +kernel, by decide +kernel, hseals, hopenings⟩

end PairingHost

end Host

end Roammand
