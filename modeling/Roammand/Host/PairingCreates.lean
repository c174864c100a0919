import Roammand.Host.PairingEffects

/-!
# Rendezvous that are created after their attempt was given up

The request for a rendezvous may be answered long after the attempt that made it has been
cancelled, has run out, has failed or has been followed by another.  Here the coordinator
is run together with the list of its unanswered requests on the present connection; an
error of the service comes with the rendezvous whose request it answers, if it answers one.

A cancelled attempt and one that has run out remember their request, so that its late
answer is followed by a rejection.  An attempt that fails while its rendezvous is being
created forgets it, and there is room for one request only.

Main results:

- Definition `CreatesHost.machine`: the coordinator with its unanswered requests.
- Theorem `late_rendezvous_rejected`: when nothing but the answer to its own request fails
  an attempt that waits for its rendezvous, and no attempt is started while the request of
  one that was given up is unanswered, every late rendezvous is rejected once.
- Theorem `late_rendezvous_orphaned`: two runs that leave a rendezvous behind.
-/

namespace Roammand

namespace Host

open Library Protocol Fallible HostPairingCoordinator

/-- The rendezvous an item asks for. -/
def PairingOutbound.createId? : PairingOutbound → Option Bytes
  | .create rendezvousId _ _ => some rendezvousId
  | .relay _ _ | .complete _ _ => none

/-- The rendezvous of the attempt under way. -/
def PairingCore.activeId? (c : PairingCore) : Option Bytes :=
  c.active.map fun active => active.invitation.rendezvousId

/-- An action; an error of the service comes with the rendezvous whose request it answers. -/
structure CreatesInput where
  action : PairingAction
  answers : Option Bytes

/-- The coordinator and the rendezvous it has asked for on the present connection without
an answer so far. -/
structure CreatesHost where
  host : PairingHost
  unanswered : List Bytes

namespace CreatesHost

/-- The unanswered requests after an action that leads to the given queue. -/
def nextUnanswered (s : CreatesHost) (outbound : List PairingOutbound) (i : CreatesInput) :
    List Bytes :=
  match i.action with
  | .signalingLost | .shutdown => []
  | .start _ _ _ _ =>
    s.unanswered ++
      (outbound.drop s.host.pairing.outbound.length).filterMap PairingOutbound.createId?
  | .event (.pairingCreated rendezvousId _ _) _ => s.unanswered.erase rendezvousId
  | .event (.remoteError _ _) _ => s.unanswered.filter fun rendezvousId =>
    i.answers ≠ some rendezvousId
  | _ => s.unanswered

/-- One action. -/
def step (setting : PairingHost.Setting) (s : CreatesHost) (i : CreatesInput) :
    CreatesHost × PairingOutput :=
  let result := PairingHost.step setting s.host i.action
  ({ host := result.1
     unanswered := s.nextUnanswered result.1.pairing.outbound i }, result.2)

/-- The coordinator with its unanswered requests as a machine. -/
def machine (setting : PairingHost.Setting) : Machine CreatesHost CreatesInput PairingOutput :=
  ⟨step setting⟩

/-- The coordinator before any request. -/
def initial (pairing : HostPairingCoordinator) (authorization : AuthorizationState) :
    CreatesHost where
  host := { pairing, authorization }
  unanswered := []

/-- The state of the coordinator in which an action acts. -/
def acting (s : CreatesHost) (i : CreatesInput) : PairingCore :=
  s.host.pairing.toPairingCore.atTime i.action

/-- The attempt under way still waits for this rendezvous. -/
def Awaits (s : CreatesHost) (i : CreatesInput) (rendezvousId : Bytes) : Prop :=
  (s.acting i).active.any (fun active =>
    active.phase = .creating ∧ active.invitation.rendezvousId = rendezvousId) = true ∧
  rendezvousId ∈ s.unanswered

/-- An event that ends an attempt which waits for this rendezvous, without answering its
request. -/
def FailsUnanswered (i : CreatesInput) (rendezvousId : Bytes) : Prop :=
  match i.action with
  | .event (.remoteError _ _) _ => i.answers ≠ some rendezvousId
  | .event (.routedPairing _ _ _) _ => True
  | .event (.pairingClosed closed _) _ => closed = rendezvousId
  | _ => False

/-- No attempt fails while its request is unanswered, other than by the answer, and none is
started while the request of an attempt that was given up is unanswered. -/
structure Orderly (s : CreatesHost) (i : CreatesInput) : Prop where
  answered : ∀ rendezvousId, s.Awaits i rendezvousId → ¬ FailsUnanswered i rendezvousId
  single : ∀ kind endpoint now draws, i.action = .start kind endpoint now draws →
    ∀ rendezvousId ∈ s.unanswered, s.host.pairing.activeId? = some rendezvousId

/-- If this is the answer to the request of an attempt that is no longer under way, exactly
one rejection is queued for its rendezvous and the attempt under way stays as it is. -/
def RejectsLate (e : Occurrence CreatesHost CreatesInput PairingOutput) : Prop :=
  ∀ rendezvousId kind expiresAtUnixMs nowUnixMs,
    e.input.action = .event (.pairingCreated rendezvousId kind expiresAtUnixMs) nowUnixMs →
    rendezvousId ∈ e.before.unanswered →
    (e.before.acting e.input).activeId? ≠ some rendezvousId →
    e.after.host.pairing.outbound =
      (e.before.acting e.input).outbound ++ [.complete rendezvousId .rejected] ∧
    e.after.host.pairing.active = (e.before.acting e.input).active

/-! ## What is known of an unanswered request -/

/-- There is at most one unanswered request, and the coordinator knows of it. -/
inductive Tracked (c : PairingCore) : List Bytes → Prop where
  | settled : Tracked c []
  | creating {active : ActivePairing} (hactive : c.active = some active)
      (hphase : active.phase = .creating) : Tracked c [active.invitation.rendezvousId]
  | abandoned {rendezvousId : Bytes} (hnone : c.active = none)
      (hpending : c.pendingCancelledCreate = some rendezvousId) : Tracked c [rendezvousId]

section Tracked

variable {c c' : PairingCore} {unanswered : List Bytes}

theorem Tracked.same (h : Tracked c unanswered) (hactive : c'.active = c.active)
    (hpending : c'.pendingCancelledCreate = c.pendingCancelledCreate) :
    Tracked c' unanswered := by
  cases h with
  | settled => exact .settled
  | creating h hphase => exact .creating (hactive.trans h) hphase
  | abandoned hnone h => exact .abandoned (hactive.trans hnone) (hpending.trans h)

/-- An attempt that is given up while it waits is remembered. -/
theorem Tracked.abandon {active : ActivePairing} (h : Tracked c unanswered)
    (hactive : c.active = some active) : Tracked (c.abandon active).ended unanswered := by
  cases h with
  | settled => exact .settled
  | creating h hphase =>
    obtain rfl := Option.some.inj (hactive.symm.trans h)
    refine .abandoned rfl ?_
    rw [PairingCore.abandon, if_pos hphase]
    rfl
  | abandoned hnone h =>
    rw [hnone] at hactive
    cases hactive

theorem Tracked.tick (h : Tracked c unanswered) (nowUnixMs : UInt64) :
    Tracked (c.tick nowUnixMs) unanswered := by
  unfold PairingCore.tick
  cases hactive : c.active with
  | none => exact h
  | some active =>
    dsimp only
    split
    · exact h
    · exact h.abandon hactive

theorem Tracked.atTime (h : Tracked c unanswered) (a : PairingAction) :
    Tracked (c.atTime a) unanswered := by
  unfold PairingCore.atTime
  split
  · exact h.tick _
  · exact h

/-- An attempt past its creation has no unanswered request. -/
theorem Tracked.nil_of_phase {active : ActivePairing} (h : Tracked c unanswered)
    (hactive : c.active = some active) (hphase : active.phase ≠ .creating) :
    unanswered = [] := by
  cases h with
  | settled => rfl
  | creating h hcreating =>
    obtain rfl := Option.some.inj (hactive.symm.trans h)
    exact absurd hcreating hphase
  | abandoned hnone h =>
    rw [hnone] at hactive
    cases hactive

theorem Tracked.of_eq_nil (h : unanswered = []) : Tracked c unanswered := by
  rw [h]
  exact .settled

/-- At most one request is unanswered. -/
theorem Tracked.length_le (h : Tracked c unanswered) : unanswered.length ≤ 1 := by
  cases h with
  | settled => exact Nat.zero_le 1
  | creating hactive hphase => exact Nat.le_refl 1
  | abandoned hnone hpending => exact Nat.le_refl 1

/-- The requests that are left after an answer. -/
theorem Tracked.sublist {left : List Bytes} (h : Tracked c unanswered)
    (hleft : left.Sublist unanswered) : Tracked c left := by
  by_cases hnil : left = []
  · rw [hnil]
    exact .settled
  · have hlength : unanswered.length ≤ left.length := by
      have hpos := List.length_pos_iff.mpr hnil
      have hone := h.length_le
      omega
    rwa [hleft.eq_of_length_le hlength]

end Tracked

/-! ## One action -/

variable {setting : PairingHost.Setting} {s : CreatesHost} {i : CreatesInput}

/-- Only the start of an attempt makes a request. -/
theorem nextUnanswered_sublist (outbound : List PairingOutbound)
    (h : ∀ kind endpoint now draws, i.action ≠ .start kind endpoint now draws) :
    (s.nextUnanswered outbound i).Sublist s.unanswered := by
  unfold nextUnanswered
  split
  · exact List.nil_sublist _
  · exact List.nil_sublist _
  · exact absurd ‹_› (h _ _ _ _)
  · exact List.erase_sublist
  · exact List.filter_sublist
  · exact List.Sublist.refl _

/-- The only request that can be unanswered during an attempt is its own. -/
theorem Tracked.eq_of_active {c : PairingCore} {unanswered : List Bytes}
    {active : ActivePairing} (h : Tracked c unanswered) (hactive : c.active = some active) :
    unanswered = [] ∨ unanswered = [active.invitation.rendezvousId] := by
  cases h with
  | settled => exact .inl rfl
  | creating hsome hphase =>
    obtain rfl := Option.some.inj (hactive.symm.trans hsome)
    exact .inr rfl
  | abandoned hnone hsome =>
    rw [hnone] at hactive
    cases hactive

/-- The only request that can be unanswered without an attempt is the remembered one. -/
theorem Tracked.eq_of_pending {c : PairingCore} {unanswered : List Bytes} {rendezvousId : Bytes}
    (h : Tracked c unanswered) (hnone : c.active = none)
    (hpending : c.pendingCancelledCreate = some rendezvousId) :
    unanswered = [] ∨ unanswered = [rendezvousId] := by
  cases h with
  | settled => exact .inl rfl
  | creating hsome hphase =>
    rw [hnone] at hsome
    cases hsome
  | abandoned _ hsome =>
    obtain rfl := Option.some.inj (hpending.symm.trans hsome)
    exact .inr rfl

/-- An orderly event does not fail an attempt that still waits for its rendezvous. -/
theorem Orderly.creating_answered {active : ActivePairing} (h : s.Orderly i)
    (htracked : Tracked (s.acting i) s.unanswered) (hactive : (s.acting i).active = some active)
    (hfails : FailsUnanswered i active.invitation.rendezvousId) : s.unanswered = [] := by
  by_cases hphase : active.phase = .creating
  · generalize hun : s.unanswered = unanswered at htracked
    cases htracked with
    | settled => rfl
    | creating hsome hcreating =>
      obtain rfl := Option.some.inj (hactive.symm.trans hsome)
      refine absurd hfails (h.answered _ ⟨?_, ?_⟩)
      · simp [hactive, hcreating]
      · simp [hun]
    | abandoned hnone hpending =>
      rw [hnone] at hactive
      cases hactive
  · exact htracked.nil_of_phase hactive hphase

theorem Tracked.effect (h : Tracked (s.acting i) s.unanswered) (hord : s.Orderly i)
    {c' : PairingCore} (heffect : Effect setting (s.acting i) i.action c') :
    Tracked c' (s.nextUnanswered c'.outbound i) := by
  have hnil : (∀ kind endpoint now draws, i.action ≠ .start kind endpoint now draws) →
      s.unanswered = [] → Tracked c' (s.nextUnanswered c'.outbound i) := by
    intro hstart hempty
    have hsub := nextUnanswered_sublist (s := s) c'.outbound hstart
    rw [hempty, List.sublist_nil] at hsub
    rw [hsub]
    exact .settled
  obtain ⟨a, answers⟩ := i
  generalize hc : s.acting ⟨a, answers⟩ = c at h heffect
  cases heffect with
  | refused =>
    by_cases hstart : ∃ kind endpoint now draws, a = .start kind endpoint now draws
    · obtain ⟨kind, endpoint, now, draws, rfl⟩ := hstart
      subst hc
      simpa [nextUnanswered, acting, PairingCore.atTime, PairingAction.time?] using h
    · push Not at hstart
      exact h.sublist (nextUnanswered_sublist _ hstart)
  | connected => exact h.same rfl rfl
  | lost => exact .settled
  | stopped => exact .settled
  | flushed => exact h.same rfl rfl
  | forgot hnone => exact h.same rfl rfl
  | startFailed hnone =>
    subst hc
    have hkept := @Tracked.same _ { s.acting _ with terminalRendezvousId := none } _ h rfl rfl
    simpa [nextUnanswered, acting, PairingCore.atTime, PairingAction.time?] using hkept
  | @started kind endpoint now draws active hconnected hnone hfresh =>
    have hempty : s.unanswered = [] := by
      apply List.eq_nil_iff_forall_not_mem.mpr
      intro rendezvousId hmem
      have hsome := hord.single _ _ _ _ rfl rendezvousId hmem
      subst hc
      rw [PairingCore.activeId?, show s.host.pairing.active = none from hnone] at hsome
      cases hsome
    have hnext : s.nextUnanswered (s.host.pairing.outbound ++
        [.create active.invitation.rendezvousId (signalingKind kind)
          active.invitation.pairingCode]) ⟨.start kind endpoint now draws, answers⟩ =
        [active.invitation.rendezvousId] := by
      simp [nextUnanswered, hempty, PairingOutbound.createId?]
    subst hc
    change Tracked _ (s.nextUnanswered (s.host.pairing.outbound ++ _) _)
    rw [hnext]
    exact .creating rfl hfresh.phase
  | cancelled hactive => exact h.abandon hactive
  | createdLate hnone hpending =>
    apply Tracked.of_eq_nil
    change s.unanswered.erase _ = []
    rcases h.eq_of_pending hnone hpending with hnil | hone
    · rw [hnil]
      rfl
    · rw [hone, List.erase_cons_head]
  | created hactive hphase hexpires =>
    apply Tracked.of_eq_nil
    change s.unanswered.erase _ = []
    rcases h.eq_of_active hactive with hnil | hone
    · rw [hnil]
      rfl
    · rw [hone, List.erase_cons_head]
  | joined hactive hphase hpeer =>
    exact hnil nofun (h.nil_of_phase hactive (by rw [hphase]; decide))
  | greeted hactive hgreets hproof hsealed hwords =>
    exact hnil nofun (h.nil_of_phase hactive (by rw [hgreets.phase]; decide))
  | confirmed hactive hopens =>
    exact hnil nofun (h.nil_of_phase hactive (by rw [hopens.phase]; decide))
  | @failed active event now uses hactive hevent huses =>
    subst hc
    cases event with
    | routedPairing rendezvousId sender envelope =>
      exact hnil nofun (hord.creating_answered h hactive trivial)
    | remoteError code retryable =>
      by_cases hanswers : answers = some active.invitation.rendezvousId
      · apply Tracked.of_eq_nil
        change s.unanswered.filter _ = []
        rcases h.eq_of_active hactive with hnil | hone
        · rw [hnil]
          rfl
        · simp [hone, hanswers]
      · exact hnil nofun (hord.creating_answered h hactive hanswers)
    | registered | heartbeatAcknowledged | routedSession | pairingCreated | pairingJoined |
      pairingClosed => cases hevent
  | closed hactive =>
    subst hc
    exact hnil nofun (hord.creating_answered h hactive rfl)
  | rejected hactive hdecides hsealed =>
    exact hnil nofun (h.nil_of_phase hactive (by rw [hdecides.phase]; decide))
  | rejectFailed hactive hdecides hsealed =>
    exact hnil nofun (h.nil_of_phase hactive (by rw [hdecides.phase]; decide))

/-- Acceptance answers no request. -/
theorem Tracked.accepted {c c' : PairingCore} {unanswered : List Bytes}
    {authorization authorization' : AuthorizationState} {rendezvousId controllerDeviceId : Bytes}
    {nowUnixMs : UInt64} {faults : FileFaults} {random : Nat → Option (Vector UInt8 16)}
    {r : Except PairingCoordinatorError Unit} (h : Tracked c unanswered)
    (heffect : AcceptEffect setting c authorization rendezvousId controllerDeviceId nowUnixMs
      faults random r c' authorization') : Tracked c' unanswered := by
  cases heffect with
  | refused error => exact h
  | grantFailed hactive hphase hgrant =>
    exact .of_eq_nil (h.nil_of_phase hactive (by rw [hphase]; decide))
  | unanswered hactive hphase hcontroller hgrant hcause =>
    exact .of_eq_nil (h.nil_of_phase hactive (by rw [hphase]; decide))
  | accepted hactive hdecides hid hgrant hview hsealed =>
    exact .of_eq_nil (h.nil_of_phase hactive (by rw [hdecides.phase]; decide))

theorem Tracked.step (h : Tracked s.host.pairing.toPairingCore s.unanswered) (hord : s.Orderly i) :
    Tracked (step setting s i).1.host.pairing.toPairingCore (step setting s i).1.unanswered := by
  have hacting : Tracked (s.acting i) s.unanswered := h.atTime i.action
  rcases PairingHost.accept_or_not i.action with
    ⟨rendezvousId, controllerDeviceId, now, faults, random, ha⟩ | ha
  · obtain ⟨a, answers⟩ := i
    cases ha
    obtain ⟨r, c', authorization', heffect, -, hcore, -⟩ := @PairingHost.step_accept
      setting s.host rendezvousId controllerDeviceId now faults random
    have haccepted := hacting.accepted heffect
    rw [← hcore] at haccepted
    exact haccepted
  · exact hacting.effect hord (PairingHost.step_effect s.host ha).1

/-! ## Late answers -/

/-- The answer to a remembered request is followed by a rejection. -/
theorem handleCreated_late {c : HostPairingCoordinator} {rendezvousId : Bytes}
    (kind : PairingRendezvousKind) (expiresAtUnixMs nowUnixMs : UInt64) (hnone : c.active = none)
    (hpending : c.pendingCancelledCreate = some rendezvousId) :
    wp (handleCreated setting.crypto rendezvousId kind expiresAtUnixMs
        nowUnixMs)
      (fun _ c' => c'.outbound = c.outbound ++ [.complete rendezvousId .rejected] ∧
        c'.active = c.active) c := by
  rw [handleCreated, wp_get_bind, if_pos ⟨hnone, hpending⟩, wp_modify_bind, wp_modify]
  exact ⟨rfl, rfl⟩

theorem Tracked.rejectsLate (h : Tracked s.host.pairing.toPairingCore s.unanswered) :
    RejectsLate ((machine setting).occurrence s i) := by
  obtain ⟨a, answers⟩ := i
  rintro rendezvousId kind expires now ha hmem hother
  cases ha
  have hacting : s.acting ⟨.event (.pairingCreated rendezvousId kind expires) now, answers⟩ =
      (HostPairingCoordinator.tick now s.host.pairing).toPairingCore :=
    (tick_core now s.host.pairing).symm
  have htracked := h.tick now
  rw [← tick_core] at htracked
  rw [Machine.occurrence_before, Machine.occurrence_input, hacting] at hother ⊢
  rw [Machine.occurrence_before] at hmem
  generalize hun : s.unanswered = unanswered at htracked hmem
  cases htracked with
  | settled => exact absurd hmem List.not_mem_nil
  | creating hactive hphase =>
    obtain rfl := List.mem_singleton.mp hmem
    rw [PairingCore.activeId?, hactive] at hother
    exact absurd rfl hother
  | abandoned hnone hpending =>
    obtain rfl := List.mem_singleton.mp hmem
    exact handleCreated_late kind expires now hnone hpending

/-- In a run in which an attempt that waits for its rendezvous fails by nothing but the
answer to its request, and none is started while the request of an attempt that was given
up is unanswered, a rendezvous that is created late is rejected exactly once. -/
theorem late_rendezvous_rejected (setting : PairingHost.Setting)
    (pairing : HostPairingCoordinator) (authorization : AuthorizationState)
    {inputs : List CreatesInput}
    (hord : (machine setting).Guarded Orderly (initial pairing authorization) inputs) :
    ∀ e ∈ (machine setting).trace (initial pairing authorization) inputs, RejectsLate e := by
  intro e he
  obtain ⟨hbefore, -, -, hoccurrence⟩ := (machine setting).trace_invariant
    (fun s => Tracked s.host.pairing.toPairingCore s.unanswered)
    (fun s a hs ha => hs.step ha) .settled hord he
  rw [hoccurrence]
  exact hbefore.rejectsLate

/-- An action that answers no request. -/
def plain (action : PairingAction) : CreatesInput := ⟨action, none⟩

/-- The answer to the request of the sample attempt. -/
def sampleCreated : PairingAction :=
  .event (.pairingCreated SampleExchange.rendezvousId.toList .qr 1700000120000)
    SampleExchange.now

/-- The cancellation of the sample attempt. -/
def sampleCancel : PairingAction := .cancel SampleExchange.rendezvousId.toList

/-- A rendezvous that is created after its attempt was cancelled. -/
theorem late_rendezvous_rejected_sample :
    ∃ e ∈ (machine SampleExchange.setting).trace
        (initial SampleExchange.coordinator SampleExchange.host.authorization)
        ([.signalingConnected, SampleExchange.start, .takeOutbound, sampleCancel,
          sampleCreated].map plain),
      e.input.action = sampleCreated ∧
      SampleExchange.rendezvousId.toList ∈ e.before.unanswered ∧
      (e.before.acting e.input).activeId? = none ∧ RejectsLate e := by
  have hord : (machine SampleExchange.setting).Guarded Orderly
      (initial SampleExchange.coordinator SampleExchange.host.authorization)
      ([.signalingConnected, SampleExchange.start, .takeOutbound, sampleCancel,
        sampleCreated].map plain) := by
    refine ⟨⟨fun _ _ h => h, fun _ _ _ _ h => by cases h⟩,
      ⟨fun _ _ h => h, fun _ _ _ _ _ _ hmem => absurd hmem List.not_mem_nil⟩,
      ⟨fun _ _ h => h, fun _ _ _ _ h => by cases h⟩,
      ⟨fun _ _ h => h, fun _ _ _ _ h => by cases h⟩,
      ⟨fun _ _ h => h, fun _ _ _ _ h => by cases h⟩, trivial⟩
  have hall := late_rendezvous_rejected SampleExchange.setting SampleExchange.coordinator
    SampleExchange.host.authorization hord
  refine ⟨_, List.mem_of_mem_drop (i := 4) (List.mem_singleton_self _), rfl, ?_, ?_,
    hall _ (List.mem_of_mem_drop (i := 4) (List.mem_singleton_self _))⟩
  · decide +kernel
  · decide +kernel

/-- The random bytes of another attempt. -/
def otherDraws : PairingDraws :=
  { SampleExchange.draws with rendezvousId := some (Vector.replicate 16 8) }

/-- The start of another attempt. -/
def otherStart : PairingAction :=
  .start .qr "wss://signal.example/v1" SampleExchange.now otherDraws

/-- A rendezvous is left behind when another attempt has been started before its answer,
and when an error that answers another request has failed its attempt. -/
theorem late_rendezvous_orphaned :
    (∃ e ∈ (machine SampleExchange.setting).trace
        (initial SampleExchange.coordinator SampleExchange.host.authorization)
        ([.signalingConnected, SampleExchange.start, .takeOutbound, sampleCancel, otherStart,
          sampleCreated].map plain),
      ¬ RejectsLate e) ∧
    ∃ e ∈ (machine SampleExchange.setting).trace
        (initial SampleExchange.coordinator SampleExchange.host.authorization)
        ([.signalingConnected, SampleExchange.start, .takeOutbound,
          .event (.remoteError .deviceOffline true) SampleExchange.now, sampleCreated].map plain),
      ¬ RejectsLate e := by
  constructor
  · refine ⟨_, List.mem_of_mem_drop (i := 5) (List.mem_singleton_self _), fun h => ?_⟩
    have hqueued := (h _ _ _ _ rfl (by decide +kernel) (by decide +kernel)).1
    revert hqueued
    decide +kernel
  · refine ⟨_, List.mem_of_mem_drop (i := 4) (List.mem_singleton_self _), fun h => ?_⟩
    have hqueued := (h _ _ _ _ rfl (by decide +kernel) (by decide +kernel)).1
    revert hqueued
    decide +kernel

end CreatesHost

end Host

end Roammand
