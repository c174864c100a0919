import Roammand.Host.PairingCreates
import Roammand.Host.PairingDelivery
import Roammand.Host.RuntimeFrames

/-!
# The pairing queue and the protocol

The pairing coordinator and the protocol of the connection both keep track of the
rendezvous.  What the coordinator queues is turned into requests by the protocol, which
refuses a request that does not fit the rendezvous it knows of.

The two agree as long as an attempt is started only when neither of them has anything left
of the last one, the service closes no rendezvous for which something is still queued or
whose attempt is just running out, and a lost connection leaves nothing but a request for
a rendezvous in the queue.

Main results:

- Definition `Agrees`: how the queue, the attempt and the rendezvous of the protocol fit.
- Theorem `pairing_requests_accepted`: on a run whose actions all meet these conditions the
  protocol refuses no request for the state of its rendezvous.
- Theorem `pairing_request_refused`: a run on which it does.
-/

namespace Roammand

namespace Host

open Library Protocol Fallible SignalingProtocol.PairingPhase RemoteConnection PairingOutbound
open Option

/-- An item that relays bytes for this rendezvous. -/
def PairingOutbound.relays (rendezvousId : Bytes) : PairingOutbound → Bool
  | .relay id _ => id = rendezvousId
  | .create _ _ _ | .complete _ _ => false

/-! ## What an event of the service does -/

section Events

variable {setting : PairingHost.Setting} {c c' : PairingCore} {nowUnixMs : UInt64}

theorem Effect.created_cases {rendezvousId : Bytes} {kind : PairingRendezvousKind}
    {expires : UInt64}
    (h : Effect setting c (.event (.pairingCreated rendezvousId kind expires) nowUnixMs) c') :
    c' = c ∨
    (c.active = none ∧
      c' = { c with pendingCancelledCreate := none }.queue [.complete rendezvousId .rejected]) ∨
    ∃ active, c.active = some active ∧ active.phase = .creating ∧
      active.invitation.rendezvousId = rendezvousId ∧
      c' = { c with active := some (active.invite expires) } := by
  generalize ha : PairingAction.event (.pairingCreated rendezvousId kind expires) nowUnixMs = a at h
  cases h with
  | refused => exact .inl rfl
  | createdLate hnone hpending =>
    cases ha
    exact .inr (.inl ⟨hnone, rfl⟩)
  | created hactive hphase hexpires =>
    cases ha
    exact .inr (.inr ⟨_, hactive, hphase, rfl, rfl⟩)
  | failed hactive hevent huses =>
    cases ha
    cases hevent
  | connected | lost | stopped | flushed | forgot | startFailed | started | cancelled | joined |
    greeted | confirmed | closed | rejected | rejectFailed => cases ha

theorem Effect.joined_cases {rendezvousId peer : Bytes} {expires : UInt64}
    (h : Effect setting c (.event (.pairingJoined rendezvousId peer expires) nowUnixMs) c') :
    c' = c ∨ ∃ active, c.active = some active ∧ active.phase = .inviting ∧
      active.invitation.rendezvousId = rendezvousId ∧
      c' = { c with active := some (active.join peer) }.queue active.invitationItems := by
  generalize ha : PairingAction.event (.pairingJoined rendezvousId peer expires) nowUnixMs = a at h
  cases h with
  | refused => exact .inl rfl
  | joined hactive hphase hpeer =>
    cases ha
    exact .inr ⟨_, hactive, hphase, rfl, rfl⟩
  | failed hactive hevent huses =>
    cases ha
    cases hevent
  | connected | lost | stopped | flushed | forgot | startFailed | started | cancelled |
    createdLate | created | greeted | confirmed | closed | rejected | rejectFailed => cases ha

/-- Whether an attempt has got a peer. -/
def ActivePhase.hasPeer : ActivePhase → Bool
  | .waitingHello | .waitingReady | .waitingDecision => true
  | .creating | .inviting => false

/-- An attempt with a peer goes on, perhaps with a message to it. -/
structure Proceeds (c c' : PairingCore) : Prop where
  attempt : ∃ active active', c.active = some active ∧ c'.active = some active' ∧
    active.phase.hasPeer = true ∧ active'.phase.hasPeer = true ∧
    active'.invitation.rendezvousId = active.invitation.rendezvousId ∧
    ∃ items, c'.outbound = c.outbound ++ items ∧
      ∀ item ∈ items, item.relays active.invitation.rendezvousId = true
  terminal : c'.terminalRendezvousId = c.terminalRendezvousId

/-- A routed message or an error does nothing, lets the attempt go on or fails it. -/
theorem Effect.failing_cases {event : SignalingEvent}
    (h : Effect setting c (.event event nowUnixMs) c') (hevent : event.failsPairing = true) :
    c' = c ∨ Proceeds c c' ∨ ∃ uses, c' = (c.logged uses).failActive := by
  generalize ha : PairingAction.event event nowUnixMs = a at h
  cases h with
  | refused => exact .inl rfl
  | @greeted active sender envelope encrypted verified proof words now hactive hgreets hproof
      hsealed hwords =>
      refine .inr (.inl ⟨⟨active, _, hactive, rfl, by rw [hgreets.phase]; rfl, rfl, rfl, _, rfl,
        ?_⟩, rfl⟩)
      intro item hitem
      obtain rfl := List.mem_singleton.mp hitem
      simp [relays]
  | @confirmed active sender envelope keys now hactive hopens =>
    exact .inr (.inl ⟨⟨active, _, hactive, rfl, by rw [hopens.phase]; rfl, rfl, rfl, [],
      (List.append_nil _).symm, fun _ hmem => absurd hmem List.not_mem_nil⟩, rfl⟩)
  | failed hactive hevent huses => exact .inr (.inr ⟨_, rfl⟩)
  | createdLate | created | joined | closed =>
    cases ha
    cases hevent
  | connected | lost | stopped | flushed | forgot | startFailed | started | cancelled |
    rejected | rejectFailed => cases ha

/-- A closed rendezvous ends the attempt at it. -/
theorem handleClosed_cases (rendezvousId : Bytes) (completion : PairingRendezvousCompletion)
    (c : HostPairingCoordinator) :
    wp (HostPairingCoordinator.handleClosed rendezvousId completion) (fun _ c' =>
      c'.toPairingCore = c.toPairingCore.ended ∨
      (c' = c ∧ (c.terminalRendezvousId = some rendezvousId ∨
        ∀ active, c.active = some active → active.invitation.rendezvousId ≠ rendezvousId))) c := by
  simp only [HostPairingCoordinator.handleClosed, wp_bind, wp_get, andThen_ok, andThen_error,
    wp_ite, wp_pure, wp_orThrow, wp_require, wp_modify, HostPairingCoordinator.finish_core]
  refine ⟨fun hterminal => .inr ⟨trivial, .inl hterminal⟩, fun _ => ⟨fun active hactive =>
    ⟨fun _ => .inl trivial, fun hother => .inr ⟨trivial, .inr ?_⟩⟩,
    fun hnone => .inr ⟨trivial, .inr ?_⟩⟩⟩
  · intro active' hactive'
    obtain rfl := some.inj (hactive.symm.trans hactive')
    exact hother
  · intro active hactive
    cases hnone.symm.trans hactive

theorem step_closed_cases (host : PairingHost) (rendezvousId : Bytes)
    (completion : PairingRendezvousCompletion) (nowUnixMs : UInt64) :
    let c := host.pairing.toPairingCore.tick nowUnixMs
    let c' := (PairingHost.step setting host
      (.event (.pairingClosed rendezvousId completion) nowUnixMs)).1.pairing.toPairingCore
    c' = c.ended ∨ (c' = c ∧ (c.terminalRendezvousId = some rendezvousId ∨
      ∀ active, c.active = some active → active.invitation.rendezvousId ≠ rendezvousId)) := by
  have h := handleClosed_cases rendezvousId completion
    (HostPairingCoordinator.tick nowUnixMs host.pairing)
  dsimp only
  rw [← HostPairingCoordinator.tick_core]
  exact h.imp_right fun h => ⟨congrArg HostPairingCoordinator.toPairingCore h.1, h.2⟩

end Events

/-! ## How the queue fits the protocol -/

/-- Whether the protocol's phase fits the one of an attempt past its creation. -/
def ActivePhase.fits : ActivePhase → PairingPhase → Bool
  | .creating, _ => false
  | .inviting, phase => isOpen phase
  | .waitingHello, phase | .waitingReady, phase | .waitingDecision, phase =>
    isJoined phase

/-- How the attempt and the queue of the coordinator fit the rendezvous of the protocol. -/
inductive Agrees (pairing : Option ProtocolPairing) (c : PairingCore) : Prop where
  /-- Nothing is queued, and no rendezvous is open for the coordinator. -/
  | quiet (hout : c.outbound = [])
      (hearly : ∀ active, c.active = some active → active.phase = .creating)
  /-- A rendezvous is to be asked for, and the protocol has none. -/
  | requested {item : PairingOutbound} (hout : c.outbound = [item])
      (hitem : item.createId?.isSome = true) (hnone : pairing = none)
      (hearly : ∀ active, c.active = some active → active.phase = .creating)
  /-- The attempt is at an open rendezvous, and something may be relayed. -/
  | opened {active : ActivePairing} {rendezvous : ProtocolPairing}
    (hactive : c.active = some active)
      (hopen : pairing = some rendezvous)
      (hid : active.invitation.rendezvousId = rendezvous.rendezvousId)
      (hfits : active.phase.fits rendezvous.phase = true)
      (hout : ∀ item ∈ c.outbound, item.relays rendezvous.rendezvousId = true)
      (hjoined : c.outbound ≠ [] → isJoined rendezvous.phase = true)
  /-- The attempt has ended, and its rendezvous is to be completed. -/
  | closing {rendezvous : ProtocolPairing} {relays : List PairingOutbound}
      {completion : PairingRendezvousCompletion} (hnone : c.active = none)
      (hopen : pairing = some rendezvous)
      (hphase : isOpen rendezvous.phase = true)
      (hout : c.outbound = relays ++ [.complete rendezvous.rendezvousId completion])
      (hrelays : ∀ item ∈ relays, item.relays rendezvous.rendezvousId = true)
      (hjoined : relays ≠ [] → isJoined rendezvous.phase = true)

section Agrees

variable {pairing : Option ProtocolPairing} {c c' : PairingCore}

/-- Only the attempt and the queue matter. -/
theorem Agrees.same (h : Agrees pairing c) (hactive : c'.active = c.active)
    (hout : c'.outbound = c.outbound) : Agrees pairing c' := by
  cases h with
  | quiet h hearly => exact .quiet (hout.trans h) (hactive ▸ hearly)
  | requested h hitem hnone hearly => exact .requested (hout.trans h) hitem hnone (hactive ▸ hearly)
  | opened h hopen hid hfits hrelays hjoined =>
    exact .opened (hactive.trans h) hopen hid hfits (hout ▸ hrelays) (hout ▸ hjoined)
  | closing hnone hopen hphase h hrelays hjoined =>
    exact .closing (hactive.trans hnone) hopen hphase (hout.trans h) hrelays hjoined

theorem ActivePhase.fits_open {phase : ActivePhase} {of : PairingPhase}
    (h : phase.fits of = true) : isOpen of = true := by
  cases phase with
  | creating => cases h
  | inviting => exact h
  | waitingHello | waitingReady | waitingDecision =>
    cases of with
    | joined peer => rfl
    | creating | inviting | completing => cases h

variable {active : ActivePairing}

/-- An attempt past its creation agrees as an open one. -/
theorem Agrees.of_active (h : Agrees pairing c)
    (hactive : c.active = some active) (hphase : active.phase ≠ .creating) :
    ∃ rendezvous, pairing = some rendezvous ∧
      active.invitation.rendezvousId = rendezvous.rendezvousId ∧
      active.phase.fits rendezvous.phase = true ∧
      (∀ item ∈ c.outbound, item.relays rendezvous.rendezvousId = true) ∧
      (c.outbound ≠ [] → isJoined rendezvous.phase = true) := by
  cases h with
  | quiet hout hearly => exact absurd (hearly active hactive) hphase
  | requested hout hitem hnone hearly => exact absurd (hearly active hactive) hphase
  | opened h hopen hid hfits hout hjoined =>
    obtain rfl := some.inj (hactive.symm.trans h)
    exact ⟨_, hopen, hid, hfits, hout, hjoined⟩
  | closing hnone hopen hphase hout hrelays hjoined => cases hnone.symm.trans hactive

/-- An attempt that is being created has queued nothing but its request. -/
theorem Agrees.ended_of_creating (h : Agrees pairing c)
    (hactive : c.active = some active) (hphase : active.phase = .creating)
    (hnone : c'.active = none) (hout : c'.outbound = c.outbound) : Agrees pairing c' := by
  have hearly : ∀ active, c'.active = some active → active.phase = .creating :=
    fun _ hsome => by cases hnone.symm.trans hsome
  cases h with
  | quiet h _ => exact .quiet (hout.trans h) hearly
  | requested h hitem hpairing _ => exact .requested (hout.trans h) hitem hpairing hearly
  | opened h hopen hid hfits hrelays hjoined =>
    obtain rfl := some.inj (hactive.symm.trans h)
    rw [hphase] at hfits
    cases hfits
  | closing h hopen hphase h' hrelays hjoined => cases h.symm.trans hactive

/-- An attempt past its creation that ends with its completion, perhaps after a last
message to a peer that has joined. -/
theorem Agrees.complete {rendezvousId : Bytes}
    {relays : List PairingOutbound} {completion : PairingRendezvousCompletion}
    (h : Agrees pairing c) (hactive : c.active = some active) (hphase : active.phase ≠ .creating)
    (hid : active.invitation.rendezvousId = rendezvousId)
    (hrelays : ∀ item ∈ relays, item.relays rendezvousId = true)
    (hjoined : relays ≠ [] → active.phase ≠ .inviting) (hnone : c'.active = none)
    (hout : c'.outbound = c.outbound ++ relays ++ [.complete rendezvousId completion]) :
    Agrees pairing c' := by
  obtain ⟨rendezvous, hopen, hsame, hfits, hqueued, hqueuedJoined⟩ := h.of_active hactive hphase
  subst hid
  rw [hsame] at hrelays hout
  refine .closing hnone hopen (ActivePhase.fits_open hfits) hout ?_ ?_
  · intro item hitem
    rcases List.mem_append.mp hitem with hold | hnew
    · exact hqueued item hold
    · exact hrelays item hnew
  · intro hne
    by_cases hempty : c.outbound = []
    · have hinviting := hjoined (by simpa [hempty] using hne)
      cases hcase : active.phase with
      | creating => exact absurd hcase hphase
      | inviting => exact absurd hcase hinviting
      | waitingHello | waitingReady | waitingDecision =>
        rw [hcase] at hfits
        exact hfits
    · exact hqueuedJoined hempty

/-- An attempt past its creation that ends with a rejection. -/
theorem Agrees.rejectOpen (h : Agrees pairing c)
    (hactive : c.active = some active) (hphase : active.phase ≠ .creating) :
    Agrees pairing (c.queue [.complete active.invitation.rendezvousId .rejected]).ended := by
  have hout : (c.queue [.complete active.invitation.rendezvousId .rejected]).ended.outbound =
      c.outbound ++ [] ++ [.complete active.invitation.rendezvousId .rejected] := by
    rw [List.append_nil]
    rfl
  exact h.complete hactive hphase rfl (fun _ hmem => absurd hmem List.not_mem_nil)
    (fun hne => absurd rfl hne) rfl hout

/-- An attempt that is given up is remembered or completed. -/
theorem Agrees.abandon {active : ActivePairing} (h : Agrees pairing c)
    (hactive : c.active = some active) : Agrees pairing (c.abandon active).ended := by
  unfold PairingCore.abandon
  by_cases hphase : active.phase = .creating
  · rw [if_pos hphase]
    exact h.ended_of_creating hactive hphase rfl rfl
  · rw [if_neg hphase]
    exact h.rejectOpen hactive hphase

theorem Agrees.failActive (h : Agrees pairing c) : Agrees pairing c.failActive := by
  unfold PairingCore.failActive
  cases hactive : c.active with
  | none => exact h.same hactive.symm rfl
  | some active =>
    dsimp only
    by_cases hphase : active.phase = .creating
    · rw [if_pos hphase]
      exact h.ended_of_creating hactive hphase rfl rfl
    · rw [if_neg hphase]
      exact h.rejectOpen hactive hphase

theorem Agrees.tick (h : Agrees pairing c) (nowUnixMs : UInt64) :
    Agrees pairing (c.tick nowUnixMs) := by
  unfold PairingCore.tick
  cases hactive : c.active with
  | none => exact h
  | some active =>
    dsimp only
    split
    · exact h
    · exact h.abandon hactive

theorem Agrees.atTime (h : Agrees pairing c) (a : PairingAction) : Agrees pairing (c.atTime a) := by
  unfold PairingCore.atTime
  split
  · exact h.tick _
  · exact h

/-! ## Commands -/

variable {setting : PairingHost.Setting}

/-- A relayed message and the completion of an attempt that waits for the decision. -/
theorem Agrees.decide {active : ActivePairing} {rendezvousId encrypted : Bytes}
    {completion : PairingRendezvousCompletion} (h : Agrees pairing c)
    (hactive : c.active = some active) (hphase : active.phase = .waitingDecision)
    (hid : active.invitation.rendezvousId = rendezvousId) (hnone : c'.active = none)
    (hout : c'.outbound =
      c.outbound ++ [.relay rendezvousId encrypted, .complete rendezvousId completion]) :
    Agrees pairing c' := by
  have hout' : c'.outbound = c.outbound ++ [.relay rendezvousId encrypted] ++
      [.complete rendezvousId completion] := by
    rw [hout, List.append_assoc]
    rfl
  refine h.complete hactive (by rw [hphase]; decide) hid ?_ (fun _ => by rw [hphase]; decide) hnone
    hout'
  intro item hitem
  obtain rfl := List.mem_singleton.mp hitem
  simp [relays]

/-- A command other than acceptance keeps the agreement, when an attempt is started only
with nothing left of the last one. -/
theorem Agrees.command {a : PairingAction} (h : Agrees pairing c) (ha : a.isCommand = true)
    (hstart : ∀ kind endpoint now draws, a = .start kind endpoint now draws →
      c.active = none → c'.active ≠ none → c.outbound = [] ∧ pairing = none)
    (heffect : Effect setting c a c') : Agrees pairing c' := by
  cases heffect with
  | refused => exact h
  | connected | lost | stopped | flushed => cases ha
  | forgot hnone => exact h.same rfl rfl
  | startFailed hnone => exact h.same rfl rfl
  | started hconnected hnone hfresh =>
    obtain ⟨hempty, hpairing⟩ := hstart _ _ _ _ rfl hnone (some_ne_none _)
    refine .requested (congrArg (· ++ _) hempty) rfl hpairing ?_
    intro active hactive
    cases hactive
    exact hfresh.phase
  | cancelled hactive => exact h.abandon hactive
  | createdLate | created | joined | greeted | confirmed | failed | closed => cases ha
  | rejected hactive hdecides hsealed =>
    exact h.decide hactive hdecides.phase hdecides.rendezvousId rfl rfl
  | rejectFailed hactive hdecides hsealed => exact h.same rfl rfl

/-- Acceptance keeps the agreement. -/
theorem Agrees.accept {authorization authorization' : AuthorizationState}
    {rendezvousId controllerDeviceId : Bytes} {nowUnixMs : UInt64} {faults : FileFaults}
    {random : Nat → Option (Vector UInt8 16)} {r : Except PairingCoordinatorError Unit}
    (h : Agrees pairing c) (heffect : AcceptEffect setting c authorization rendezvousId
      controllerDeviceId nowUnixMs faults random r c' authorization') : Agrees pairing c' := by
  cases heffect with
  | refused error => exact h
  | grantFailed hactive hphase hgrant => exact h.failActive
  | unanswered hactive hphase hcontroller hgrant hcause =>
    rcases hcause with ⟨-, rfl⟩ | ⟨-, rfl⟩ | ⟨_, _, _, -, -, -, rfl⟩
    · exact h
    · exact h
    · exact h.same rfl rfl
  | accepted hactive hdecides hid hgrant hview hsealed =>
    exact h.decide hactive hdecides.phase hdecides.rendezvousId rfl rfl

/-! ## Frames -/

variable {p p' : SignalingProtocol} {requestId : String} {nowUnixMs : UInt64}

variable {rendezvous : ProtocolPairing}

theorem Agrees.created {kind : PairingRendezvousKind}
    {expires : UInt64} (h : Agrees (some rendezvous) c)
    (hphase : rendezvous.phase = .creating requestId)
    (heffect : Effect setting c
      (.event (.pairingCreated rendezvous.rendezvousId kind expires) nowUnixMs) c') :
    Agrees (some { rendezvous with expiresAtUnixMs := expires, phase := .inviting }) c' := by
  cases h with
  | quiet hout hearly =>
    rcases heffect.created_cases with rfl | ⟨hnone, rfl⟩ | ⟨active, hactive, hcreating, hid, rfl⟩
    · exact .quiet hout hearly
    · exact .closing hnone rfl rfl (congrArg (· ++ _) hout)
        (fun _ hmem => absurd hmem List.not_mem_nil) (fun hne => absurd rfl hne)
    · refine .opened rfl rfl hid rfl ?_ (fun hne => absurd hout hne)
      rw [show c.outbound = [] from hout]
      exact fun _ hmem => absurd hmem List.not_mem_nil
  | requested hout hitem hnone hearly => cases hnone
  | opened hactive hopen hid hfits hout hjoined =>
    cases hopen
    have hopen := ActivePhase.fits_open hfits
    rw [hphase] at hopen
    cases hopen
  | closing hnone hopen hopenPhase hout hrelays hjoined =>
    cases hopen
    rw [hphase] at hopenPhase
    cases hopenPhase

theorem Agrees.joined {peer : Bytes} {expires : UInt64} (h : Agrees (some rendezvous) c)
    (heffect : Effect setting c
      (.event (.pairingJoined rendezvous.rendezvousId peer expires) nowUnixMs) c') :
    Agrees (some { rendezvous with phase := .joined peer }) c' := by
  cases h with
  | quiet hout hearly =>
    rcases heffect.joined_cases with rfl | ⟨active, hactive, hinviting, hid, rfl⟩
    · exact .quiet hout hearly
    · have hcreating := hearly active hactive
      rw [hinviting] at hcreating
      cases hcreating
  | requested hout hitem hnone hearly => cases hnone
  | @opened active _ hactive hopen hid hfits hout hjoined =>
    cases hopen
    rcases heffect.joined_cases with rfl | ⟨active', hactive', hinviting, hid', rfl⟩
    · refine .opened hactive rfl hid ?_ hout (fun _ => rfl)
      cases hcase : active.phase with
      | creating =>
        rw [hcase] at hfits
        cases hfits
      | inviting | waitingHello | waitingReady | waitingDecision => rfl
    · refine .opened rfl rfl hid' rfl ?_ (fun _ => rfl)
      intro item hitem
      rcases List.mem_append.mp hitem with hold | hnew
      · exact hout item hold
      · unfold ActivePairing.invitationItems at hnew
        split at hnew
        · obtain rfl := List.mem_singleton.mp hnew
          simp [relays, hid']
        · cases hnew
  | closing hnone hopen hopenPhase hout hrelays hjoined =>
    cases hopen
    rcases heffect.joined_cases with rfl | ⟨active', hactive', -⟩
    · exact .closing hnone rfl rfl hout hrelays (fun _ => rfl)
    · cases hnone.symm.trans hactive'

theorem ActivePhase.fits_of_hasPeer {phase phase' : ActivePhase} {of : PairingPhase}
    (hphase : phase.hasPeer = true) (hphase' : phase'.hasPeer = true)
    (hfits : phase.fits of = true) : phase'.fits of = true := by
  have hjoined : isJoined of = true := by
    cases phase with
    | creating | inviting => cases hphase
    | waitingHello | waitingReady | waitingDecision => exact hfits
  cases phase' with
  | creating | inviting => cases hphase'
  | waitingHello | waitingReady | waitingDecision => exact hjoined

theorem ActivePhase.joined_of_hasPeer {phase : ActivePhase} {of : PairingPhase}
    (hphase : phase.hasPeer = true) (hfits : phase.fits of = true) :
    isJoined of = true := by
  have hfits' : ActivePhase.waitingHello.fits of = true := fits_of_hasPeer hphase rfl hfits
  exact hfits'

variable {event : SignalingEvent}

/-- A routed message or an error, while the protocol keeps its rendezvous. -/
theorem Agrees.failing (h : Agrees pairing c) (hevent : event.failsPairing = true)
    (heffect : Effect setting c (.event event nowUnixMs) c') : Agrees pairing c' := by
  rcases heffect.failing_cases hevent with rfl | hproceeds | ⟨uses, rfl⟩
  · exact h
  · obtain ⟨active, active', hactive, hactive', hpeer, hpeer', hid', items, hout', hitems⟩ :=
      hproceeds.attempt
    obtain ⟨rendezvous, hopen, hid, hfits, hout, hjoined⟩ :=
      h.of_active hactive (by intro hcase; rw [hcase] at hpeer; cases hpeer)
    refine .opened hactive' hopen (hid'.trans hid) (ActivePhase.fits_of_hasPeer hpeer hpeer' hfits)
      ?_ (fun _ => ActivePhase.joined_of_hasPeer hpeer hfits)
    intro item hitem
    rw [hout'] at hitem
    rcases List.mem_append.mp hitem with hold | hnew
    · exact hout item hold
    · rw [← hid]
      exact hitems item hnew
  · have hlogged : Agrees pairing (c.logged uses) := h.same rfl rfl
    exact hlogged.failActive

/-- An error that answers the request the protocol waits for. -/
theorem Agrees.answered (h : Agrees (some rendezvous) c)
    (hanswered : answeredBy requestId rendezvous.phase = true)
    (hevent : event.failsPairing = true)
    (heffect : Effect setting c (.event event nowUnixMs) c') : Agrees none c' := by
  have hclosed : isOpen rendezvous.phase = false := by
    cases hcase : rendezvous.phase with
    | creating | completing => rfl
    | inviting | joined =>
      rw [hcase] at hanswered
      cases hanswered
  cases h with
  | quiet hout hearly =>
    have hquiet : Agrees none c := .quiet hout hearly
    exact hquiet.failing hevent heffect
  | requested hout hitem hnone hearly => cases hnone
  | opened hactive hopen hid hfits hout hjoined =>
    cases hopen
    cases hclosed.symm.trans (ActivePhase.fits_open hfits)
  | closing hnone hopen hopenPhase hout hrelays hjoined =>
    cases hopen
    cases hclosed.symm.trans hopenPhase

/-- The service closes the rendezvous of the protocol while nothing is queued. -/
theorem Agrees.closed (h : Agrees (some rendezvous) c)
    (hempty : c.outbound = []) (hfresh : c.active ≠ none → c.terminalRendezvousId = none)
    (hclosed : c' = c.ended ∨ (c' = c ∧
      (c.terminalRendezvousId = some rendezvous.rendezvousId ∨ ∀ active, c.active = some active →
        active.invitation.rendezvousId ≠ rendezvous.rendezvousId))) : Agrees none c' := by
  rcases hclosed with rfl | ⟨rfl, hother⟩
  · exact .quiet hempty fun _ hactive => by cases hactive
  · cases h with
    | quiet hout hearly => exact .quiet hout hearly
    | requested hout hitem hnone hearly => cases hnone
    | opened hactive hopen hid hfits hout hjoined =>
      cases hopen
      rcases hother with hterminal | hother
      · rw [hfresh (by rw [hactive]; exact some_ne_none _)] at hterminal
        cases hterminal
      · exact absurd hid (hother _ hactive)
    | closing hnone hopen hopenPhase hout hrelays hjoined =>
      rw [hempty] at hout
      exact absurd hout.symm (List.append_ne_nil_of_right_ne_nil _ (List.cons_ne_nil _ _))

end Agrees

/-! ## Sending the queue -/

namespace RemoteConnection

/-- No request was refused for the state of the rendezvous, and if all were sent the
connection is ready with a rendezvous as wanted. -/
def Accepted (final : Option ProtocolPairing → Prop) (r : Except RuntimeError Unit)
    (connection : RemoteConnection) : Prop :=
  r ≠ .error (.protocol .invalidState) ∧
    (r = .ok () → connection.protocol.state = .ready ∧ final connection.protocol.pairing)

variable {final : Option ProtocolPairing → Prop} {sends : SignalingClientFrame → Bool}

/-- A request that is not refused for the state of the rendezvous, with the protocol after
it. -/
def Requested (next : SignalingProtocol → Prop)
    (r : Except SignalingClientError SignalingClientFrame) (p : SignalingProtocol) : Prop :=
  r ≠ .error .invalidState ∧ ∀ frame, r = .ok frame → next p

variable {next : SignalingProtocol → Prop}

theorem Requested.refused {error : SignalingClientError}
    {p : SignalingProtocol} (herror : error ≠ .invalidState) : Requested next (.error error) p :=
  ⟨fun h => herror (Except.error.inj h), fun _ h => by cases h⟩

theorem Requested.done {frame : SignalingClientFrame}
    {p : SignalingProtocol} (hnext : next p) : Requested next (.ok frame) p :=
  ⟨fun h => (by cases h), fun _ _ => hnext⟩

theorem nextRemoteRequestId_ok (connection : RemoteConnection) :
    wp nextRemoteRequestId (fun r connection' => (∃ requestId, r = .ok requestId) ∧
      connection'.protocol = connection.protocol) connection := by
  simp only [nextRemoteRequestId, wp_bind, wp_modify, wp_get, andThen_ok, wp_pure]
  exact ⟨⟨_, rfl⟩, trivial⟩

theorem sendPairingOutbound_cons {item : PairingOutbound}
    {items : List PairingOutbound} {connection : RemoteConnection}
    (hrequest : ∀ requestId, wp (pairingRequest requestId item) (Requested next)
      connection.protocol)
    (hitems : ∀ connection', next connection'.protocol →
      wp (sendPairingOutbound sends items) (Accepted final) connection') :
    wp (sendPairingOutbound sends (item :: items)) (Accepted final) connection := by
  rw [sendPairingOutbound, wp_bind]
  refine wp_mono (nextRemoteRequestId_ok connection) ?_
  rintro r connection₁ ⟨⟨requestId, rfl⟩, hprotocol⟩
  simp only [andThen_ok, wp_bind, rememberRequest, wp_modify, onProtocol, wp_zoom, wp_mapError]
  rw [hprotocol]
  refine wp_mono (hrequest requestId) ?_
  rintro (error | frame) protocol ⟨haccepted, hnext⟩
  · refine ⟨fun h => haccepted ?_, fun h => by cases h⟩
    cases h
    rfl
  · simp only [Except.mapError, andThen_ok, andThen_error, wp_bind, wp_require]
    refine ⟨fun _ => hitems _ (hnext frame rfl), fun _ => ?_⟩
    exact ⟨fun h => (by cases h), fun h => by cases h⟩

/-- The protocol at a rendezvous that a peer has joined. -/
def AtJoined (rendezvous : ProtocolPairing) (p : SignalingProtocol) : Prop :=
  p.state = .ready ∧ p.pairing = some rendezvous

variable {rendezvous : ProtocolPairing}

theorem relayPairing_requested {p : SignalingProtocol}
    {opaqueEnvelope : Bytes} (h : AtJoined rendezvous p)
    (hjoined : isJoined rendezvous.phase = true)
    (requestId : String) :
    wp (pairingRequest requestId (.relay rendezvous.rendezvousId opaqueEnvelope))
      (Requested (AtJoined rendezvous)) p := by
  simp only [pairingRequest, SignalingProtocol.relayPairing,
    SignalingProtocol.validateRendezvousId, SignalingProtocol.validateRequestId, wp_bind,
    wp_get, wp_require, wp_orThrow, andThen_ok, andThen_error, wp_pure]
  refine ⟨fun _ => ⟨fun _ => ⟨fun _ => ⟨fun active hactive => ⟨fun _ => .done h,
    fun hother => ?_⟩, fun hnone => ?_⟩, fun _ => .refused (by decide)⟩,
    fun _ => .refused (by decide)⟩, fun _ => .refused (by decide)⟩
  · obtain rfl := some.inj (h.2.symm.trans hactive)
    exact absurd ⟨h.1, rfl, hjoined⟩ hother
  · cases hnone.symm.trans h.2

theorem completePairing_requested {p : SignalingProtocol}
    {completion : PairingRendezvousCompletion} (h : AtJoined rendezvous p)
    (hopen : isOpen rendezvous.phase = true)
    (requestId : String) :
    wp (pairingRequest requestId (.complete rendezvous.rendezvousId completion))
      (Requested fun p' => p'.state = .ready) p := by
  simp only [pairingRequest, SignalingProtocol.completePairing,
    SignalingProtocol.validateRendezvousId, SignalingProtocol.validateRequestId, wp_bind,
    wp_get, wp_require, wp_orThrow, andThen_ok, andThen_error, wp_modify, wp_pure]
  refine ⟨fun _ => ⟨fun _ => ⟨fun _ => ⟨fun active hactive => ⟨fun _ => .done h.1,
    fun hother => ?_⟩, fun hnone => ?_⟩, fun _ => .refused (by decide)⟩,
    fun _ => .refused (by decide)⟩, fun _ => .refused (by decide)⟩
  · obtain rfl := some.inj (h.2.symm.trans hactive)
    exact absurd ⟨h.1, rfl, hopen⟩ hother
  · cases hnone.symm.trans h.2

theorem createPairing_requested {rendezvousId : Bytes} {kind : PairingRendezvousKind}
    {pairingCode : String} {p : SignalingProtocol} (hready : p.state = .ready)
    (hnone : p.pairing = none) (requestId : String) :
    wp (pairingRequest requestId (.create rendezvousId kind pairingCode))
      (Requested fun p' => p'.state = .ready) p := by
  simp only [pairingRequest, SignalingProtocol.createPairing,
    SignalingProtocol.validateRendezvousId, SignalingProtocol.validateRequestId, wp_bind,
    wp_get, wp_require, andThen_ok, andThen_error]
  refine ⟨fun _ => ⟨fun _ => ?_, fun _ => .refused (by decide)⟩,
    fun hother => absurd ⟨hready, hnone⟩ hother⟩
  cases kind with
  | unspecified =>
    simp only [SignalingProtocol.validatePairingCode, wp_throw, andThen_error]
    exact .refused (by decide)
  | qr | desktopCode =>
    simp only [SignalingProtocol.validatePairingCode, wp_require, andThen_ok, andThen_error,
      wp_bind, wp_modify, wp_pure]
    exact ⟨fun _ => ⟨fun _ => .done hready, fun _ => .refused (by decide)⟩,
      fun _ => .refused (by decide)⟩

/-- Relayed messages at a rendezvous with a peer are accepted one after the other. -/
theorem sendPairingOutbound_relays {relays rest : List PairingOutbound}
    (hrelays : ∀ item ∈ relays, item.relays rendezvous.rendezvousId = true)
    (hjoined : relays ≠ [] → isJoined rendezvous.phase = true)
    (hrest : ∀ connection, AtJoined rendezvous connection.protocol →
      wp (sendPairingOutbound sends rest) (Accepted final) connection)
    {connection : RemoteConnection} (h : AtJoined rendezvous connection.protocol) :
    wp (sendPairingOutbound sends (relays ++ rest)) (Accepted final) connection := by
  induction relays generalizing connection with
  | nil => exact hrest connection h
  | cons item relays ih =>
    have hphase := hjoined (List.cons_ne_nil _ _)
    have hitem := hrelays item (List.mem_cons_self ..)
    cases item with
    | create rendezvousId kind pairingCode => cases hitem
    | complete rendezvousId completion => cases hitem
    | relay rendezvousId opaqueEnvelope =>
      obtain rfl : rendezvousId = rendezvous.rendezvousId := by
        simpa [PairingOutbound.relays] using hitem
      refine sendPairingOutbound_cons (relayPairing_requested h hphase) fun connection' h' => ?_
      exact ih (fun item hmem => hrelays item (List.mem_cons_of_mem _ hmem)) (fun _ => hphase) h'

/-- A queue that agrees with the protocol is accepted, and leaves the two in agreement. -/
theorem sendPairingOutbound_accepted {connection : RemoteConnection} {c : PairingCore}
    (hready : connection.protocol.state = .ready) (h : Agrees connection.protocol.pairing c) :
    wp (sendPairingOutbound sends c.outbound)
      (Accepted fun pairing => Agrees pairing { c with outbound := [] }) connection := by
  have hnothing : ∀ (final : Option ProtocolPairing → Prop) (connection : RemoteConnection),
      connection.protocol.state = .ready → final connection.protocol.pairing →
      wp (sendPairingOutbound sends []) (Accepted final) connection :=
    fun final connection hready hfinal => ⟨fun h => (by cases h), fun _ => ⟨hready, hfinal⟩⟩
  generalize hpairing : connection.protocol.pairing = pairing at h
  cases h with
  | quiet hout hearly =>
    rw [hout]
    exact hnothing _ _ hready (.quiet rfl hearly)
  | @requested item hout hitem hnone hearly =>
    rw [hout]
    cases item with
    | relay rendezvousId opaqueEnvelope => cases hitem
    | complete rendezvousId completion => cases hitem
    | create rendezvousId kind pairingCode =>
      refine sendPairingOutbound_cons (createPairing_requested hready (hpairing.trans hnone))
        fun connection' hready' => ?_
      exact hnothing _ _ hready' (.quiet rfl hearly)
  | @opened active rendezvous hactive hopen hid hfits hout hjoined =>
    rw [← List.append_nil c.outbound]
    refine sendPairingOutbound_relays hout hjoined (fun connection' h' => ?_)
      ⟨hready, hpairing.trans hopen⟩
    refine hnothing _ _ h'.1 (.opened hactive h'.2 hid hfits ?_ ?_)
    · exact fun _ hmem => absurd hmem List.not_mem_nil
    · exact fun hne => absurd rfl hne
  | @closing rendezvous relays completion hnone hopen hphase hout hrelays hjoined =>
    rw [hout]
    refine sendPairingOutbound_relays hrelays hjoined (fun connection' h' => ?_)
      ⟨hready, hpairing.trans hopen⟩
    refine sendPairingOutbound_cons (completePairing_requested h' hphase)
      fun connection'' hready'' => ?_
    exact hnothing _ _ hready'' (.quiet rfl fun _ hactive => by cases hnone.symm.trans hactive)

end RemoteConnection

/-! ## The connection -/

namespace PairingCore

/-- The rendezvous that are to be asked for. -/
def creates (c : PairingCore) : List Bytes := c.outbound.filterMap createId?

/-- At most one rendezvous is to be asked for, and an attempt under way has not ended
before. -/
structure Tidy (c : PairingCore) : Prop where
  creates : c.creates.length ≤ 1
  fresh : c.active ≠ none → c.terminalRendezvousId = none

variable {c c' : PairingCore}

theorem creates_of_append {items : List PairingOutbound} (hout : c'.outbound = c.outbound ++ items)
    (hitems : ∀ item ∈ items, item.createId? = none) : c'.creates = c.creates := by
  have hnone : items.filterMap createId? = [] :=
    List.filterMap_eq_nil_iff.mpr hitems
  rw [PairingCore.creates, hout, List.filterMap_append, hnone, List.append_nil]
  rfl

theorem Tidy.ended (h : c.Tidy) (hcreates : c'.creates = c.creates) (hnone : c'.active = none) :
    c'.Tidy :=
  ⟨hcreates ▸ h.creates, fun hne => absurd hnone hne⟩

theorem Tidy.going {active : ActivePairing} (h : c.Tidy) (hactive : c.active = some active)
    (hcreates : c'.creates = c.creates)
    (hterminal : c'.terminalRendezvousId = c.terminalRendezvousId) : c'.Tidy := by
  have hsome : c.active ≠ none := by
    rw [hactive]
    exact some_ne_none _
  exact ⟨hcreates ▸ h.creates, fun _ => hterminal.trans (h.fresh hsome)⟩

theorem Tidy.same (h : c.Tidy) (hcreates : c'.creates = c.creates) (hactive : c'.active = c.active)
    (hterminal : c'.terminalRendezvousId = c.terminalRendezvousId) : c'.Tidy :=
  ⟨hcreates ▸ h.creates, fun hne => hterminal.trans (h.fresh (hactive ▸ hne))⟩

theorem abandon_creates (active : ActivePairing) (c : PairingCore) :
    (c.abandon active).creates = c.creates := by
  unfold abandon
  split
  · rfl
  · exact creates_of_append rfl fun item hitem => by
      obtain rfl := List.mem_singleton.mp hitem
      rfl

theorem failActive_creates (c : PairingCore) : c.failActive.creates = c.creates := by
  unfold failActive
  split
  · rfl
  · split
    · rfl
    · exact creates_of_append rfl fun item hitem => by
        obtain rfl := List.mem_singleton.mp hitem
        rfl

theorem Tidy.tick (h : c.Tidy) (nowUnixMs : UInt64) : (c.tick nowUnixMs).Tidy := by
  unfold PairingCore.tick
  split
  · exact h
  · split
    · exact h
    · exact h.ended (abandon_creates _ c) rfl

theorem Tidy.atTime (h : c.Tidy) (a : PairingAction) : (c.atTime a).Tidy := by
  unfold PairingCore.atTime
  split
  · exact h.tick _
  · exact h

/-- The two items of a decision ask for no rendezvous. -/
theorem creates_decide {rendezvousId encrypted : Bytes} {completion : PairingRendezvousCompletion}
    (hout : c'.outbound =
      c.outbound ++ [.relay rendezvousId encrypted, .complete rendezvousId completion]) :
    c'.creates = c.creates := by
  refine creates_of_append hout fun item hitem => ?_
  simp only [List.mem_cons, List.not_mem_nil, or_false] at hitem
  rcases hitem with rfl | rfl
  · rfl
  · rfl

theorem Tidy.effect {setting : PairingHost.Setting} {a : PairingAction} (h : c.Tidy)
    (hstart : ∀ kind endpoint now draws, a = .start kind endpoint now draws →
      c.active = none → c'.active ≠ none → c.outbound = [])
    (heffect : Effect setting c a c') : c'.Tidy := by
  cases heffect with
  | refused => exact h
  | connected => exact h.same rfl rfl rfl
  | lost => exact h.ended rfl rfl
  | stopped => exact ⟨Nat.zero_le 1, fun hne => absurd rfl hne⟩
  | flushed => exact ⟨Nat.zero_le 1, h.fresh⟩
  | forgot hnone => exact h.ended rfl hnone
  | startFailed hnone => exact h.ended rfl hnone
  | started hconnected hnone hfresh =>
    refine ⟨?_, fun _ => rfl⟩
    change ((c.outbound ++ _).filterMap _).length ≤ 1
    rw [hstart _ _ _ _ rfl hnone (some_ne_none _)]
    exact Nat.le_refl 1
  | cancelled hactive => exact h.ended (abandon_creates _ c) rfl
  | createdLate hnone hpending =>
    refine h.ended (creates_of_append rfl fun item hitem => ?_) hnone
    obtain rfl := List.mem_singleton.mp hitem
    rfl
  | created hactive hphase hexpires => exact h.going hactive rfl rfl
  | @joined active peer now hactive hphase hpeer =>
    refine h.going hactive (creates_of_append rfl fun item hitem => ?_) rfl
    unfold ActivePairing.invitationItems at hitem
    split at hitem
    · obtain rfl := List.mem_singleton.mp hitem
      rfl
    · cases hitem
  | greeted hactive hgreets hproof hsealed hwords =>
    refine h.going hactive (creates_of_append rfl fun item hitem => ?_) rfl
    obtain rfl := List.mem_singleton.mp hitem
    rfl
  | confirmed hactive hopens => exact h.going hactive rfl rfl
  | failed hactive hevent huses => exact h.ended (failActive_creates _) rfl
  | closed hactive => exact h.ended rfl rfl
  | rejected hactive hdecides hsealed => exact h.ended (creates_decide rfl) rfl
  | rejectFailed hactive hdecides hsealed => exact h.going hactive rfl rfl

theorem Tidy.accept {setting : PairingHost.Setting}
    {authorization authorization' : AuthorizationState} {rendezvousId controllerDeviceId : Bytes}
    {nowUnixMs : UInt64} {faults : FileFaults} {random : Nat → Option (Vector UInt8 16)}
    {r : Except PairingCoordinatorError Unit} (h : c.Tidy)
    (heffect : AcceptEffect setting c authorization rendezvousId controllerDeviceId nowUnixMs
      faults random r c' authorization') : c'.Tidy := by
  cases heffect with
  | refused error => exact h
  | grantFailed hactive hphase hgrant => exact h.ended (failActive_creates _) rfl
  | unanswered hactive hphase hcontroller hgrant hcause =>
    rcases hcause with ⟨-, rfl⟩ | ⟨-, rfl⟩ | ⟨_, _, _, -, -, -, rfl⟩
    · exact h
    · exact h
    · exact h.going hactive rfl rfl
  | accepted hactive hdecides hid hgrant hview hsealed => exact h.ended (creates_decide rfl) rfl

end PairingCore

namespace PairingHost

variable {setting : Setting} {s : PairingHost} {a : PairingAction}

/-- An attempt is started with nothing queued only. -/
def StartsEmpty (setting : Setting) (s : PairingHost) (a : PairingAction) : Prop :=
  ∀ kind endpoint now draws, a = .start kind endpoint now draws →
    (step setting s a).2 = .done (.ok ()) → s.pairing.outbound = []

theorem step_tidy (h : s.pairing.Tidy) (hstart : s.StartsEmpty setting a) :
    (step setting s a).1.pairing.Tidy := by
  rcases accept_or_not a with ⟨rendezvousId, controllerDeviceId, now, faults, random, rfl⟩ | ha
  · obtain ⟨r, c', authorization', heffect, -, hcore, -⟩ :=
      @step_accept setting s rendezvousId controllerDeviceId now faults random
    rw [hcore]
    exact (h.tick now).accept heffect
  · refine (h.atTime a).effect ?_ (step_effect s ha).1
    rintro kind endpoint now draws rfl hnone hstarted
    exact hstart kind endpoint now draws rfl (start_succeeds hnone hstarted)

theorem command_agrees {pairing : Option ProtocolPairing}
    (h : Agrees pairing s.pairing.toPairingCore) (ha : a.isCommand = true)
    (hstart : s.StartsEmpty setting a)
    (hfree : ∀ kind endpoint now draws, a = .start kind endpoint now draws →
      (step setting s a).2 = .done (.ok ()) → pairing = none) :
    Agrees pairing (step setting s a).1.pairing.toPairingCore := by
  rcases accept_or_not a with ⟨rendezvousId, controllerDeviceId, now, faults, random, rfl⟩ | hother
  · obtain ⟨r, c', authorization', heffect, -, hcore, -⟩ :=
      @step_accept setting s rendezvousId controllerDeviceId now faults random
    rw [hcore]
    exact (h.tick now).accept heffect
  · refine (h.atTime a).command ha ?_ (step_effect s hother).1
    rintro kind endpoint now draws rfl hnone hstarted
    have hdone := start_succeeds hnone hstarted
    exact ⟨hstart kind endpoint now draws rfl hdone, hfree kind endpoint now draws rfl hdone⟩

/-- The effect of an event, from the state in which its time has been looked at. -/
theorem event_effect (event : SignalingEvent) (nowUnixMs : UInt64) :
    Effect setting (s.pairing.toPairingCore.tick nowUnixMs) (.event event nowUnixMs)
      (step setting s (.event event nowUnixMs)).1.pairing.toPairingCore := by
  have ha : ∀ rendezvousId controllerDeviceId now faults random,
      PairingAction.event event nowUnixMs ≠
        .accept rendezvousId controllerDeviceId now faults random := by
    intro _ _ _ _ _ h
    cases h
  exact (step_effect s ha).1

end PairingHost

namespace RemoteRuntime

/-- How the link and the pairing coordinator fit. -/
def LinkAgrees : Link → PairingCore → Prop
  | .registered connection, c =>
    connection.protocol.state = .ready ∧ Agrees connection.protocol.pairing c
  | .broken _, _ => True
  | .offline, c => c.signalingConnected = false ∧
      ∀ item ∈ c.outbound, item.createId?.isSome = true

/-- The connection and the pairing coordinator fit. -/
structure Consistent (s : RemoteRuntime) : Prop where
  tidy : s.pairing.pairing.Tidy
  offline : s.pairing.pairing.Offline
  link : LinkAgrees s.link s.pairing.pairing.toPairingCore

/-- A start succeeds only when the queue is empty and the protocol has no rendezvous;
no rendezvous is closed while something is queued or when the attempt at it has run out; a
connection is lost with nothing but requests for a rendezvous in the queue. -/
structure Coordinated (setting : RuntimeSetting) (s : RemoteRuntime) (a : RuntimeAction) :
    Prop where
  start : ∀ command kind endpoint now draws, a = .command command →
    command.1 = .start kind endpoint now draws →
    (PairingHost.step setting.pairing s.pairing command.1).2 = .done (.ok ()) →
    s.pairing.pairing.outbound = [] ∧
      ∀ connection, s.link = .registered connection → connection.protocol.pairing = none
  closed : ∀ env encoded now frame rendezvousId completion connection,
    a = .frame env encoded now → setting.decodeFrame encoded = some frame →
    frame.payload = some (.rendezvousClosed rendezvousId completion) →
    s.link = .registered connection → s.pairing.pairing.outbound = [] ∧
      ∀ active, s.pairing.pairing.active = some active → active.phase ≠ .creating →
        now < active.invitation.expiresAtUnixMs
  lost : ∀ env now, a = .lost env now →
    ∀ item ∈ s.pairing.pairing.outbound, item.createId?.isSome = true

variable {setting : RuntimeSetting} {s : RemoteRuntime}

/-- A queue of requests that a connection finds when it is opened. -/
theorem Consistent.opened (h : s.Consistent) (hlink : s.link = .offline) :
    Agrees none { s.pairing.pairing.toPairingCore with signalingConnected := true } := by
  have hoffline := h.link
  rw [hlink] at hoffline
  have hnone := (h.offline hoffline.1).1
  have hearly : ∀ active, s.pairing.pairing.active = some active → active.phase = .creating :=
    fun _ hactive => by cases hnone.symm.trans hactive
  have hcount := h.tidy.creates
  cases hout : s.pairing.pairing.outbound with
  | nil => exact .quiet hout hearly
  | cons item items =>
    have hitem := hoffline.2 item (by rw [hout]; exact List.mem_cons_self ..)
    cases items with
    | nil => exact .requested hout hitem rfl hearly
    | cons item' items =>
      have hitem' := hoffline.2 item' (by rw [hout]; simp)
      obtain ⟨id, hid⟩ := isSome_iff_exists.mp hitem
      obtain ⟨id', hid'⟩ := isSome_iff_exists.mp hitem'
      simp [PairingCore.creates, hout, hid, hid'] at hcount

theorem Consistent.connect (h : s.Consistent) (sends : SignalingClientFrame → Bool)
    (registered : Bytes) : Consistent (connect setting sends registered s).1 := by
  unfold RemoteRuntime.connect
  cases hlink : s.link with
  | registered connection => exact h
  | broken connection => exact h
  | offline =>
    dsimp only
    split
    · rename_i connection hconnection
      have hopened := connectRemote_opens hconnection
      refine ⟨h.tidy.same rfl rfl rfl, .of_connected rfl, hopened.ready, ?_⟩
      rw [hopened.pairing]
      exact h.opened hlink
    · have hoffline := h.link
      rw [hlink] at hoffline
      exact ⟨h.tidy, h.offline, hoffline⟩

/-- A queue that is not touched when the time is looked at. -/
theorem tick_outbound {c : PairingCore} {nowUnixMs : UInt64} (hempty : c.outbound = [])
    (hgoing : ∀ active, c.active = some active → active.phase ≠ .creating →
      nowUnixMs < active.invitation.expiresAtUnixMs) : (c.tick nowUnixMs).outbound = [] := by
  unfold PairingCore.tick
  cases hactive : c.active with
  | none => exact hempty
  | some active =>
    dsimp only
    by_cases hphase : active.phase = .creating
    · split
      · exact hempty
      · rw [PairingCore.abandon, if_pos hphase]
        exact hempty
    · rw [if_pos (hgoing active hactive hphase)]
      exact hempty

/-- A frame about the pairing keeps the agreement. -/
theorem Consistent.pairingFrame {p p' : SignalingProtocol} {requestId : String}
    {payload : SignalingServerPayload} {event : SignalingEvent} {nowUnixMs : UInt64}
    (hs : s.Consistent) (h : Agrees p.pairing s.pairing.pairing.toPairingCore)
    (hready : p.state = .ready) (hevent : event.isPairing = true)
    (hclosed : ∀ rendezvousId completion, payload = .rendezvousClosed rendezvousId completion →
      s.pairing.pairing.outbound = [] ∧
        ∀ active, s.pairing.pairing.active = some active → active.phase ≠ .creating →
          nowUnixMs < active.invitation.expiresAtUnixMs)
    (hframe : SignalingProtocol.FrameEffect p requestId payload event p') :
    p'.state = .ready ∧ Agrees p'.pairing
      (PairingHost.step setting.pairing s.pairing
        (.event event nowUnixMs)).1.pairing.toPairingCore := by
  have htick := h.tick nowUnixMs
  have heffect := @PairingHost.event_effect setting.pairing s.pairing event nowUnixMs
  cases hframe with
  | registered hstate => cases hevent
  | heartbeat hready' => cases hevent
  | routedSession hready' => cases hevent
  | created hactive hphase =>
    rw [hactive] at htick
    exact ⟨hready, htick.created hphase heffect⟩
  | joined hactive hphase =>
    rw [hactive] at htick
    exact ⟨hready, htick.joined heffect⟩
  | routedPairing hactive hphase => exact ⟨hready, htick.failing rfl heffect⟩
  | @closed active wire completion hactive hcheck =>
    rw [hactive] at htick
    obtain ⟨hempty, hgoing⟩ := hclosed _ _ rfl
    exact ⟨hready, htick.closed (tick_outbound hempty hgoing) (hs.tidy.tick nowUnixMs).fresh
      (step_closed_cases s.pairing active.rendezvousId completion nowUnixMs)⟩
  | answered hactive hanswered =>
    rw [hactive] at htick
    exact ⟨hready, htick.answered hanswered rfl heffect⟩
  | unanswered hother => exact ⟨hready, htick.failing rfl heffect⟩

theorem Consistent.frame (h : s.Consistent) {env : Environment} {encoded : Bytes}
    {nowUnixMs : UInt64} (hcoord : Coordinated setting s (.frame env encoded nowUnixMs)) :
    Consistent (frame setting env encoded nowUnixMs s).1 := by
  have hagrees := h.link
  unfold RemoteRuntime.frame
  cases hlink : s.link with
  | offline => exact h
  | broken connection => exact h
  | registered connection =>
    rw [hlink] at hagrees
    have heffect := handleRemoteServerFrame_effect setting env encoded nowUnixMs
      ⟨connection.protocol, s.sessions, s.pairing⟩
    unfold wp at heffect
    dsimp only
    generalize handleRemoteServerFrame setting env encoded nowUnixMs
      ⟨connection.protocol, s.sessions, s.pairing⟩ = result at heffect ⊢
    obtain ⟨r, served⟩ := result
    cases heffect with
    | refused error => exact ⟨h.tidy, h.offline, trivial⟩
    | registered hstate => exact ⟨h.tidy, h.offline, trivial⟩
    | heartbeat => exact ⟨h.tidy, h.offline, hagrees⟩
    | session hframe hpayload =>
      refine ⟨h.tidy, h.offline, ?_⟩
      cases r with
      | ok outbound => exact hagrees
      | error error => trivial
    | @pairing frame payload event protocol hframe hpayload hframeEffect hevent =>
      refine ⟨PairingHost.step_tidy h.tidy fun _ _ _ _ hstart => (by cases hstart),
        (PairingHost.step_extends h.offline rfl).offline, ?_⟩
      refine h.pairingFrame hagrees.2 hagrees.1 hevent ?_ hframeEffect
      rintro rendezvousId completion rfl
      exact hcoord.closed _ _ _ _ _ _ _ rfl hframe hpayload hlink

/-- The queue is sent without a refusal for the state of the rendezvous. -/
theorem Consistent.flushPairing (h : s.Consistent) (nowUnixMs : UInt64)
    (sends : SignalingClientFrame → Bool) :
    Consistent (flushPairing setting nowUnixMs sends s).1 ∧
      (flushPairing setting nowUnixMs sends s).2 ≠ .error (.protocol .invalidState) := by
  have hagrees := h.link
  unfold RemoteRuntime.flushPairing
  cases hlink : s.link with
  | offline => exact ⟨h, fun hrefused => by cases hrefused⟩
  | broken connection => exact ⟨h, fun hrefused => by cases hrefused⟩
  | registered connection =>
    rw [hlink] at hagrees
    let ticked := HostPairingCoordinator.tick nowUnixMs s.pairing.pairing
    have hticked : ticked.toPairingCore = s.pairing.pairing.toPairingCore.tick nowUnixMs :=
      HostPairingCoordinator.tick_core nowUnixMs s.pairing.pairing
    have hagrees' : Agrees connection.protocol.pairing ticked.toPairingCore := by
      rw [hticked]
      exact hagrees.2.tick nowUnixMs
    have htidy : ticked.Tidy := by
      rw [hticked]
      exact h.tidy.tick nowUnixMs
    have hoffline : ticked.Offline := by
      rw [hticked]
      exact (h.offline.tick nowUnixMs).offline
    have hsent : wp (sendPairingOutbound sends ticked.outbound)
        (Accepted fun pairing =>
          Agrees pairing { ticked.toPairingCore with outbound := [] }) connection :=
      sendPairingOutbound_accepted hagrees.1 hagrees'
    unfold wp at hsent
    have hstep : onConnection (sendPairingOutbound sends ticked.outbound)
        (onPairing setting .takeOutbound (onPairing setting (.tick nowUnixMs) s)) =
        ({ onPairing setting .takeOutbound (onPairing setting (.tick nowUnixMs) s) with
            link := linkAfter
              (sendPairingOutbound sends ticked.outbound connection).1
              (sendPairingOutbound sends ticked.outbound connection).2 },
          (sendPairingOutbound sends ticked.outbound connection).1) := by
      unfold RemoteRuntime.onConnection
      rw [show (onPairing setting .takeOutbound (onPairing setting (.tick nowUnixMs) s)).link =
        s.link from rfl, hlink]
    change Consistent (onConnection (sendPairingOutbound sends ticked.outbound)
        (onPairing setting .takeOutbound (onPairing setting (.tick nowUnixMs) s))).1 ∧
      (onConnection (sendPairingOutbound sends ticked.outbound)
        (onPairing setting .takeOutbound (onPairing setting (.tick nowUnixMs) s))).2 ≠ _
    rw [hstep]
    refine ⟨⟨⟨Nat.zero_le 1, htidy.fresh⟩, hoffline, ?_⟩, hsent.1⟩
    dsimp only
    generalize sendPairingOutbound sends ticked.outbound connection = result at hsent ⊢
    obtain ⟨r, connection'⟩ := result
    cases r with
    | error error => trivial
    | ok u => exact hsent.2 rfl

theorem Consistent.onConnection {m : Operation Unit} (h : s.Consistent)
    (hm : Keeps Quiet m) : Consistent (onConnection m s).1 := by
  have hagrees := h.link
  unfold RemoteRuntime.onConnection
  cases hlink : s.link with
  | offline => exact h
  | broken connection => exact h
  | registered connection =>
    rw [hlink] at hagrees
    refine ⟨h.tidy, h.offline, ?_⟩
    have hquiet : Quiet connection (m connection).2 := hm connection
    dsimp only
    cases (m connection).1 with
    | error error => trivial
    | ok u =>
      refine ⟨hquiet.state.trans hagrees.1, ?_⟩
      rw [hquiet.pairing]
      exact hagrees.2

theorem Consistent.command (h : s.Consistent) {command : PairingCommand}
    (hcoord : Coordinated setting s (.command command)) :
    Consistent (onPairing setting command.1 s) := by
  have hagrees := h.link
  have hof : command.1.ofConnection = false := by
    obtain ⟨a, ha⟩ := command
    cases a with
    | signalingConnected | signalingLost | shutdown | takeOutbound | event => cases ha
    | tick | returnToIdle | start | accept | reject | cancel => rfl
  have hstart : s.pairing.StartsEmpty setting.pairing command.1 :=
    fun kind endpoint now draws ha hdone =>
      (hcoord.start command kind endpoint now draws rfl ha hdone).1
  have hextends := @PairingHost.step_extends setting.pairing s.pairing command.1 h.offline hof
  refine ⟨PairingHost.step_tidy h.tidy hstart, hextends.offline, ?_⟩
  change LinkAgrees s.link _
  cases hlink : s.link with
  | broken connection => trivial
  | registered connection =>
    rw [hlink] at hagrees
    refine ⟨hagrees.1, PairingHost.command_agrees hagrees.2 command.2 hstart ?_⟩
    intro kind endpoint now draws ha hdone
    exact (hcoord.start command kind endpoint now draws rfl ha hdone).2 connection hlink
  | offline =>
    rw [hlink] at hagrees
    obtain ⟨items, hitems, hnothing⟩ := hextends.queued
    refine ⟨hextends.connected.trans hagrees.1, ?_⟩
    change ∀ item ∈ (PairingHost.step setting.pairing s.pairing command.1).1.pairing.outbound, _
    rw [hitems, hnothing hagrees.1, List.append_nil]
    exact hagrees.2

theorem Consistent.lost (h : s.Consistent) {env : Environment} {nowUnixMs : UInt64}
    (hcoord : Coordinated setting s (.lost env nowUnixMs)) :
    Consistent (lost setting env nowUnixMs s).1 := by
  have hcore := HostPairingCoordinator.signalingLost_core (c := s.pairing.pairing)
  refine ⟨?_, ?_, ?_⟩
  · change (HostPairingCoordinator.signalingLost s.pairing.pairing).Tidy
    rw [hcore]
    exact h.tidy.ended rfl rfl
  · change (HostPairingCoordinator.signalingLost s.pairing.pairing).Offline
    rw [hcore]
    exact .of_lost rfl rfl
  · change LinkAgrees .offline
      (HostPairingCoordinator.signalingLost s.pairing.pairing).toPairingCore
    rw [hcore]
    exact ⟨rfl, hcoord.lost env nowUnixMs rfl⟩

theorem Consistent.shutdown (env : Environment) (s : RemoteRuntime) :
    Consistent (shutdown setting env s).1 := by
  have hcore := HostPairingCoordinator.shutdown_core (c := s.pairing.pairing)
  refine ⟨?_, ?_, ?_⟩
  · change (HostPairingCoordinator.shutdown s.pairing.pairing).Tidy
    rw [hcore]
    exact ⟨Nat.zero_le 1, fun hne => absurd rfl hne⟩
  · change (HostPairingCoordinator.shutdown s.pairing.pairing).Offline
    rw [hcore]
    exact .of_lost rfl rfl
  · change LinkAgrees .offline (HostPairingCoordinator.shutdown s.pairing.pairing).toPairingCore
    rw [hcore]
    exact ⟨rfl, fun _ hmem => absurd hmem List.not_mem_nil⟩

theorem Consistent.step (h : s.Consistent) {a : RuntimeAction} (hcoord : Coordinated setting s a) :
    Consistent (step setting s a).1 := by
  cases a with
  | connect sends registered => exact h.connect sends registered
  | frame env encoded nowUnixMs => exact h.frame hcoord
  | flushPairing nowUnixMs sends => exact (h.flushPairing nowUnixMs sends).1
  | sendRemote sends =>
    have hempty : Consistent { s with relays := [] } := ⟨h.tidy, h.offline, h.link⟩
    exact hempty.onConnection (sendRemoteOutbound_quiet _ _ _)
  | heartbeat sends => exact h.onConnection (sendHeartbeat_quiet _)
  | session input =>
    refine ⟨h.tidy, h.offline, ?_⟩
    have hagrees := h.link
    change LinkAgrees (Link.breakIf _ s.link) s.pairing.pairing.toPairingCore
    cases hlink : s.link with
    | offline =>
      rw [hlink] at hagrees
      exact hagrees
    | broken connection => trivial
    | registered connection =>
      rw [hlink] at hagrees
      unfold Link.breakIf
      dsimp only
      split
      · trivial
      · exact hagrees
  | command command => exact h.command hcoord
  | lost env nowUnixMs => exact h.lost hcoord
  | shutdown env => exact .shutdown env s

/-- The coordinator starts without a connection, an attempt or a queue. -/
theorem consistent_initial {crypto : Crypto} {hostIdentity : DeviceIdentity}
    {pairing : HostPairingCoordinator}
    (hnew : HostPairingCoordinator.withRandom crypto hostIdentity = .ok pairing)
    (sessions : RemoteSessionCoordinator) (authorization : AuthorizationState) :
    Consistent (initial sessions { pairing, authorization }) := by
  simp only [HostPairingCoordinator.withRandom, bind_eq_ok, ensure_eq_ok, pure, Except.pure,
    Except.ok.injEq] at hnew
  obtain ⟨_, -, _, -, _, -, _, -, _, -, _, -, rfl⟩ := hnew
  exact ⟨⟨Nat.zero_le 1, fun hne => absurd rfl hne⟩, .of_lost rfl rfl, rfl,
    fun _ hmem => absurd hmem List.not_mem_nil⟩

/-- On a run whose actions are all coordinated, the protocol refuses no request of the
pairing queue for the state of its rendezvous. -/
theorem pairing_requests_accepted (setting : RuntimeSetting) {hostIdentity : DeviceIdentity}
    {pairing : HostPairingCoordinator}
    (hnew : HostPairingCoordinator.withRandom setting.pairing.crypto.toCrypto hostIdentity =
      .ok pairing)
    (sessions : RemoteSessionCoordinator) (authorization : AuthorizationState)
    {actions : List RuntimeAction}
    (hcoord : (machine setting).Guarded (Coordinated setting)
      (initial sessions { pairing, authorization }) actions) :
    ∀ e ∈ (machine setting).trace (initial sessions { pairing, authorization }) actions,
      ∀ nowUnixMs sends, e.input = .flushPairing nowUnixMs sends →
        e.output ≠ .error (.protocol .invalidState) := by
  intro e he nowUnixMs sends hinput
  obtain ⟨hbefore, -, -, hoccurrence⟩ := (machine setting).trace_invariant Consistent
    (fun s a hs ha => hs.step ha) (consistent_initial hnew sessions authorization) hcoord he
  rw [hoccurrence, hinput]
  exact (hbefore.flushPairing nowUnixMs sends).2

/-- An action that is no command, no frame and no loss is coordinated. -/
theorem coordinated_of_other {a : RuntimeAction} (hcommand : ∀ command, a ≠ .command command)
    (hframe : ∀ env encoded now, a ≠ .frame env encoded now)
    (hlost : ∀ env now, a ≠ .lost env now) : Coordinated setting s a where
  start _ _ _ _ _ ha := absurd ha (hcommand _)
  closed _ _ _ _ _ _ _ ha := absurd ha (hframe _ _ _)
  lost _ _ ha := absurd ha (hlost _ _)

theorem coordinated_connect : Coordinated setting s SampleConnection.connect :=
  coordinated_of_other (fun _ h => by cases h) (fun _ _ _ h => by cases h) (fun _ _ h => by cases h)

theorem coordinated_flush : Coordinated setting s SampleConnection.flush :=
  coordinated_of_other (fun _ h => by cases h) (fun _ _ _ h => by cases h) (fun _ _ h => by cases h)

/-- The run of an attempt whose rendezvous is created. -/
def sampleCreation : List RuntimeAction :=
  [SampleConnection.connect, SampleConnection.start, SampleConnection.flush,
    SampleConnection.receive SampleConnection.created, SampleConnection.flush]

theorem pairing_requests_accepted_sample :
    HostPairingCoordinator.withRandom SampleConnection.setting.pairing.crypto.toCrypto
      sampleHostIdentity = .ok SampleExchange.coordinator ∧
    ∀ e ∈ (machine SampleConnection.setting).trace SampleConnection.runtime sampleCreation,
      ∀ nowUnixMs sends, e.input = .flushPairing nowUnixMs sends →
        e.output ≠ .error (.protocol .invalidState) := by
  have hnew : HostPairingCoordinator.withRandom SampleConnection.setting.pairing.crypto.toCrypto
      sampleHostIdentity = .ok SampleExchange.coordinator := by decide +kernel
  refine ⟨hnew, pairing_requests_accepted SampleConnection.setting hnew _ _ ?_⟩
  have hdecoded : SampleConnection.setting.decodeFrame SampleConnection.created =
      some (SampleConnection.serverFrame "host-1-2"
        (.rendezvousCreated SampleExchange.rendezvousId.toList 1 1700000120000)) := by
    decide +kernel
  have hconnected : ((machine SampleConnection.setting).step SampleConnection.runtime
        SampleConnection.connect).1.pairing.pairing.outbound = [] ∧
      (Link.connection? ((machine SampleConnection.setting).step SampleConnection.runtime
        SampleConnection.connect).1.link).map (fun connection => connection.protocol.pairing) =
        some none := by
    decide +kernel
  refine ⟨coordinated_connect, ?_, coordinated_flush, ?_, coordinated_flush, trivial⟩
  · refine ⟨fun _ _ _ _ _ _ _ _ => ⟨hconnected.1, fun connection hlink => ?_⟩,
      fun _ _ _ _ _ _ _ ha => (by cases ha), fun _ _ ha => by cases ha⟩
    have hpairing := (congrArg (fun link => (Link.connection? link).map
      fun connection => connection.protocol.pairing) hlink).symm.trans hconnected.2
    exact some.inj hpairing
  · refine ⟨fun _ _ _ _ _ ha => (by cases ha),
      fun _ _ _ frame rendezvousId completion _ ha hframe hpayload _ => ?_,
      fun _ _ ha => by cases ha⟩
    cases ha
    obtain rfl := some.inj (hdecoded.symm.trans hframe)
    cases hpayload

/-- The sample attempt is cancelled. -/
def sampleCancelled : RuntimeAction := .command ⟨CreatesHost.sampleCancel, rfl⟩

/-- Another attempt is started. -/
def sampleRestart : RuntimeAction := .command ⟨CreatesHost.otherStart, rfl⟩

/-- The time at which the sample attempt is over. -/
def sampleDeadline : UInt64 := 1700000120000

/-- A request is refused when an attempt is started before the request of the last one is
answered, and when the service closes a rendezvous whose attempt is just running out. -/
theorem pairing_request_refused :
    ((machine SampleConnection.setting).trace SampleConnection.runtime
      [SampleConnection.connect, SampleConnection.start, SampleConnection.flush, sampleCancelled,
        sampleRestart, SampleConnection.flush]).getLast?.map (·.output) =
      some (.error (.protocol .invalidState)) ∧
    ((machine SampleConnection.setting).trace SampleConnection.runtime
      [SampleConnection.connect, SampleConnection.start, SampleConnection.flush,
        SampleConnection.receive SampleConnection.created,
        .frame SampleConnection.environment SampleConnection.expired sampleDeadline,
        .flushPairing sampleDeadline fun _ => true]).getLast?.map (·.output) =
      some (.error (.protocol .invalidState)) := by
  constructor
  · decide +kernel
  · decide +kernel

end RemoteRuntime

end Host

end Roammand
