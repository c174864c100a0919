import Roammand.Host.PairingEffects

/-!
# The pairing queue and the connection

What the coordinator queues is flushed by the connection that is there when the queue is
taken.  Here every queued item is marked with the number of the connection during which
it was queued, over several connections in a row.

Nothing is queued while there is no connection.  A lost connection, however, leaves the
queue as it is, so what was queued just before the loss is flushed on the next one.

Main results:

- Definition `DeliveryHost.machine`: the coordinator with numbered connections.
- Theorem `outbound_connection_scoped`: when the queue is empty at every loss, whatever is
  flushed was queued during the same connection.
- Theorem `outbound_outlives_connection`: a run in which it was not.
-/

namespace Roammand

namespace Host

open Library Protocol HostPairingCoordinator PairingCore

/-! ## No connection, nothing to queue -/

/-- Without a connection there is no attempt, and none that was given up. -/
def PairingCore.Offline (c : PairingCore) : Prop :=
  c.signalingConnected = false → c.active = none ∧ c.pendingCancelledCreate = none

namespace PairingCore

variable {c : PairingCore}

theorem abandon_signalingConnected (active : ActivePairing) (c : PairingCore) :
    (c.abandon active).signalingConnected = c.signalingConnected := by
  unfold abandon
  split
  · rfl
  · rfl

theorem failActive_signalingConnected (c : PairingCore) :
    c.failActive.signalingConnected = c.signalingConnected := by
  unfold failActive
  split
  · rfl
  · split
    · rfl
    · rfl

/-- While an attempt is under way, there is a connection. -/
theorem Offline.connected_of_active (h : c.Offline) {active : ActivePairing}
    (hactive : c.active = some active) : c.signalingConnected = true := by
  by_contra hoff
  rw [(h (by simpa using hoff)).1] at hactive
  cases hactive

theorem Offline.connected_of_pending (h : c.Offline) {rendezvousId : Bytes}
    (hpending : c.pendingCancelledCreate = some rendezvousId) : c.signalingConnected = true := by
  by_contra hoff
  rw [(h (by simpa using hoff)).2] at hpending
  cases hpending

/-- A state with a connection satisfies it. -/
theorem Offline.of_connected (h : c.signalingConnected = true) : c.Offline := by
  intro hoff
  rw [h] at hoff
  cases hoff

/-- A state without an attempt satisfies it. -/
theorem Offline.of_lost (hactive : c.active = none) (hpending : c.pendingCancelledCreate = none) :
    c.Offline :=
  fun _ => ⟨hactive, hpending⟩

end PairingCore

/-- The connection stays as it is, and what is queued is queued on it. -/
structure Extends (c c' : PairingCore) : Prop where
  connected : c'.signalingConnected = c.signalingConnected
  offline : c'.Offline
  queued : ∃ items, c'.outbound = c.outbound ++ items ∧
    (c.signalingConnected = false → items = [])

namespace Extends

variable {c c' c'' : PairingCore}

theorem refl (h : c.Offline) : Extends c c :=
  ⟨rfl, h, [], (List.append_nil _).symm, fun _ => rfl⟩

theorem trans (h : Extends c c') (h' : Extends c' c'') : Extends c c'' := by
  obtain ⟨items, hitems, hnone⟩ := h.queued
  obtain ⟨items', hitems', hnone'⟩ := h'.queued
  refine ⟨h'.connected.trans h.connected, h'.offline, items ++ items', ?_, fun hoff => ?_⟩
  · rw [hitems', hitems, List.append_assoc]
  · rw [hnone hoff, hnone' (h.connected.trans hoff), List.append_nil]

/-- With a connection anything may be queued. -/
theorem of_connected (hconnected : c.signalingConnected = true)
    (hkept : c'.signalingConnected = c.signalingConnected)
    (hqueued : ∃ items, c'.outbound = c.outbound ++ items) : Extends c c' := by
  obtain ⟨items, hitems⟩ := hqueued
  refine ⟨hkept, .of_connected (hkept.trans hconnected), items, hitems, fun hoff => ?_⟩
  rw [hconnected] at hoff
  cases hoff

end Extends

namespace PairingCore

variable {c : PairingCore}

theorem abandon_outbound (active : ActivePairing) (c : PairingCore) :
    ∃ items, (c.abandon active).outbound = c.outbound ++ items := by
  unfold abandon
  split
  · exact ⟨[], (List.append_nil _).symm⟩
  · exact ⟨_, rfl⟩

theorem failActive_outbound (c : PairingCore) :
    ∃ items, c.failActive.outbound = c.outbound ++ items := by
  unfold failActive
  split
  · exact ⟨[], (List.append_nil _).symm⟩
  · split
    · exact ⟨[], (List.append_nil _).symm⟩
    · exact ⟨_, rfl⟩

/-- An attempt that runs out extends the queue of its connection. -/
theorem Offline.tick (h : c.Offline) (nowUnixMs : UInt64) : Extends c (c.tick nowUnixMs) := by
  unfold PairingCore.tick
  cases hactive : c.active with
  | none => exact .refl h
  | some active =>
    dsimp only
    split
    · exact .refl h
    · exact .of_connected (h.connected_of_active hactive)
        (abandon_signalingConnected active c) (abandon_outbound active c)

theorem Offline.atTime (h : c.Offline) (a : PairingAction) : Extends c (c.atTime a) := by
  unfold PairingCore.atTime
  split
  · exact h.tick _
  · exact .refl h

end PairingCore

/-- The actions of the connection itself. -/
def PairingAction.ofConnection : PairingAction → Bool
  | .signalingConnected | .signalingLost | .shutdown | .takeOutbound => true
  | _ => false

variable {setting : PairingHost.Setting}

theorem Effect.extends {c c' : PairingCore} {a : PairingAction}
    (h : Effect setting c a c') (hoff : c.Offline) (ha : a.ofConnection = false) :
    Extends c c' := by
  cases h with
  | refused => exact .refl hoff
  | connected => cases ha
  | lost => cases ha
  | stopped => cases ha
  | flushed => cases ha
  | forgot hnone => exact ⟨rfl, hoff, [], (List.append_nil _).symm, fun _ => rfl⟩
  | startFailed hnone => exact ⟨rfl, hoff, [], (List.append_nil _).symm, fun _ => rfl⟩
  | started hconnected hnone hfresh => exact .of_connected hconnected rfl ⟨_, rfl⟩
  | cancelled hactive =>
    exact .of_connected (hoff.connected_of_active hactive)
      (abandon_signalingConnected _ c) (abandon_outbound _ c)
  | createdLate hnone hpending =>
    exact .of_connected (hoff.connected_of_pending hpending) rfl ⟨_, rfl⟩
  | created hactive hphase hexpires =>
    exact .of_connected (hoff.connected_of_active hactive) rfl ⟨[], (List.append_nil _).symm⟩
  | joined hactive hphase hpeer =>
    exact .of_connected (hoff.connected_of_active hactive) rfl ⟨_, rfl⟩
  | greeted hactive hgreets hproof hsealed hwords =>
    exact .of_connected (hoff.connected_of_active hactive) rfl ⟨_, rfl⟩
  | confirmed hactive hopens =>
    exact .of_connected (hoff.connected_of_active hactive) rfl ⟨[], (List.append_nil _).symm⟩
  | failed hactive hevent huses =>
    exact .of_connected (hoff.connected_of_active hactive)
      (failActive_signalingConnected _) (failActive_outbound _)
  | closed hactive =>
    exact .of_connected (hoff.connected_of_active hactive) rfl ⟨[], (List.append_nil _).symm⟩
  | rejected hactive hdecides hsealed =>
    exact .of_connected (hoff.connected_of_active hactive) rfl ⟨_, rfl⟩
  | rejectFailed hactive hdecides hsealed =>
    exact .of_connected (hoff.connected_of_active hactive) rfl ⟨[], (List.append_nil _).symm⟩

theorem AcceptEffect.extends {c c' : PairingCore}
    {authorization authorization' : AuthorizationState} {rendezvousId controllerDeviceId : Bytes}
    {nowUnixMs : UInt64} {faults : FileFaults} {random : Nat → Option (Vector UInt8 16)}
    {r : Except PairingCoordinatorError Unit}
    (h : AcceptEffect setting c authorization rendezvousId controllerDeviceId nowUnixMs faults
      random r c' authorization') (hoff : c.Offline) : Extends c c' := by
  cases h with
  | refused error => exact .refl hoff
  | grantFailed hactive hphase hgrant =>
    exact .of_connected (hoff.connected_of_active hactive)
      (failActive_signalingConnected _) (failActive_outbound _)
  | unanswered hactive hphase hcontroller hgrant hcause =>
    refine .of_connected (hoff.connected_of_active hactive) ?_ ?_
    · rcases hcause with ⟨-, rfl⟩ | ⟨-, rfl⟩ | ⟨_, _, _, -, -, -, rfl⟩
      · rfl
      · rfl
      · rfl
    · refine ⟨[], ?_⟩
      rcases hcause with ⟨-, rfl⟩ | ⟨-, rfl⟩ | ⟨_, _, _, -, -, -, rfl⟩
      · exact (List.append_nil _).symm
      · exact (List.append_nil _).symm
      · exact (List.append_nil _).symm
  | accepted hactive hdecides hid hgrant hview hsealed =>
    exact .of_connected (hoff.connected_of_active hactive) rfl ⟨_, rfl⟩

/-- An action that is not one of the connection's extends the queue of its connection. -/
theorem PairingHost.step_extends {s : PairingHost}
    {a : PairingAction} (hoff : s.pairing.Offline) (ha : a.ofConnection = false) :
    Extends s.pairing.toPairingCore (step setting s a).1.pairing.toPairingCore := by
  rcases accept_or_not a with ⟨rendezvousId, controllerDeviceId, nowUnixMs, faults, random, rfl⟩ |
    haccept
  · obtain ⟨r, c', authorization', heffect, -, rfl, -⟩ :=
      step_accept s rendezvousId controllerDeviceId nowUnixMs faults random
    have htick := hoff.tick nowUnixMs
    exact htick.trans (heffect.extends htick.offline)
  · have htick := hoff.atTime a
    exact htick.trans ((step_effect s haccept).1.extends htick.offline ha)

/-! ## Numbered connections -/

/-- The coordinator, the number of connections so far and, for each queued item, the
number of connections at the time it was queued. -/
structure DeliveryHost where
  host : PairingHost
  connection : Nat
  origins : List Nat

namespace DeliveryHost

/-- The number of connections after an action: a new one begins when there is none. -/
def nextConnection (s : DeliveryHost) : PairingAction → Nat
  | .signalingConnected =>
    if s.host.pairing.signalingConnected then s.connection else s.connection + 1
  | _ => s.connection

/-- The origins after an action that leads to a queue of the given length. -/
def nextOrigins (s : DeliveryHost) (length : Nat) : PairingAction → List Nat
  | .takeOutbound | .shutdown => []
  | _ => s.origins ++ List.replicate (length - s.host.pairing.outbound.length) s.connection

/-- One action, with the items it flushes and their origins. -/
def step (setting : PairingHost.Setting) (s : DeliveryHost) (a : PairingAction) :
    DeliveryHost × PairingOutput :=
  let result := PairingHost.step setting s.host a
  ({ host := result.1
     connection := s.nextConnection a
     origins := s.nextOrigins result.1.pairing.outbound.length a }, result.2)

/-- The numbered coordinator as a machine. -/
def machine (setting : PairingHost.Setting) : Machine DeliveryHost PairingAction PairingOutput :=
  ⟨step setting⟩

/-- The numbered coordinator at its start. -/
def initial (pairing : HostPairingCoordinator) (authorization : AuthorizationState) :
    DeliveryHost where
  host := { pairing, authorization }
  connection := 0
  origins := []

/-- The queue is empty when the connection is lost. -/
def LostEmpty (s : DeliveryHost) (a : PairingAction) : Prop :=
  a = .signalingLost → s.host.pairing.outbound = []

/-- What is queued was queued during the present connection. -/
structure Scoped (s : DeliveryHost) : Prop where
  offline : s.host.pairing.Offline
  length : s.origins.length = s.host.pairing.outbound.length
  present : ∀ origin ∈ s.origins, origin = s.connection
  absent : s.host.pairing.signalingConnected = false → s.host.pairing.outbound = []

variable {s : DeliveryHost}

theorem Scoped.origins_nil (h : s.Scoped)
    (hempty : s.host.pairing.outbound = []) : s.origins = [] := by
  apply List.eq_nil_of_length_eq_zero
  rw [h.length, hempty, List.length_nil]

/-- An action that extends the queue marks what it adds with the present connection. -/
theorem Scoped.extend {host : PairingHost} (h : s.Scoped)
    (hext : Extends s.host.pairing.toPairingCore host.pairing.toPairingCore) :
    Scoped ⟨host, s.connection, s.origins ++ List.replicate
      (host.pairing.outbound.length - s.host.pairing.outbound.length) s.connection⟩ := by
  obtain ⟨items, hitems, hnone⟩ := hext.queued
  refine ⟨hext.offline, ?_, ?_, ?_⟩
  · have hlength := h.length
    simp only [hitems, List.length_append, List.length_replicate]
    omega
  · intro origin horigin
    rcases List.mem_append.mp horigin with hold | hnew
    · exact h.present origin hold
    · exact List.eq_of_mem_replicate hnew
  · intro hoff
    have hoff : s.host.pairing.signalingConnected = false := hext.connected.symm.trans hoff
    rw [hitems, hnone hoff, List.append_nil]
    exact h.absent hoff

/-- A state with an empty queue is scoped, whatever the number of its connection. -/
theorem Scoped.of_empty {host : PairingHost} (hoff : host.pairing.Offline)
    (hempty : host.pairing.outbound = []) (connection : Nat) :
    Scoped ⟨host, connection, []⟩ where
  offline := hoff
  length := by simp [hempty]
  present _ horigin := absurd horigin List.not_mem_nil
  absent _ := hempty

theorem Scoped.connect {setting : PairingHost.Setting} {s : DeliveryHost} (h : s.Scoped) :
    Scoped (step setting s .signalingConnected).1 := by
  have hnone : (step setting s .signalingConnected).1.origins = s.origins := by
    simp [step, nextOrigins, PairingHost.step, PairingHost.perform, PairingHost.onPairing,
      Fallible.zoom, modify, modifyGet, MonadStateOf.modifyGet,
      markSignalingConnected]
  by_cases hconnected : s.host.pairing.signalingConnected = true
  · have hnumber : (step setting s .signalingConnected).1.connection = s.connection := by
      simp [step, nextConnection, hconnected]
    exact ⟨.of_connected rfl, hnone ▸ h.length, hnone ▸ hnumber ▸ h.present, nofun⟩
  · have hempty := h.absent (by simpa using hconnected)
    have horigins := h.origins_nil hempty
    refine ⟨.of_connected rfl, hnone ▸ h.length, ?_, nofun⟩
    rw [hnone, horigins]
    exact fun _ horigin => absurd horigin List.not_mem_nil

theorem Scoped.step {setting : PairingHost.Setting} {s : DeliveryHost} {a : PairingAction}
    (h : s.Scoped) (hlost : s.LostEmpty a) : Scoped (step setting s a).1 := by
  cases a with
  | signalingConnected => exact h.connect
  | signalingLost =>
    have hcore := signalingLost_core (c := s.host.pairing)
    have hempty := hlost rfl
    have hqueue : (PairingHost.step setting s.host .signalingLost).1.pairing.outbound = [] :=
      (congrArg outbound hcore).trans hempty
    have horigins : (DeliveryHost.step setting s .signalingLost).1.origins = [] := by
      change s.origins ++ List.replicate ((PairingHost.step setting s.host
        .signalingLost).1.pairing.outbound.length - s.host.pairing.outbound.length) _ = []
      rw [hqueue, hempty, h.origins_nil hempty]
      rfl
    have hscoped := Scoped.of_empty (.of_lost (congrArg active hcore)
      (congrArg pendingCancelledCreate hcore)) hqueue s.connection
    rwa [← horigins] at hscoped
  | shutdown =>
    have hcore := shutdown_core (c := s.host.pairing)
    refine .of_empty (.of_lost ?_ ?_) ?_ s.connection
    · exact congrArg active hcore
    · exact congrArg pendingCancelledCreate hcore
    · exact congrArg outbound hcore
  | takeOutbound =>
    refine .of_empty ?_ ?_ s.connection
    · exact h.offline
    · rfl
  | tick | returnToIdle | start | event | accept | reject | cancel =>
    exact h.extend (PairingHost.step_extends h.offline rfl)

/-- The coordinator starts without a connection, an attempt or a queue. -/
theorem scoped_initial {crypto : Crypto} {hostIdentity : DeviceIdentity}
    {pairing : HostPairingCoordinator}
    (hnew : withRandom crypto hostIdentity = .ok pairing)
    (authorization : AuthorizationState) : Scoped (initial pairing authorization) := by
  simp only [withRandom, bind_eq_ok, ensure_eq_ok, pure, Except.pure, Except.ok.injEq] at hnew
  obtain ⟨_, -, _, -, _, -, _, -, _, -, _, -, rfl⟩ := hnew
  exact .of_empty (.of_lost rfl rfl) rfl 0

/-- When the queue is empty at every loss of the connection, every item that is flushed on
a connection was queued during that connection. -/
theorem outbound_connection_scoped (setting : PairingHost.Setting)
    {hostIdentity : DeviceIdentity} {pairing : HostPairingCoordinator}
    (hnew : withRandom setting.crypto.toCrypto hostIdentity = .ok pairing)
    (authorization : AuthorizationState) {actions : List PairingAction}
    (hlost : (machine setting).Guarded LostEmpty (initial pairing authorization) actions) :
    ∀ e ∈ (machine setting).trace (initial pairing authorization) actions,
      e.input = .takeOutbound → e.before.host.pairing.signalingConnected = true →
      e.output = .flushed e.before.host.pairing.outbound ∧
      e.before.origins.length = e.before.host.pairing.outbound.length ∧
      ∀ origin ∈ e.before.origins, origin = e.before.connection := by
  intro e he hinput _
  obtain ⟨hbefore, -, -, hoccurrence⟩ := (machine setting).trace_invariant Scoped
    (fun s a hs ha => hs.step ha) (scoped_initial hnew authorization) hlost he
  refine ⟨?_, hbefore.length, hbefore.present⟩
  rw [hoccurrence, hinput]
  rfl

/-- A queue taken twice on a connection that was not lost before. -/
theorem outbound_connection_scoped_sample :
    withRandom SampleExchange.crypto.toCrypto sampleHostIdentity =
      .ok SampleExchange.coordinator ∧
    ∀ e ∈ (machine SampleExchange.setting).trace
        (initial SampleExchange.coordinator SampleExchange.host.authorization)
        (SampleExchange.actions ++ [.takeOutbound, .signalingLost]),
      e.input = .takeOutbound → e.before.host.pairing.signalingConnected = true →
      e.output = .flushed e.before.host.pairing.outbound ∧
      e.before.origins.length = e.before.host.pairing.outbound.length ∧
      ∀ origin ∈ e.before.origins, origin = e.before.connection := by
  have hnew : withRandom SampleExchange.setting.crypto.toCrypto
      sampleHostIdentity = .ok SampleExchange.coordinator := by decide +kernel
  refine ⟨hnew, outbound_connection_scoped SampleExchange.setting hnew _ ?_⟩
  refine (machine _).guarded_append _ _ [PairingAction.takeOutbound, .signalingLost] |>.mpr
    ⟨(machine _).guarded_of_mem ?_ _, ?_, ?_, trivial⟩
  · intro a ha s hlost
    subst hlost
    simp [SampleExchange.actions, SampleExchange.start] at ha
  · exact fun h => by cases h
  · exact fun _ => rfl

/-- A rendezvous that is asked for right before the connection is lost is asked for on the
next connection, although its attempt has ended. -/
theorem outbound_outlives_connection :
    withRandom SampleExchange.crypto.toCrypto sampleHostIdentity =
      .ok SampleExchange.coordinator ∧
    ∃ e ∈ (machine SampleExchange.setting).trace
        (initial SampleExchange.coordinator SampleExchange.host.authorization)
        [.signalingConnected, SampleExchange.start, .signalingLost, .signalingConnected,
          .takeOutbound],
      e.input = .takeOutbound ∧ e.before.host.pairing.signalingConnected = true ∧
      e.output = .flushed [.create SampleExchange.rendezvousId.toList .qr ""] ∧
      e.before.host.pairing.active = none ∧
      e.before.connection = 2 ∧ e.before.origins = [1] := by
  refine ⟨by decide +kernel, ?_⟩
  refine ⟨_, List.mem_of_mem_drop (i := 4) (List.mem_singleton_self _), rfl, ?_⟩
  decide +kernel

end DeliveryHost

end Host

end Roammand
