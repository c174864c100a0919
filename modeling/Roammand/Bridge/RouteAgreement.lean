import Roammand.Bridge.BrokerMediation

/-!
# Privileged bridge: leases and routes

The broker core keeps the lease of the Host and the observed route side by side.  A
command is authorised against the lease alone, so it agrees with the route only as
far as the two were brought together before: by beginning control of the lease's
generation after the last change of the route.

Main results:

- Definition `BrokerCore.machine`: the operations of the broker core, in any order.
- Theorem `enabled_iff_begunSince`: control is enabled exactly if it was begun since the
  last change of the route.
- Theorem `route_agreement`: exactly when authorised commands agree with the route, and
  exactly when a failed request for a lease leaves none behind.
-/

namespace Roammand

namespace Bridge

open Library Protocol Fallible HostBrokerSession

/-- The generation of an observation. -/
def RouteEvent.generation : RouteEvent → Nat
  | .sessionAvailable session => session.generation
  | .routeLost generation | .helperCrashed generation | .brokerRestarted generation
  | .hostDisconnected generation | .loggedOut generation => generation

namespace SessionStateMachine

/-- What an observation can do to the route: nothing, or a move to its newer generation
that takes control away. -/
structure Moved (m m' : SessionStateMachine) (event : RouteEvent) : Prop where
  newer : m.generation < event.generation
  generation : m'.generation = event.generation
  controlledLease : m'.controlledLease = false
  inputEnabled : m'.inputEnabled = false

variable (m : SessionStateMachine)

theorem applyAvailable_cases (next : RouteSession) :
    (m.applyAvailable next).1 = m ∧ ((m.applyAvailable next).2.isOk →
        m.generation = next.generation) ∨
      (m.applyAvailable next).2.isOk = true ∧
        Moved m (m.applyAvailable next).1 (.sessionAvailable next) := by
  unfold applyAvailable
  by_cases hsession : next.osSessionId = 0
  · rw [if_pos hsession]
    exact .inl ⟨rfl, nofun⟩
  rw [if_neg hsession]
  by_cases hstale : next.generation < m.generation
  · rw [if_pos hstale]
    exact .inl ⟨rfl, nofun⟩
  rw [if_neg hstale]
  by_cases hsame : next.generation = m.generation
  · rw [if_pos hsame]
    split
    · exact .inl ⟨rfl, fun _ => hsame.symm⟩
    · exact .inl ⟨rfl, nofun⟩
  rw [if_neg hsame]
  split
  · exact .inl ⟨rfl, nofun⟩
  split
  · exact .inl ⟨rfl, nofun⟩
  refine .inr ⟨rfl, ?_, rfl, rfl, rfl⟩
  change m.generation < next.generation
  omega

variable (event : RouteEvent)

theorem applyUnavailable_cases (hloss : m.apply event = m.applyUnavailable event.generation) :
    (m.apply event).1 = m ∧ ((m.apply event).2.isOk → m.generation = event.generation) ∨
      (m.apply event).2.isOk = true ∧ Moved m (m.apply event).1 event := by
  rw [hloss]
  unfold applyUnavailable
  by_cases hstale : event.generation < m.generation
  · rw [if_pos hstale]
    exact .inl ⟨rfl, nofun⟩
  rw [if_neg hstale]
  by_cases hsame : event.generation = m.generation
  · rw [if_pos hsame]
    split
    · exact .inl ⟨rfl, fun _ => hsame.symm⟩
    · exact .inl ⟨rfl, nofun⟩
  rw [if_neg hsame]
  split
  · exact .inl ⟨rfl, nofun⟩
  exact .inr ⟨rfl, by omega, rfl, rfl, rfl⟩

/-- An observation is refused, repeats what is known, or moves the route. -/
theorem apply_cases :
    (m.apply event).1 = m ∧ ((m.apply event).2.isOk → m.generation = event.generation) ∨
      (m.apply event).2.isOk = true ∧ Moved m (m.apply event).1 event := by
  cases event with
  | sessionAvailable next => exact applyAvailable_cases m next
  | routeLost _ | helperCrashed _ | brokerRestarted _ | hostDisconnected _ | loggedOut _ =>
    exact applyUnavailable_cases m _ rfl

end SessionStateMachine

/-! ## The core as a machine -/

/-- An operation of the broker core. -/
inductive CoreOp where
  | observeRoute (event : RouteEvent)
  | connectHost (generation : Nat)
  | disconnectHost
  | acquire (request : AcquireLease) (nowMs : Nat) (nextLeaseId : Except LeaseError Bytes16)
  | beginControl (generation : Nat)
  | renew (id : Bytes16) (generation nowMs : Nat)
  | authorizeCommand (id : Bytes16) (generation sequence nowMs : Nat)
  | release (id : Bytes16) (generation : Nat)

/-- What an operation answers. -/
inductive CoreReply where
  | observed (result : Except SessionError (List SessionAction))
  | connected (result : Except LeaseError Unit)
  | disconnected (frozen : Bool)
  | acquired (result : Except LeaseError Lease)
  | begun (result : Except SessionError Unit)
  | renewed (result : Except LeaseError Lease)
  | authorized (result : Except LeaseError Unit)
  | released (result : Except LeaseError Bool)

namespace BrokerCore

/-- The broker core as a machine. -/
def machine : Machine BrokerCore CoreOp CoreReply where
  step b
    | .observeRoute event =>
      let r := b.observeRoute event
      (r.1, .observed r.2)
    | .connectHost generation =>
      let r := b.connectHost generation
      (r.1, .connected r.2)
    | .disconnectHost =>
      let r := b.disconnectHost
      (r.1, .disconnected r.2)
    | .acquire request nowMs nextLeaseId =>
      let r := b.acquire request nowMs nextLeaseId
      (r.1, .acquired r.2)
    | .beginControl generation =>
      let r := b.beginControl generation
      (r.1, .begun r.2)
    | .renew id generation nowMs =>
      let r := b.renew id generation nowMs
      (r.1, .renewed r.2)
    | .authorizeCommand id generation sequence nowMs =>
      let r := b.authorizeCommand id generation sequence nowMs
      (r.1, .authorized r.2)
    | .release id generation =>
      let r := b.release id generation
      (r.1, .released r.2)

end BrokerCore

/-- One step of the broker core. -/
abbrev CoreEvent := Occurrence BrokerCore CoreOp CoreReply

namespace CoreEvent

/-- A command of the given generation has been authorised. -/
def Authorises (generation : Nat) (e : CoreEvent) : Prop :=
  ∃ id sequence now, e.input = .authorizeCommand id generation sequence now ∧
    e.output = .authorized (.ok ())

/-- Control of the given generation has begun. -/
def Begins (generation : Nat) (e : CoreEvent) : Prop :=
  e.input = .beginControl generation ∧ e.output = .begun (.ok ())

/-- An observation of a generation not known before has been applied. -/
def Moves (e : CoreEvent) : Prop :=
  ∃ event actions, e.input = .observeRoute event ∧ e.output = .observed (.ok actions) ∧
    e.before.routes.generation ≠ event.generation

/-- The route is the one of the given generation, it is there, and it is controlled. -/
def Agrees (generation : Nat) (e : CoreEvent) : Prop :=
  e.after.routes.generation = generation ∧ e.after.routes.current.isSome = true ∧
    e.after.routes.controlledLease = true ∧ e.after.routes.inputEnabled = true

end CoreEvent

namespace BrokerCore

/-- Control of the generation has begun after the last move of the route. -/
def BegunSince (generation : Nat) (past : List CoreEvent) : Prop :=
  ∃ earlier a later, past = earlier ++ a :: later ∧ CoreEvent.Begins generation a ∧
    ∀ x ∈ later, ¬ CoreEvent.Moves x

/-- What one operation can do to the route. -/
inductive RouteEffect (b : BrokerCore) (e : CoreEvent) (b' : BrokerCore) : Prop
  | still (hroutes : b'.routes = b.routes) (hmoves : ¬ CoreEvent.Moves e)
      (hbegins : ∀ generation, ¬ CoreEvent.Begins generation e)
  | moves (hmoves : CoreEvent.Moves e) (hnewer : b.routes.generation < b'.routes.generation)
      (hcontrolled : b'.routes.controlledLease = false)
      (henabled : b'.routes.inputEnabled = false)
  | begins {generation : Nat} (hbegins : CoreEvent.Begins generation e)
      (hmoves : ¬ CoreEvent.Moves e) (hserves : b.routes.Serves generation)
      (hroutes : b'.routes = { b.routes with controlledLease := true, inputEnabled := true })

theorem step_routeEffect (b : BrokerCore) (op : CoreOp) :
    RouteEffect b (machine.occurrence b op) (machine.step b op).1 := by
  cases op with
  | observeRoute event =>
    rcases b.routes.apply_cases event with ⟨hsame, hknown⟩ | ⟨hok, hmoved⟩
    · refine .still hsame ?_ nofun
      rintro ⟨event', actions, ⟨⟩, houtput, hnew⟩
      have hresult : (b.routes.apply event).2 = .ok actions := CoreReply.observed.inj houtput
      exact hnew (hknown (by rw [hresult]; rfl))
    · refine .moves ?_ (hmoved.newer.trans_eq hmoved.generation.symm) hmoved.controlledLease
        hmoved.inputEnabled
      cases hresult : (b.routes.apply event).2 with
      | error e => rw [hresult] at hok; cases hok
      | ok actions =>
        exact ⟨event, actions, rfl, congrArg CoreReply.observed hresult, Nat.ne_of_lt hmoved.newer⟩
  | beginControl generation =>
    have hresult := b.routes.beginControl_eq generation
    by_cases hserves : b.routes.Serves generation
    · rw [if_pos hserves] at hresult
      have hoccurrence : (machine.step b (.beginControl generation)) =
          ({ b with routes := { b.routes with controlledLease := true, inputEnabled := true } },
            .begun (.ok ())) := by
        change ({ b with routes := (b.routes.beginControl generation).1 },
          CoreReply.begun (b.routes.beginControl generation).2) = _
        rw [hresult]
      have hbegins : CoreEvent.Begins generation
          (machine.occurrence b (.beginControl generation)) := by
        refine ⟨rfl, ?_⟩
        rw [Machine.occurrence_output, hoccurrence]
      refine .begins hbegins nofun hserves ?_
      rw [hoccurrence]
    · rw [if_neg hserves] at hresult
      refine .still (congrArg Prod.fst hresult) nofun ?_
      rintro generation' ⟨-, houtput⟩
      have hok := CoreReply.begun.inj houtput
      change (b.routes.beginControl generation).2 = _ at hok
      rw [hresult] at hok
      cases hok
  | connectHost _ | disconnectHost | acquire _ _ _ | renew _ _ _ | authorizeCommand _ _ _ _
  | release _ _ => exact .still rfl nofun nofun

/-! ## Control along a run -/

/-- Control is enabled on the route whose control has begun since it last moved, and on
no other. -/
structure Enabled (past : List CoreEvent) (b : BrokerCore) : Prop where
  begun : ∀ generation, BegunSince generation past → b.routes.Serves generation ∧
    b.routes.controlledLease = true ∧ b.routes.inputEnabled = true
  since : b.routes.inputEnabled = true → ∃ generation, BegunSince generation past

/-- A step that is no move carries what has begun along. -/
theorem BegunSince.snoc {generation : Nat} {past : List CoreEvent} {e : CoreEvent}
    (h : BegunSince generation past) (hmoves : ¬ CoreEvent.Moves e) :
    BegunSince generation (past ++ [e]) := by
  obtain ⟨earlier, a, later, rfl, hbegins, hlater⟩ := h
  refine ⟨earlier, a, later ++ [e], by simp, hbegins, fun x hx => ?_⟩
  rcases List.mem_append.mp hx with hx | hx
  · exact hlater x hx
  · rw [List.mem_singleton.mp hx]
    exact hmoves

/-- What has begun by now has begun before, or just now. -/
theorem BegunSince.of_snoc {generation : Nat} {past : List CoreEvent} {e : CoreEvent}
    (h : BegunSince generation (past ++ [e])) :
    CoreEvent.Begins generation e ∨ (BegunSince generation past ∧ ¬ CoreEvent.Moves e) := by
  obtain ⟨earlier, a, later, hsplit, hbegins, hlater⟩ := h
  rcases List.eq_nil_or_concat' later with rfl | ⟨later, last, rfl⟩
  · obtain ⟨rfl, hsame⟩ := List.append_inj' hsplit rfl
    cases hsame
    exact .inl hbegins
  · rw [← List.cons_append, ← List.append_assoc] at hsplit
    obtain ⟨rfl, hsame⟩ := List.append_inj' hsplit rfl
    cases hsame
    exact .inr ⟨⟨earlier, a, later, rfl, hbegins, fun x hx =>
      hlater x (List.mem_append_left _ hx)⟩, hlater _ (by simp)⟩

theorem Enabled.snoc {past : List CoreEvent} {b : BrokerCore} (h : Enabled past b) (op : CoreOp) :
    Enabled (past ++ [machine.occurrence b op]) (machine.step b op).1 := by
  have heffect := step_routeEffect b op
  generalize machine.occurrence b op = e at heffect
  generalize (machine.step b op).1 = b' at heffect
  cases heffect with
  | still hroutes hmoves hbegins =>
    constructor
    · intro generation hsince
      rw [hroutes]
      rcases hsince.of_snoc with hnow | ⟨hbefore, -⟩
      · exact absurd hnow (hbegins generation)
      · exact h.begun generation hbefore
    · intro henabled
      rw [hroutes] at henabled
      obtain ⟨generation, hsince⟩ := h.since henabled
      exact ⟨generation, hsince.snoc hmoves⟩
  | moves hmoves hnewer hcontrolled henabled =>
    constructor
    · intro generation hsince
      rcases hsince.of_snoc with ⟨hinput, -⟩ | ⟨-, hstill⟩
      · obtain ⟨event, actions, hobserve, -⟩ := hmoves
        cases hinput.symm.trans hobserve
      · exact absurd hmoves hstill
    · intro henabled'
      rw [henabled] at henabled'
      cases henabled'
  | begins hbegins hmoves hserves hroutes =>
    constructor
    · intro generation' hsince
      rw [hroutes]
      refine ⟨?_, rfl, rfl⟩
      rcases hsince.of_snoc with hnow | ⟨hbefore, -⟩
      · cases hnow.1.symm.trans hbegins.1
        exact hserves
      · exact (h.begun generation' hbefore).1
    · intro _
      exact ⟨_, past, e, [], rfl, hbegins, by simp⟩

variable (instanceId : Bytes16) (ops : List CoreOp)

theorem run_enabled :
    Enabled (machine.trace (.new instanceId) ops) (machine.run (.new instanceId) ops) := by
  refine Machine.history_invariant (M := machine) (G := fun _ _ => True) Enabled ?_ [] ?_
    (Machine.guarded_true _ ops)
  · intro past b op h _
    exact h.snoc op
  · refine ⟨?_, nofun⟩
    rintro generation ⟨earlier, a, later, hsplit, -⟩
    cases earlier with
    | nil => cases hsplit
    | cons _ _ => cases hsplit

/-- Control of a generation is enabled exactly if it has begun since the route last
moved. -/
theorem enabled_iff_begunSince (generation : Nat) :
    ((machine.run (.new instanceId) ops).routes.generation = generation ∧
      (machine.run (.new instanceId) ops).routes.current.isSome = true ∧
      (machine.run (.new instanceId) ops).routes.controlledLease = true ∧
      (machine.run (.new instanceId) ops).routes.inputEnabled = true) ↔
    BegunSince generation (machine.trace (.new instanceId) ops) := by
  have hrun := run_enabled instanceId ops
  constructor
  · rintro ⟨rfl, -, -, henabled⟩
    obtain ⟨generation', hsince⟩ := hrun.since henabled
    rw [(hrun.begun generation' hsince).1.1]
    exact hsince
  · intro hsince
    obtain ⟨⟨hgeneration, hcurrent⟩, hcontrolled, henabled⟩ := hrun.begun generation hsince
    refine ⟨hgeneration, ?_, hcontrolled, henabled⟩
    cases hsome : (machine.run (.new instanceId) ops).routes.current with
    | none => rw [hsome] at hcurrent; cases hcurrent
    | some _ => rfl

/-! ## Observations are not forgotten -/

/-- The route is at least of the given generation, and newer if that one was lost. -/
def Past (generation : Nat) (lost : Prop) (b : BrokerCore) : Prop :=
  generation < b.routes.generation ∨
    generation = b.routes.generation ∧ (lost → b.routes.current = none)

theorem Past.step {generation : Nat} {lost : Prop} {b : BrokerCore} (h : Past generation lost b)
    (op : CoreOp) : Past generation lost (machine.step b op).1 := by
  have heffect := step_routeEffect b op
  generalize (machine.step b op).1 = b' at heffect
  cases heffect with
  | still hroutes =>
    unfold Past
    rw [hroutes]
    exact h
  | moves _ hnewer =>
    left
    rcases h with hlt | ⟨heq, -⟩ <;> omega
  | begins _ _ _ hroutes =>
    unfold Past
    rw [hroutes]
    exact h

theorem run_past {generation : Nat} {lost : Prop} {b : BrokerCore} (h : Past generation lost b)
    (ops : List CoreOp) : Past generation lost (machine.run b ops) :=
  Machine.run_invariant (M := machine) (G := fun _ _ => True) (Past generation lost)
    (fun _ op h _ => h.step op) h (Machine.guarded_true b ops)

/-- Every authorised command of the run was preceded by the begin of control of its
generation, with no move of the route in between. -/
def Brought : Prop :=
  ∀ past e later generation, machine.trace (.new instanceId) ops = past ++ e :: later →
    CoreEvent.Authorises generation e → BegunSince generation past

/-- Every authorised command of the run agrees with the route. -/
def Agrees (instanceId : Bytes16) (ops : List CoreOp) : Prop :=
  ∀ e ∈ machine.trace (.new instanceId) ops, ∀ generation,
    CoreEvent.Authorises generation e → CoreEvent.Agrees generation e

/-- After a move of the route only commands of its generation or a newer one are
authorised, and after a loss only newer ones. -/
def Refuses : Prop :=
  ∀ past x between e later generation,
    machine.trace (.new instanceId) ops = past ++ x :: (between ++ e :: later) →
    CoreEvent.Moves x → CoreEvent.Authorises generation e →
    x.after.routes.generation ≤ generation ∧
      (x.after.routes.current = none → x.after.routes.generation < generation)

theorem brought_iff_agrees :
    Brought instanceId ops ↔ Agrees instanceId ops := by
  have hstill : ∀ is op generation, CoreEvent.Authorises generation
      (machine.occurrence (machine.run (.new instanceId) is) op) →
      (CoreEvent.Agrees generation (machine.occurrence (machine.run (.new instanceId) is) op) ↔
        BegunSince generation (machine.trace (.new instanceId) is)) := by
    rintro is op generation ⟨id, sequence, now, rfl, -⟩
    exact enabled_iff_begunSince instanceId is generation
  constructor
  · intro hbrought e he generation hauthorises
    obtain ⟨past, later, hsplit⟩ := List.append_of_mem he
    have hsince := hbrought past e later generation hsplit hauthorises
    obtain ⟨is, op, rest, rfl, rfl, rfl, -⟩ := Machine.trace_split hsplit
    exact (hstill is op generation hauthorises).mpr hsince
  · intro hagrees past e later generation hsplit hauthorises
    have hagree := hagrees e (by rw [hsplit]; simp) generation hauthorises
    obtain ⟨is, op, rest, rfl, rfl, rfl, -⟩ := Machine.trace_split hsplit
    exact (hstill is op generation hauthorises).mp hagree

theorem Agrees.refuses {instanceId : Bytes16} {ops : List CoreOp} (h : Agrees instanceId ops) :
    Refuses instanceId ops := by
  intro past x between e later generation hsplit hmoves hauthorises
  obtain ⟨hgeneration, hcurrent, -, -⟩ := h e (by rw [hsplit]; simp) generation hauthorises
  obtain ⟨is, op, rest, rfl, rfl, rfl, hrest⟩ := Machine.trace_split hsplit
  obtain ⟨js, op', rest', rfl, rfl, rfl, -⟩ := Machine.trace_split hrest.symm
  set b := (machine.step (machine.run (.new instanceId) is) op).1
  have hstart : Past b.routes.generation (b.routes.current = none) b := .inr ⟨rfl, id⟩
  have hpast := run_past hstart (js ++ [op'])
  rw [Machine.run_snoc] at hpast
  change (machine.step (machine.run b js) op').1.routes.generation = _ at hgeneration
  change (machine.step (machine.run b js) op').1.routes.current.isSome = true at hcurrent
  change b.routes.generation ≤ generation ∧ (b.routes.current = none → b.routes.generation < _)
  unfold Past at hpast
  rw [hgeneration] at hpast
  rcases hpast with hlt | ⟨heq, hlost⟩
  · exact ⟨hlt.le, fun _ => hlt⟩
  · refine ⟨heq.le, fun hnone => ?_⟩
    rw [hlost hnone] at hcurrent
    cases hcurrent

end BrokerCore

namespace HostBrokerSession

/-- The lease manager would grant the lease. -/
def Grantable (s : HostBrokerSession) (value : AcquirePrivilegedLeaseRequest) (now : Nat)
    (ids : Except LeaseError Bytes16) : Prop :=
  ∃ sessionId, bytes16? value.sessionId = some sessionId ∧
    (s.broker.leases.acquire
      { sessionId
        generation := value.generation
        controllerDisplayName := value.controllerDisplayName
        mayControlInput := value.permissions.contains SessionPermission.controlInput.toInt32 }
      now ids).2.isOk = true

theorem callAcquire_isOk (asked : AcquireLease) (now : Nat) (ids : Except LeaseError Bytes16)
    (s : HostBrokerSession) :
    wp (callBroker (·.acquire asked now ids))
      (fun r _ => r.isOk = (s.broker.leases.acquire asked now ids).2.isOk) s := by
  unfold wp
  rcases callBroker_cases (·.acquire asked now ids) s with ⟨e, hresult, hcall⟩ | ⟨a, hresult, hcall⟩
  · rw [hcall, show (s.broker.leases.acquire asked now ids).2 = _ from hresult]
    rfl
  · rw [hcall, show (s.broker.leases.acquire asked now ids).2 = _ from hresult]
    rfl

/-- A request for a lease that fails leaves no lease behind exactly if the route of the
asked generation is there whenever the lease would be granted. -/
theorem acquire_leaves_none_iff {s : HostBrokerSession} {request : PrivilegedBridgeClientFrame}
    {value : AcquirePrivilegedLeaseRequest} (now : Nat) (ids : Except LeaseError Bytes16)
    (hfree : s.active = none) :
    ((acquire request value now ids s).1.isOk = false →
      (acquire request value now ids s).2.active = none) ↔
    (Grantable s value now ids → s.broker.routes.Serves value.generation) := by
  have hspec : wp (acquire request value now ids) (fun r s' =>
      (¬ Grantable s value now ids ∧ s'.active = none) ∨
      (Grantable s value now ids ∧ s.broker.routes.Serves value.generation ∧ r.isOk = true) ∨
      (Grantable s value now ids ∧ ¬ s.broker.routes.Serves value.generation ∧
        r.isOk = false ∧ s'.active ≠ none)) s := by
    unfold acquire
    simp only [wp_bind, wp_orThrow]
    refine ⟨fun sessionId hsession => ?_, fun hsession => .inl ⟨?_, hfree⟩⟩
    · rw [andThen_ok, wp_bind]
      set asked : AcquireLease :=
        { sessionId
          generation := value.generation
          controllerDisplayName := value.controllerDisplayName
          mayControlInput := value.permissions.contains SessionPermission.controlInput.toInt32 }
        with hasked
      have hgrantable : Grantable s value now ids ↔
          (s.broker.leases.acquire asked now ids).2.isOk = true := by
        refine ⟨?_, fun hok => ⟨sessionId, hsession, hok⟩⟩
        rintro ⟨sessionId', hsession', hok⟩
        cases hsession.symm.trans hsession'
        exact hok
      rw [hgrantable]
      refine wp_mono (wp_and (callAcquire_spec asked now ids s) (callAcquire_isOk asked now ids s))
        ?_
      rintro (error | lease) s₁ ⟨⟨herror, hrefused⟩ | ⟨granted, hlease, hgranted⟩, hok⟩
      · rw [andThen_error, ← hok]
        refine .inl ⟨Bool.false_ne_true, ?_⟩
        cases hactive : s₁.active with
        | none => rfl
        | some lease' =>
          obtain ⟨lease, hlease, -⟩ := hrefused.lapses.lease lease' hactive
          rw [show s.broker.leases.active = none from hfree] at hlease
          cases hlease
      · cases hlease
      · cases herror
      cases hlease
      have hgeneration : lease.generation = value.generation := hgranted.generation
      rw [andThen_ok, wp_bind, ← hgranted.routes, ← hgeneration]
      change andThen _ _ ((s₁.broker.routes.beginControl lease.generation).2.mapError _)
        { s₁ with broker := { s₁.broker with
          routes := (s₁.broker.routes.beginControl lease.generation).1 } }
      rw [SessionStateMachine.beginControl_eq]
      by_cases hserves : s₁.broker.routes.Serves lease.generation
      · rw [if_pos hserves]
        exact .inr (.inl ⟨hok.symm, hserves, rfl⟩)
      · rw [if_neg hserves]
        refine .inr (.inr ⟨hok.symm, hserves, rfl, fun hnone => ?_⟩)
        cases hgranted.active.symm.trans hnone
    · rintro ⟨sessionId, hsome, -⟩
      rw [hsession] at hsome
      cases hsome
  unfold wp at hspec
  rcases hspec with ⟨hrefused, hnone⟩ | ⟨hgranted, hserves, hok⟩ | ⟨hgranted, hroute, hfail, hsome⟩
  · exact ⟨fun _ h => absurd h hrefused, fun _ _ => hnone⟩
  · refine ⟨fun _ _ => hserves, fun _ hfail => ?_⟩
    rw [hok] at hfail
    cases hfail
  · exact ⟨fun h => absurd (h hfail) hsome, fun h => absurd (h hgranted) hroute⟩

end HostBrokerSession

namespace BrokerCore

/-- In every run of the core, authorised commands agree with the route exactly if control
of their generation has begun since the route last moved, and then nothing of an older
generation is authorised after a move or a loss; and a failed request for a lease leaves
none behind exactly if the route is there whenever the lease would be granted. -/
theorem route_agreement (instanceId : Bytes16) (ops : List CoreOp) :
    ((Agrees instanceId ops ↔ Brought instanceId ops) ∧
      (Brought instanceId ops → Refuses instanceId ops)) ∧
    ∀ (s : HostBrokerSession) (request : PrivilegedBridgeClientFrame)
      (value : AcquirePrivilegedLeaseRequest) (now : Nat) (ids : Except LeaseError Bytes16),
      request.payload = some (.acquireLease value) → s.active = none →
      (((handle request now ids s).1.isOk = false →
          (handle request now ids s).2.active = none) ↔
        (s.Grantable value now ids → s.broker.routes.Serves value.generation)) := by
  refine ⟨⟨(brought_iff_agrees instanceId ops).symm, fun h => ?_⟩, ?_⟩
  · exact ((brought_iff_agrees instanceId ops).mp h).refuses
  · intro s request value now ids hpayload hfree
    have hhandle : handle request now ids =
        HostBrokerSession.acquire request value now ids := by
      unfold handle
      rw [hpayload]
    rw [hhandle]
    exact acquire_leaves_none_iff now ids hfree

/-- A lease is acquired and its route controlled. -/
def sampleControl : List CoreOp :=
  [.observeRoute (.sessionAvailable
      { platform := .windows, osSessionId := 1, desktop := .normal, generation := 3 }),
    .connectHost 3,
    .acquire { sessionId := Vector.replicate 16 9, generation := 3
               controllerDisplayName := "phone", mayControlInput := true } 1000
      (.ok (Vector.replicate 16 7)),
    .beginControl 3]

/-- The first command of the sample lease. -/
def sampleCommand : CoreOp := .authorizeCommand (Vector.replicate 16 7) 3 1 1500

/-- The sample lease is asked for. -/
def sampleHandle : Except BrokerProtocolError PrivilegedBridgeServerFrame × HostBrokerSession :=
  handle
    (sampleRequest 1 (.acquireLease sampleLeaseRequest)) 1000
    (.ok sampleLeaseId)
    (.new sampleBroker sampleHelper)

theorem route_agreement_sample :
    Brought zeroBytes16 (sampleControl ++ [sampleCommand]) ∧
    Refuses zeroBytes16 (sampleControl ++ [sampleCommand]) ∧
    (∃ e ∈ machine.trace (.new zeroBytes16) (sampleControl ++ [sampleCommand]),
      CoreEvent.Authorises 3 e) ∧
    (sampleHandle.1.isOk = false → sampleHandle.2.active = none) := by
  have hagrees : Agrees zeroBytes16 (sampleControl ++ [sampleCommand]) := by
    refine List.forall_mem_cons.mpr ⟨?_, List.forall_mem_cons.mpr ⟨?_,
      List.forall_mem_cons.mpr ⟨?_, List.forall_mem_cons.mpr ⟨?_,
      List.forall_mem_cons.mpr ⟨?_, List.forall_mem_nil _⟩⟩⟩⟩⟩
    case refine_5 =>
      rintro generation ⟨id, sequence, now, hinput, -⟩
      cases hinput
      exact ⟨rfl, rfl, rfl, rfl⟩
    all_goals
      rintro generation ⟨id, sequence, now, hinput, -⟩
      cases hinput
  have hagreement := route_agreement zeroBytes16 (sampleControl ++ [sampleCommand])
  have hbrought := hagreement.1.1.mp hagrees
  refine ⟨hbrought, hagreement.1.2 hbrought, ?_, ?_⟩
  · refine ⟨(machine.trace (.new zeroBytes16) (sampleControl ++ [sampleCommand]))[4], by simp, ?_⟩
    exact ⟨Vector.replicate 16 7, 1, 1500, rfl, rfl⟩
  · exact (hagreement.2 _ _ sampleLeaseRequest 1000 _ rfl rfl).mpr fun _ => by
      decide

/-- A command is still authorised after the route has been lost. -/
theorem command_after_route_loss :
    ¬ Agrees zeroBytes16 (sampleControl ++ [.observeRoute (.routeLost 4), sampleCommand]) := by
  intro h
  obtain ⟨hgeneration, -⟩ := h (machine.trace (.new zeroBytes16)
    (sampleControl ++ [.observeRoute (.routeLost 4), sampleCommand]))[5] (by simp) 3
    ⟨Vector.replicate 16 7, 1, 1500, rfl, rfl⟩
  cases hgeneration

end BrokerCore

end Bridge

end Roammand
