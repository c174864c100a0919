import Roammand.Server.Lifecycle

/-!
# A rendezvous is between its two members

A pairing envelope reaches a device only as the relay of a request of the other member of an
unexpired rendezvous; a joined rendezvous keeps its controller until it leaves the store; and a
Host never joins its own rendezvous.

The envelopes under way are in the tasks of the goroutines.  The invariant says of every such
task which earlier request it relays.

Main results:

- Definition `Service.Relays`: a request that relays an envelope to a device.
- Definition `Service.Traced`: every task under way goes back to a request.
- Theorem `Service.rendezvous_isolation`: the isolation of rendezvous over every run.
-/

namespace Roammand

namespace Server

open Library Protocol List Option

/-- The device that a task sends to. -/
def Task.recipient : Task → Option DeviceID
  | .sendToDevice deviceID _ _ _ => some deviceID
  | .send _ deviceID _ _ => some deviceID
  | _ => none

namespace Service

/-- The request of a member of an unexpired rendezvous to relay an envelope to the other
member. -/
def Relays (o : Occurrence Service Input (List Delivery)) (envelope : Bytes × Bytes × Bytes)
    (recipient : DeviceID) : Prop :=
  ∃ n message now allowed requestID connection id r,
    o.input = .receive n message now allowed ∧
    decodeClientFrame message = .ok (requestID, .relayPairing envelope.1 envelope.2.2) ∧
    o.before.connections[n]? = some connection ∧ connection.registered = true ∧
    connection.deviceID.1 = envelope.2.1 ∧ id.1 = envelope.1 ∧
    o.before.rendezvous.byID.lookup id = some r ∧ now < r.expiresAt ∧
    ((connection.deviceID = r.host ∧ r.controller = some recipient) ∨
      (r.controller = some connection.deviceID ∧ recipient = r.host))

/-- The connection has registered the device. -/
def ConnectionOf (s : Service) (n : Nat) (d : DeviceID) : Prop :=
  ∃ connection, s.connections[n]? = some connection ∧ connection.registered = true ∧
    connection.deviceID = d

/-- A task relays only envelopes that were requested, and sends only to connections of its
recipient. -/
structure TaskTraced (past : List (Occurrence Service Input (List Delivery))) (s : Service)
    (task : Task) : Prop where
  relayed : ∀ envelope, task.routed = some envelope →
    ∃ d, task.recipient = some d ∧ ∃ o ∈ past, Relays o envelope d
  direct : ∀ n d, task.direct = some (n, d) → s.ConnectionOf n d

/-- Every task under way goes back to a request. -/
def Traced (past : List (Occurrence Service Input (List Delivery))) (s : Service) : Prop :=
  ∀ task ∈ s.allTasks, TaskTraced past s task

/-! ## Tasks under way -/

theorem Stepped.connectionOf {s s' : Service} {input : Input} {deliveries : List Delivery}
    (h : Stepped s input s' deliveries) {n : Nat} {d : DeviceID} (hn : s.ConnectionOf n d) :
    s'.ConnectionOf n d := by
  obtain ⟨connection, hn, hregistered, rfl⟩ := hn
  obtain ⟨x, hx, hregistered', hdevice⟩ :=
    h.lifecycle.keeps_device (lifecycle_connection hn) hregistered
  obtain ⟨connection', hn', rfl⟩ := map_eq_some_iff.mp hx
  exact ⟨connection', hn', hregistered', hdevice⟩

theorem TaskTraced.mono {past past' : List (Occurrence Service Input (List Delivery))}
    {s s' : Service} {task : Task} (h : TaskTraced past s task) (hpast : past ⊆ past')
    (hs : ∀ n d, s.ConnectionOf n d → s'.ConnectionOf n d) : TaskTraced past' s' task := by
  constructor
  · intro envelope hrouted
    obtain ⟨d, hd, o, ho, hrelays⟩ := h.relayed envelope hrouted
    exact ⟨d, hd, o, hpast ho, hrelays⟩
  · exact fun n d hdirect => hs n d (h.direct n d hdirect)

theorem TaskTraced.quiet {past : List (Occurrence Service Input (List Delivery))} {s : Service}
    {task : Task} (hrouted : task.routed = none) (hdirect : task.direct = none) :
    TaskTraced past s task := by
  constructor
  · intro envelope h
    rw [hrouted] at h
    cases h
  · intro n d h
    rw [hdirect] at h
    cases h

theorem TaskTraced.plain {past : List (Occurrence Service Input (List Delivery))} {s : Service}
    {task : Task} (h : task.Plain) : TaskTraced past s task := .quiet h.routed h.direct

theorem traced_notifyAll {past : List (Occurrence Service Input (List Delivery))} {s : Service}
    {completion : PairingRendezvousCompletion} {excluded : Option DeviceID} :
    ∀ (number : Nat) (removed : List Rendezvous),
      ∀ task ∈ notifyAll completion excluded number removed, TaskTraced past s task := by
  intro number removed
  induction removed generalizing number with
  | nil => exact fun task htask => absurd htask not_mem_nil
  | cons r rs ih =>
    intro task htask
    rw [notifyAll, mem_append] at htask
    rcases htask with htask | htask
    · unfold notifyRendezvousClosed at htask
      rcases mem_append.mp htask with htask | htask
      · split at htask
        · rw [mem_singleton.mp htask]
          exact .quiet rfl rfl
        · exact absurd htask not_mem_nil
      · split at htask
        · exact absurd htask not_mem_nil
        · split at htask
          · rw [mem_singleton.mp htask]
            exact .quiet rfl rfl
          · exact absurd htask not_mem_nil
    · exact ih (number + 1) task htask

/-! ## Steps -/

section steps

variable {s s' : Service} {past : List (Occurrence Service Input (List Delivery))}
  {o : Occurrence Service Input (List Delivery)}

/-- The tasks of a handler go back to the request that it handles. -/
theorem Handled.traced {n : Nat} {connection : ClientConnection} {message : Received}
    {now : Time} {allowed : Bool} {requestID : String} {payload : SignalingClientPayload}
    {tasks : List Task} {t : Service} (hbefore : o.before = s)
    (hinput : o.input = .receive n message now allowed)
    (hn : s.connections[n]? = some connection)
    (hdecoded : decodeClientFrame message = .ok (requestID, payload))
    (h : Handled s n connection payload now s' tasks) :
    ∀ task ∈ tasks, TaskTraced (past ++ [o]) t task := by
  intro task htask
  cases h with
  | quiet plain | touched _ plain | registered _ _ plain | joined _ _ _ _ plain =>
    exact .plain (plain task htask)
  | closed => exact absurd htask not_mem_nil
  | createRefused _ plain | created _ _ _ _ _ plain =>
    rcases mem_append.mp htask with htask | htask
    · exact traced_notifyAll _ _ task htask
    · exact .plain (plain task htask)
  | @relayed id r peer opaqueEnvelope requestID' hregistered hrequest hr hlive hmembers =>
    rw [mem_singleton.mp htask]
    subst hrequest
    refine ⟨?_, nofun⟩
    intro envelope henvelope
    obtain rfl := some.inj henvelope
    refine ⟨peer, rfl, o, mem_append_right _ (mem_singleton_self o), ?_⟩
    rw [← hbefore] at hn hr
    exact ⟨n, message, now, allowed, requestID, connection, id, r, hinput, hdecoded, hn,
      hregistered, rfl, rfl, hr, hlive, hmembers⟩
  | completed =>
    rcases mem_cons.mp htask with rfl | htask
    · exact .quiet rfl rfl
    · obtain ⟨controller, -, rfl⟩ := mem_map.mp htask
      exact .quiet rfl rfl

variable {self : Option (Nat × DeviceID)}

variable {sent : Bool} {task : Task} {tasks : List Task} {deliveries : List Delivery}

/-- The tasks that take the place of a task go back to the same request. -/
theorem Ran.traced (hs : s.lifecycle.Valid)
    (htask : TaskTraced past s task) (h : Ran s self sent task s' tasks deliveries) :
    ∀ task' ∈ tasks, TaskTraced past s task' := by
  intro task' htask'
  cases h with
  | unreached | sent => exact .plain (allPlain_afterSend _ _ task' htask')
  | @found deviceID frame after notice route hroute =>
    rw [mem_singleton.mp htask']
    refine ⟨htask.relayed, ?_⟩
    intro n d hdirect
    obtain ⟨rfl, rfl⟩ := Prod.mk.inj (some.inj hdirect)
    have howner : s.lifecycle.owner deviceID = some route.owner := by
      change (s.presence.lookup deviceID).map Route.owner = _
      rw [hroute, map_some]
    obtain ⟨x, hx, hholds, hd, -⟩ := hs.held deviceID _ howner
    obtain ⟨connection, hn, rfl⟩ := map_eq_some_iff.mp hx
    exact ⟨connection, hn, hholds.1, hd⟩
  | @removedUnreached requestID =>
    rw [mem_singleton.mp htask']
    refine .quiet ?_ rfl
    exact pairingEnvelope_publicError .deviceOffline requestID
  | keptUnreached => exact .plain (allPlain_publicError _ _ task' htask')
  | dropped | replied | closedExpired => exact absurd htask' not_mem_nil

theorem Ran.allTasks {self : Option (Nat × DeviceID)} {sent : Bool} {task : Task}
    {tasks : List Task} {deliveries : List Delivery}
    (h : Ran s self sent task s' tasks deliveries) {task' : Task} (htask : task' ∈ s'.allTasks) :
    task' ∈ s.allTasks := by
  cases h with
  | @replied n deviceID frame notice _ =>
    cases sent
    · rcases mem_allTasks_modify htask with ⟨connection, hn, htask⟩ | htask
      · exact mem_allTasks.mpr (.inl ⟨n, connection, hn, htask⟩)
      · exact htask
    · exact htask
  | @closedExpired cutoff =>
    rcases mem_allTasks.mp htask with ⟨n, connection, hn, htask⟩ | htask
    · change (s.connections.mapIdx _)[n]? = some connection at hn
      rw [getElem?_mapIdx] at hn
      obtain ⟨connection', hn', rfl⟩ := map_eq_some_iff.mp hn
      exact mem_allTasks.mpr (.inl ⟨n, connection', hn', htask⟩)
    · exact mem_allTasks.mpr (.inr htask)
  | _ => exact htask

theorem Handled.allTasks {n : Nat} {connection : ClientConnection}
    {payload : SignalingClientPayload} {now : Time} {tasks : List Task}
    (hn : s.connections[n]? = some connection)
    (h : Handled s n connection payload now s' tasks) {task : Task}
    (htask : task ∈ s'.allTasks) : task ∈ s.allTasks := by
  have hold : task ∈ connection.tasks → task ∈ s.allTasks := fun htask =>
    mem_allTasks.mpr (.inl ⟨n, connection, hn, htask⟩)
  cases h with
  | closed | registered =>
    rcases mem_allTasks_setConnection htask with htask | htask
    · exact hold htask
    · exact htask
  | _ => exact htask

/-- Every step leaves only tasks that go back to a request. -/
theorem Stepped.traced (hs : s.lifecycle.Valid) (ho : Stepped s o.input s' o.output)
    (hbefore : o.before = s) (h : Traced past s) : Traced (past ++ [o]) s' := by
  have hmono : ∀ {task}, TaskTraced past s task → TaskTraced (past ++ [o]) s' task :=
    fun htask => htask.mono (subset_append_left _ _) fun n d => ho.connectionOf
  have hold : ∀ {task}, task ∈ s.allTasks → TaskTraced (past ++ [o]) s' task :=
    fun htask => hmono (h _ htask)
  intro task htask
  generalize hinput : o.input = input at ho
  generalize o.output = output at ho
  cases ho with
  | idle => exact hold htask
  | connected =>
    refine hold (mem_allTasks.mpr ?_)
    rw [allTasks, flatMap_append, flatMap_singleton, append_nil] at htask
    exact mem_allTasks.mp htask
  | refused =>
    rcases mem_allTasks_setTasks htask with htask | htask
    · exact .plain (allPlain_publicError _ _ task htask)
    · exact hold htask
  | handled hn _ _ hdecoded hhandled =>
    rcases mem_allTasks_setTasks htask with htask | htask
    · exact hhandled.traced hbefore hinput hn hdecoded task htask
    · exact hold (hhandled.allTasks hn htask)
  | @ran n connection sent task' rest s₁ tasks deliveries hn _ hnext hran =>
    have hin : ∀ t ∈ connection.tasks, t ∈ s.allTasks := fun t ht =>
      mem_allTasks.mpr (.inl ⟨n, connection, hn, ht⟩)
    rw [hnext] at hin
    rcases mem_allTasks_setTasks htask with htask | htask
    · rcases mem_append.mp htask with htask | htask
      · exact hmono (hran.traced hs (h _ (hin task' mem_cons_self)) task htask)
      · exact hold (hin task (mem_cons_of_mem _ htask))
    · exact hold (hran.allTasks htask)
  | @released n connection _ hn | @ended n connection _ hn | @abandoned n connection _ hn =>
    rcases mem_allTasks_setConnection htask with htask | htask
    · exact hold (mem_allTasks.mpr (.inl ⟨n, connection, hn, htask⟩))
    · exact hold htask
  | stopped =>
    rcases mem_allTasks_setConnection htask with htask | htask
    · exact traced_notifyAll _ _ task htask
    · exact hold htask
  | swept =>
    rcases mem_allTasks.mp htask with hconnection | htask
    · exact hold (mem_allTasks.mpr (.inl hconnection))
    · rcases mem_append.mp htask with htask | htask
      · exact traced_notifyAll _ _ task htask
      · rw [mem_singleton.mp htask]
        exact .quiet rfl rfl
  | @sweeperRan sent task' rest s₁ tasks deliveries hnext hran =>
    have hin : ∀ t ∈ task' :: rest, t ∈ s.allTasks := fun t ht =>
      mem_allTasks.mpr (.inr (hnext ▸ ht))
    rcases mem_allTasks.mp htask with hconnection | htask
    · exact hold (hran.allTasks (mem_allTasks.mpr (.inl hconnection)))
    · rcases mem_append.mp htask with htask | htask
      · exact hmono (hran.traced hs (h _ (hin task' mem_cons_self)) task htask)
      · exact hold (hin task (mem_cons_of_mem _ htask))

/-- Every envelope that is delivered was requested by the other member. -/
theorem Ran.deliveries_traced (htask : TaskTraced past s task)
    (h : Ran s self sent task s' tasks deliveries) {delivery : Delivery}
    (hdelivery : delivery ∈ deliveries) {envelope : Bytes × Bytes × Bytes}
    (henvelope : pairingEnvelope delivery.frame = some envelope) :
    s.ConnectionOf delivery.connection delivery.deviceID ∧
      ∃ o ∈ past, Relays o envelope delivery.deviceID := by
  cases h with
  | sent =>
    rw [mem_singleton.mp hdelivery] at henvelope ⊢
    obtain ⟨d, hd, o, ho, hrelays⟩ := htask.relayed envelope henvelope
    obtain rfl := some.inj hd
    exact ⟨htask.direct _ _ rfl, o, ho, hrelays⟩
  | replied =>
    rw [mem_singleton.mp hdelivery] at henvelope
    obtain ⟨d, hd, -⟩ := htask.relayed envelope henvelope
    cases hd
  | _ => exact absurd hdelivery not_mem_nil

theorem Stepped.deliveries_traced {input : Input} {deliveries : List Delivery}
    (h : Stepped s input s' deliveries) (hs : Traced past s) {delivery : Delivery}
    (hdelivery : delivery ∈ deliveries) {envelope : Bytes × Bytes × Bytes}
    (henvelope : pairingEnvelope delivery.frame = some envelope) :
    s.ConnectionOf delivery.connection delivery.deviceID ∧
      ∃ o ∈ past, Relays o envelope delivery.deviceID := by
  cases h with
  | @ran n connection _ task rest _ _ _ hn _ hnext hran =>
    have hin : task ∈ s.allTasks := mem_allTasks.mpr
      (.inl ⟨n, connection, hn, by rw [hnext]; exact mem_cons_self⟩)
    exact hran.deliveries_traced (hs task hin) hdelivery henvelope
  | @sweeperRan _ task rest _ _ _ hnext hran =>
    have hin : task ∈ s.allTasks := mem_allTasks.mpr (.inr (by rw [hnext]; exact mem_cons_self))
    exact hran.deliveries_traced (hs task hin) hdelivery henvelope
  | _ => exact absurd hdelivery not_mem_nil

/-- What can happen to a joined rendezvous in a step: it stays as it is, it leaves the store, or
it has expired and a new one is created in its place. -/
def JoinedFate (input : Input) (s' : Service) (id : RendezvousID) (r : Rendezvous) : Prop :=
  s'.rendezvous.byID.lookup id = some r ∨ s'.rendezvous.byID.lookup id = none ∨
    ∃ n message now allowed r', input = .receive n message now allowed ∧ r.expiresAt ≤ now ∧
      s'.rendezvous.byID.lookup id = some r' ∧ r'.controller = none

theorem removes_fate {store store' : RendezvousStore} {removed : List Rendezvous}
    (h : RendezvousStore.Removes store removed store') {id : RendezvousID} {r : Rendezvous}
    (hr : store.byID.lookup id = some r) :
    store'.byID.lookup id = some r ∨ store'.byID.lookup id = none := by
  rw [h.after, hr]
  split
  · exact .inr rfl
  · exact .inl rfl

theorem Ran.fate (h : Ran s self sent task s' tasks deliveries) {id : RendezvousID} {r : Rendezvous}
    (hr : s.rendezvous.byID.lookup id = some r) :
    s'.rendezvous.byID.lookup id = some r ∨ s'.rendezvous.byID.lookup id = none := by
  cases h with
  | removedUnreached _ _ _ hremoves => exact removes_fate hremoves hr
  | replied => cases sent <;> exact .inl hr
  | _ => exact .inl hr

/-- A joined rendezvous keeps its controller until it leaves the store. -/
theorem Stepped.joined_fate {input : Input} {deliveries : List Delivery}
    (h : Stepped s input s' deliveries) {id : RendezvousID} {r : Rendezvous} {d : DeviceID}
    (hr : s.rendezvous.byID.lookup id = some r) (hd : r.controller = some d) :
    JoinedFate input s' id r := by
  have hfate : s'.rendezvous.byID.lookup id = some r ∨
      s'.rendezvous.byID.lookup id = none → JoinedFate input s' id r := fun h =>
    h.imp_right .inl
  cases h with
  | @handled n connection message now allowed requestID payload s₁ tasks _ _ _ _ hhandled =>
    cases hhandled with
    | createRefused hsweeps => exact hfate (removes_fate hsweeps.removes hr)
    | completed _ _ _ hremoves => exact hfate (removes_fate hremoves hr)
    | @created stored removed store _ _ hsweeps _ hcontroller hfree =>
      have hlookup : ∀ i, (store.add stored).byID.lookup i =
          if i = stored.id then some stored else store.byID.lookup i :=
        RendezvousStore.lookup_add store stored
      by_cases hid : id = stored.id
      · have hnone := Finmap.lookup_eq_none.mpr (RendezvousStore.refusal_eq_none hfree).1
        have hmem : id ∈ removed.map Rendezvous.id := by
          by_contra hnot
          have hafter := hsweeps.removes.after id
          rw [if_neg hnot, hr, hid, hnone] at hafter
          cases hafter
        obtain ⟨r', hr', hid'⟩ := mem_map.mp hmem
        have hstored := hsweeps.removes.stored r' hr'
        rw [hid', hr] at hstored
        obtain rfl := some.inj hstored
        exact .inr (.inr ⟨n, message, now, allowed, stored, rfl, hsweeps.expired r hr',
          (hlookup id).trans (if_pos hid), hcontroller⟩)
      · refine hfate ?_
        have hkept : (store.add stored).byID.lookup id = store.byID.lookup id :=
          (hlookup id).trans (if_neg hid)
        change (store.add stored).byID.lookup id = some r ∨
          (store.add stored).byID.lookup id = none
        rw [hkept]
        exact removes_fate hsweeps.removes hr
    | @joined r₀ _ _ hr₀ _ hopen =>
      refine .inl ?_
      have hid : id ≠ r₀.id := by
        rintro rfl
        rw [hr₀] at hr
        rw [← some.inj hr, hopen] at hd
        cases hd
      refine (RendezvousStore.lookup_joined s.rendezvous r₀ connection.deviceID id).trans ?_
      rw [if_neg hid]
      exact hr
    | _ => exact .inl hr
  | ran _ _ _ hran => exact hfate (hran.fate hr)
  | sweeperRan _ hran => exact hfate (hran.fate hr)
  | stopped _ _ _ _ _ hremoves => exact hfate (removes_fate hremoves hr)
  | swept _ hsweeps => exact hfate (removes_fate hsweeps.removes hr)
  | _ => exact .inl hr

end steps

/-! ## Runs -/

/-- Over every run a pairing envelope reaches a device only as the relay of a request of the
other member of an unexpired rendezvous, a joined rendezvous keeps its controller until it leaves
the store, and no Host is its own controller. -/
theorem rendezvous_isolation (text : CodeText) (options : Options) {maxPerHost maxTotal : Int}
    {s₀ : Service} (hnew : new maxPerHost maxTotal = some s₀) (inputs : List Input) :
    (∀ earlier o later, (machine text options).trace s₀ inputs = earlier ++ o :: later →
      ∀ delivery ∈ o.output, ∀ envelope, pairingEnvelope delivery.frame = some envelope →
        o.before.ConnectionOf delivery.connection delivery.deviceID ∧
        ∃ request ∈ earlier, Relays request envelope delivery.deviceID) ∧
    (∀ o ∈ (machine text options).trace s₀ inputs, ∀ id r d,
      o.before.rendezvous.byID.lookup id = some r → r.controller = some d →
        JoinedFate o.input o.after id r) ∧
    ∀ id r, ((machine text options).run s₀ inputs).rendezvous.byID.lookup id = some r →
      r.controller ≠ some r.host := by
  have hstep : ∀ s input, s.lifecycle.Valid → True →
      ((machine text options).step s input).1.lifecycle.Valid :=
    fun s input hs _ => step_valid text options hs input
  have hhistory : ∀ inputs, ((machine text options).run s₀ inputs).lifecycle.Valid ∧
      Traced ((machine text options).trace s₀ inputs) ((machine text options).run s₀ inputs) := by
    intro inputs
    refine Machine.history_invariant (M := machine text options) (G := fun _ _ => True)
      (fun past s => s.lifecycle.Valid ∧ Traced past s) ?_ [] ⟨new_valid hnew, ?_⟩
      (Machine.guarded_true s₀ inputs)
    · rintro past s input ⟨hs, htraced⟩ -
      have hstepped := step_stepped text options hs.indexed input
      exact ⟨step_valid text options hs input,
        Stepped.traced (o := (machine text options).occurrence s input) hs hstepped rfl htraced⟩
    · unfold new at hnew
      obtain ⟨store, -, rfl⟩ := map_eq_some_iff.mp hnew
      exact fun task htask => absurd htask not_mem_nil
  refine ⟨?_, ?_, ?_⟩
  · intro earlier o later htrace delivery hdelivery envelope henvelope
    obtain ⟨is₁, input, is₂, -, rfl, rfl, -⟩ := Machine.trace_split htrace
    obtain ⟨hs, htraced⟩ := hhistory is₁
    exact (step_stepped text options hs.indexed input).deliveries_traced htraced hdelivery henvelope
  · intro o ho id r d hr hd
    obtain ⟨hs, -, -, ho⟩ := Machine.trace_invariant (fun s : Service => s.lifecycle.Valid)
      hstep (new_valid hnew) (Machine.guarded_true s₀ inputs) ho
    have h : Stepped o.before o.input o.after o.output := by
      rw [ho]
      exact step_stepped text options hs.indexed o.input
    exact h.joined_fate hr hd
  · intro id r hr hcontroller
    exact ((hhistory inputs).1.controller id r r.host hr hcontroller).2 rfl

section samples

open RendezvousStore (sampleText sampleDevice)

/-- Device 2 has joined and asks for an envelope to be relayed, and device 1 has been looked
up. -/
def sampleRelay : List Input :=
  sampleOpening ++ sampleJoin ++
    [.receive 1 (sampleMessage (.relayPairing sampleRendezvousID.1 [1])) 4 true,
      .proceed 1 true]

theorem rendezvous_isolation_sample :
    new 2 3 = some sampleService ∧
      ∃ request ∈ (machine sampleText sampleOptions).trace sampleService sampleRelay,
        Relays request (sampleRendezvousID.1, (sampleDevice 2).1, [1]) (sampleDevice 1) := by
  have hnew : new 2 3 = some sampleService := rfl
  have h := (rendezvous_isolation sampleText sampleOptions hnew
    (sampleRelay ++ [.proceed 1 true])).1
  have hoption : ((((machine sampleText sampleOptions).step
      ((machine sampleText sampleOptions).run sampleService sampleRelay) (.proceed 1 true)).2.map
        fun delivery => (delivery.deviceID, pairingEnvelope delivery.frame))) =
      [(sampleDevice 1, some (sampleRendezvousID.1, (sampleDevice 2).1, [1]))] := by
    decide +kernel
  obtain ⟨delivery, hdelivery, heq⟩ := mem_map.mp (hoption ▸ mem_singleton_self _)
  obtain ⟨hdevice, henvelope⟩ := Prod.mk.inj heq
  have hrelay := (h _ _ [] (Machine.trace_snoc _ _ _) delivery hdelivery _ henvelope).2
  rw [hdevice] at hrelay
  exact ⟨hnew, hrelay⟩

end samples

end Service

end Server

end Roammand
