import Roammand.Server.Lifecycle

/-!
# Notices of closed rendezvous

When a rendezvous leaves the store, the members that are registered at that moment are owed a
notice, except the device whose disconnect is the cause.  The service attempts every notice that
is owed exactly once, with one exception: when the Host cannot be told of a join, the handler of
the join removes the rendezvous and answers the joining device only.

A notice that is owed is either still in the tasks of a goroutine or has been attempted.  The
invariant counts both, and a weight on the tasks shows that a goroutine that keeps running
attempts what it has pending.

Main results:

- Definition `Service.hostUnreached`: a step that removes a rendezvous without a notice to its
  Host.
- Definition `Service.Accounted`: every notice that is owed is pending or attempted, once.
- Theorem `Service.attempted_of_steps`: a goroutine that keeps running attempts its notices.
- Theorem `Service.closure_notices`: in a run without such steps every notice is attempted
  exactly once.
- Theorem `Service.host_not_told`: a run with such a step.
-/

namespace Roammand

namespace Server

open Library Protocol List Option

/-! ## Goroutines -/

/-- A goroutine of the service: the device whose connection it serves, if it serves one, and what
it has left to do. -/
structure Goroutine where
  self : Option DeviceID
  phase : Phase
  tasks : List Task

/-- The notices that a goroutine has still to attempt. -/
def Goroutine.notices (g : Goroutine) : List (Nat × DeviceID) := g.tasks.flatMap Task.notices

/-- The number of sections that a task can still take. -/
def Task.weight : Task → Nat
  | .sendToDevice .. => 4
  | .send .. => 3
  | .completeUnreached .. => 2
  | .reply .. => 1
  | .closeExpired _ => 1

/-- The number of sections that a goroutine can still take. -/
def Goroutine.weight (g : Goroutine) : Nat :=
  (g.tasks.map Task.weight).sum + if g.phase = .closing then 1 else 0

/-- The goroutine that serves a connection. -/
def ClientConnection.goroutine (connection : ClientConnection) : Goroutine :=
  { self := some connection.deviceID, phase := connection.phase, tasks := connection.tasks }

namespace Service

/-- The goroutines of the service: the sweeper and those of the connections. -/
def goroutines (s : Service) : List Goroutine :=
  { self := none, phase := .serving, tasks := s.sweeper } ::
    s.connections.map ClientConnection.goroutine

/-- The goroutine that an input lets run. -/
def Input.goroutine : Input → Option Nat
  | .proceed n _ => some (n + 1)
  | .proceedSweeper _ => some 0
  | _ => none

/-- The notices that are still to be attempted. -/
def pending (s : Service) : List (Nat × DeviceID) := s.goroutines.flatMap Goroutine.notices

/-- The handler of a join could not reach the Host, and finds the rendezvous in the store. -/
def hostUnreached (s : Service) : Input → Bool
  | .proceed n _ =>
    match s.connections[n]?.map ClientConnection.tasks with
    | some (.completeUnreached _ rendezvous now :: _) =>
      match s.rendezvous.byID.lookup rendezvous.id with
      | some r => decide (r.host = rendezvous.host ∧ now < r.expiresAt)
      | none => false
    | _ => false
  | _ => false

/-- The device whose disconnect a step handles. -/
def disconnecting (s : Service) : Input → Option DeviceID
  | .stop n _ => s.connections[n]?.map ClientConnection.deviceID
  | _ => none

/-- A task that tells a device that a rendezvous is closed: the frame is sent to the device, or
it answers a request of the device itself. -/
def Announces (self : Option DeviceID) (id : RendezvousID) (d : DeviceID) (task : Task) : Prop :=
  (∃ completion notice, task = .sendToDevice d (rendezvousClosedFrame "" id completion) .ignore
      notice) ∨
    (self = some d ∧ ∃ requestID completion notice,
      task = .reply (rendezvousClosedFrame requestID id completion) notice)

/-- A task of the sweeper: it ignores whether the device is reached. -/
def Sweeping : Task → Prop
  | .sendToDevice _ _ .ignore _ => True
  | .send _ _ _ .ignore => True
  | .closeExpired _ => True
  | _ => False

/-- A goroutine announces what its notices say, it has ended only when nothing is left, and the
sweeper has only tasks of a sweep. -/
structure Orderly (removals : List Removal) (g : Goroutine) : Prop where
  announces : ∀ task ∈ g.tasks, ∀ k d, (k, d) ∈ task.notices →
    ∃ removal, removals[k]? = some removal ∧ Announces g.self removal.rendezvous.id d task
  ended : g.phase = .ended → g.tasks = []
  sweeping : g.self = none → g.phase = .serving ∧ ∀ task ∈ g.tasks, Sweeping task

/-- Every notice that is owed is pending or has been attempted, once. -/
structure Accounted (s : Service) : Prop where
  orderly : ∀ g ∈ s.goroutines, Orderly s.removals g
  numbered : ∀ notice ∈ s.attempts, notice.1 < s.removals.length
  once : ∀ (k : Nat) (removal : Removal), s.removals[k]? = some removal → ∀ d ∈ removal.owed,
    s.attempts.count (k, d) + s.pending.count (k, d) = 1

/-! ## Changes of the goroutines -/

theorem count_flatMap_set {α β : Type} [BEq β] (f : α → List β) (x : β) :
    ∀ (l : List α) (n : Nat) (a b : α), l[n]? = some a →
      ((l.set n b).flatMap f).count x + (f a).count x =
        (l.flatMap f).count x + (f b).count x := by
  intro l
  induction l with
  | nil =>
    intro n a b h
    cases h
  | cons c l ih =>
    intro n a b h
    cases n with
    | zero =>
      obtain rfl := some.inj h
      simp only [set_cons_zero, flatMap_cons, count_append]
      omega
    | succ n =>
      have := ih n a b h
      simp only [set_cons_succ, flatMap_cons, count_append]
      omega

section goroutines

variable {s : Service} {n : Nat} {connection : ClientConnection}

theorem goroutines_connection (hn : s.connections[n]? = some connection) :
    s.goroutines[n + 1]? = some connection.goroutine := by
  rw [goroutines, getElem?_cons_succ, getElem?_map, hn, map_some]

theorem goroutines_setConnection (s : Service) (n : Nat) (connection : ClientConnection) :
    (s.setConnection n connection).goroutines =
      s.goroutines.set (n + 1) connection.goroutine := by
  simp only [goroutines, setConnection, map_set, set_cons_succ]

theorem modify_eq_set_of_getElem? {α : Type} {l : List α} {n : Nat} {a : α} (f : α → α)
    (h : l[n]? = some a) : l.modify n f = l.set n (f a) := by
  apply ext_getElem?
  intro m
  rw [getElem?_modify, getElem?_set]
  by_cases hnm : n = m
  · subst hnm
    rw [if_pos rfl, if_pos (List.getElem?_eq_some_iff.mp h).1, h]
    simp
  · simp [hnm]

variable (completion : PairingRendezvousCompletion) {removals : List Removal} {g : Goroutine}

theorem goroutines_setTasks (hg : s.goroutines[n + 1]? = some g) (tasks : List Task) :
    (s.setTasks n tasks).goroutines = s.goroutines.set (n + 1) { g with tasks } := by
  rw [goroutines, getElem?_cons_succ, getElem?_map] at hg
  obtain ⟨connection, hn, rfl⟩ := map_eq_some_iff.mp hg
  have heq : s.setTasks n tasks = s.setConnection n { connection with tasks } := by
    unfold setTasks setConnection
    rw [modify_eq_set_of_getElem? _ hn]
  rw [heq, goroutines_setConnection]
  rfl

/-- A handler that changes the connection changes it where its tasks are set. -/
theorem goroutines_setConnection_setTasks (hn : s.connections[n]? = some connection)
    (presence : PresenceRegistry) (c : ClientConnection) (tasks : List Task) :
    (({ s with presence }.setConnection n c).setTasks n tasks).goroutines =
      s.goroutines.set (n + 1) { c.goroutine with tasks } := by
  have hc : ({ s with presence }.setConnection n c).connections[n]? = some c :=
    List.getElem?_set_self (List.getElem?_eq_some_iff.mp hn).1
  rw [goroutines_setTasks (goroutines_connection hc), goroutines_setConnection, set_set]
  rfl

/-- Closing a transport changes no goroutine. -/
theorem goroutines_closeNow (s : Service) (n : Nat) :
    (s.closeNow n).goroutines = s.goroutines := by
  unfold goroutines closeNow
  congr 1
  apply ext_getElem?
  intro m
  rw [getElem?_map, getElem?_map, getElem?_modify]
  cases s.connections[m]? with
  | none => rfl
  | some connection => by_cases hnm : n = m <;> simp [hnm, ClientConnection.goroutine]

theorem goroutines_closeExpired (s : Service) (cutoff : Time) :
    (s.closeExpired cutoff).goroutines = s.goroutines := by
  unfold goroutines closeExpired
  congr 1
  apply ext_getElem?
  intro m
  rw [getElem?_map, getElem?_map, getElem?_mapIdx, Option.map_map]
  rfl

theorem count_pending_set {s s' : Service} {i : Nat} {g g' : Goroutine}
    (hg : s.goroutines[i]? = some g) (hs' : s'.goroutines = s.goroutines.set i g')
    (x : Nat × DeviceID) :
    s'.pending.count x + g.notices.count x = s.pending.count x + g'.notices.count x := by
  rw [pending, pending, hs']
  exact count_flatMap_set Goroutine.notices x s.goroutines i g g' hg

/-! ## Notices for removals -/

/-- The notices announce removals from the given number on, and every owed one once. -/
structure NotesFor (number : Nat) (extra : List Removal) (notes : List (Nat × DeviceID)) :
    Prop where
  numbered : ∀ x ∈ notes, number ≤ x.1
  once : ∀ (j : Nat) (removal : Removal), extra[j]? = some removal → ∀ d ∈ removal.owed,
    notes.count (number + j, d) = 1

variable (number : Nat)

theorem NotesFor.nil : NotesFor number [] [] :=
  ⟨fun _ hx => absurd hx not_mem_nil, fun _ _ hj => by cases hj⟩

/-- The removal of a rendezvous, with the registered members but for a device that has
disconnected. -/
def removal (s : Service) (disconnected : Option DeviceID) (r : Rendezvous) : Removal :=
  { rendezvous := r, owed := r.members.filter fun d => d ∈ s.presence ∧ disconnected ≠ some d }

/-- The removals that a step records. -/
def recorded (s : Service) (removed : List Rendezvous) (disconnected : Option DeviceID) :
    List Removal :=
  removed.map (s.removal disconnected)

theorem members_nodup {r : Rendezvous} (hr : r.controller ≠ some r.host) : r.members.Nodup := by
  unfold Rendezvous.members
  cases hc : r.controller with
  | none => simp
  | some c =>
    have hne : r.host ≠ c := fun h => hr (by rw [hc, h])
    simp [hne]

/-- The notices of one removal. -/
theorem notices_notifyRendezvousClosed (r : Rendezvous)
    (completion : PairingRendezvousCompletion) (excluded : Option DeviceID) :
    (notifyRendezvousClosed number r completion excluded).flatMap Task.notices =
      (r.members.filter fun d => excluded ≠ some d).map fun d => (number, d) := by
  have hone : ∀ d, (if excluded ≠ some d then
      [Task.sendToDevice d (rendezvousClosedFrame "" r.id completion.toInt32) .ignore
        (some (number, d))] else []).flatMap Task.notices =
      ([d].filter fun d => excluded ≠ some d).map fun d => (number, d) := by
    intro d
    by_cases hd : excluded ≠ some d
    · simp [hd, Task.notices]
    · simp only [if_neg hd, filter_cons, decide_eq_false hd, Bool.false_eq_true, if_false]
      rfl
  simp only [notifyRendezvousClosed, Rendezvous.members]
  rw [flatMap_append, hone]
  cases r.controller with
  | none => simp
  | some c =>
    dsimp only
    rw [hone, ← map_append, ← filter_append]
    rfl

/-- A device is told once of a removal whose Host is not its controller. -/
theorem count_notifyRendezvousClosed {number : Nat} {r : Rendezvous}
    (hr : r.controller ≠ some r.host) (completion : PairingRendezvousCompletion)
    {excluded : Option DeviceID} {d : DeviceID} (hd : d ∈ r.members) (hex : excluded ≠ some d) :
    ((notifyRendezvousClosed number r completion excluded).flatMap Task.notices).count
      (number, d) = 1 := by
  rw [notices_notifyRendezvousClosed]
  apply count_eq_one_of_mem
  · exact ((members_nodup hr).filter _).map (Prod.mk_right_injective number)
  · exact mem_map_of_mem (mem_filter.mpr ⟨hd, by simpa using hex⟩)

variable (excluded : Option DeviceID)

theorem numbered_notifyAll :
    ∀ (removed : List Rendezvous) (number : Nat),
      ∀ x ∈ (notifyAll completion excluded number removed).flatMap Task.notices,
        number ≤ x.1 := by
  intro removed
  induction removed with
  | nil =>
    intro number x hx
    cases hx
  | cons r rs ih =>
    intro number x hx
    rw [notifyAll, flatMap_append, mem_append, notices_notifyRendezvousClosed] at hx
    rcases hx with hx | hx
    · obtain ⟨d, -, rfl⟩ := mem_map.mp hx
      exact le_refl _
    · have := ih (number + 1) x hx
      omega

theorem once_notifyAll :
    ∀ (removed : List Rendezvous) (number : Nat),
      (∀ r ∈ removed, r.controller ≠ some r.host) → ∀ (j : Nat) (r : Rendezvous),
        removed[j]? = some r → ∀ d ∈ r.members, excluded ≠ some d →
        ((notifyAll completion excluded number removed).flatMap Task.notices).count
          (number + j, d) = 1 := by
  intro removed
  induction removed with
  | nil =>
    intro number _ j r hj
    cases hj
  | cons r rs ih =>
    intro number hne j r' hj d hd hex
    rw [notifyAll, flatMap_append, count_append]
    cases j with
    | zero =>
      obtain rfl := some.inj hj
      have hlater : ((notifyAll completion excluded (number + 1) rs).flatMap Task.notices).count
          (number + 0, d) = 0 := by
        apply count_eq_zero_of_not_mem
        intro hmem
        have := numbered_notifyAll completion excluded rs (number + 1) _ hmem
        dsimp only at this
        omega
      rw [hlater, Nat.add_zero, Nat.add_zero]
      exact count_notifyRendezvousClosed (hne r mem_cons_self) completion hd hex
    | succ j =>
      have hfirst : ((notifyRendezvousClosed number r completion excluded).flatMap
          Task.notices).count (number + (j + 1), d) = 0 := by
        apply count_eq_zero_of_not_mem
        rw [notices_notifyRendezvousClosed]
        intro hmem
        obtain ⟨d', -, heq⟩ := mem_map.mp hmem
        have := congrArg Prod.fst heq
        dsimp only at this
        omega
      have hrest := ih (number + 1) (fun r hr => hne r (mem_cons_of_mem _ hr)) j r' hj d hd
        hex
      rw [Nat.add_right_comm number 1 j] at hrest
      rw [hfirst, Nat.zero_add]
      exact hrest

theorem notesFor_notifyAll (s : Service) (completion : PairingRendezvousCompletion)
    (excluded : Option DeviceID) {removed : List Rendezvous}
    (hne : ∀ r ∈ removed, r.controller ≠ some r.host) (number : Nat) :
    NotesFor number (s.recorded removed excluded)
      ((notifyAll completion excluded number removed).flatMap Task.notices) := by
  refine ⟨numbered_notifyAll completion excluded removed number, ?_⟩
  intro j removal hj d hd
  rw [recorded, getElem?_map] at hj
  obtain ⟨r, hr, rfl⟩ := map_eq_some_iff.mp hj
  obtain ⟨hmem, hkeep⟩ := mem_filter.mp hd
  exact once_notifyAll completion excluded removed number hne j r hr d hmem
    (of_decide_eq_true hkeep).2

/-- A notice of `notifyAll` is a closing frame to the device. -/
theorem announces_notifyAll (excluded self : Option DeviceID) :
    ∀ (removed : List Rendezvous) (number : Nat),
      ∀ task ∈ notifyAll completion excluded number removed, Sweeping task ∧
        ∀ k d, (k, d) ∈ task.notices → ∃ j r, k = number + j ∧ removed[j]? = some r ∧
          Announces self r.id d task := by
  intro removed
  induction removed with
  | nil =>
    intro number task htask
    cases htask
  | cons r rs ih =>
    intro number task htask
    rw [notifyAll, mem_append] at htask
    rcases htask with htask | htask
    · have hshape : ∃ d, task = .sendToDevice d
          (rendezvousClosedFrame "" r.id completion.toInt32) .ignore (some (number, d)) := by
        unfold notifyRendezvousClosed at htask
        rcases mem_append.mp htask with htask | htask
        · split at htask
          · exact ⟨_, mem_singleton.mp htask⟩
          · cases htask
        · split at htask
          · cases htask
          · split at htask
            · exact ⟨_, mem_singleton.mp htask⟩
            · cases htask
      obtain ⟨d, rfl⟩ := hshape
      refine ⟨trivial, fun k d' hmem => ⟨0, r, ?_, rfl, ?_⟩⟩
      · rw [Task.notices, mem_toList] at hmem
        exact (congrArg Prod.fst (some.inj hmem)).symm
      · rw [Task.notices, mem_toList] at hmem
        obtain rfl : d = d' := congrArg Prod.snd (some.inj hmem)
        exact .inl ⟨_, _, rfl⟩
    · obtain ⟨hsweeping, h⟩ := ih (number + 1) task htask
      refine ⟨hsweeping, fun k d hmem => ?_⟩
      obtain ⟨j, r', hk, hj, hannounces⟩ := h k d hmem
      exact ⟨j + 1, r', by omega, hj, hannounces⟩

/-! ## Steps -/

/-- A goroutine has moved on: it has attempted some of its notices, and it has taken up notices
for new removals. -/
structure Advances (s s' : Service) (i : Nat) (g g' : Goroutine) (extra : List Removal)
    (notes made : List (Nat × DeviceID)) : Prop where
  present : s.goroutines[i]? = some g
  goroutines : s'.goroutines = s.goroutines.set i g'
  removals : s'.removals = s.removals ++ extra
  attempts : s'.attempts = s.attempts ++ made
  own : ∀ x ∈ made, x ∈ g.notices
  count : ∀ x, made.count x + g'.notices.count x = g.notices.count x + notes.count x
  notes : NotesFor s.removals.length extra notes
  orderly : Orderly s'.removals g'

/-- Some goroutine has moved on. -/
def Turn (s s' : Service) : Prop :=
  ∃ i g g' extra notes made, Advances s s' i g g' extra notes made

theorem Orderly.append (h : Orderly removals g)
    (extra : List Removal) : Orderly (removals ++ extra) g := by
  refine ⟨fun task htask k d hmem => ?_, h.ended, h.sweeping⟩
  obtain ⟨removal, hremoval, hannounces⟩ := h.announces task htask k d hmem
  have hlt := (List.getElem?_eq_some_iff.mp hremoval).1
  exact ⟨removal, by rw [List.getElem?_append_left hlt]; exact hremoval, hannounces⟩

theorem Orderly.numbered (h : Orderly removals g)
    {x : Nat × DeviceID} (hx : x ∈ g.notices) : x.1 < removals.length := by
  obtain ⟨task, htask, hmem⟩ := mem_flatMap.mp hx
  obtain ⟨removal, hremoval, -⟩ := h.announces task htask x.1 x.2 hmem
  exact (List.getElem?_eq_some_iff.mp hremoval).1

theorem Accounted.numbered_pending {s : Service} (hs : s.Accounted) {x : Nat × DeviceID}
    (hx : x ∈ s.pending) : x.1 < s.removals.length := by
  obtain ⟨g, hg, hmem⟩ := mem_flatMap.mp hx
  exact (hs.orderly g hg).numbered hmem

theorem Accounted.advances {s s' : Service} {i : Nat} {g g' : Goroutine} {extra : List Removal}
    {notes made : List (Nat × DeviceID)} (hs : s.Accounted)
    (h : Advances s s' i g g' extra notes made) : s'.Accounted := by
  have hg : g ∈ s.goroutines := mem_of_getElem? h.present
  refine ⟨?_, ?_, ?_⟩
  · intro g'' hmem
    rw [h.goroutines] at hmem
    rcases mem_or_eq_of_mem_set hmem with hmem | rfl
    · rw [h.removals]
      exact (hs.orderly g'' hmem).append extra
    · exact h.orderly
  · intro x hx
    rw [h.attempts, mem_append] at hx
    rw [h.removals, length_append]
    rcases hx with hx | hx
    · have := hs.numbered x hx
      omega
    · have := (hs.orderly g hg).numbered (h.own x hx)
      omega
  · intro k removal hk d hd
    have hcount := h.count (k, d)
    have hpending := count_pending_set h.present h.goroutines (k, d)
    have hsum : s'.attempts.count (k, d) + s'.pending.count (k, d) =
        s.attempts.count (k, d) + s.pending.count (k, d) + notes.count (k, d) := by
      rw [h.attempts, count_append]
      omega
    rw [hsum]
    rw [h.removals, getElem?_append] at hk
    by_cases hlt : k < s.removals.length
    · rw [if_pos hlt] at hk
      have hold := hs.once k removal hk d hd
      have hnew : notes.count (k, d) = 0 := by
        apply count_eq_zero_of_not_mem
        intro hmem
        have := h.notes.numbered _ hmem
        dsimp only at this
        omega
      omega
    · rw [if_neg hlt] at hk
      have hnew := h.notes.once _ removal hk d hd
      rw [Nat.add_sub_cancel' (not_lt.mp hlt)] at hnew
      have hattempts : s.attempts.count (k, d) = 0 :=
        count_eq_zero_of_not_mem fun hmem => hlt (hs.numbered _ hmem)
      have hpending : s.pending.count (k, d) = 0 :=
        count_eq_zero_of_not_mem fun hmem => hlt (hs.numbered_pending hmem)
      omega

/-- A goroutine with nothing to do takes up new tasks. -/
theorem turn_of_idle {s s' : Service} {i : Nat} {g g' : Goroutine} (extra : List Removal)
    (hpresent : s.goroutines[i]? = some g) (hfree : g.tasks = [])
    (hgoroutines : s'.goroutines = s.goroutines.set i g')
    (hremovals : s'.removals = s.removals ++ extra) (hattempts : s'.attempts = s.attempts)
    (hnotes : NotesFor s.removals.length extra g'.notices)
    (horderly : Orderly s'.removals g') : Turn s s' := by
  have hnone : g.notices = [] := by
    unfold Goroutine.notices
    rw [hfree, flatMap_nil]
  refine ⟨i, g, g', extra, g'.notices, [], hpresent, hgoroutines, hremovals, ?_,
    fun x hx => absurd hx not_mem_nil, fun x => ?_, hnotes, horderly⟩
  · rw [hattempts, append_nil]
  · rw [hnone]

theorem orderly_plain (hplain : AllPlain g.tasks)
    (hself : g.self ≠ none) (hended : g.phase = .ended → g.tasks = []) : Orderly removals g := by
  refine ⟨fun task htask k d hmem => ?_, hended, fun h => absurd h hself⟩
  rw [(hplain task htask).notices] at hmem
  cases hmem

/-- A goroutine with nothing to do takes up plain tasks. -/
theorem turn_of_plain {s s' : Service} {i : Nat} {g g' : Goroutine}
    (hpresent : s.goroutines[i]? = some g) (hfree : g.tasks = [])
    (hgoroutines : s'.goroutines = s.goroutines.set i g')
    (hremovals : s'.removals = s.removals) (hattempts : s'.attempts = s.attempts)
    (hplain : AllPlain g'.tasks) (hself : g'.self ≠ none)
    (hended : g'.phase = .ended → g'.tasks = []) : Turn s s' := by
  have hnotes : g'.notices = [] := hplain.notices
  refine turn_of_idle [] hpresent hfree hgoroutines ?_ hattempts ?_
    (orderly_plain hplain hself hended)
  · rw [hremovals, append_nil]
  · rw [hnotes]
    exact NotesFor.nil _

section handled

variable {s s' : Service} {n : Nat} {connection : ClientConnection}
  {payload : SignalingClientPayload} {now : Time} {tasks : List Task}

/-- The tasks of `notifyAll` announce the removals that are recorded with them. -/
theorem announces_recorded (completion : PairingRendezvousCompletion)
    (excluded disconnected self : Option DeviceID) (removed : List Rendezvous) {task : Task}
    (htask : task ∈ notifyAll completion excluded s.removals.length removed) {k : Nat}
    {d : DeviceID} (hmem : (k, d) ∈ task.notices) :
    ∃ removal, (s.removals ++ s.recorded removed disconnected)[k]? = some removal ∧
      Announces self removal.rendezvous.id d task := by
  obtain ⟨j, r, rfl, hj, hannounces⟩ :=
    (announces_notifyAll completion excluded self removed _ task htask).2 k d hmem
  refine ⟨s.removal disconnected r, ?_, hannounces⟩
  rw [getElem?_append_right (Nat.le_add_right _ _), Nat.add_sub_cancel_left, recorded,
    getElem?_map, hj]
  rfl

/-- The goroutine of a connection takes up the notices of removals, with plain tasks. -/
theorem turn_of_notifyAll {i : Nat} {g g' : Goroutine} {removed : List Rendezvous}
    {completion : PairingRendezvousCompletion} {excluded : Option DeviceID}
    (hpresent : s.goroutines[i]? = some g) (hfree : g.tasks = [])
    (hgoroutines : s'.goroutines = s.goroutines.set i g')
    (hremovals : s'.removals = s.removals ++ s.recorded removed excluded)
    (hattempts : s'.attempts = s.attempts) (hplain : AllPlain tasks)
    (htasks : g'.tasks = notifyAll completion excluded s.removals.length removed ++ tasks)
    (hne : ∀ r ∈ removed, r.controller ≠ some r.host) (hended : g'.phase ≠ .ended)
    (hself : g'.self = none → g'.phase = .serving ∧ ∀ task ∈ tasks, Sweeping task) :
    Turn s s' := by
  have hnotices : g'.notices =
      (notifyAll completion excluded s.removals.length removed).flatMap Task.notices := by
    rw [Goroutine.notices, htasks, flatMap_append, hplain.notices, append_nil]
  apply turn_of_idle _ hpresent hfree hgoroutines hremovals hattempts
  · rw [hnotices]
    exact notesFor_notifyAll s completion excluded hne _
  · refine ⟨?_, fun h => absurd h hended, fun h => ⟨(hself h).1, ?_⟩⟩
    · intro task htask k d hmem
      rw [htasks, mem_append] at htask
      rw [hremovals]
      rcases htask with htask | htask
      · exact announces_recorded completion excluded excluded g'.self removed htask hmem
      · rw [(hplain task htask).notices] at hmem
        cases hmem
    · intro task htask
      rw [htasks, mem_append] at htask
      rcases htask with htask | htask
      · exact (announces_notifyAll completion excluded none removed _ task htask).1
      · exact (hself h).2 task htask

/-- Stored rendezvous have a Host that is not their controller. -/
theorem controller_ne_host (hs : s.lifecycle.Valid) {r : Rendezvous}
    (hr : s.rendezvous.byID.lookup r.id = some r) : r.controller ≠ some r.host :=
  fun h => (hs.controller r.id r r.host hr h).2 rfl

/-- The answer to a completion, and the notice to the controller. -/
theorem turn_of_completed (hs : s.lifecycle.Valid) {r : Rendezvous} {requestID : String}
    {completion : Int32} (hn : s.connections[n]? = some connection)
    (hserving : connection.phase = .serving) (hfree : connection.tasks = [])
    (hr : s.rendezvous.byID.lookup r.id = some r) (hhost : r.host = connection.deviceID)
    (htasks : tasks = .reply (rendezvousClosedFrame requestID r.id completion)
        (some (s.removals.length, connection.deviceID)) ::
      r.controller.toList.map fun controller =>
        .sendToDevice controller (rendezvousClosedFrame "" r.id completion) .ignore
          (some (s.removals.length, controller)))
    (hgoroutines : s'.goroutines =
      s.goroutines.set (n + 1) { connection.goroutine with tasks })
    (hremovals : s'.removals = s.removals ++ s.recorded [r] none)
    (hattempts : s'.attempts = s.attempts) : Turn s s' := by
  have hnotices : Goroutine.notices { connection.goroutine with tasks } =
      r.members.map fun d => (s.removals.length, d) := by
    rw [Goroutine.notices, htasks, flatMap_cons, Rendezvous.members, hhost]
    cases r.controller <;> rfl
  have hremoval : (s.removals ++ s.recorded [r] none)[s.removals.length]? =
      some (s.removal none r) :=
    getElem?_concat_length
  apply turn_of_idle _ (goroutines_connection hn) hfree hgoroutines hremovals hattempts
  · rw [hnotices]
    refine ⟨?_, ?_⟩
    · intro x hx
      obtain ⟨d, -, rfl⟩ := mem_map.mp hx
      exact le_refl _
    · intro j removal hj d hd
      cases j with
      | zero =>
        obtain rfl := some.inj hj
        apply count_eq_one_of_mem
        · exact (members_nodup (controller_ne_host hs hr)).map (Prod.mk_right_injective _)
        · exact mem_map_of_mem (mem_filter.mp hd).1
      | succ j => cases hj
  · refine ⟨?_, ?_, nofun⟩
    · intro task htask k d hmem
      rw [hremovals]
      change task ∈ tasks at htask
      rw [htasks, mem_cons] at htask
      rcases htask with rfl | htask
      · rw [Task.notices, mem_toList] at hmem
        obtain ⟨rfl, rfl⟩ := Prod.mk.inj (some.inj hmem)
        exact ⟨_, hremoval, .inr ⟨rfl, requestID, completion, _, rfl⟩⟩
      · obtain ⟨controller, -, rfl⟩ := mem_map.mp htask
        rw [Task.notices, mem_toList] at hmem
        obtain ⟨rfl, rfl⟩ := Prod.mk.inj (some.inj hmem)
        exact ⟨_, hremoval, .inl ⟨completion, _, rfl⟩⟩
    · intro hended
      rw [show connection.goroutine.phase = connection.phase from rfl, hserving] at hended
      cases hended

/-- The handling of a frame takes up the notices of what it removes. -/
theorem Handled.turn (hs : s.lifecycle.Valid) (hn : s.connections[n]? = some connection)
    (hserving : connection.phase = .serving) (hfree : connection.tasks = [])
    (h : Handled s n connection payload now s' tasks) : Turn s (s'.setTasks n tasks) := by
  have hpresent := goroutines_connection hn
  have hended : ∀ {p : Prop}, connection.phase = .ended → p := by
    intro p hp
    rw [hserving] at hp
    cases hp
  have hset := goroutines_setConnection_setTasks hn
  have hsweep : ∀ {removed store}, RendezvousStore.Removes s.rendezvous removed store →
      ∀ r ∈ removed, r.controller ≠ some r.host :=
    fun hremoves r hr => controller_ne_host hs (hremoves.stored r hr)
  cases h with
  | quiet hplain =>
    exact turn_of_plain hpresent hfree (goroutines_setTasks hpresent tasks) rfl rfl hplain
      nofun hended
  | touched _ hplain =>
    exact turn_of_plain hpresent hfree (goroutines_setTasks hpresent tasks) rfl rfl hplain
      nofun hended
  | closed => exact turn_of_plain hpresent hfree (hset _ _ _) rfl rfl allPlain_nil nofun hended
  | registered _ _ hplain =>
    exact turn_of_plain hpresent hfree (hset _ _ _) rfl rfl hplain nofun hended
  | joined _ _ _ _ hplain =>
    exact turn_of_plain hpresent hfree (goroutines_setTasks hpresent tasks) rfl rfl hplain
      nofun hended
  | relayed =>
    refine turn_of_idle [] hpresent hfree (goroutines_setTasks hpresent _)
      (append_nil _).symm rfl (NotesFor.nil _) ⟨?_, hended, nofun⟩
    intro task htask k d hmem
    rw [mem_singleton.mp htask] at hmem
    cases hmem
  | createRefused hsweeps hplain =>
    exact turn_of_notifyAll hpresent hfree (goroutines_setTasks hpresent _) rfl rfl hplain rfl
      (hsweep hsweeps.removes) hended nofun
  | created _ hsweeps _ _ _ hplain =>
    exact turn_of_notifyAll hpresent hfree (goroutines_setTasks hpresent _) rfl rfl hplain rfl
      (hsweep hsweeps.removes) hended nofun
  | completed hr hhost _ _ =>
    exact turn_of_completed hs hn hserving hfree hr hhost rfl (goroutines_setTasks hpresent _) rfl
      rfl

section ran

variable {s s' : Service} {self : Option (Nat × DeviceID)} {sent : Bool} {task : Task}
  {tasks : List Task} {deliveries : List Delivery}

/-- What a task leaves behind announces nothing, and the task has attempted its own notice,
unless it removes a rendezvous or is a reply of the sweeper. -/
theorem Ran.attempts_own (h : Ran s self sent task s' tasks deliveries)
    (hkept : s'.removals = s.removals) (hreply : self = none → Sweeping task) :
    s'.attempts = s.attempts ++ task.notices ∧ s'.goroutines = s.goroutines ∧
      tasks.flatMap Task.notices = [] ∧ (Sweeping task → ∀ t ∈ tasks, Sweeping t) := by
  cases h with
  | @unreached _ _ after =>
    refine ⟨rfl, rfl, (allPlain_afterSend false after).notices, ?_⟩
    intro hsweeping t ht
    cases after with
    | ignore => cases ht
    | offline | hostJoined => cases hsweeping
  | @found _ _ after =>
    refine ⟨rfl, rfl, rfl, ?_⟩
    intro hsweeping t ht
    rw [mem_singleton.mp ht]
    cases after with
    | ignore => trivial
    | offline | hostJoined => cases hsweeping
  | @sent _ _ _ after =>
    refine ⟨(append_nil _).symm, rfl, (allPlain_afterSend sent after).notices, ?_⟩
    intro hsweeping t ht
    cases after with
    | ignore => cases ht
    | offline | hostJoined => cases hsweeping
  | removedUnreached =>
    exfalso
    have hlength := congrArg length hkept
    change (s.removals ++ [_]).length = s.removals.length at hlength
    rw [length_append, length_singleton] at hlength
    omega
  | keptUnreached =>
    exact ⟨(append_nil _).symm, rfl, rfl, fun hsweeping => hsweeping.elim⟩
  | dropped hself => exact (hreply hself).elim
  | @replied n _ frame notice hself =>
    refine ⟨?_, ?_, rfl, fun hsweeping => hsweeping.elim⟩
    · cases sent <;> rfl
    · cases sent
      · exact goroutines_closeNow _ n
      · rfl
  | @closedExpired cutoff =>
    exact ⟨(append_nil _).symm, goroutines_closeExpired s cutoff, rfl,
      fun _ t ht => absurd ht not_mem_nil⟩

/-- Only a join that has not reached the Host removes a rendezvous in a task. -/
theorem Ran.removals_eq (hs : s.rendezvous.Indexed) (h : Ran s self sent task s' tasks deliveries)
    (hnot : ∀ requestID rendezvous now, task = .completeUnreached requestID rendezvous now →
      ∀ r, s.rendezvous.byID.lookup rendezvous.id = some r → r.host = rendezvous.host →
        ¬ now < r.expiresAt) : s'.removals = s.removals := by
  cases h with
  | @removedUnreached requestID rendezvous now _ _ _ hcomplete _ _ =>
    rcases RendezvousStore.complete_spec hs rendezvous.id rendezvous.host now with
      ⟨err, h⟩ | ⟨r, store, h, hr, -, hhost, hlive, -, -⟩
    · rw [h] at hcomplete
      cases hcomplete
    · exact absurd hlive (hnot _ _ _ rfl r hr hhost)
  | replied => cases sent <;> rfl
  | _ => rfl

/-- A goroutine that runs a task which removes nothing. -/
theorem Ran.turn {s'' : Service} {i : Nat} {g : Goroutine} {rest : List Task}
    (h : Ran s self sent task s' tasks deliveries) (hkept : s'.removals = s.removals)
    (hself : g.self = none ↔ self = none) (hpresent : s.goroutines[i]? = some g)
    (hg : Orderly s.removals g) (hnext : g.tasks = task :: rest)
    (hgoroutines : s''.goroutines = s'.goroutines.set i { g with tasks := tasks ++ rest })
    (hremovals : s''.removals = s'.removals) (hattempts : s''.attempts = s'.attempts) :
    Turn s s'' := by
  have htask : task ∈ g.tasks := hnext ▸ mem_cons_self
  have hrest : ∀ t ∈ rest, t ∈ g.tasks := fun t ht => hnext ▸ mem_cons_of_mem _ ht
  obtain ⟨hmade, hsame, hnone, hsweeping⟩ :=
    h.attempts_own hkept fun hnone => (hg.sweeping (hself.mpr hnone)).2 task htask
  have hnotices : g.notices = task.notices ++ rest.flatMap Task.notices := by
    rw [Goroutine.notices, hnext, flatMap_cons]
  have hnotices' : Goroutine.notices { g with tasks := tasks ++ rest } =
      rest.flatMap Task.notices := by
    rw [Goroutine.notices, flatMap_append, hnone, nil_append]
  refine ⟨i, g, _, [], [], task.notices, hpresent, hsame ▸ hgoroutines, ?_, ?_, ?_, ?_,
    NotesFor.nil _, ?_⟩
  · rw [hremovals, hkept, append_nil]
  · rw [hattempts, hmade]
  · intro x hx
    rw [hnotices]
    exact mem_append_left _ hx
  · intro x
    rw [hnotices, hnotices', count_append, count_nil]
    omega
  · refine ⟨?_, ?_, ?_⟩
    · intro t ht k d hmem
      rw [hremovals, hkept]
      rcases mem_append.mp ht with ht | ht
      · rw [flatMap_eq_nil_iff.mp hnone t ht] at hmem
        cases hmem
      · exact hg.announces t (hrest t ht) k d hmem
    · intro hended
      have := hg.ended hended
      rw [hnext] at this
      cases this
    · intro hself'
      obtain ⟨hphase, hall⟩ := hg.sweeping hself'
      refine ⟨hphase, fun t ht => ?_⟩
      rcases mem_append.mp ht with ht | ht
      · exact hsweeping (hall task htask) t ht
      · exact hall t (hrest t ht)

end ran

/-- Every step takes up the notices of what it removes, unless a join has not reached the Host. -/
theorem Stepped.accounted {s s' : Service} {input : Input} {deliveries : List Delivery}
    (hvalid : s.lifecycle.Valid) (hs : s.Accounted) (hguard : s.hostUnreached input = false)
    (h : Stepped s input s' deliveries) : s'.Accounted := by
  have hturn : ∀ {s' : Service}, Turn s s' → s'.Accounted := by
    rintro s' ⟨i, g, g', extra, notes, made, h⟩
    exact hs.advances h
  cases h with
  | idle => exact hs
  | connected =>
    refine ⟨?_, hs.numbered, ?_⟩
    · intro g hg
      rcases mem_cons.mp hg with rfl | hg
      · exact hs.orderly _ mem_cons_self
      · obtain ⟨connection, hconnection, rfl⟩ := mem_map.mp hg
        rcases mem_append.mp hconnection with hconnection | hconnection
        · exact hs.orderly _ (mem_cons_of_mem _ (mem_map_of_mem hconnection))
        · rw [mem_singleton.mp hconnection]
          exact orderly_plain allPlain_nil nofun nofun
    · have hpending : pending { s with
          nextToken := s.nextToken + 1
          connections := s.connections ++
            [{ token := s.nextToken + 1, registered := false, deviceID := Rendezvous.zero.host
               closed := false, phase := .serving, tasks := [] }] } = s.pending := by
        unfold pending goroutines
        rw [map_append, ← cons_append, flatMap_append]
        exact append_nil _
      intro k removal hk d hd
      rw [hpending]
      exact hs.once k removal hk d hd
  | refused hn hserving hfree =>
    have hpresent := goroutines_connection hn
    refine hturn (turn_of_plain hpresent hfree (goroutines_setTasks hpresent _) rfl rfl
      (allPlain_publicError _ _) nofun ?_)
    intro hended
    cases hserving.symm.trans hended
  | handled hn hserving hfree _ h => exact hturn (h.turn hvalid hn hserving hfree)
  | @ran n connection _ task rest s₁ tasks _ hn hrunning hnext h =>
    have hg := hs.orderly _ (mem_of_getElem? (goroutines_connection hn))
    have hkept : s₁.removals = s.removals := by
      apply h.removals_eq hvalid.indexed
      rintro requestID rendezvous now rfl r hr hhost
      simp only [hostUnreached, hn, map_some, hnext, hr] at hguard
      exact fun hlive => of_decide_eq_false hguard ⟨hhost, hlive⟩
    have hpresent' : s₁.goroutines[n + 1]? = some connection.goroutine := by
      rw [(h.attempts_own hkept nofun).2.1]
      exact goroutines_connection hn
    have hself : connection.goroutine.self = none ↔ some (n, connection.deviceID) = none :=
      ⟨nofun, nofun⟩
    exact hturn (h.turn hkept hself (goroutines_connection hn) hg hnext
      (goroutines_setTasks hpresent' _) rfl rfl)
  | @released n connection _ hn hclosing =>
    have hg := hs.orderly _ (mem_of_getElem? (goroutines_connection hn))
    refine hturn ⟨n + 1, _, _, [], [], [], goroutines_connection hn,
      goroutines_setConnection _ _ _, (append_nil _).symm, (append_nil _).symm,
      fun x hx => absurd hx not_mem_nil, fun x => ?_, NotesFor.nil _, ?_⟩
    · exact Nat.add_comm _ _
    · exact ⟨hg.announces, nofun, nofun⟩
  | ended hn hleaving hfree =>
    exact hturn (turn_of_plain (goroutines_connection hn) hfree (goroutines_setConnection s _ _)
      rfl rfl (hfree.symm ▸ allPlain_nil) nofun fun _ => hfree)
  | stopped hn hserving hfree hregistered hsound hremoves hmem =>
    refine hturn (turn_of_notifyAll (goroutines_connection hn) hfree
      (goroutines_setConnection _ _ _) rfl rfl allPlain_nil (append_nil _).symm ?_ nofun
      nofun)
    exact fun r hr => controller_ne_host hvalid (hremoves.stored r hr)
  | abandoned hn hserving hfree _ =>
    exact hturn (turn_of_plain (goroutines_connection hn) hfree (goroutines_setConnection s _ _)
      rfl rfl (hfree.symm ▸ allPlain_nil) nofun nofun)
  | @swept _ cutoff _ _ hfree hsweeps =>
    refine hturn (turn_of_notifyAll (i := 0) rfl hfree rfl rfl rfl
      (allPlain_singleton (⟨rfl, rfl, rfl⟩ : Task.Plain (.closeExpired cutoff))) rfl ?_ nofun ?_)
    · exact fun r hr => controller_ne_host hvalid (hsweeps.removes.stored r hr)
    · intro _
      refine ⟨rfl, fun task htask => ?_⟩
      rw [mem_singleton.mp htask]
      trivial
  | @sweeperRan _ task rest s₁ tasks _ hnext h =>
    have hg := hs.orderly _ mem_cons_self
    have hsweeping := (hg.sweeping rfl).2 task (hnext ▸ mem_cons_self)
    have hkept : s₁.removals = s.removals := by
      apply h.removals_eq hvalid.indexed
      rintro requestID rendezvous now rfl
      exact hsweeping.elim
    refine hturn (h.turn (i := 0) hkept ⟨fun _ => rfl, fun _ => rfl⟩ rfl hg hnext ?_ rfl rfl)
    rfl

/-! ## What is owed -/

/-- The rendezvous that leave the store are recorded, with the members that are then registered,
but for the one that has disconnected.  The others stay, or are joined. -/
def Records (s s' : Service) (disconnected : Option DeviceID) : Prop :=
  ∃ removed, s'.removals = s.removals ++ s.recorded removed disconnected ∧
    (∀ r ∈ removed, s.rendezvous.byID.lookup r.id = some r) ∧
    ∀ id r, s.rendezvous.byID.lookup id = some r →
      r ∈ removed ∨ s'.rendezvous.byID.lookup id = some r ∨
      ∃ d, r.controller = none ∧
        s'.rendezvous.byID.lookup id = some { r with controller := some d }

section records

variable {s s' : Service} {disconnected : Option DeviceID}

theorem Records.of_eq (hremovals : s'.removals = s.removals)
    (hstore : s'.rendezvous = s.rendezvous) : Records s s' disconnected := by
  refine ⟨[], ?_, fun r hr => absurd hr not_mem_nil, ?_⟩
  · rw [hremovals]
    exact (append_nil _).symm
  · intro id r hr
    rw [hstore]
    exact .inr (.inl hr)

theorem mem_removed_or_stays (hs : s.rendezvous.Indexed) {removed : List Rendezvous}
    {store : RendezvousStore} (hremoves : RendezvousStore.Removes s.rendezvous removed store)
    {id : RendezvousID} {r : Rendezvous} (hr : s.rendezvous.byID.lookup id = some r) :
    r ∈ removed ∨ store.byID.lookup id = some r := by
  have hid := hs.ids id r hr
  subst hid
  by_cases hmem : r.id ∈ removed.map Rendezvous.id
  · exact .inl (hremoves.mem_of_id_mem hr hmem)
  · rw [hremoves.after, if_neg hmem]
    exact .inr hr

theorem Records.of_removes (hs : s.rendezvous.Indexed) {removed : List Rendezvous}
    {store : RendezvousStore} (hremoves : RendezvousStore.Removes s.rendezvous removed store)
    (hremovals : s'.removals = s.removals ++ s.recorded removed disconnected)
    (hstore : s'.rendezvous = store) : Records s s' disconnected := by
  refine ⟨removed, hremovals, hremoves.stored, fun id r hr => ?_⟩
  rw [hstore]
  exact (mem_removed_or_stays hs hremoves hr).imp_right .inl

theorem Handled.records (hs : s.rendezvous.Indexed) {n : Nat} {connection : ClientConnection}
    {payload : SignalingClientPayload} {now : Time} {tasks : List Task}
    (h : Handled s n connection payload now s' tasks) : Records s s' none := by
  cases h with
  | createRefused hsweeps => exact .of_removes hs hsweeps.removes rfl rfl
  | @created stored removed store _ _ hsweeps _ _ hfree =>
    refine ⟨removed, rfl, hsweeps.removes.stored, fun id r hr => ?_⟩
    rcases mem_removed_or_stays hs hsweeps.removes hr with hmem | hafter
    · exact .inl hmem
    · refine .inr (.inl ?_)
      have hne : id ≠ stored.id := by
        rintro rfl
        exact (RendezvousStore.refusal_eq_none hfree).1 (Finmap.mem_of_lookup_eq_some hafter)
      change (store.add stored).byID.lookup id = some r
      rw [RendezvousStore.lookup_add, if_neg hne]
      exact hafter
  | @joined r _ _ hr _ hunjoined =>
    refine ⟨[], (append_nil _).symm, fun r hr => absurd hr not_mem_nil, ?_⟩
    intro id r' hr'
    dsimp only
    rw [RendezvousStore.lookup_joined]
    by_cases hid : id = r.id
    · rw [if_pos hid]
      rw [hid, hr] at hr'
      obtain rfl := some.inj hr'
      exact .inr (.inr ⟨_, hunjoined, rfl⟩)
    · rw [if_neg hid]
      exact .inr (.inl hr')
  | completed _ _ _ hremoves => exact .of_removes hs hremoves rfl rfl
  | _ => exact .of_eq rfl rfl

theorem Ran.records (hs : s.rendezvous.Indexed) {self : Option (Nat × DeviceID)} {sent : Bool}
    {task : Task} {tasks : List Task} {deliveries : List Delivery}
    (h : Ran s self sent task s' tasks deliveries) : Records s s' none := by
  cases h with
  | removedUnreached _ _ _ hremoves => exact .of_removes hs hremoves rfl rfl
  | replied => cases sent <;> exact .of_eq rfl rfl
  | _ => exact .of_eq rfl rfl

/-- Every step records what leaves the store. -/
theorem Stepped.records (hs : s.rendezvous.Indexed) {input : Input} {deliveries : List Delivery}
    (h : Stepped s input s' deliveries) : Records s s' (s.disconnecting input) := by
  cases h with
  | handled _ _ _ _ h =>
    have hrecords := h.records hs
    exact hrecords
  | ran _ _ _ h =>
    have hrecords := h.records hs
    exact hrecords
  | stopped hn _ _ _ _ hremoves _ =>
    rw [disconnecting, hn]
    exact .of_removes hs hremoves rfl rfl
  | swept _ hsweeps => exact .of_removes hs hsweeps.removes rfl rfl
  | sweeperRan _ h =>
    have hrecords := h.records hs
    exact hrecords
  | _ => exact .of_eq rfl rfl

end records

/-- What a task attempts is its own notice. -/
theorem Ran.attempts_eq {s s' : Service} {self : Option (Nat × DeviceID)} {sent : Bool}
    {task : Task} {tasks : List Task} {deliveries : List Delivery}
    (h : Ran s self sent task s' tasks deliveries) :
    s'.attempts = s.attempts ∨ ∃ x, x ∈ task.notices ∧ s'.attempts = s.attempts ++ [x] := by
  have hnotice : ∀ notice : Option (Nat × DeviceID),
      s.attempts ++ notice.toList = s.attempts ∨
        ∃ x, x ∈ notice.toList ∧ s.attempts ++ notice.toList = s.attempts ++ [x] := by
    intro notice
    cases notice with
    | none => exact .inl (append_nil _)
    | some x => exact .inr ⟨x, mem_singleton_self x, rfl⟩
  cases h with
  | @unreached _ _ _ notice => exact hnotice notice
  | @found _ _ _ notice => exact hnotice notice
  | @replied _ _ _ notice =>
    cases sent
    · exact hnotice notice
    · exact hnotice notice
  | _ => exact .inl rfl

/-- An attempt announces the removal that it is counted for. -/
theorem Stepped.attempts_announce {s s' : Service} {input : Input} {deliveries : List Delivery}
    (hs : s.Accounted) (h : Stepped s input s' deliveries) :
    s'.attempts = s.attempts ∨
    ∃ k d i g task rest removal, s'.attempts = s.attempts ++ [(k, d)] ∧
      input.goroutine = some i ∧ s.goroutines[i]? = some g ∧ g.tasks = task :: rest ∧
      s.removals[k]? = some removal ∧ Announces g.self removal.rendezvous.id d task := by
  have hran : ∀ {i : Nat} {g : Goroutine} {task : Task} {rest : List Task} {x : Nat × DeviceID},
      s.goroutines[i]? = some g → g.tasks = task :: rest → x ∈ task.notices →
      ∃ removal, s.removals[x.1]? = some removal ∧
        Announces g.self removal.rendezvous.id x.2 task := by
    intro i g task rest x hg hnext hx
    exact (hs.orderly g (mem_of_getElem? hg)).announces task (hnext ▸ mem_cons_self) x.1 x.2 hx
  cases h with
  | handled _ _ _ _ h => cases h <;> exact .inl rfl
  | @ran n connection _ task rest _ _ _ hn _ hnext h =>
    rcases h.attempts_eq with heq | ⟨x, hx, heq⟩
    · exact .inl heq
    · have hg := goroutines_connection hn
      obtain ⟨removal, hremoval, hannounces⟩ := hran hg hnext hx
      exact .inr ⟨x.1, x.2, n + 1, _, task, rest, removal, heq, rfl, hg, hnext, hremoval,
        hannounces⟩
  | @sweeperRan _ task rest _ _ _ hnext h =>
    rcases h.attempts_eq with heq | ⟨x, hx, heq⟩
    · exact .inl heq
    · obtain ⟨removal, hremoval, hannounces⟩ := hran (i := 0) rfl hnext hx
      exact .inr ⟨x.1, x.2, 0, _, task, rest, removal, heq, rfl, rfl, hnext, hremoval,
        hannounces⟩
  | _ => exact .inl rfl

/-! ## Goroutines that keep running -/

theorem weight_afterSend (reached : Bool) (after : AfterSend) :
    ((afterSend reached after).map Task.weight).sum ≤ 2 := by
  cases after with
  | ignore => exact Nat.zero_le 2
  | offline requestID => cases reached <;> simp [afterSend, respond, Task.weight]
  | hostJoined requestID rendezvous now =>
    cases reached <;> simp [afterSend, respond, Task.weight]

/-- A task takes a section. -/
theorem weight_runTask (s : Service) (self : Option (Nat × DeviceID)) (sent : Bool)
    (task : Task) : (((s.runTask self sent task).2.1).map Task.weight).sum < task.weight := by
  cases task with
  | sendToDevice deviceID frame after notice =>
    simp only [runTask]
    cases s.presence.lookup deviceID with
    | none =>
      have := weight_afterSend false after
      change ((afterSend false after).map Task.weight).sum < 4
      omega
    | some route => exact Nat.lt_succ_self 3
  | send connection deviceID frame after =>
    have := weight_afterSend sent after
    change ((afterSend sent after).map Task.weight).sum < 3
    omega
  | completeUnreached requestID rendezvous now =>
    simp only [runTask]
    split <;> exact Nat.lt_succ_self 1
  | reply frame notice =>
    simp only [runTask]
    cases self <;> exact Nat.zero_lt_one
  | closeExpired cutoff => exact Nat.zero_lt_one

theorem goroutines_runTask (s : Service) (self : Option (Nat × DeviceID)) (sent : Bool)
    (task : Task) : (s.runTask self sent task).1.goroutines = s.goroutines := by
  cases task with
  | sendToDevice deviceID frame after notice =>
    simp only [runTask]
    cases s.presence.lookup deviceID <;> rfl
  | send connection deviceID frame after => rfl
  | completeUnreached requestID rendezvous now =>
    simp only [runTask]
    split <;> rfl
  | reply frame notice =>
    simp only [runTask]
    cases self with
    | none => rfl
    | some c =>
      cases sent
      · exact goroutines_closeNow _ _
      · rfl
  | closeExpired cutoff => exact goroutines_closeExpired s cutoff

/-- A task attempts its notice, if it is not a reply of the sweeper. -/
theorem mem_attempts_runTask {s : Service} {self : Option (Nat × DeviceID)} {sent : Bool}
    {task : Task} (hself : self = none → Sweeping task) {x : Nat × DeviceID}
    (hx : x ∈ task.notices) : x ∈ (s.runTask self sent task).1.attempts := by
  cases task with
  | sendToDevice deviceID frame after notice =>
    simp only [runTask]
    cases s.presence.lookup deviceID <;> exact mem_append_right _ hx
  | reply frame notice =>
    simp only [runTask]
    cases self with
    | none => exact (hself rfl).elim
    | some c => cases sent <;> exact mem_append_right _ hx
  | send | completeUnreached | closeExpired => cases hx

/-- A goroutine that can run: it has not ended, and a sweeper has tasks of a sweep. -/
def Runs (g : Goroutine) : Prop :=
  g.phase ≠ .ended ∧ (g.self = none → g.phase = .serving ∧ ∀ task ∈ g.tasks, Sweeping task)

theorem Orderly.runs {removals : List Removal} {g : Goroutine} (h : Orderly removals g)
    (hnext : g.tasks ≠ []) : Runs g :=
  ⟨fun hended => hnext (h.ended hended), h.sweeping⟩

theorem sweeping_runTask {s : Service} {self : Option (Nat × DeviceID)} {sent : Bool}
    {task : Task} (h : Sweeping task) :
    ∀ t ∈ (s.runTask self sent task).2.1, Sweeping t := by
  intro t ht
  cases task with
  | sendToDevice deviceID frame after notice =>
    cases after with
    | ignore =>
      simp only [runTask] at ht
      cases hroute : s.presence.lookup deviceID with
      | none =>
        rw [hroute] at ht
        cases ht
      | some route =>
        rw [hroute] at ht
        rw [mem_singleton.mp ht]
        trivial
    | offline | hostJoined => cases h
  | send connection deviceID frame after =>
    cases after with
    | ignore => cases ht
    | offline | hostJoined => cases h
  | closeExpired cutoff => cases ht
  | completeUnreached | reply => cases h

/-- A goroutine with a notice to attempt has something to do. -/
theorem exists_next {g : Goroutine} {x : Nat × DeviceID} (hx : x ∈ g.notices) :
    ∃ task rest, g.tasks = task :: rest := by
  apply exists_cons_of_ne_nil
  intro hnil
  rw [Goroutine.notices, hnil] at hx
  cases hx

/-- A goroutine that runs has attempted the notice, or it has it still to attempt and has come
closer. -/
theorem notice_runs (text : CodeText) (options : Options) {s : Service} {input : Input} {i : Nat}
    {g : Goroutine} (hg : s.goroutines[i]? = some g) (hinput : input.goroutine = some i)
    (hruns : Runs g) {x : Nat × DeviceID} (hx : x ∈ g.notices) :
    x ∈ (step text options s input).1.attempts ∨
    ∃ g', (step text options s input).1.goroutines[i]? = some g' ∧ Runs g' ∧ x ∈ g'.notices ∧
      g'.weight < g.weight := by
  have hrun : ∀ (s' : Service) (self : Option (Nat × DeviceID)) (sent : Bool),
      (g.self = none ↔ self = none) → g.phase ≠ .closing → ∀ task rest, g.tasks = task :: rest →
      s'.attempts = (s.runTask self sent task).1.attempts →
      s'.goroutines = (s.runTask self sent task).1.goroutines.set i
        { g with tasks := (s.runTask self sent task).2.1 ++ rest } →
      x ∈ s'.attempts ∨ ∃ g', s'.goroutines[i]? = some g' ∧ Runs g' ∧ x ∈ g'.notices ∧
        g'.weight < g.weight := by
    intro s' self sent hself hclosing task rest hnext hattempts hgoroutines
    have hsweeping : self = none → Sweeping task := fun hnone =>
      (hruns.2 (hself.mpr hnone)).2 task (hnext ▸ mem_cons_self)
    rw [Goroutine.notices, hnext, flatMap_cons, mem_append] at hx
    rcases hx with hx | hx
    · rw [hattempts]
      exact .inl (mem_attempts_runTask hsweeping hx)
    · refine .inr ⟨{ g with tasks := (s.runTask self sent task).2.1 ++ rest }, ?_,
        ⟨hruns.1, fun hnone => ⟨(hruns.2 hnone).1, ?_⟩⟩, ?_, ?_⟩
      · rw [hgoroutines, goroutines_runTask]
        exact List.getElem?_set_self (List.getElem?_eq_some_iff.mp hg).1
      · intro t ht
        rcases mem_append.mp ht with ht | ht
        · exact sweeping_runTask (hsweeping (hself.mp hnone)) t ht
        · exact (hruns.2 hnone).2 t (hnext ▸ mem_cons_of_mem _ ht)
      · rw [Goroutine.notices, flatMap_append]
        exact mem_append_right _ hx
      · have hless := weight_runTask s self sent task
        unfold Goroutine.weight
        rw [hnext, map_append, sum_append, map_cons, sum_cons]
        dsimp only
        omega
  obtain ⟨task, rest, hnext⟩ := exists_next hx
  cases input with
  | proceed n sent =>
    obtain rfl := some.inj hinput
    rw [goroutines, getElem?_cons_succ, getElem?_map] at hg
    obtain ⟨connection, hn, rfl⟩ := map_eq_some_iff.mp hg
    simp only [step, hn, proceed]
    by_cases hclosing : connection.phase = .closing
    · rw [hclosing]
      refine .inr ⟨{ connection.goroutine with phase := .leaving }, ?_,
        ⟨by rintro ⟨⟩, by rintro ⟨⟩⟩, hx, ?_⟩
      · rw [goroutines_setConnection]
        exact List.getElem?_set_self (List.getElem?_eq_some_iff.mp (goroutines_connection hn)).1
      · unfold Goroutine.weight ClientConnection.goroutine
        rw [if_pos hclosing]
        exact Nat.lt_succ_self _
    · have hself : connection.goroutine.self = none ↔ some (n, connection.deviceID) = none :=
        ⟨(by intros; contradiction), (by intros; contradiction)⟩
      cases hphase : connection.phase with
      | closing => exact absurd hphase hclosing
      | ended => exact absurd hphase hruns.1
      | serving | leaving =>
        change connection.tasks = _ at hnext
        simp only [hnext]
        refine hrun _ (some (n, connection.deviceID)) sent hself hclosing task rest hnext rfl
          (goroutines_setTasks ?_ _)
        rw [goroutines_runTask]
        exact goroutines_connection hn
  | proceedSweeper sent =>
    obtain rfl := some.inj hinput
    obtain rfl := some.inj hg
    change s.sweeper = _ at hnext
    have hstep : s.proceedSweeper sent =
        ({ (s.runTask none sent task).1 with
          sweeper := (s.runTask none sent task).2.1 ++ rest }, (s.runTask none sent task).2.2) := by
      unfold proceedSweeper
      rw [hnext]
    simp only [step, hstep]
    exact hrun { (s.runTask none sent task).1 with
      sweeper := (s.runTask none sent task).2.1 ++ rest } none sent
      ⟨fun _ => rfl, fun _ => rfl⟩ (by rintro ⟨⟩) task rest hnext rfl rfl
  | connect | receive | stop | sweep => cases hinput

section others

variable {s s' : Service} {input : Input} {deliveries : List Delivery}

/-- The handling of a frame changes the goroutine of its connection. -/
theorem Handled.goroutines_eq {n : Nat} {connection : ClientConnection}
    {payload : SignalingClientPayload} {now : Time} {tasks : List Task}
    (hn : s.connections[n]? = some connection)
    (h : Handled s n connection payload now s' tasks) :
    ∃ g', (s'.setTasks n tasks).goroutines = s.goroutines.set (n + 1) g' := by
  have hpresent := goroutines_connection hn
  cases h with
  | closed => exact ⟨_, goroutines_setConnection_setTasks hn _ _ _⟩
  | registered => exact ⟨_, goroutines_setConnection_setTasks hn _ _ _⟩
  | _ => exact ⟨_, goroutines_setTasks hpresent _⟩

theorem Ran.goroutines_eq {self : Option (Nat × DeviceID)} {sent : Bool} {task : Task}
    {tasks : List Task} (h : Ran s self sent task s' tasks deliveries) :
    s'.goroutines = s.goroutines := by
  cases h with
  | @replied n =>
    cases sent
    · exact goroutines_closeNow _ n
    · rfl
  | @closedExpired cutoff => exact goroutines_closeExpired s cutoff
  | _ => rfl

/-- A goroutine with something to do is not changed by the steps of the others. -/
theorem Stepped.others_keep (h : Stepped s input s' deliveries) {i : Nat} {g : Goroutine}
    (hg : s.goroutines[i]? = some g) (htasks : g.tasks ≠ [])
    (hinput : input.goroutine ≠ some i) : s'.goroutines[i]? = some g := by
  have hset : ∀ {s' : Service} {j : Nat} {g' : Goroutine},
      s'.goroutines = s.goroutines.set j g' → j ≠ i → s'.goroutines[i]? = some g := by
    intro s' j g' hs' hne
    rw [hs', getElem?_set_ne hne]
    exact hg
  have hfree : ∀ {n : Nat} {connection : ClientConnection},
      s.connections[n]? = some connection → connection.tasks = [] → n + 1 ≠ i := by
    rintro n connection hn hnil rfl
    have heq := some.inj ((goroutines_connection hn).symm.trans hg)
    exact htasks (heq ▸ hnil)
  have hrun : ∀ {n : Nat}, some (n + 1) ≠ some i → n + 1 ≠ i := fun h heq => h (heq ▸ rfl)
  cases h with
  | idle => exact hg
  | connected =>
    have hlt := (List.getElem?_eq_some_iff.mp hg).1
    rw [goroutines, map_append, ← cons_append]
    exact (getElem?_append_left hlt).trans hg
  | refused hn _ hnil =>
    exact hset (goroutines_setTasks (goroutines_connection hn) _) (hfree hn hnil)
  | handled hn _ hnil _ h =>
    obtain ⟨g', hg'⟩ := h.goroutines_eq hn
    exact hset hg' (hfree hn hnil)
  | ran hn _ _ h =>
    have hpresent := goroutines_connection hn
    rw [← h.goroutines_eq] at hpresent
    have hgoroutines := goroutines_setTasks hpresent
    rw [h.goroutines_eq] at hgoroutines
    exact hset (hgoroutines _) (hrun hinput)
  | released => exact hset (goroutines_setConnection _ _ _) (hrun hinput)
  | ended => exact hset (goroutines_setConnection _ _ _) (hrun hinput)
  | stopped hn _ hnil => exact hset (goroutines_setConnection _ _ _) (hfree hn hnil)
  | abandoned hn _ hnil => exact hset (goroutines_setConnection _ _ _) (hfree hn hnil)
  | swept hnil =>
    refine hset (j := 0) rfl ?_
    rintro rfl
    exact htasks (some.inj hg ▸ hnil)
  | @sweeperRan _ _ rest s₁ tasks _ _ h =>
    have hgoroutines : goroutines { s₁ with sweeper := tasks ++ rest } =
        s.goroutines.set 0 { self := none, phase := .serving, tasks := tasks ++ rest } := by
      rw [← h.goroutines_eq]
      rfl
    exact hset hgoroutines fun heq => hinput (heq ▸ rfl)

/-- What has been attempted stays attempted. -/
theorem Stepped.attempts_stay (h : Stepped s input s' deliveries) {x : Nat × DeviceID}
    (hx : x ∈ s.attempts) : x ∈ s'.attempts := by
  have hran : ∀ {self sent task s₁ tasks}, Ran s self sent task s₁ tasks deliveries →
      x ∈ s₁.attempts := by
    intro self sent task s₁ tasks h
    rcases h.attempts_eq with heq | ⟨y, -, heq⟩
    · exact heq ▸ hx
    · exact heq ▸ mem_append_left _ hx
  cases h with
  | handled _ _ _ _ h => cases h <;> exact hx
  | ran _ _ _ h =>
    have hafter := hran h
    exact hafter
  | sweeperRan _ h =>
    have hafter := hran h
    exact hafter
  | _ => exact hx

end others

variable (text : CodeText) (options : Options)

/-- What has been attempted stays attempted over a run. -/
theorem attempts_stay {x : Nat × DeviceID} :
    ∀ (more : List Input) (s : Service), s.lifecycle.Valid → x ∈ s.attempts →
      x ∈ ((machine text options).run s more).attempts := by
  intro more
  induction more with
  | nil => exact fun _ _ hx => hx
  | cons input more ih =>
    intro s hs hx
    exact ih _ (step_valid text options hs input)
      ((step_stepped text options hs.indexed input).attempts_stay hx)

/-- A goroutine that keeps running attempts its notices. -/
theorem attempted_of_steps {i : Nat} {x : Nat × DeviceID} :
    ∀ (more : List Input) (s : Service) (g : Goroutine), s.lifecycle.Valid →
      s.goroutines[i]? = some g → Runs g → x ∈ g.notices →
      g.weight ≤ more.countP (fun input => input.goroutine = some i) →
      x ∈ ((machine text options).run s more).attempts := by
  intro more
  induction more with
  | nil =>
    intro s g hs hg hruns hx hweight
    obtain ⟨task, rest, hnext⟩ := exists_next hx
    have hpos : 0 < task.weight := by cases task <;> exact Nat.succ_pos _
    unfold Goroutine.weight at hweight
    rw [countP_nil, hnext, map_cons, sum_cons] at hweight
    omega
  | cons input more ih =>
    intro s g hs hg hruns hx hweight
    have hs' := step_valid text options hs input
    by_cases hinput : input.goroutine = some i
    · rw [countP_cons_of_pos (by simpa using hinput)] at hweight
      rcases notice_runs text options hg hinput hruns hx with
        hattempted | ⟨g', hg', hruns', hx', hless⟩
      · exact attempts_stay text options more _ hs' hattempted
      · exact ih _ g' hs' hg' hruns' hx' (by omega)
    · rw [countP_cons_of_neg (by simpa using hinput)] at hweight
      obtain ⟨task, rest, hnext⟩ := exists_next hx
      have htasks : g.tasks ≠ [] := hnext ▸ cons_ne_nil task rest
      exact ih _ g hs' ((step_stepped text options hs.indexed input).others_keep hg htasks hinput)
        hruns hx hweight

/-! ## Runs -/

variable {maxPerHost maxTotal : Int}

theorem new_accounted {s : Service} (h : new maxPerHost maxTotal = some s) : s.Accounted := by
  unfold new at h
  obtain ⟨store, -, rfl⟩ := map_eq_some_iff.mp h
  refine ⟨?_, fun x hx => absurd hx not_mem_nil, fun k removal hk => by cases hk⟩
  intro g hg
  rw [mem_singleton.mp hg]
  exact ⟨fun task htask => absurd htask not_mem_nil, nofun,
    fun _ => ⟨rfl, fun task htask => absurd htask not_mem_nil⟩⟩

/-- In every run in which no handler of a join removes a rendezvous because it could not reach
the Host: what leaves the store is recorded with the registered members, but for one that
disconnects; every attempt announces a recorded removal to its device; and every notice that is
owed has been attempted or is pending, once, and is attempted as its goroutine keeps running. -/
theorem closure_notices
    {s₀ : Service} (hnew : new maxPerHost maxTotal = some s₀) (inputs : List Input)
    (hguard : (machine text options).Guarded
      (fun s input => s.hostUnreached input = false) s₀ inputs) :
    (∀ o ∈ (machine text options).trace s₀ inputs,
      Records o.before o.after (o.before.disconnecting o.input)) ∧
    (∀ o ∈ (machine text options).trace s₀ inputs,
      o.after.attempts = o.before.attempts ∨
      ∃ k d i g task rest removal, o.after.attempts = o.before.attempts ++ [(k, d)] ∧
        o.input.goroutine = some i ∧ o.before.goroutines[i]? = some g ∧ g.tasks = task :: rest ∧
        o.before.removals[k]? = some removal ∧
        Announces g.self removal.rendezvous.id d task) ∧
    ∀ (k : Nat) (removal : Removal),
      ((machine text options).run s₀ inputs).removals[k]? = some removal →
      ∀ d ∈ removal.owed,
        ((machine text options).run s₀ inputs).attempts.count (k, d) +
            ((machine text options).run s₀ inputs).pending.count (k, d) = 1 ∧
        ∃ i bound, ∀ more : List Input,
          bound ≤ more.countP (fun input => input.goroutine = some i) →
          (k, d) ∈ ((machine text options).run s₀ (inputs ++ more)).attempts := by
  have hstep : ∀ (s : Service) (input : Input), s.lifecycle.Valid ∧ s.Accounted →
      s.hostUnreached input = false → ((machine text options).step s input).1.lifecycle.Valid ∧
        ((machine text options).step s input).1.Accounted := by
    rintro s input ⟨hvalid, hs⟩ hinput
    exact ⟨step_valid text options hvalid input,
      (step_stepped text options hvalid.indexed input).accounted hvalid hs hinput⟩
  have hstart := And.intro (new_valid hnew) (new_accounted hnew)
  refine ⟨?_, ?_, ?_⟩
  · intro o ho
    obtain ⟨⟨hvalid, -⟩, -, -, ho⟩ := Machine.trace_invariant
      (fun s : Service => s.lifecycle.Valid ∧ s.Accounted) hstep hstart hguard ho
    rw [ho]
    exact (step_stepped text options hvalid.indexed o.input).records hvalid.indexed
  · intro o ho
    obtain ⟨⟨hvalid, hs⟩, -, -, ho⟩ := Machine.trace_invariant
      (fun s : Service => s.lifecycle.Valid ∧ s.Accounted) hstep hstart hguard ho
    rw [ho]
    exact (step_stepped text options hvalid.indexed o.input).attempts_announce hs
  · intro k removal hk d hd
    obtain ⟨hvalid, hs⟩ := Machine.run_invariant
      (fun s : Service => s.lifecycle.Valid ∧ s.Accounted) hstep hstart hguard
    have honce := hs.once k removal hk d hd
    refine ⟨honce, ?_⟩
    by_cases hattempted : (k, d) ∈ ((machine text options).run s₀ inputs).attempts
    · refine ⟨0, 0, fun more _ => ?_⟩
      rw [Machine.run_append]
      exact attempts_stay text options more _ hvalid hattempted
    · have hpending : (k, d) ∈ ((machine text options).run s₀ inputs).pending := by
        rw [count_eq_zero_of_not_mem hattempted, Nat.zero_add] at honce
        exact count_pos_iff.mp (honce ▸ Nat.one_pos)
      obtain ⟨g, hg, hx⟩ := mem_flatMap.mp hpending
      obtain ⟨i, hi⟩ := mem_iff_getElem?.mp hg
      obtain ⟨task, rest, hnext⟩ := exists_next hx
      refine ⟨i, g.weight, fun more hmore => ?_⟩
      rw [Machine.run_append]
      exact attempted_of_steps text options more _ g hvalid hi
        ((hs.orderly g hg).runs (hnext ▸ cons_ne_nil task rest)) hx hmore

section samples

open RendezvousStore (sampleText sampleDevice)

/-- Device 2 has joined, device 1 completes the pairing, and both are told. -/
def sampleCompletion : List Input :=
  sampleOpening ++ sampleJoin ++
    [.receive 0 (sampleMessage (.completeRendezvous sampleRendezvousID.1 1)) 4 true,
      .proceed 0 true, .proceed 0 true]

theorem closure_notices_sample :
    new 2 3 = some sampleService ∧
      ((machine sampleText sampleOptions).run sampleService sampleCompletion).attempts.count
        (0, sampleDevice 2) = 1 := by
  have hnew : new 2 3 = some sampleService := rfl
  have hguard : (machine sampleText sampleOptions).Guarded
      (fun s input => s.hostUnreached input = false) sampleService sampleCompletion := by
    decide +kernel
  have hremoval : ((machine sampleText sampleOptions).run sampleService
      sampleCompletion).removals[0]?.map Removal.owed = some [sampleDevice 1, sampleDevice 2] := by
    decide +kernel
  have hpending : ((machine sampleText sampleOptions).run sampleService
      sampleCompletion).pending = [] := by decide +kernel
  obtain ⟨removal, hk, howed⟩ := map_eq_some_iff.mp hremoval
  have honce := ((closure_notices sampleText sampleOptions hnew sampleCompletion hguard).2.2 0
    removal hk (sampleDevice 2) (by rw [howed]; decide)).1
  rw [hpending, count_nil, Nat.add_zero] at honce
  exact ⟨hnew, honce⟩

/-- Device 2 joins, but the queue of device 1 is full. -/
def sampleUnreached : List Input :=
  sampleOpening ++
    [.receive 1 (sampleMessage (.joinRendezvousById sampleRendezvousID.1)) 3 true,
      .proceed 1 true, .proceed 1 false, .proceed 1 true, .proceed 1 true]

/-- The rendezvous is removed while device 1 is registered, and nothing is left to do, but device
1 is not told. -/
theorem host_not_told :
    let s := (machine sampleText sampleOptions).run sampleService sampleUnreached
    new 2 3 = some sampleService ∧
      s.rendezvous.byID.lookup sampleRendezvousID = none ∧
      s.removals.map Removal.owed = [[sampleDevice 1, sampleDevice 2]] ∧
      sampleDevice 1 ∈ s.presence ∧ s.pending = [] ∧
      s.attempts = [(0, sampleDevice 2)] := by
  refine ⟨rfl, ?_, ?_, ?_, ?_, ?_⟩ <;> decide +kernel

end samples

end handled

end goroutines

end Service

end Server

end Roammand
