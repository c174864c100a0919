import Mathlib.Algebra.Order.BigOperators.Group.Finset
import Mathlib.Algebra.Order.BigOperators.Group.List
import Roammand.Server.Transport

/-!
# The byte budgets over every interleaving

Whatever the order in which senders, writers, closing goroutines, reads and handlers take their
steps, the bytes that are used in a budget are those of the messages that are queued or being
handled and of the reads in progress, where a reservation that is being made or taken back counts
in the budgets that it holds at the moment.  From this sum it follows that no release can panic.

Main results:

- Definition `Transport.contribution`: what a connection holds in a budget.
- Definition `Transport.Accounts`: the invariant.
- Theorem `Transport.byte_accounting`: the invariant, the slots, the messages and the end of a
  connection over every run.
-/

namespace Roammand

namespace Server

open Library WriterState List Function Option

/-! ## Budgets -/

namespace Budgets

variable {o : TransportOptions} {g g' : Budgets} {b : Budget} {bytes : Int}

@[simp]
theorem used_sourceIP_insert (g : Budgets) (ip ip' : String) (usage : SourceIPUsage)
    (kind : BudgetKind) :
    used { g with sourceIPs := g.sourceIPs.insert ip usage } (.sourceIP ip' kind) =
      if ip' = ip then usage.bytes kind else g.used (.sourceIP ip' kind) := by
  simp only [used]
  rw [Table.lookup_insert]
  split_ifs <;> rfl

theorem connections_insert (g : Budgets) (ip ip' : String) (usage : SourceIPUsage) :
    connections { g with sourceIPs := g.sourceIPs.insert ip usage } ip' =
      if ip' = ip then usage.connections else g.connections ip' := by
  simp only [connections]
  rw [Table.lookup_insert]
  split_ifs <;> rfl

/-- A usage is written, or deleted when nothing is left of it: both read the same. -/
theorem used_deleteIdleSourceIP (g : Budgets) (ip ip' : String) (usage : SourceIPUsage)
    (kind : BudgetKind) :
    (g.deleteIdleSourceIP ip usage).used (.sourceIP ip' kind) =
      if ip' = ip then usage.bytes kind else g.used (.sourceIP ip' kind) := by
  unfold deleteIdleSourceIP
  by_cases hidle : usage.connections = 0 ∧ usage.bytes .outbound = 0 ∧
      usage.bytes .inFlightRead = 0
  · rw [if_pos hidle]
    simp only [used]
    rw [Table.lookup_erase]
    by_cases heq : ip' = ip
    · rw [if_pos heq, if_pos heq]
      cases kind with
      | outbound => exact hidle.2.1.symm
      | inFlightRead => exact hidle.2.2.symm
    · rw [if_neg heq, if_neg heq]
  · rw [if_neg hidle, used_sourceIP_insert]

theorem connections_deleteIdleSourceIP (g : Budgets) (ip ip' : String) (usage : SourceIPUsage) :
    (g.deleteIdleSourceIP ip usage).connections ip' =
      if ip' = ip then usage.connections else g.connections ip' := by
  unfold deleteIdleSourceIP
  by_cases hidle : usage.connections = 0 ∧ usage.bytes .outbound = 0 ∧
      usage.bytes .inFlightRead = 0
  · rw [if_pos hidle]
    simp only [connections]
    rw [Table.lookup_erase]
    by_cases heq : ip' = ip
    · rw [if_pos heq, if_pos heq]
      exact hidle.1.symm
    · rw [if_neg heq, if_neg heq]
  · rw [if_neg hidle, connections_insert]

theorem used_deleteIdle_of_not_sourceIP (g : Budgets) (ip : String) (usage : SourceIPUsage)
    (hb : ∀ ip kind, b ≠ .sourceIP ip kind) :
    (g.deleteIdleSourceIP ip usage).used b = g.used b := by
  unfold deleteIdleSourceIP
  cases b with
  | sourceIP ip kind => exact absurd rfl (hb ip kind)
  | connection | server => split_ifs <;> rfl

/-- What a change of one budget does. -/
structure Changes (g g' : Budgets) (b : Budget) (bytes : Int) : Prop where
  used : ∀ b', g'.used b' = g.used b' + if b' = b then bytes else 0
  connections : ∀ ip, g'.connections ip = g.connections ip

theorem update_update_apply (f : Nat → BudgetKind → Int) (id id' : Nat) (kind kind' : BudgetKind)
    (x : Int) :
    update f id (update (f id) kind (f id kind + x)) id' kind' =
      f id' kind' + if id' = id ∧ kind' = kind then x else 0 := by
  by_cases hid : id' = id
  · subst hid
    by_cases hkind : kind' = kind
    · subst hkind
      simp
    · simp [hkind]
  · simp [hid]

theorem connection_changes (id : Nat) (kind : BudgetKind) (x : Int) :
    Changes g { g with
      connectionUsed := update g.connectionUsed id
        (update (g.connectionUsed id) kind (g.connectionUsed id kind + x)) }
      (.connection id kind) x := by
  refine ⟨fun b' => ?_, fun _ => rfl⟩
  cases b' with
  | connection id' kind' =>
    simp only [used, Budget.connection.injEq]
    exact update_update_apply ..
  | sourceIP | server => simp [used]

theorem server_changes (kind : BudgetKind) (x : Int) :
    Changes g { g with serverUsed := update g.serverUsed kind (g.serverUsed kind + x) }
      (.server kind) x := by
  refine ⟨fun b' => ?_, fun _ => rfl⟩
  cases b' with
  | server kind' =>
    simp only [used, Budget.server.injEq]
    by_cases hkind : kind' = kind
    · subst hkind
      simp
    · simp [hkind]
  | sourceIP | connection => simp [used]

theorem sourceIP_changes {ip : String} {usage : SourceIPUsage}
    (hlookup : g.sourceIPs.lookup ip = some usage) (kind : BudgetKind) (x : Int)
    (hused : ∀ ip' kind', g'.used (.sourceIP ip' kind') =
      if ip' = ip then update usage.bytes kind (usage.bytes kind + x) kind'
      else g.used (.sourceIP ip' kind'))
    (hothers : ∀ b, (∀ ip kind, b ≠ .sourceIP ip kind) → g'.used b = g.used b)
    (hconnections : ∀ ip', g'.connections ip' =
      if ip' = ip then usage.connections else g.connections ip') :
    Changes g g' (.sourceIP ip kind) x := by
  refine ⟨fun b' => ?_, fun ip' => ?_⟩
  · cases b' with
    | sourceIP ip' kind' =>
      rw [hused]
      by_cases hip : ip' = ip
      · subst hip
        by_cases hkind : kind' = kind
        · subst hkind
          simp [used, hlookup]
        · simp [used, hlookup, hkind]
      · simp [hip]
    | connection | server =>
      rw [hothers _ (fun _ _ h => by cases h)]
      simp
  · rw [hconnections]
    by_cases hip : ip' = ip
    · subst hip
      simp [connections, hlookup]
    · rw [if_neg hip]

/-- A reservation is of its bytes and stays within the limit. -/
theorem tryReserve_eq_some (h : g.tryReserve o b bytes = some g') :
    0 ≤ bytes ∧ Changes g g' b bytes ∧ g'.used b ≤ o.limit b := by
  unfold tryReserve at h
  by_cases hneg : bytes < 0
  · rw [if_pos hneg] at h
    cases h
  · rw [if_neg hneg] at h
    have hbytes : 0 ≤ bytes := not_lt.mp hneg
    have hchanges : Changes g g' b bytes ∧ g.used b + bytes ≤ o.limit b := by
      cases b with
      | connection id kind =>
        dsimp only at h
        split_ifs at h with hlimit
        cases h
        refine ⟨connection_changes id kind bytes, ?_⟩
        simp only [used]
        omega
      | sourceIP ip kind =>
        dsimp only at h
        cases hlookup : g.sourceIPs.lookup ip with
        | none =>
          rw [hlookup] at h
          cases h
        | some usage =>
          rw [hlookup] at h
          dsimp only at h
          split_ifs at h with hlimit
          cases h
          refine ⟨sourceIP_changes hlookup kind bytes (fun _ _ => used_sourceIP_insert ..) ?_
            (fun _ => connections_insert ..), ?_⟩
          · intro b hb
            cases b with
            | sourceIP ip kind => exact absurd rfl (hb ip kind)
            | connection | server => rfl
          · simp only [used, hlookup, map_some, getD_some]
            omega
      | server kind =>
        dsimp only at h
        split_ifs at h with hlimit
        cases h
        refine ⟨server_changes kind bytes, ?_⟩
        simp only [used]
        omega
    refine ⟨hbytes, hchanges.1, ?_⟩
    rw [hchanges.1.used, if_pos rfl]
    exact hchanges.2

/-- A release of bytes that are in use succeeds. -/
theorem exists_release (hbytes : 0 < bytes) (hused : bytes ≤ g.used b) :
    ∃ g', g.release b bytes = some g' ∧ Changes g g' b (-bytes) := by
  cases b with
  | connection id kind =>
    have hpanic : ¬ (bytes < 0 ∨ bytes > g.connectionUsed id kind) := by
      simp only [used] at hused
      omega
    simp only [release]
    rw [if_neg hpanic]
    refine ⟨_, rfl, ?_⟩
    rw [sub_eq_add_neg]
    exact connection_changes id kind (-bytes)
  | sourceIP ip kind =>
    simp only [release]
    cases hlookup : g.sourceIPs.lookup ip with
    | none =>
      simp only [used, hlookup, map_none, getD_none] at hused
      omega
    | some usage =>
      have hpanic : ¬ (bytes < 0 ∨ bytes > usage.bytes kind) := by
        simp only [used, hlookup, map_some, getD_some] at hused
        omega
      dsimp only
      rw [if_neg hpanic]
      refine ⟨_, rfl, ?_⟩
      rw [sub_eq_add_neg]
      exact sourceIP_changes hlookup kind (-bytes) (fun _ _ => used_deleteIdleSourceIP ..)
        (fun _ hb => used_deleteIdle_of_not_sourceIP _ _ _ hb)
        (fun _ => connections_deleteIdleSourceIP ..)
  | server kind =>
    have hpanic : ¬ (bytes < 0 ∨ bytes > g.serverUsed kind) := by
      simp only [used] at hused
      omega
    simp only [release]
    rw [if_neg hpanic]
    refine ⟨_, rfl, ?_⟩
    rw [sub_eq_add_neg]
    exact server_changes kind (-bytes)

/-- Acquiring a slot takes it and no bytes. -/
theorem acquireIPConnection_spec (g : Budgets) (ip : String) :
    (∀ b, (g.acquireIPConnection o ip).1.used b = g.used b) ∧
      ∀ ip', (g.acquireIPConnection o ip).1.connections ip' = g.connections ip' +
        if (g.acquireIPConnection o ip).2 = true ∧ ip' = ip then 1 else 0 := by
  set usage := (g.sourceIPs.lookup ip).getD { connections := 0, bytes := fun _ => 0 } with husage
  have hbytes : ∀ kind, g.used (.sourceIP ip kind) = usage.bytes kind := by
    intro kind
    rw [husage, used]
    cases g.sourceIPs.lookup ip <;> rfl
  have hcount : g.connections ip = usage.connections := by
    rw [husage, connections]
    cases g.sourceIPs.lookup ip <;> rfl
  have hused : ∀ n b, used { g with
      sourceIPs := g.sourceIPs.insert ip { usage with connections := n } } b = g.used b := by
    intro n b
    cases b with
    | sourceIP ip' kind =>
      rw [used_sourceIP_insert]
      by_cases heq : ip' = ip
      · rw [if_pos heq, heq, hbytes]
      · rw [if_neg heq]
    | connection | server => rfl
  unfold acquireIPConnection
  rw [← husage]
  by_cases hfull : o.maxConnectionsPerIP ≤ usage.connections
  · simp only [if_pos hfull]
    refine ⟨hused usage.connections, fun ip' => ?_⟩
    rw [connections_insert]
    by_cases heq : ip' = ip
    · simp [heq, hcount]
    · simp [heq]
  · simp only [if_neg hfull]
    refine ⟨hused _, fun ip' => ?_⟩
    rw [connections_insert]
    by_cases heq : ip' = ip
    · simp [heq, hcount]
    · simp [heq]

/-- A slot that is taken can be given back. -/
theorem exists_releaseIPConnection {ip : String} (h : 0 < g.connections ip) :
    ∃ g', g.releaseIPConnection ip = some g' ∧ (∀ b, g'.used b = g.used b) ∧
      ∀ ip', g'.connections ip' + (if ip' = ip then 1 else 0) = g.connections ip' := by
  unfold releaseIPConnection
  cases hlookup : g.sourceIPs.lookup ip with
  | none =>
    simp only [connections, hlookup, map_none, getD_none] at h
    omega
  | some usage =>
    have hcount : g.connections ip = usage.connections := by
      simp [connections, hlookup]
    dsimp only
    rw [if_neg (by omega)]
    refine ⟨_, rfl, fun b => ?_, fun ip' => ?_⟩
    · cases b with
      | sourceIP ip' kind =>
        rw [used_deleteIdleSourceIP]
        by_cases heq : ip' = ip
        · subst heq
          simp [used, hlookup]
        · rw [if_neg heq]
      | connection | server => exact used_deleteIdle_of_not_sourceIP _ _ _ (by simp)
    · rw [connections_deleteIdleSourceIP]
      by_cases heq : ip' = ip
      · rw [if_pos heq, if_pos heq, heq]
        dsimp only
        omega
      · rw [if_neg heq, if_neg heq]
        rfl

end Budgets

/-! ## What is held in a budget -/

/-- What a reservation that holds the first `held` budgets contributes to a budget. -/
def share (budgets : List Budget) (held : Nat) (bytes : Int) (b : Budget) : Int :=
  if b ∈ budgets.take held then bytes else 0

section shares

variable {budgets : List Budget} {held id : Nat} {bytes : Int} {b : Budget} {ip : String}
variable {kind : BudgetKind}

/-- No share is negative. -/
theorem share_nonneg (h : 0 ≤ bytes) : 0 ≤ share budgets held bytes b := by
  unfold share
  split_ifs
  · exact h
  · exact le_rfl

theorem share_zero : share budgets 0 bytes b = 0 := by
  simp [share]

/-- One more budget is held. -/
theorem share_succ {last : Budget} (h : (budgetsOf id ip kind)[held]? = some last) (bytes : Int)
    (b : Budget) :
    share (budgetsOf id ip kind) (held + 1) bytes b =
      share (budgetsOf id ip kind) held bytes b + if b = last then bytes else 0 := by
  have hnodup : (budgetsOf id ip kind).Nodup := by simp [budgetsOf]
  have hlast : last ∉ (budgetsOf id ip kind).take held := by
    intro hmem
    obtain ⟨i, hi, hmem⟩ := mem_take_iff_getElem.mp hmem
    obtain ⟨hlt, heq⟩ := List.getElem?_eq_some_iff.mp h
    have hsame : i = held := hnodup.getElem_inj_iff.mp (hmem.trans heq.symm)
    omega
  unfold share
  rw [take_add_one, h]
  by_cases heq : b = last
  · subst heq
    simp [hlast]
  · simp [heq]

end shares

/-- The message that a goroutine has in its hands, with the number of budgets that are held. -/
abbrev Hand := Option (OutboundMessage × Nat)

/-- The message of a goroutine that closes. -/
def Closing.hand : Closing → Hand
  | .draining (.taken message) => some (message, 3)
  | .draining (.completing message held) => some (message, held)
  | _ => none

/-- The message of a writer. -/
def WriterState.hand : WriterState → Hand
  | .taken message => some (message, 3)
  | .checking message => some (message, 3)
  | .writing message => some (message, 3)
  | .completing message _ _ held => some (message, held)
  | _ => none

/-- What a message in the hands of a goroutine contributes to a budget. -/
def handShare (budgets : List Budget) (b : Budget) : Hand → Int
  | none => 0
  | some (message, held) => share budgets held message.reservation b

/-- What a reservation in progress contributes to a budget. -/
def reservationShare (budgets : List Budget) (b : Budget) : Option Reservation → Int
  | none => 0
  | some r => share budgets r.held r.bytes b

/-- What the messages of the queue contribute to a budget. -/
def queueShare (budgets : List Budget) (b : Budget) (outbound : List OutboundMessage) : Int :=
  (outbound.map fun message => share budgets 3 message.reservation b).sum

/-- What a read contributes to a budget. -/
def readShare (o : TransportOptions) (budgets : List Budget) (b : Budget) : Reading → Int
  | .reserving r => share budgets r.held r.bytes b
  | .reading => share budgets 3 (o.maxFrameBytes + 1) b
  | .releasing held => share budgets held (o.maxFrameBytes + 1) b

/-- What the outbound messages of a connection contribute to a budget. -/
def outboundShare (id : Nat) (c : Connection) (b : Budget) : Int :=
  reservationShare (budgetsOf id c.remoteIP .outbound) b c.enqueuing +
    queueShare (budgetsOf id c.remoteIP .outbound) b c.outbound +
    handShare (budgetsOf id c.remoteIP .outbound) b c.closing.hand +
    handShare (budgetsOf id c.remoteIP .outbound) b c.writer.hand

/-- What the reads of a connection contribute to a budget. -/
def readsShare (o : TransportOptions) (id : Nat) (c : Connection) (b : Budget) : Int :=
  (c.reads.map (readShare o (budgetsOf id c.remoteIP .inFlightRead) b)).sum

/-- What a connection contributes to a budget. -/
def contribution (o : TransportOptions) (id : Nat) (c : Connection) (b : Budget) : Int :=
  outboundShare id c b + readsShare o id c b

/-! ## Slots and messages -/

/-- A goroutine that closes has a slot to give back. -/
def Closing.slots : Closing → Nat
  | .draining (.taken _) => 1
  | _ => 0

/-- A writer has a slot to give back. -/
def WriterState.slots : WriterState → Nat
  | .taken _ => 1
  | _ => 0

/-- The slots that goroutines have taken and neither used nor given back. -/
def reservedSlots (c : Connection) : Nat :=
  c.waiting.length + (if c.enqueuing.isSome then 1 else 0) + c.closing.slots + c.writer.slots

/-- The number of the message in the hands of a goroutine. -/
def handNumbers (hand : Hand) : List Nat := (hand.map fun (message, _) => message.number).toList

/-- The message that the writer has written and not yet completed. -/
def WriterState.writtenNumbers : WriterState → List Nat
  | .completing message false _ _ => [message.number]
  | _ => []

/-- How often a message is in the queue or in the hands of a goroutine. -/
def unfinished (c : Connection) (number : Nat) : Nat :=
  (c.outbound.map OutboundMessage.number).count number + (handNumbers c.closing.hand).count number +
    (handNumbers c.writer.hand).count number

/-- A reservation in progress holds some of its budgets, and has changed these only. -/
structure Sound (budgets : List Budget) (bytes : Int) (r : Reservation) : Prop where
  bytes_eq : r.bytes = bytes
  held_le : r.held ≤ 3
  net : ∀ b, r.net b = share budgets r.held r.bytes b

/-- A message in the hands of a goroutine has bytes, and holds some of its budgets. -/
def HandSound (hand : Hand) : Prop :=
  ∀ message held, hand = some (message, held) → 0 < message.reservation ∧ held ≤ 3

/-- A read is sound. -/
def ReadSound (o : TransportOptions) (budgets : List Budget) : Reading → Prop
  | .reserving r => Sound budgets (o.maxFrameBytes + 1) r
  | .reading => True
  | .releasing held => held ≤ 3

/-- The invariant of one connection. -/
structure ConnectionSound (o : TransportOptions) (id : Nat) (c : Connection) : Prop where
  slots : c.outboundSlots + reservedSlots c + c.outbound.length = o.outboundQueueCapacity
  waiting : ∀ bytes ∈ c.waiting, 0 < bytes
  enqueuing : ∀ r, c.enqueuing = some r →
    0 < r.bytes ∧ Sound (budgetsOf id c.remoteIP .outbound) r.bytes r
  outbound : ∀ message ∈ c.outbound, 0 < message.reservation
  closingHand : HandSound c.closing.hand
  writerHand : HandSound c.writer.hand
  reads : ∀ r ∈ c.reads, ReadSound o (budgetsOf id c.remoteIP .inFlightRead) r
  locked : c.closing.locks = true → c.enqueuing = none
  closed : c.closing = .notClosed ∨ c.closed = true
  refused : c.closed = true → ∀ r, c.enqueuing = some r → r.failed = true ∧ r.held = 0
  drained : c.closing = .finished → c.outbound = []
  numbers : ∀ number, unfinished c number + (c.completed.map Prod.fst).count number =
    if number < c.sent then 1 else 0
  written : ∀ number, c.written.count number =
    c.completed.count (number, false) + c.writer.writtenNumbers.count number
  returned : c.writer = .returned → c.closing = .finished

namespace Transport

/-! ## The invariant -/

/-- One for an open connection of an address. -/
def openFor (ip : String) (c : Connection) : Int :=
  if c.remoteIP = ip ∧ c.released = false then 1 else 0

/-- The invariant of the connections and the budgets they share. -/
structure Accounts (o : TransportOptions) (t : Transport) : Prop where
  used : ∀ b, t.budgets.used b =
    ∑ id ∈ Finset.range t.accepted, contribution o id (t.connections id) b
  limit : ∀ b, t.budgets.used b ≤ o.limit b
  connections : ∀ ip, (t.budgets.connections ip : Int) =
    ∑ id ∈ Finset.range t.accepted, openFor ip (t.connections id)
  sound : ∀ id < t.accepted, ConnectionSound o id (t.connections id)
  running : t.panicked = false

section invariant

variable {o : TransportOptions} {t : Transport} {id : Nat} {c : Connection}

/-- A sum over the connections, one of which changes. -/
theorem sum_update (f : Nat → Connection → Int)
    (connections : Nat → Connection) {n id : Nat} (hid : id < n) (c : Connection) :
    ∑ i ∈ Finset.range n, f i (update connections id c i) =
      (∑ i ∈ Finset.range n, f i (connections i)) + (f id c - f id (connections id)) := by
  have hmem : id ∈ Finset.range n := Finset.mem_range.mpr hid
  rw [← Finset.add_sum_erase _ _ hmem, ← Finset.add_sum_erase _ (fun i => f i (connections i)) hmem,
    update_self]
  have hrest : ∑ i ∈ (Finset.range n).erase id, f i (update connections id c i) =
      ∑ i ∈ (Finset.range n).erase id, f i (connections i) := by
    apply Finset.sum_congr rfl
    intro i hi
    rw [update_of_ne (Finset.ne_of_mem_erase hi)]
  rw [hrest]
  omega

/-- A connection and the budgets change together. -/
theorem Accounts.put (h : Accounts o t) (hid : id < t.accepted) {g : Budgets}
    (hused : ∀ b, g.used b =
      t.budgets.used b + (contribution o id c b - contribution o id (t.connections id) b))
    (hlimit : ∀ b, g.used b ≤ o.limit b)
    (hconnections : ∀ ip, (g.connections ip : Int) = t.budgets.connections ip +
      (openFor ip c - openFor ip (t.connections id)))
    (hsound : ConnectionSound o id c) : Accounts o (t.put g id c) := by
  refine ⟨fun b => ?_, hlimit, fun ip => ?_, fun id' hid' => ?_, h.running⟩
  · simp only [Transport.put]
    rw [hused, h.used]
    exact (sum_update (fun id c => contribution o id c b) t.connections hid c).symm
  · simp only [Transport.put]
    rw [hconnections, h.connections]
    exact (sum_update (fun _ c => openFor ip c) t.connections hid c).symm
  · simp only [Transport.put]
    by_cases heq : id' = id
    · subst heq
      rw [update_self]
      exact hsound
    · rw [update_of_ne heq]
      exact h.sound id' hid'

/-- A connection changes, and what it holds does not. -/
theorem Accounts.set (h : Accounts o t) (hid : id < t.accepted)
    (hcontribution : ∀ b, contribution o id c b = contribution o id (t.connections id) b)
    (hremote : c.remoteIP = (t.connections id).remoteIP)
    (hreleased : c.released = (t.connections id).released)
    (hsound : ConnectionSound o id c) : Accounts o (t.set id c) := by
  apply h.put hid ?_ h.limit ?_ hsound
  · intro b
    rw [hcontribution, sub_self, add_zero]
  · intro ip
    rw [openFor, openFor, hremote, hreleased, sub_self, add_zero]

/-- A connection and one budget change together. -/
theorem Accounts.change (h : Accounts o t) (hid : id < t.accepted) {g : Budgets} {last : Budget}
    {bytes : Int} (hchanges : t.budgets.Changes g last bytes)
    (hcontribution : ∀ b, contribution o id c b =
      contribution o id (t.connections id) b + if b = last then bytes else 0)
    (hlimit : bytes ≤ 0 ∨ g.used last ≤ o.limit last)
    (hremote : c.remoteIP = (t.connections id).remoteIP)
    (hreleased : c.released = (t.connections id).released)
    (hsound : ConnectionSound o id c) : Accounts o (t.put g id c) := by
  apply h.put hid ?_ ?_ ?_ hsound
  · intro b
    rw [hchanges.used, hcontribution, add_sub_cancel_left]
  · intro b
    by_cases heq : b = last
    · subst heq
      rcases hlimit with hneg | hle
      · rw [hchanges.used, if_pos rfl]
        exact (add_le_of_nonpos_right hneg).trans (h.limit b)
      · exact hle
    · rw [hchanges.used, if_neg heq, add_zero]
      exact h.limit b
  · intro ip
    rw [openFor, openFor, hremote, hreleased, sub_self, add_zero, hchanges.connections]

/-! ### No contribution is negative -/

theorem handShare_nonneg (budgets : List Budget) {hand : Hand} (h : HandSound hand) (b : Budget) :
    0 ≤ handShare budgets b hand := by
  cases hand with
  | none => exact le_rfl
  | some pair => exact share_nonneg (h pair.1 pair.2 rfl).1.le

theorem readShare_nonneg {budgets : List Budget} {r : Reading}
    (h : ReadSound o budgets r) (b : Budget) : 0 ≤ readShare o budgets b r := by
  have hbytes : (0 : Int) ≤ o.maxFrameBytes + 1 := by omega
  cases r with
  | reserving r =>
    apply share_nonneg
    rw [h.bytes_eq]
    exact hbytes
  | reading | releasing => exact share_nonneg hbytes

section nonneg

variable (hsound : ConnectionSound o id c) (b : Budget)

include hsound

theorem reservationShare_nonneg :
    0 ≤ reservationShare (budgetsOf id c.remoteIP .outbound) b c.enqueuing := by
  cases hr : c.enqueuing with
  | none => exact le_rfl
  | some r => exact share_nonneg (hsound.enqueuing r hr).1.le

theorem queueShare_nonneg :
    0 ≤ queueShare (budgetsOf id c.remoteIP .outbound) b c.outbound := by
  apply sum_nonneg
  intro x hx
  obtain ⟨message, hmessage, rfl⟩ := mem_map.mp hx
  exact share_nonneg (hsound.outbound message hmessage).le

theorem readsShare_nonneg : 0 ≤ readsShare o id c b := by
  apply sum_nonneg
  intro x hx
  obtain ⟨r, hr, rfl⟩ := mem_map.mp hx
  exact readShare_nonneg (hsound.reads r hr) b

/-- A connection holds no negative number of bytes. -/
theorem contribution_nonneg : 0 ≤ contribution o id c b := by
  have henqueuing := reservationShare_nonneg hsound b
  have hqueue := queueShare_nonneg hsound b
  have hclosing := handShare_nonneg (budgetsOf id c.remoteIP .outbound)
    hsound.closingHand b
  have hwriter := handShare_nonneg (budgetsOf id c.remoteIP .outbound)
    hsound.writerHand b
  have hreads := readsShare_nonneg hsound b
  unfold contribution outboundShare
  omega

end nonneg

/-- What a connection holds in a budget is in use there. -/
theorem Accounts.contribution_le (h : Accounts o t) (hid : id < t.accepted) (b : Budget) :
    contribution o id (t.connections id) b ≤ t.budgets.used b := by
  rw [h.used]
  apply Finset.single_le_sum (f := fun id => contribution o id (t.connections id) b)
  · intro id' hid'
    exact contribution_nonneg (h.sound id' (Finset.mem_range.mp hid')) b
  · exact Finset.mem_range.mpr hid

/-- A release of what a connection holds does not panic. -/
theorem Accounts.exists_release (h : Accounts o t) (hid : id < t.accepted) {kind : BudgetKind}
    {bytes : Int} {held : Nat} (hbytes : 0 < bytes) (hheld : held ≠ 0 ∧ held ≤ 3)
    (hholds : ∀ b, share (t.budgetsFor id kind) held bytes b ≤
      contribution o id (t.connections id) b) :
    ∃ last g, (t.budgetsFor id kind)[held - 1]? = some last ∧
      releaseLast t.budgets (t.budgetsFor id kind) bytes held = some g ∧
      t.budgets.Changes g last (-bytes) := by
  obtain ⟨hzero, hle⟩ := hheld
  have hlt : held - 1 < (t.budgetsFor id kind).length := by
    change held - 1 < 3
    omega
  obtain ⟨last, hlast⟩ : ∃ last, (t.budgetsFor id kind)[held - 1]? = some last :=
    ⟨_, getElem?_eq_getElem hlt⟩
  have hshare : share (t.budgetsFor id kind) held bytes last =
      share (t.budgetsFor id kind) (held - 1) bytes last + bytes := by
    have hsucc : held = held - 1 + 1 := by omega
    have hshare := share_succ hlast bytes last
    rw [if_pos rfl, ← hsucc] at hshare
    exact hshare
  have hused : bytes ≤ t.budgets.used last := by
    have hin := (hholds last).trans (h.contribution_le hid last)
    have hrest : 0 ≤ share (t.budgetsFor id kind) (held - 1) bytes last := share_nonneg hbytes.le
    omega
  obtain ⟨g, hrelease, hchanges⟩ := Budgets.exists_release hbytes hused
  refine ⟨last, g, hlast, ?_, hchanges⟩
  rw [releaseLast, hlast]
  exact hrelease

/-! ### Steps -/

theorem Accounts.takeSlot (h : Accounts o t) (hid : id < t.accepted) {bytes : Int}
    (hbytes : 0 < bytes) : Accounts o (t.takeSlot id bytes) := by
  have hsound := h.sound id hid
  unfold Transport.takeSlot
  dsimp only
  by_cases hslot : 0 < (t.connections id).outboundSlots
  · rw [if_pos hslot]
    refine h.set hid (fun _ => rfl) rfl rfl { hsound with slots := ?_, waiting := ?_ }
    · have hslots := hsound.slots
      simp only [reservedSlots, length_append, length_singleton] at hslots ⊢
      omega
    · intro bytes' hmem
      rcases mem_append.mp hmem with hmem | hmem
      · exact hsound.waiting bytes' hmem
      · rw [mem_singleton.mp hmem]
        exact hbytes
  · rw [if_neg hslot]
    exact h

theorem sound_start {budgets : List Budget} {bytes : Int} {failed : Bool} :
    Sound budgets bytes { Reservation.start bytes with failed } := by
  refine ⟨rfl, Nat.zero_le 3, fun b => ?_⟩
  exact share_zero.symm

/-- Waiting for the queue changes no account. -/
theorem Accounts.lockQueue (h : Accounts o t) (hid : id < t.accepted) (waiter : Nat) :
    Accounts o (t.lockQueue id waiter) := by
  have hsound := h.sound id hid
  unfold Transport.lockQueue
  dsimp only
  by_cases hfree : (t.connections id).enqueuing.isNone = true ∧
      (t.connections id).closing.locks = false
  · rw [if_pos hfree]
    obtain ⟨hnone, hlock⟩ := hfree
    rw [isNone_iff_eq_none] at hnone
    cases hwaiter : (t.connections id).waiting[waiter]? with
    | none => exact h
    | some bytes =>
      have hmem : bytes ∈ (t.connections id).waiting := mem_of_getElem? hwaiter
      have hlt : waiter < (t.connections id).waiting.length :=
        (List.getElem?_eq_some_iff.mp hwaiter).1
      refine h.set hid ?_ rfl rfl
        { hsound with slots := ?_, waiting := ?_, enqueuing := ?_, locked := ?_, refused := ?_ }
      · intro b
        simp only [contribution, outboundShare, readsShare, hnone, reservationShare]
        rw [show (Reservation.start bytes).held = 0 from rfl, share_zero]
      · have hslots := hsound.slots
        simp only [reservedSlots, hnone, length_eraseIdx_of_lt hlt] at hslots ⊢
        simp only [isSome_none, isSome_some] at hslots ⊢
        simp only [if_true, Bool.false_eq_true, if_false] at hslots ⊢
        omega
      · intro bytes' hmem'
        exact hsound.waiting bytes' (mem_of_mem_eraseIdx hmem')
      · rintro r hr
        cases hr
        exact ⟨hsound.waiting bytes hmem, sound_start⟩
      · intro hlock'
        rw [hlock] at hlock'
        cases hlock'
      · intro hclosed r hr
        cases hr
        exact ⟨hclosed, rfl⟩
  · rw [if_neg hfree]
    exact h

/-- One budget less is held. -/
theorem share_pred {ip : String} {kind : BudgetKind} {held : Nat} {bytes : Int} {last : Budget}
    (hheld : held ≠ 0) (hlast : (budgetsOf id ip kind)[held - 1]? = some last) (b : Budget) :
    share (budgetsOf id ip kind) (held - 1) bytes b =
      share (budgetsOf id ip kind) held bytes b + if b = last then -bytes else 0 := by
  have hsucc : held = held - 1 + 1 := by omega
  have hshare := share_succ hlast bytes b
  rw [← hsucc] at hshare
  by_cases heq : b = last
  · rw [if_pos heq] at hshare ⊢
    omega
  · rw [if_neg heq] at hshare ⊢
    omega

/-- The next step of a reservation, whether it succeeds or fails. -/
theorem reserveNext_spec {ip : String} {kind : BudgetKind} {g : Budgets} {bytes : Int}
    {r : Reservation} (hr : Sound (budgetsOf id ip kind) bytes r)
    (hheld : r.held < (budgetsOf id ip kind).length) :
    (r.reserveNext o g (budgetsOf id ip kind) = (g, { r with failed := true })) ∨
      ∃ last g' r', r.reserveNext o g (budgetsOf id ip kind) = (g', r') ∧
        g.Changes g' last r.bytes ∧ g'.used last ≤ o.limit last ∧
        r'.bytes = r.bytes ∧ r'.failed = r.failed ∧ Sound (budgetsOf id ip kind) bytes r' ∧
        ∀ b, share (budgetsOf id ip kind) r'.held r'.bytes b =
          share (budgetsOf id ip kind) r.held r.bytes b + if b = last then r.bytes else 0 := by
  obtain ⟨last, hlast⟩ : ∃ last, (budgetsOf id ip kind)[r.held]? = some last :=
    ⟨_, getElem?_eq_getElem hheld⟩
  unfold Reservation.reserveNext
  rw [hlast]
  dsimp only
  cases hreserve : g.tryReserve o last r.bytes with
  | none => exact .inl rfl
  | some g' =>
    right
    obtain ⟨-, hchanges, hlimit⟩ := Budgets.tryReserve_eq_some hreserve
    have hshare : ∀ b, share (budgetsOf id ip kind) (r.held + 1) r.bytes b =
        share (budgetsOf id ip kind) r.held r.bytes b + if b = last then r.bytes else 0 :=
      fun b => share_succ hlast r.bytes b
    refine ⟨last, g', _, rfl, hchanges, hlimit, rfl, rfl, ⟨hr.bytes_eq, ?_, fun b => ?_⟩, hshare⟩
    · exact hheld
    · change r.net b + (g'.used b - g.used b) = _
      rw [hshare, hr.net, hchanges.used, add_sub_cancel_left]

/-- The next step of a rollback. -/
theorem Accounts.rollBackNext (h : Accounts o t) (hid : id < t.accepted) {kind : BudgetKind}
    {bytes : Int} {r : Reservation} (hbytes : 0 < r.bytes) (hheld : r.held ≠ 0)
    (hr : Sound (t.budgetsFor id kind) bytes r)
    (hholds : ∀ b, share (t.budgetsFor id kind) r.held r.bytes b ≤
      contribution o id (t.connections id) b) :
    ∃ last g r', r.rollBackNext t.budgets (t.budgetsFor id kind) = some (g, r') ∧
      t.budgets.Changes g last (-r.bytes) ∧ r'.bytes = r.bytes ∧ r'.failed = r.failed ∧
      Sound (t.budgetsFor id kind) bytes r' ∧
      ∀ b, share (t.budgetsFor id kind) r'.held r'.bytes b =
        share (t.budgetsFor id kind) r.held r.bytes b + if b = last then -r.bytes else 0 := by
  obtain ⟨last, g, hlast, hrelease, hchanges⟩ :=
    h.exists_release hid hbytes ⟨hheld, hr.held_le⟩ hholds
  have hshare : ∀ b, share (t.budgetsFor id kind) (r.held - 1) r.bytes b =
      share (t.budgetsFor id kind) r.held r.bytes b + if b = last then -r.bytes else 0 :=
    fun b => share_pred hheld hlast b
  unfold Reservation.rollBackNext
  rw [hrelease]
  refine ⟨last, g, _, rfl, hchanges, rfl, rfl, ⟨hr.bytes_eq, ?_, fun b => ?_⟩, hshare⟩
  · exact (Nat.sub_le _ _).trans hr.held_le
  · change r.net b + (g.used b - t.budgets.used b) = _
    rw [hshare, hr.net, hchanges.used, add_sub_cancel_left]

/-- The reservation of the sender that holds the lock makes progress. -/
theorem contribution_enqueuing {r r' : Reservation} (hr : c.enqueuing = some r) {b : Budget}
    {x : Int} (hshare : share (budgetsOf id c.remoteIP .outbound) r'.held r'.bytes b =
      share (budgetsOf id c.remoteIP .outbound) r.held r.bytes b + x) :
    contribution o id { c with enqueuing := some r' } b = contribution o id c b + x := by
  simp only [contribution, outboundShare, readsShare, hr, reservationShare]
  omega

/-- What is reserved is part of what the connection holds. -/
theorem reservationShare_le (hsound : ConnectionSound o id c) (b : Budget) :
    reservationShare (budgetsOf id c.remoteIP .outbound) b c.enqueuing ≤
      contribution o id c b := by
  have hqueue := queueShare_nonneg hsound b
  have hclosing := handShare_nonneg (budgetsOf id c.remoteIP .outbound)
    hsound.closingHand b
  have hwriter := handShare_nonneg (budgetsOf id c.remoteIP .outbound)
    hsound.writerHand b
  have hreads := readsShare_nonneg hsound b
  unfold contribution outboundShare
  omega

/-- A message in the queue keeps its reservation. -/
theorem Accounts.enqueue (h : Accounts o t) (hid : id < t.accepted) :
    Accounts o (t.enqueue o id) := by
  have hsound := h.sound id hid
  have hslots := hsound.slots
  unfold Transport.enqueue
  dsimp only
  cases henqueuing : (t.connections id).enqueuing with
  | none => exact h
  | some r =>
    obtain ⟨hbytes, hr⟩ := hsound.enqueuing r henqueuing
    have hlock : (t.connections id).closing.locks = false := by
      cases hlocks : (t.connections id).closing.locks with
      | false => rfl
      | true =>
        have hnone := hsound.locked hlocks
        rw [henqueuing] at hnone
        cases hnone
    simp only [reservedSlots, henqueuing, isSome_some, if_true] at hslots
    dsimp only
    by_cases hfailed : r.failed = true
    · rw [if_pos hfailed]
      by_cases hheld : r.held = 0
      · rw [if_pos hheld]
        by_cases hroom : (t.connections id).outboundSlots < o.outboundQueueCapacity
        · rw [if_pos hroom]
          refine h.set hid ?_ rfl rfl
            { hsound with
              slots := ?_
              enqueuing := nofun
              locked := fun _ => rfl
              refused := fun _ => nofun }
          · intro b
            simp only [contribution, outboundShare, readsShare, henqueuing, reservationShare]
            rw [hheld, share_zero]
          · simp only [reservedSlots, isSome_none, Bool.false_eq_true, if_false]
            omega
        · rw [if_neg hroom]
          exact h
      · rw [if_neg hheld]
        have hholds : ∀ b, share (t.budgetsFor id .outbound) r.held r.bytes b ≤
            contribution o id (t.connections id) b := by
          intro b
          have hle := reservationShare_le hsound b
          rw [henqueuing] at hle
          exact hle
        obtain ⟨last, g, r', hnext, hchanges, hbytes', hfailed', hr', hshare⟩ :=
          h.rollBackNext hid hbytes hheld hr hholds
        rw [hnext]
        refine h.change hid hchanges (fun b => contribution_enqueuing henqueuing (hshare b))
          (.inl (neg_nonpos.mpr hbytes.le)) rfl rfl
          { hsound with slots := ?_, enqueuing := ?_, locked := ?_, refused := ?_ }
        · simp only [reservedSlots, isSome_some, if_true]
          exact hslots
        · rintro r'' hr''
          cases hr''
          rw [hbytes']
          exact ⟨hbytes, hr'⟩
        · intro hlocks
          rw [hlock] at hlocks
          cases hlocks
        · intro hclosed
          exact absurd (hsound.refused hclosed r henqueuing).2 hheld
    · rw [if_neg hfailed]
      have hopen : (t.connections id).closed = false := by
        cases hclosed : (t.connections id).closed with
        | false => rfl
        | true => exact absurd (hsound.refused hclosed r henqueuing).1 hfailed
      by_cases hheld : r.held < (t.budgetsFor id .outbound).length
      · rw [if_pos hheld]
        rcases reserveNext_spec (o := o) (g := t.budgets) hr hheld with
          hnext | ⟨last, g, r', hnext, hchanges, hlimit, hbytes', hfailed', hr', hshare⟩
        · rw [show r.reserveNext o t.budgets (t.budgetsFor id .outbound) = _ from hnext]
          refine h.set hid ?_ rfl rfl
            { hsound with slots := ?_, enqueuing := ?_, locked := ?_, refused := ?_ }
          · intro b
            simp only [contribution, outboundShare, readsShare, henqueuing, reservationShare]
          · simp only [reservedSlots, isSome_some, if_true]
            exact hslots
          · rintro r'' hr''
            cases hr''
            exact ⟨hbytes, hr.bytes_eq, hr.held_le, hr.net⟩
          · intro hlocks
            rw [hlock] at hlocks
            cases hlocks
          · intro hclosed
            rw [hopen] at hclosed
            cases hclosed
        · rw [show r.reserveNext o t.budgets (t.budgetsFor id .outbound) = _ from hnext]
          refine h.change hid hchanges (fun b => contribution_enqueuing henqueuing (hshare b))
            (.inr hlimit) rfl rfl
            { hsound with slots := ?_, enqueuing := ?_, locked := ?_, refused := ?_ }
          · simp only [reservedSlots, isSome_some, if_true]
            exact hslots
          · rintro r'' hr''
            cases hr''
            rw [hbytes']
            exact ⟨hbytes, hr'⟩
          · intro hlocks
            rw [hlock] at hlocks
            cases hlocks
          · intro hclosed
            rw [hopen] at hclosed
            cases hclosed
      · rw [if_neg hheld]
        have hall : r.held = 3 := by
          have hle := hr.held_le
          change ¬ r.held < 3 at hheld
          omega
        have hclosing : (t.connections id).closing = .notClosed := by
          rcases hsound.closed with hclosing | hclosed
          · exact hclosing
          · rw [hopen] at hclosed
            cases hclosed
        by_cases hroom : (t.connections id).outbound.length < o.outboundQueueCapacity
        · rw [if_pos hroom]
          refine h.set hid ?_ rfl rfl
            { hsound with
              slots := ?_
              enqueuing := nofun
              outbound := ?_
              locked := fun _ => rfl
              refused := fun _ => nofun
              drained := ?_
              numbers := ?_ }
          · intro b
            simp only [contribution, outboundShare, readsShare, henqueuing, reservationShare,
              queueShare, map_append, sum_append, map_cons, map_nil,
              sum_cons, sum_nil]
            rw [hall]
            omega
          · simp only [reservedSlots, isSome_none, Bool.false_eq_true, if_false,
              length_append, length_singleton]
            omega
          · intro message hmessage
            rcases mem_append.mp hmessage with hmessage | hmessage
            · exact hsound.outbound message hmessage
            · rw [mem_singleton.mp hmessage]
              exact hbytes
          · intro hfinished
            rw [hclosing] at hfinished
            cases hfinished
          · intro number
            have hnumbers := hsound.numbers number
            simp only [unfinished, map_append, count_append, map_cons,
              map_nil, count_singleton, beq_iff_eq] at hnumbers ⊢
            split_ifs at hnumbers ⊢ <;> omega
        · rw [if_neg hroom]
          exact h

/-- A connection that begins to close holds what it held. -/
theorem Accounts.closeConnection (h : Accounts o t) (hid : id < t.accepted) :
    Accounts o (t.closeConnection id) := by
  have hsound := h.sound id hid
  unfold Transport.closeConnection
  dsimp only
  cases hclosing : (t.connections id).closing with
  | draining | finished => exact h
  | notClosed =>
    by_cases hnone : (t.connections id).enqueuing.isNone = true
    · dsimp only
      rw [if_pos hnone]
      rw [isNone_iff_eq_none] at hnone
      refine h.set hid ?_ rfl rfl
        { hsound with
          slots := ?_
          closingHand := nofun
          locked := fun _ => hnone
          closed := .inr rfl
          refused := ?_
          drained := nofun
          numbers := ?_
          returned := ?_ }
      · intro b
        simp only [contribution, outboundShare, readsShare, hclosing]
        rfl
      · have hslots := hsound.slots
        simp only [reservedSlots, hclosing] at hslots ⊢
        exact hslots
      · intro _ r hr
        rw [hnone] at hr
        cases hr
      · intro number
        have hnumbers := hsound.numbers number
        simp only [unfinished, hclosing] at hnumbers ⊢
        exact hnumbers
      · intro hreturned
        have hfinished := hsound.returned hreturned
        rw [hclosing] at hfinished
        cases hfinished
    · dsimp only
      rw [if_neg hnone]
      exact h

/-- So is the message in the hand of the close. -/
theorem closingShare_le (hsound : ConnectionSound o id c) (b : Budget) :
    handShare (budgetsOf id c.remoteIP .outbound) b c.closing.hand ≤ contribution o id c b := by
  have henqueuing := reservationShare_nonneg hsound b
  have hqueue := queueShare_nonneg hsound b
  have hwriter := handShare_nonneg (budgetsOf id c.remoteIP .outbound)
    hsound.writerHand b
  have hreads := readsShare_nonneg hsound b
  unfold contribution outboundShare
  omega

/-- So is the message in the hand of the writer. -/
theorem writerShare_le (hsound : ConnectionSound o id c) (b : Budget) :
    handShare (budgetsOf id c.remoteIP .outbound) b c.writer.hand ≤ contribution o id c b := by
  have henqueuing := reservationShare_nonneg hsound b
  have hqueue := queueShare_nonneg hsound b
  have hclosing := handShare_nonneg (budgetsOf id c.remoteIP .outbound)
    hsound.closingHand b
  have hreads := readsShare_nonneg hsound b
  unfold contribution outboundShare
  omega

theorem handSound_pred {message : OutboundMessage} {held : Nat}
    (h : HandSound (some (message, held))) : HandSound (some (message, held - 1)) := by
  rintro message' held' heq
  cases heq
  exact ⟨(h message held rfl).1, (Nat.sub_le _ _).trans (h message held rfl).2⟩

/-- The close gives the bytes of a message back, one budget after the other. -/
theorem Accounts.drain (h : Accounts o t) (hid : id < t.accepted) :
    Accounts o (t.drain o id) := by
  have hsound := h.sound id hid
  have hslots := hsound.slots
  have hhand := hsound.closingHand
  unfold Transport.drain
  dsimp only
  cases hclosing : (t.connections id).closing with
  | notClosed | finished => exact h
  | draining draining =>
    have hnone : (t.connections id).enqueuing = none := hsound.locked (by rw [hclosing]; rfl)
    have hclosed : (t.connections id).closed = true := by
      rcases hsound.closed with hopen | hclosed
      · rw [hclosing] at hopen
        cases hopen
      · exact hclosed
    have hwriter : (t.connections id).writer ≠ .returned := by
      intro hreturned
      have hfinished := hsound.returned hreturned
      rw [hclosing] at hfinished
      cases hfinished
    rw [hclosing] at hhand
    cases draining with
    | next =>
      cases houtbound : (t.connections id).outbound with
      | nil =>
        refine h.set hid ?_ rfl rfl
          { hsound with
            slots := ?_
            outbound := nofun
            closingHand := nofun
            locked := nofun
            closed := .inr hclosed
            drained := fun _ => rfl
            numbers := ?_
            returned := fun _ => rfl }
        · intro b
          simp only [contribution, outboundShare, readsShare, hclosing, houtbound]
          rfl
        · simp only [reservedSlots, hclosing, houtbound] at hslots ⊢
          exact hslots
        · intro number
          have hnumbers := hsound.numbers number
          simp only [unfinished, hclosing, houtbound] at hnumbers ⊢
          exact hnumbers
      | cons message rest =>
        refine h.set hid ?_ rfl rfl
          { hsound with
            slots := ?_
            outbound := ?_
            closingHand := ?_
            locked := fun _ => hnone
            closed := .inr hclosed
            drained := nofun
            numbers := ?_
            returned := fun hreturned => absurd hreturned hwriter }
        · intro b
          simp only [contribution, outboundShare, readsShare, hclosing, houtbound,
            queueShare, map_cons, sum_cons, Closing.hand, handShare]
          omega
        · simp only [reservedSlots, hclosing, houtbound, Closing.slots, length_cons] at hslots ⊢
          omega
        · intro message' hmessage'
          apply hsound.outbound
          rw [houtbound]
          exact mem_cons_of_mem _ hmessage'
        · rintro message' held heq
          cases heq
          refine ⟨hsound.outbound message ?_, le_rfl⟩
          rw [houtbound]
          exact mem_cons_self ..
        · intro number
          have hnumbers := hsound.numbers number
          simp only [unfinished, hclosing, houtbound, map_cons, count_cons,
            Closing.hand, handNumbers, map_none, toList_none, map_some,
            toList_some, count_nil] at hnumbers ⊢
          omega
    | taken message =>
      by_cases hroom : (t.connections id).outboundSlots < o.outboundQueueCapacity
      · dsimp only
        rw [if_pos hroom]
        refine h.set hid ?_ rfl rfl
          { hsound with
            slots := ?_
            closingHand := hhand
            locked := fun _ => hnone
            closed := .inr hclosed
            drained := nofun
            numbers := ?_
            returned := fun hreturned => absurd hreturned hwriter }
        · intro b
          simp only [contribution, outboundShare, readsShare, hclosing]
          rfl
        · simp only [reservedSlots, hclosing, Closing.slots] at hslots ⊢
          omega
        · intro number
          have hnumbers := hsound.numbers number
          simp only [unfinished, hclosing] at hnumbers ⊢
          exact hnumbers
      · dsimp only
        rw [if_neg hroom]
        exact h
    | completing message held =>
      obtain ⟨hbytes, hle⟩ := hhand message held rfl
      by_cases hheld : held = 0
      · dsimp only
        rw [if_pos hheld]
        refine h.set hid ?_ rfl rfl
          { hsound with
            slots := ?_
            closingHand := nofun
            locked := fun _ => hnone
            closed := .inr hclosed
            drained := nofun
            numbers := ?_
            written := ?_
            returned := fun hreturned => absurd hreturned hwriter }
        · intro b
          simp only [contribution, outboundShare, readsShare, hclosing, Closing.hand, handShare]
          rw [hheld, share_zero]
        · simp only [reservedSlots, hclosing, Closing.slots] at hslots ⊢
          exact hslots
        · intro number
          have hnumbers := hsound.numbers number
          simp only [unfinished, hclosing, Closing.hand, handNumbers, map_none,
            toList_none, map_some, toList_some, count_nil,
            map_append, count_append, map_cons, map_nil] at hnumbers ⊢
          omega
        · intro number
          rw [hsound.written number, count_append]
          simp
      · dsimp only
        rw [if_neg hheld]
        have hholds : ∀ b, share (t.budgetsFor id .outbound) held message.reservation b ≤
            contribution o id (t.connections id) b := by
          intro b
          have hholds := closingShare_le hsound b
          rw [hclosing] at hholds
          exact hholds
        obtain ⟨last, g, hlast, hrelease, hchanges⟩ :=
          h.exists_release hid hbytes ⟨hheld, hle⟩ hholds
        rw [hrelease]
        refine h.change hid hchanges ?_ (.inl (neg_nonpos.mpr hbytes.le)) rfl rfl
          { hsound with
            slots := ?_
            closingHand := handSound_pred hhand
            locked := fun _ => hnone
            closed := .inr hclosed
            drained := nofun
            numbers := ?_
            returned := fun hreturned => absurd hreturned hwriter }
        · intro b
          simp only [contribution, outboundShare, readsShare, hclosing, Closing.hand, handShare]
          rw [share_pred hheld hlast]
          omega
        · simp only [reservedSlots, hclosing, Closing.slots] at hslots ⊢
          exact hslots
        · intro number
          have hnumbers := hsound.numbers number
          simp only [unfinished, hclosing] at hnumbers ⊢
          exact hnumbers

/-- The writer takes a message over with its bytes. -/
theorem Accounts.receive (h : Accounts o t) (hid : id < t.accepted) :
    Accounts o (t.receive id) := by
  have hsound := h.sound id hid
  have hslots := hsound.slots
  unfold Transport.receive
  dsimp only
  cases hwriter : (t.connections id).writer with
  | waiting =>
    cases houtbound : (t.connections id).outbound with
    | nil => exact h
    | cons message rest =>
      refine h.set hid ?_ rfl rfl
        { hsound with
          slots := ?_
          outbound := ?_
          writerHand := ?_
          drained := ?_
          numbers := ?_
          written := ?_
          returned := nofun }
      · intro b
        simp only [contribution, outboundShare, readsShare, hwriter, houtbound, queueShare,
          map_cons, sum_cons, hand, handShare]
        omega
      · simp only [reservedSlots, hwriter, houtbound, slots, length_cons] at hslots ⊢
        omega
      · intro message' hmessage'
        apply hsound.outbound
        rw [houtbound]
        exact mem_cons_of_mem _ hmessage'
      · rintro message' held heq
        cases heq
        refine ⟨hsound.outbound message ?_, le_rfl⟩
        rw [houtbound]
        exact mem_cons_self ..
      · intro hfinished
        have hempty := hsound.drained hfinished
        rw [houtbound] at hempty
        cases hempty
      · intro number
        have hnumbers := hsound.numbers number
        simp only [unfinished, hwriter, houtbound, map_cons, count_cons,
          hand, handNumbers, map_none, toList_none, map_some,
          toList_some, count_nil] at hnumbers ⊢
        omega
      · intro number
        have hwritten := hsound.written number
        rw [hwriter] at hwritten
        exact hwritten
  | taken | checking | writing | completing | stopping | returned => exact h

/-- The writer goes on with the same message, or with none. -/
theorem Accounts.setWriter (h : Accounts o t) (hid : id < t.accepted) {writer : WriterState}
    (hhand : writer.hand = (t.connections id).writer.hand)
    (hslots : writer.slots = (t.connections id).writer.slots)
    (hwritten : writer.writtenNumbers = (t.connections id).writer.writtenNumbers)
    (hreturned : writer = .returned → (t.connections id).closing = .finished) :
    Accounts o (t.set id { t.connections id with writer }) := by
  have hsound := h.sound id hid
  refine h.set hid ?_ rfl rfl
    { hsound with
      slots := ?_
      writerHand := ?_
      numbers := ?_
      written := ?_
      returned := hreturned }
  · intro b
    simp only [contribution, outboundShare, readsShare, hhand]
  · have hslots' := hsound.slots
    simp only [reservedSlots, hslots] at hslots' ⊢
    exact hslots'
  · rw [hhand]
    exact hsound.writerHand
  · intro number
    have hnumbers := hsound.numbers number
    simp only [unfinished, hhand] at hnumbers ⊢
    exact hnumbers
  · intro number
    rw [hwritten]
    exact hsound.written number

/-- A writer stops with nothing in its hand. -/
theorem Accounts.stopWriter (h : Accounts o t) (hid : id < t.accepted) :
    Accounts o (t.stopWriter id) := by
  unfold Transport.stopWriter
  dsimp only
  cases hwriter : (t.connections id).writer with
  | waiting =>
    exact h.setWriter hid (by rw [hwriter]; rfl) (by rw [hwriter]; rfl) (by rw [hwriter]; rfl)
      nofun
  | taken | checking | writing | completing | stopping | returned => exact h

/-- A message stays in the hand of the writer until its bytes are back. -/
theorem Accounts.write (h : Accounts o t) (hid : id < t.accepted) (ok : Bool) :
    Accounts o (t.write id ok) := by
  have hsound := h.sound id hid
  unfold Transport.write
  dsimp only
  cases hwriter : (t.connections id).writer with
  | writing message =>
    cases ok with
    | false =>
      exact h.setWriter hid (by rw [hwriter]; rfl) (by rw [hwriter]; rfl)
        (by rw [hwriter]; rfl) nofun
    | true =>
      refine h.set hid ?_ rfl rfl
        { hsound with
          slots := ?_
          writerHand := ?_
          numbers := ?_
          written := ?_
          returned := nofun }
      · intro b
        simp only [contribution, outboundShare, readsShare, hwriter]
        rfl
      · have hslots := hsound.slots
        simp only [reservedSlots, hwriter] at hslots ⊢
        exact hslots
      · have hhand := hsound.writerHand
        rw [hwriter] at hhand
        exact hhand
      · intro number
        have hnumbers := hsound.numbers number
        simp only [unfinished, hwriter] at hnumbers ⊢
        exact hnumbers
      · intro number
        have hwritten := hsound.written number
        rw [hwriter] at hwritten
        simp only [writtenNumbers, count_append, count_nil] at hwritten ⊢
        omega
  | waiting | taken | checking | completing | stopping | returned => exact h

/-- A turn of the writer keeps the accounts. -/
theorem Accounts.runWriter (h : Accounts o t) (hid : id < t.accepted) :
    Accounts o (t.runWriter o id) := by
  have hsound := h.sound id hid
  have hslots := hsound.slots
  have hhand := hsound.writerHand
  unfold Transport.runWriter
  dsimp only
  cases hwriter : (t.connections id).writer with
  | waiting | writing | returned => exact h
  | taken message =>
    rw [hwriter] at hhand
    by_cases hroom : (t.connections id).outboundSlots < o.outboundQueueCapacity
    · dsimp only
      rw [if_pos hroom]
      refine h.set hid ?_ rfl rfl
        { hsound with
          slots := ?_
          writerHand := hhand
          numbers := ?_
          written := ?_
          returned := nofun }
      · intro b
        simp only [contribution, outboundShare, readsShare, hwriter]
        rfl
      · simp only [reservedSlots, hwriter, slots] at hslots ⊢
        omega
      · intro number
        have hnumbers := hsound.numbers number
        simp only [unfinished, hwriter] at hnumbers ⊢
        exact hnumbers
      · intro number
        have hwritten := hsound.written number
        rw [hwriter] at hwritten
        exact hwritten
    · dsimp only
      rw [if_neg hroom]
      exact h
  | checking message =>
    by_cases hclosed : (t.connections id).closed = true
    · dsimp only
      rw [if_pos hclosed]
      exact h.setWriter hid (by rw [hwriter]; rfl) (by rw [hwriter]; rfl) (by rw [hwriter]; rfl)
        nofun
    · dsimp only
      rw [if_neg hclosed]
      exact h.setWriter hid (by rw [hwriter]; rfl) (by rw [hwriter]; rfl) (by rw [hwriter]; rfl)
        nofun
  | stopping =>
    dsimp only
    cases hclosing : (t.connections id).closing with
    | notClosed | draining => exact h
    | finished =>
      have hreturn : Accounts o (t.set id { t.connections id with writer := .returned }) :=
        h.setWriter hid (by rw [hwriter]; rfl) (by rw [hwriter]; rfl) (by rw [hwriter]; rfl)
          (fun _ => hclosing)
      dsimp only at hreturn
      rw [hclosing] at hreturn
      exact hreturn
  | completing message error stop held =>
    rw [hwriter] at hhand
    obtain ⟨hbytes, hle⟩ := hhand message held rfl
    by_cases hheld : held = 0
    · dsimp only
      rw [if_pos hheld]
      have hnext : (if stop = true then stopping else .waiting).hand = none ∧
          (if stop = true then stopping else .waiting).slots = 0 ∧
          (if stop = true then stopping else .waiting).writtenNumbers = [] ∧
          (if stop = true then stopping else .waiting) ≠ .returned := by
        cases stop <;> exact ⟨rfl, rfl, rfl, nofun⟩
      obtain ⟨hnone, hnoSlots, hnoNumbers, hrunning⟩ := hnext
      refine h.set hid ?_ rfl rfl
        { hsound with
          slots := ?_
          writerHand := ?_
          numbers := ?_
          written := ?_
          returned := fun hreturned => absurd hreturned hrunning }
      · intro b
        simp only [contribution, outboundShare, readsShare, hwriter, hnone]
        simp only [hand, handShare]
        rw [hheld, share_zero]
      · simp only [reservedSlots, hwriter, hnoSlots] at hslots ⊢
        exact hslots
      · rw [hnone]
        nofun
      · intro number
        have hnumbers := hsound.numbers number
        simp only [unfinished, hwriter, hnone] at hnumbers ⊢
        simp only [hand, handNumbers, map_none,
          toList_none, map_some, toList_some, count_nil,
          map_append, count_append, map_cons, map_nil] at hnumbers ⊢
        omega
      · intro number
        have hwritten := hsound.written number
        rw [hwriter] at hwritten
        rw [hwritten, hnoNumbers, count_append]
        cases error with
        | true => simp [writtenNumbers]
        | false =>
          simp only [writtenNumbers, count_singleton, count_nil,
            beq_iff_eq, Prod.mk.injEq, and_true, add_zero]
    · dsimp only
      rw [if_neg hheld]
      have hholds : ∀ b, share (t.budgetsFor id .outbound) held message.reservation b ≤
          contribution o id (t.connections id) b := by
        intro b
        have hholds := writerShare_le hsound b
        rw [hwriter] at hholds
        exact hholds
      obtain ⟨last, g, hlast, hrelease, hchanges⟩ :=
        h.exists_release hid hbytes ⟨hheld, hle⟩ hholds
      rw [hrelease]
      refine h.change hid hchanges ?_ (.inl (neg_nonpos.mpr hbytes.le)) rfl rfl
        { hsound with
          slots := ?_
          writerHand := handSound_pred hhand
          numbers := ?_
          written := ?_
          returned := nofun }
      · intro b
        simp only [contribution, outboundShare, readsShare, hwriter, hand, handShare]
        rw [share_pred hheld hlast]
        omega
      · simp only [reservedSlots, hwriter, slots] at hslots ⊢
        exact hslots
      · intro number
        have hnumbers := hsound.numbers number
        simp only [unfinished, hwriter] at hnumbers ⊢
        exact hnumbers
      · intro number
        have hwritten := hsound.written number
        rw [hwriter] at hwritten
        rw [hwritten]
        cases error <;> rfl

/-- The reads of a connection change. -/
theorem sound_reads (hsound : ConnectionSound o id c) {reads : List Reading}
    (hreads : ∀ one ∈ reads, ReadSound o (budgetsOf id c.remoteIP .inFlightRead) one) :
    ConnectionSound o id { c with reads } :=
  { hsound with reads := hreads }

/-- A read reserves its bytes. -/
theorem Accounts.read (h : Accounts o t) (hid : id < t.accepted) : Accounts o (t.read o id) := by
  have hsound := h.sound id hid
  unfold Transport.read
  refine h.set hid ?_ rfl rfl (sound_reads hsound ?_)
  · intro b
    simp only [contribution, outboundShare, readsShare, map_append, sum_append,
      map_cons, map_nil, sum_cons, sum_nil, readShare]
    rw [show (Reservation.start (o.maxFrameBytes + 1)).held = 0 from rfl, share_zero]
    omega
  · intro one hone
    rcases mem_append.mp hone with hone | hone
    · exact hsound.reads one hone
    · rw [mem_singleton.mp hone]
      exact sound_start

section reads

variable {index : Nat} {one one' : Reading}

theorem sound_set (hsound : ConnectionSound o id c)
    (hone' : ReadSound o (budgetsOf id c.remoteIP .inFlightRead) one') :
    ConnectionSound o id { c with reads := c.reads.set index one' } := by
  apply sound_reads hsound
  intro one hone
  rcases mem_or_eq_of_mem_set hone with hone | rfl
  · exact hsound.reads one hone
  · exact hone'

theorem sound_eraseIdx (hsound : ConnectionSound o id c) (index : Nat) :
    ConnectionSound o id { c with reads := c.reads.eraseIdx index } := by
  apply sound_reads hsound
  intro one hone
  exact hsound.reads one (mem_of_mem_eraseIdx hone)

theorem contribution_set (hone : c.reads[index]? = some one) (b : Budget) :
    contribution o id { c with reads := c.reads.set index one' } b =
      contribution o id c b + (readShare o (budgetsOf id c.remoteIP .inFlightRead) b one' -
        readShare o (budgetsOf id c.remoteIP .inFlightRead) b one) := by
  obtain ⟨hlt, heq⟩ := List.getElem?_eq_some_iff.mp hone
  simp only [contribution, outboundShare, readsShare]
  rw [map_set, sum_set']
  simp only [length_map, hlt, dif_pos, getElem_map, heq]
  omega

theorem contribution_eraseIdx (hone : c.reads[index]? = some one) (b : Budget) :
    contribution o id { c with reads := c.reads.eraseIdx index } b =
      contribution o id c b - readShare o (budgetsOf id c.remoteIP .inFlightRead) b one := by
  obtain ⟨hlt, heq⟩ := List.getElem?_eq_some_iff.mp hone
  simp only [contribution, outboundShare, readsShare]
  have hlt' : index <
      (c.reads.map (readShare o (budgetsOf id c.remoteIP .inFlightRead) b)).length := by
    rw [length_map]
    exact hlt
  have hsum := CommMonoid.add_sum_eraseIdx hlt'
  rw [getElem_map, heq, eraseIdx_map] at hsum
  omega

/-- So is a read. -/
theorem readShare_le (hsound : ConnectionSound o id c) (hone : c.reads[index]? = some one)
    (b : Budget) :
    readShare o (budgetsOf id c.remoteIP .inFlightRead) b one ≤ contribution o id c b := by
  have hrest := contribution_nonneg (sound_eraseIdx hsound index) b
  rw [contribution_eraseIdx hone] at hrest
  omega

/-- A step of a read keeps the accounts. -/
theorem Accounts.readStep (h : Accounts o t) (hid : id < t.accepted) (index : Nat) :
    Accounts o (t.readStep o id index) := by
  have hsound := h.sound id hid
  have hbytes : (0 : Int) < o.maxFrameBytes + 1 := by omega
  unfold Transport.readStep
  dsimp only
  cases hone : (t.connections id).reads[index]? with
  | none => exact h
  | some one =>
    have hmem : one ∈ (t.connections id).reads := mem_of_getElem? hone
    have hone' := hsound.reads one hmem
    have hholds := readShare_le hsound hone
    cases one with
    | reserving r =>
      have hpos : 0 < r.bytes := by
        rw [hone'.bytes_eq]
        exact hbytes
      dsimp only
      by_cases hfailed : r.failed = true
      · rw [if_pos hfailed]
        by_cases hheld : r.held = 0
        · rw [if_pos hheld]
          refine h.set hid ?_ rfl rfl (sound_eraseIdx hsound index)
          intro b
          rw [contribution_eraseIdx hone, readShare, hheld, share_zero, sub_zero]
        · rw [if_neg hheld]
          obtain ⟨last, g, r', hnext, hchanges, -, -, hr', hshare⟩ :=
            h.rollBackNext hid hpos hheld hone' hholds
          rw [hnext]
          refine h.change hid hchanges ?_ (.inl (neg_nonpos.mpr hpos.le)) rfl rfl
            (sound_set hsound hr')
          intro b
          have hshare' := hshare b
          rw [contribution_set hone]
          simp only [readShare]
          unfold Transport.budgetsFor at hshare'
          omega
      · rw [if_neg hfailed]
        by_cases hheld : r.held < (t.budgetsFor id .inFlightRead).length
        · rw [if_pos hheld]
          rcases reserveNext_spec (o := o) (g := t.budgets) hone' hheld with
            hnext | ⟨last, g, r', hnext, hchanges, hlimit, -, -, hr', hshare⟩
          · rw [show r.reserveNext o t.budgets (t.budgetsFor id .inFlightRead) = _ from hnext]
            refine h.set hid ?_ rfl rfl (sound_set hsound
              ⟨hone'.bytes_eq, hone'.held_le, hone'.net⟩)
            intro b
            rw [contribution_set hone]
            simp only [readShare]
            omega
          · rw [show r.reserveNext o t.budgets (t.budgetsFor id .inFlightRead) = _ from hnext]
            refine h.change hid hchanges ?_ (.inr hlimit) rfl rfl (sound_set hsound hr')
            intro b
            have hshare' := hshare b
            rw [contribution_set hone]
            simp only [readShare]
            omega
        · rw [if_neg hheld]
          have hall : r.held = 3 := by
            have hle := hone'.held_le
            change ¬ r.held < 3 at hheld
            omega
          refine h.set hid ?_ rfl rfl (sound_set hsound trivial)
          intro b
          rw [contribution_set hone]
          simp only [readShare]
          rw [hall, hone'.bytes_eq]
          omega
    | reading =>
      refine h.set hid ?_ rfl rfl (sound_set hsound (le_refl 3))
      intro b
      rw [contribution_set hone]
      simp only [readShare]
      omega
    | releasing held =>
      dsimp only
      by_cases hheld : held = 0
      · rw [if_pos hheld]
        refine h.set hid ?_ rfl rfl (sound_eraseIdx hsound index)
        intro b
        rw [contribution_eraseIdx hone, readShare, hheld, share_zero, sub_zero]
      · rw [if_neg hheld]
        obtain ⟨last, g, hlast, hrelease, hchanges⟩ :=
          h.exists_release hid hbytes ⟨hheld, hone'⟩ hholds
        rw [hrelease]
        refine h.change hid hchanges ?_ (.inl (neg_nonpos.mpr hbytes.le)) rfl rfl
          (sound_set hsound ((Nat.sub_le _ _).trans hone'))
        intro b
        rw [contribution_set hone]
        simp only [readShare]
        rw [share_pred hheld hlast]
        omega

end reads

/-- A connection that has ended gives its slots back. -/
theorem Accounts.releaseConnection (h : Accounts o t) (hid : id < t.accepted) :
    Accounts o (t.releaseConnection id) := by
  have hsound := h.sound id hid
  unfold Transport.releaseConnection
  dsimp only
  cases hreleased : (t.connections id).released with
  | true => exact h
  | false =>
    rw [if_neg Bool.false_ne_true]
    have hopen : openFor (t.connections id).remoteIP (t.connections id) = 1 :=
      if_pos ⟨rfl, hreleased⟩
    have hcount : 0 < t.budgets.connections (t.connections id).remoteIP := by
      have hle : openFor (t.connections id).remoteIP (t.connections id) ≤
          ∑ id' ∈ Finset.range t.accepted,
            openFor (t.connections id).remoteIP (t.connections id') := by
        apply Finset.single_le_sum
          (f := fun id' => openFor (t.connections id).remoteIP (t.connections id'))
        · intro id' _
          unfold openFor
          split_ifs <;> decide
        · exact Finset.mem_range.mpr hid
      rw [← h.connections, hopen] at hle
      omega
    obtain ⟨g, hrelease, hused, hconnections⟩ := Budgets.exists_releaseIPConnection hcount
    rw [hrelease]
    refine h.put hid ?_ ?_ ?_ { hsound with }
    · intro b
      rw [hused]
      exact (add_eq_left.mpr (sub_self _)).symm
    · intro b
      rw [hused]
      exact h.limit b
    · intro ip
      have hconnections' := hconnections ip
      simp only [openFor, hreleased]
      by_cases heq : ip = (t.connections id).remoteIP
      · rw [if_pos heq] at hconnections'
        simp only [heq, and_true, if_true, Bool.true_eq_false, and_false, if_false]
        rw [heq] at hconnections'
        omega
      · rw [if_neg heq] at hconnections'
        simp only [Ne.symm heq, false_and, if_false]
        omega

theorem contribution_new (ip : String) (b : Budget) :
    contribution o id (Connection.new o ip) b = 0 := rfl

theorem sound_new (ip : String) : ConnectionSound o id (Connection.new o ip) where
  slots := rfl
  waiting := nofun
  enqueuing := nofun
  outbound := nofun
  closingHand := nofun
  writerHand := nofun
  reads := nofun
  locked := nofun
  closed := .inl rfl
  refused := nofun
  drained := nofun
  numbers := fun _ => rfl
  written := fun _ => rfl
  returned := nofun

/-- A new connection holds slots and no bytes. -/
theorem Accounts.accept (h : Accounts o t) (ip : String) : Accounts o (t.accept o ip) := by
  obtain ⟨hused, hconnections⟩ := Budgets.acquireIPConnection_spec (o := o) t.budgets ip
  unfold Transport.accept
  rcases hacquire : t.budgets.acquireIPConnection o ip with ⟨g, acquired⟩
  rw [hacquire] at hused hconnections
  dsimp only at hused hconnections
  cases acquired with
  | false =>
    refine ⟨fun b => (hused b).trans (h.used b), fun b => (hused b).trans_le (h.limit b),
      fun ip' => ?_, h.sound, h.running⟩
    rw [hconnections]
    simpa using h.connections ip'
  | true =>
    have hsame : ∀ (f : Nat → Connection → Int), ∑ id ∈ Finset.range (t.accepted + 1),
        f id (update t.connections t.accepted (Connection.new o ip) id) =
        (∑ id ∈ Finset.range t.accepted, f id (t.connections id)) +
          f t.accepted (Connection.new o ip) := by
      intro f
      rw [Finset.sum_range_succ, update_self]
      congr 1
      apply Finset.sum_congr rfl
      intro id hid
      rw [update_of_ne (Finset.mem_range.mp hid).ne]
    refine ⟨fun b => ?_, fun b => (hused b).trans_le (h.limit b), fun ip' => ?_,
      fun id hid => ?_, h.running⟩
    · dsimp only
      rw [hsame fun id c => contribution o id c b, contribution_new, add_zero, hused, h.used]
    · dsimp only
      rw [hsame fun _ c => openFor ip' c, hconnections, Nat.cast_add, h.connections]
      congr 1
      simp only [openFor, Connection.new, true_and, and_true]
      by_cases heq : ip' = ip
      · rw [if_pos heq, if_pos heq.symm]
        rfl
      · rw [if_neg heq, if_neg (Ne.symm heq)]
        rfl
    · dsimp only
      by_cases heq : id = t.accepted
      · rw [heq, update_self]
        exact sound_new ip
      · rw [update_of_ne heq]
        exact h.sound id (by dsimp only at hid; omega)

/-- The step is not one of an empty message. -/
def Input.nonEmpty : Input → Bool
  | .takeSlot _ bytes => decide (0 < bytes)
  | _ => true

/-- Every step keeps the accounts. -/
theorem Accounts.step (h : Accounts o t) {input : Input} (hinput : input.nonEmpty = true) :
    Accounts o (t.step o input) := by
  unfold Transport.step
  by_cases hskip : (t.panicked || input.connection?.any fun id => decide (t.accepted ≤ id)) = true
  · rw [if_pos hskip]
    exact h
  · rw [if_neg hskip]
    have hid : ∀ id, input.connection? = some id → id < t.accepted := by
      intro id hid
      by_contra hle
      apply hskip
      simp [hid, not_lt.mp hle]
    cases input with
    | accept ip => exact h.accept ip
    | releaseConnection id => exact h.releaseConnection (hid id rfl)
    | takeSlot id bytes => exact h.takeSlot (hid id rfl) (of_decide_eq_true hinput)
    | lockQueue id waiter => exact h.lockQueue (hid id rfl) waiter
    | enqueue id => exact h.enqueue (hid id rfl)
    | closeConnection id => exact h.closeConnection (hid id rfl)
    | drain id => exact h.drain (hid id rfl)
    | receive id => exact h.receive (hid id rfl)
    | stopWriter id => exact h.stopWriter (hid id rfl)
    | write id ok => exact h.write (hid id rfl) ok
    | runWriter id => exact h.runWriter (hid id rfl)
    | read id => exact h.read (hid id rfl)
    | readStep id index => exact h.readStep (hid id rfl) index

/-- A new transport owes nothing. -/
theorem accounts_new : Accounts o (new o) := by
  refine ⟨fun b => ?_, fun b => ?_, fun ip => ?_, nofun, rfl⟩
  · cases b <;> rfl
  · cases b <;> exact Int.natCast_nonneg _
  · rfl

/-! ### What follows from the invariant -/

variable {id' : Nat}

/-- A connection holds nothing in the budgets of other connections. -/
theorem share_connection {ip : String} {kind kind' : BudgetKind} {held : Nat}
    {bytes : Int} (hne : id' ≠ id ∨ kind' ≠ kind) :
    share (budgetsOf id' ip kind') held bytes (.connection id kind) = 0 := by
  rw [share, if_neg]
  intro hmem
  have hmem' := mem_of_mem_take hmem
  simp only [budgetsOf, mem_cons, Budget.connection.injEq, reduceCtorEq, not_mem_nil,
    or_false] at hmem'
  rcases hne with hne | hne
  · exact hne hmem'.1.symm
  · exact hne hmem'.2.symm

theorem outboundShare_connection {kind : BudgetKind}
    (hne : id' ≠ id ∨ BudgetKind.outbound ≠ kind) (c : Connection) :
    outboundShare id' c (.connection id kind) = 0 := by
  have hreservation : reservationShare (budgetsOf id' c.remoteIP .outbound)
      (.connection id kind) c.enqueuing = 0 := by
    cases c.enqueuing with
    | none => rfl
    | some r => exact share_connection hne
  have hqueue : queueShare (budgetsOf id' c.remoteIP .outbound) (.connection id kind)
      c.outbound = 0 := by
    apply sum_eq_zero
    intro x hx
    obtain ⟨message, -, rfl⟩ := mem_map.mp hx
    exact share_connection hne
  have hhand : ∀ hand, handShare (budgetsOf id' c.remoteIP .outbound)
      (.connection id kind) hand = 0 := by
    intro hand
    cases hand with
    | none => rfl
    | some pair => exact share_connection hne
  rw [outboundShare, hreservation, hqueue, hhand, hhand]
  rfl

theorem readsShare_connection {kind : BudgetKind}
    (hne : id' ≠ id ∨ BudgetKind.inFlightRead ≠ kind) (c : Connection) :
    readsShare o id' c (.connection id kind) = 0 := by
  apply sum_eq_zero
  intro x hx
  obtain ⟨one, -, rfl⟩ := mem_map.mp hx
  cases one with
  | reserving | reading | releasing => exact share_connection hne

/-- The outbound budget of a connection is used by its own messages only. -/
theorem Accounts.used_connection (h : Accounts o t) (hid : id < t.accepted) :
    t.budgets.used (.connection id .outbound) =
      outboundShare id (t.connections id) (.connection id .outbound) := by
  rw [h.used, Finset.sum_eq_single_of_mem id (Finset.mem_range.mpr hid)]
  · have hkind : BudgetKind.inFlightRead ≠ .outbound := by decide
    rw [contribution, readsShare_connection (.inr hkind), add_zero]
  · intro id' _ hne
    rw [contribution, outboundShare_connection (.inl hne), readsShare_connection (.inl hne)]
    rfl

theorem count_map_fst (completed : List (Nat × Bool)) (number : Nat) :
    (completed.map Prod.fst).count number =
      completed.count (number, true) + completed.count (number, false) := by
  induction completed with
  | nil => rfl
  | cons entry completed ih =>
    obtain ⟨number', error⟩ := entry
    simp only [map_cons, count_cons, ih]
    cases error <;> by_cases heq : number' = number <;> simp [heq] <;> omega

theorem writtenNumbers_le (writer : WriterState) (number : Nat) :
    writer.writtenNumbers.count number ≤ (handNumbers writer.hand).count number := by
  cases writer with
  | completing message error =>
    cases error with
    | false => exact le_rfl
    | true => exact Nat.zero_le _
  | _ => exact Nat.zero_le _

/-- A message is written or fails, and both at most once. -/
theorem fate_le (hsound : ConnectionSound o id c) (number : Nat) :
    c.written.count number + c.completed.count (number, true) ≤
      unfinished c number + (c.completed.map Prod.fst).count number := by
  have hwritten := hsound.written number
  have hhand := writtenNumbers_le c.writer number
  rw [count_map_fst, hwritten]
  unfold unfinished
  omega

/-- A connection that is closed and whose writer has returned has nothing left. -/
theorem ended (hsound : ConnectionSound o id c) (hclosing : c.closing = .finished)
    (hwriter : c.writer = .returned) :
    (∀ b, outboundShare id c b = 0) ∧ ∀ number, unfinished c number = 0 := by
  have hempty := hsound.drained hclosing
  have hclosed : c.closed = true := by
    rcases hsound.closed with hopen | hclosed
    · rw [hclosing] at hopen
      cases hopen
    · exact hclosed
  refine ⟨fun b => ?_, fun number => ?_⟩
  · have hreservation : reservationShare (budgetsOf id c.remoteIP .outbound) b c.enqueuing = 0 := by
      cases hr : c.enqueuing with
      | none => rfl
      | some r =>
        rw [reservationShare, (hsound.refused hclosed r hr).2]
        exact share_zero
    rw [outboundShare, hreservation, hempty, hclosing, hwriter]
    rfl
  · rw [unfinished, hempty, hclosing, hwriter]
    rfl

end invariant

/-! ## Every run -/

/-- What holds of the connections and the budgets in a state. -/
structure Correct (o : TransportOptions) (t : Transport) : Prop where
  /-- The bytes used in a budget are those of the messages that are queued or being handled and of
  the reads in progress, counted in the budgets that they hold. -/
  used : ∀ b, t.budgets.used b =
    ∑ id ∈ Finset.range t.accepted, contribution o id (t.connections id) b
  limit : ∀ b, t.budgets.used b ≤ o.limit b
  /-- No release has panicked. -/
  running : t.panicked = false
  /-- A reservation that has failed and was taken back has changed no budget. -/
  failed : ∀ id < t.accepted, ∀ r : Reservation,
    (t.connections id).enqueuing = some r ∨ .reserving r ∈ (t.connections id).reads →
    r.failed = true → r.held = 0 → ∀ b, r.net b = 0
  /-- Every slot is free, taken by a goroutine, or that of a queued message. -/
  slots : ∀ id < t.accepted, (t.connections id).outboundSlots + reservedSlots (t.connections id) +
    (t.connections id).outbound.length = o.outboundQueueCapacity
  /-- Every message is in one place, or was completed once. -/
  messages : ∀ id < t.accepted, ∀ number, unfinished (t.connections id) number +
    ((t.connections id).completed.map Prod.fst).count number =
      if number < (t.connections id).sent then 1 else 0
  /-- Every message is written or completed with an error, and both at most once. -/
  fates : ∀ id < t.accepted, ∀ number, (t.connections id).written.count number +
    (t.connections id).completed.count (number, true) ≤ 1
  /-- After the closing and the writer's return no message holds anything, and every message was
  written or completed with an error. -/
  ended : ∀ id < t.accepted, (t.connections id).closing = .finished →
    (t.connections id).writer = .returned →
    (∀ b, outboundShare id (t.connections id) b = 0) ∧
      t.budgets.used (.connection id .outbound) = 0 ∧
      ∀ number < (t.connections id).sent, (t.connections id).written.count number +
        (t.connections id).completed.count (number, true) = 1

/-- The accounts say what the budgets should be. -/
theorem Accounts.correct {o : TransportOptions} {t : Transport} (h : Accounts o t) :
    Correct o t := by
  refine ⟨h.used, h.limit, h.running, ?_, fun id hid => (h.sound id hid).slots,
    fun id hid => (h.sound id hid).numbers, ?_, ?_⟩
  · rintro id hid r hr - hheld b
    have hzero : ∀ budgets bytes, Sound budgets bytes r → r.net b = 0 := by
      intro budgets bytes hr
      rw [hr.net, hheld]
      exact share_zero
    rcases hr with hr | hr
    · exact hzero _ _ ((h.sound id hid).enqueuing r hr).2
    · exact hzero _ _ ((h.sound id hid).reads _ hr)
  · intro id hid number
    have hle := fate_le (h.sound id hid) number
    rw [(h.sound id hid).numbers] at hle
    split_ifs at hle <;> omega
  · intro id hid hclosing hwriter
    have hsound := h.sound id hid
    obtain ⟨hshare, hnone⟩ := Transport.ended hsound hclosing hwriter
    refine ⟨hshare, ?_, ?_⟩
    · rw [h.used_connection hid]
      exact hshare _
    · intro number hnumber
      have hnumbers := hsound.numbers number
      have hwritten := hsound.written number
      rw [hnone, count_map_fst, if_pos hnumber] at hnumbers
      rw [hwriter] at hwritten
      simp only [writtenNumbers, count_nil] at hwritten
      omega

/-- Over every interleaving, for messages that are not empty. -/
theorem byte_accounting (o : TransportOptions) (inputs : List Input)
    (hinputs : ∀ input ∈ inputs, input.nonEmpty = true) :
    Correct o ((machine o).run (new o) inputs) := by
  apply Accounts.correct
  apply Machine.run_invariant (Accounts o) (G := fun _ input => input.nonEmpty = true)
  · intro t input h hinput
    exact h.step hinput
  · exact accounts_new
  · exact Machine.guarded_of_mem (fun input hinput _ => hinputs input hinput) _

/-- Small limits. -/
def sampleOptions : TransportOptions where
  outboundQueueCapacity := 2
  maxFrameBytes := 9
  maxConnectionsPerIP := 1
  maxBytesPerConnection _ := 10
  maxBytesPerIP _ := 10
  maxBytes _ := 10

/-- A message is queued and written. -/
def sampleSend : List Input :=
  [.accept "a", .takeSlot 0 5, .lockQueue 0 0] ++ replicate 4 (.enqueue 0) ++
    [.receive 0] ++ replicate 2 (.runWriter 0) ++ [.write 0 true] ++
    replicate 4 (.runWriter 0)

/-- The message of the sample is written and completed. -/
theorem byte_accounting_sample :
    Correct sampleOptions ((machine sampleOptions).run (new sampleOptions) sampleSend) ∧
      (((machine sampleOptions).run (new sampleOptions) sampleSend).connections 0).completed =
        [(0, false)] :=
  ⟨byte_accounting sampleOptions sampleSend (by decide), by decide +kernel⟩

/-- A read is in progress while the connection is closed and its writer returns: the connection
still holds what the read has reserved.  And in the middle of a reservation the connection's
budget is used although no message is queued or being written and no read is in progress. -/
theorem read_outlives_close :
    let t := (machine sampleOptions).run (new sampleOptions)
      ([.accept "a", .read 0] ++ replicate 4 (.readStep 0 0) ++
        [.closeConnection 0, .drain 0, .stopWriter 0, .runWriter 0])
    let t' := (machine sampleOptions).run (new sampleOptions)
      [.accept "a", .takeSlot 0 5, .lockQueue 0 0, .enqueue 0]
    ((t.connections 0).closing matches .finished) ∧ ((t.connections 0).writer matches .returned) ∧
      t.budgets.used (.connection 0 .inFlightRead) = 10 ∧
      t'.budgets.used (.connection 0 .outbound) = 5 ∧ (t'.connections 0).outbound.length = 0 ∧
      (t'.connections 0).writer.hand.isNone ∧ (t'.connections 0).closing.hand.isNone ∧
      (t'.connections 0).reads.length = 0 := by
  decide +kernel

end Transport

end Server

end Roammand
