import Mathlib.Algebra.BigOperators.Group.Finset.Basic
import Roammand.Server.RateLimiter

/-!
# Connections of the signaling service and their byte budgets

A connection sends through a queue of messages that one writer empties.  A sender first takes a
slot of the queue, then reserves the bytes of its message in three budgets, that of the
connection, that of the source address and that of the server, and gives back what it has
reserved when one of them refuses.  The writer, or the goroutine that closes the connection,
releases the bytes of a message once it is done with it.  Reads reserve in three budgets of their
own.

Each budget has a lock of its own, so the steps of a reservation interleave with everything that
other goroutines do.  The model has one step for each access to a budget, a channel or a lock.
The lock of the queue is held while `enqueuing` is set or a closing drains the queue.

Main results:

- Definitions `Budgets.tryReserve` and `Budgets.release`.
- Definition `Transport.machine`: connections that share budgets, as a machine over the steps of
  their goroutines.
-/

namespace Roammand

namespace Server

open Library

/-! ## Budgets -/

/-- What bytes are reserved for. -/
inductive BudgetKind where
  | outbound
  | inFlightRead
deriving DecidableEq

/-- A budget of a connection, of a source address or of the server. -/
inductive Budget where
  | connection (id : Nat) (kind : BudgetKind)
  | sourceIP (ip : String) (kind : BudgetKind)
  | server (kind : BudgetKind)
deriving DecidableEq

/-- The options that bound the connections. -/
structure TransportOptions where
  outboundQueueCapacity : Nat
  maxFrameBytes : Nat
  maxConnectionsPerIP : Nat
  maxBytesPerConnection : BudgetKind → Nat
  maxBytesPerIP : BudgetKind → Nat
  maxBytes : BudgetKind → Nat

/-- The limit of a budget. -/
def TransportOptions.limit (o : TransportOptions) : Budget → Int
  | .connection _ kind => o.maxBytesPerConnection kind
  | .sourceIP _ kind => o.maxBytesPerIP kind
  | .server kind => o.maxBytes kind

/-- What a source address uses. -/
structure SourceIPUsage where
  connections : Nat
  bytes : BudgetKind → Int

/-- The bytes that are used in the budgets. -/
structure Budgets where
  connectionUsed : Nat → BudgetKind → Int
  sourceIPs : Table String SourceIPUsage
  serverUsed : BudgetKind → Int

namespace Budgets

/-- Nothing is used. -/
def new : Budgets where
  connectionUsed _ _ := 0
  sourceIPs := ∅
  serverUsed _ := 0

/-- The bytes that are used in a budget. -/
def used (g : Budgets) : Budget → Int
  | .connection id kind => g.connectionUsed id kind
  | .sourceIP ip kind => ((g.sourceIPs.lookup ip).map fun usage => usage.bytes kind).getD 0
  | .server kind => g.serverUsed kind

/-- The connections of a source address. -/
def connections (g : Budgets) (ip : String) : Nat :=
  ((g.sourceIPs.lookup ip).map SourceIPUsage.connections).getD 0

/-- Write the usage of an address, or delete it when nothing is left of it. -/
def deleteIdleSourceIP (g : Budgets) (ip : String) (usage : SourceIPUsage) : Budgets :=
  if usage.connections = 0 ∧ usage.bytes .outbound = 0 ∧ usage.bytes .inFlightRead = 0 then
    { g with sourceIPs := g.sourceIPs.erase ip }
  else { g with sourceIPs := g.sourceIPs.insert ip usage }

/-- `TryReserve` of a budget. -/
def tryReserve (o : TransportOptions) (g : Budgets) (b : Budget) (bytes : Int) : Option Budgets :=
  if bytes < 0 then none
  else
    match b with
    | .connection id kind =>
      if bytes > o.limit b - g.connectionUsed id kind then none
      else some { g with
        connectionUsed := Function.update g.connectionUsed id
          (Function.update (g.connectionUsed id) kind (g.connectionUsed id kind + bytes)) }
    | .sourceIP ip kind =>
      match g.sourceIPs.lookup ip with
      | none => none
      | some usage =>
        if usage.connections = 0 ∨ bytes > o.limit b - usage.bytes kind then none
        else
          let bytes := Function.update usage.bytes kind (usage.bytes kind + bytes)
          some { g with sourceIPs := g.sourceIPs.insert ip { usage with bytes } }
    | .server kind =>
      if bytes > o.limit b - g.serverUsed kind then none
      else some { g with
        serverUsed := Function.update g.serverUsed kind (g.serverUsed kind + bytes) }

/-- `Release` of a budget, which panics when less is reserved. -/
def release (g : Budgets) (b : Budget) (bytes : Int) : Option Budgets :=
  match b with
  | .connection id kind =>
    if bytes < 0 ∨ bytes > g.connectionUsed id kind then none
    else some { g with
      connectionUsed := Function.update g.connectionUsed id
        (Function.update (g.connectionUsed id) kind (g.connectionUsed id kind - bytes)) }
  | .sourceIP ip kind =>
    match g.sourceIPs.lookup ip with
    | none => none
    | some usage =>
      if bytes < 0 ∨ bytes > usage.bytes kind then none
      else
        let bytes := Function.update usage.bytes kind (usage.bytes kind - bytes)
        some (g.deleteIdleSourceIP ip { usage with bytes })
  | .server kind =>
    if bytes < 0 ∨ bytes > g.serverUsed kind then none
    else some { g with
      serverUsed := Function.update g.serverUsed kind (g.serverUsed kind - bytes) }

/-- `acquireIPConnection`. -/
def acquireIPConnection (o : TransportOptions) (g : Budgets) (ip : String) : Budgets × Bool :=
  let usage := (g.sourceIPs.lookup ip).getD { connections := 0, bytes := fun _ => 0 }
  if o.maxConnectionsPerIP ≤ usage.connections then
    ({ g with sourceIPs := g.sourceIPs.insert ip usage }, false)
  else
    let usage := { usage with connections := usage.connections + 1 }
    ({ g with sourceIPs := g.sourceIPs.insert ip usage }, true)

/-- `releaseIPConnection`, which panics when there is no connection. -/
def releaseIPConnection (g : Budgets) (ip : String) : Option Budgets :=
  match g.sourceIPs.lookup ip with
  | none => none
  | some usage =>
    if usage.connections = 0 then none
    else some (g.deleteIdleSourceIP ip { usage with connections := usage.connections - 1 })

end Budgets

/-! ## Connections -/

/-- A message of the queue, with its number in the order of sending. -/
structure OutboundMessage where
  number : Nat
  reservation : Int

/-- A reservation that is being made in a list of budgets, or taken back.  It holds the first
`held` of them.  `net` records how its own steps have changed each budget. -/
structure Reservation where
  bytes : Int
  held : Nat
  failed : Bool
  net : Budget → Int

/-- A reservation that holds nothing yet. -/
def Reservation.start (bytes : Int) : Reservation where
  bytes := bytes
  held := 0
  failed := false
  net _ := 0

/-- What the goroutine that closes a connection does while it drains the queue. -/
inductive Draining where
  | next
  | taken (message : OutboundMessage)
  | completing (message : OutboundMessage) (held : Nat)

/-- The progress of `closeWith`. -/
inductive Closing where
  | notClosed
  | draining (draining : Draining)
  | finished

/-- The closing goroutine holds the lock of the queue. -/
def Closing.locks : Closing → Bool
  | .draining _ => true
  | _ => false

/-- The progress of `RunWriter`. -/
inductive WriterState where
  | waiting
  | taken (message : OutboundMessage)
  | checking (message : OutboundMessage)
  | writing (message : OutboundMessage)
  | completing (message : OutboundMessage) (error stop : Bool) (held : Nat)
  | stopping
  | returned

/-- The progress of a `Read`. -/
inductive Reading where
  | reserving (reservation : Reservation)
  | reading
  | releasing (held : Nat)

/-- A connection.  `sent`, `written` and `completed` record the messages that were put into the
queue, those that were written, and those that were completed, with an error or without. -/
structure Connection where
  remoteIP : String
  released : Bool
  outboundSlots : Nat
  waiting : List Int
  enqueuing : Option Reservation
  outbound : List OutboundMessage
  closed : Bool
  closing : Closing
  writer : WriterState
  reads : List Reading
  sent : Nat
  written : List Nat
  completed : List (Nat × Bool)

/-- A connection that was just accepted. -/
def Connection.new (o : TransportOptions) (remoteIP : String) : Connection where
  remoteIP := remoteIP
  released := false
  outboundSlots := o.outboundQueueCapacity
  waiting := []
  enqueuing := none
  outbound := []
  closed := false
  closing := .notClosed
  writer := .waiting
  reads := []
  sent := 0
  written := []
  completed := []

/-- The budgets in the order in which a connection reserves in them. -/
def budgetsOf (id : Nat) (ip : String) (kind : BudgetKind) : List Budget :=
  [.connection id kind, .sourceIP ip kind, .server kind]

/-- The connections that were accepted, and the budgets they share. -/
structure Transport where
  budgets : Budgets
  connections : Nat → Connection
  accepted : Nat
  panicked : Bool

/-! ## Steps -/

/-- The next step of `reserveBytes`: reserve in the next budget, or fail. -/
def Reservation.reserveNext (o : TransportOptions) (g : Budgets) (budgets : List Budget)
    (r : Reservation) : Budgets × Reservation :=
  match budgets[r.held]? with
  | none => (g, r)
  | some b =>
    match g.tryReserve o b r.bytes with
    | none => (g, { r with failed := true })
    | some g' =>
      (g', { r with held := r.held + 1, net := fun b => r.net b + (g'.used b - g.used b) })

/-- One budget of the first `held` is released; the last one comes first. -/
def releaseLast (g : Budgets) (budgets : List Budget) (bytes : Int) (held : Nat) :
    Option Budgets :=
  match budgets[held - 1]? with
  | none => some g
  | some b => g.release b bytes

/-- The next step of the rollback of `reserveBytes`. -/
def Reservation.rollBackNext (g : Budgets) (budgets : List Budget) (r : Reservation) :
    Option (Budgets × Reservation) :=
  (releaseLast g budgets r.bytes r.held).map fun g' =>
    (g', { r with held := r.held - 1, net := fun b => r.net b + (g'.used b - g.used b) })

namespace Transport

/-- No connection has been accepted. -/
def new (o : TransportOptions) : Transport where
  budgets := .new
  connections _ := Connection.new o ""
  accepted := 0
  panicked := false

/-- Change a connection. -/
def set (t : Transport) (id : Nat) (c : Connection) : Transport :=
  { t with connections := Function.update t.connections id c }

/-- Change a connection together with the budgets. -/
def put (t : Transport) (g : Budgets) (id : Nat) (c : Connection) : Transport :=
  { t with budgets := g, connections := Function.update t.connections id c }

/-- The process stops. -/
def panic (t : Transport) : Transport := { t with panicked := true }

/-- The budgets that a connection reserves in. -/
def budgetsFor (t : Transport) (id : Nat) (kind : BudgetKind) : List Budget :=
  budgetsOf id (t.connections id).remoteIP kind

/-- A connection of a source address is accepted, if the address may have another one. -/
def accept (o : TransportOptions) (t : Transport) (ip : String) : Transport :=
  match t.budgets.acquireIPConnection o ip with
  | (g, false) => { t with budgets := g }
  | (g, true) =>
    { t with
      budgets := g
      connections := Function.update t.connections t.accepted (Connection.new o ip)
      accepted := t.accepted + 1 }

/-- The handler of a connection ends. -/
def releaseConnection (t : Transport) (id : Nat) : Transport :=
  let c := t.connections id
  if c.released then t
  else
    match t.budgets.releaseIPConnection c.remoteIP with
    | none => t.panic
    | some g => t.put g id { c with released := true }

/-- A sender takes a slot of the queue. -/
def takeSlot (t : Transport) (id : Nat) (bytes : Int) : Transport :=
  let c := t.connections id
  if 0 < c.outboundSlots then
    t.set id { c with outboundSlots := c.outboundSlots - 1, waiting := c.waiting ++ [bytes] }
  else t

/-- A sender with a slot takes the lock of the queue and looks whether the connection is closed. -/
def lockQueue (t : Transport) (id : Nat) (waiter : Nat) : Transport :=
  let c := t.connections id
  if c.enqueuing.isNone ∧ c.closing.locks = false then
    match c.waiting[waiter]? with
    | none => t
    | some bytes =>
      t.set id { c with
        waiting := c.waiting.eraseIdx waiter
        enqueuing := some { Reservation.start bytes with failed := c.closed } }
  else t

/-- The next step of `enqueueWithReservedSlot`. -/
def enqueue (o : TransportOptions) (t : Transport) (id : Nat) : Transport :=
  let c := t.connections id
  let budgets := t.budgetsFor id .outbound
  match c.enqueuing with
  | none => t
  | some r =>
    if r.failed then
      if r.held = 0 then
        if c.outboundSlots < o.outboundQueueCapacity then
          t.set id { c with outboundSlots := c.outboundSlots + 1, enqueuing := none }
        else t
      else
        match r.rollBackNext t.budgets budgets with
        | none => t.panic
        | some (g, r) => t.put g id { c with enqueuing := some r }
    else if r.held < budgets.length then
      let (g, r) := r.reserveNext o t.budgets budgets
      t.put g id { c with enqueuing := some r }
    else if c.outbound.length < o.outboundQueueCapacity then
      t.set id { c with
        enqueuing := none
        outbound := c.outbound ++ [{ number := c.sent, reservation := r.bytes }]
        sent := c.sent + 1 }
    else t

/-- `closeWith` takes the lock of the queue. -/
def closeConnection (t : Transport) (id : Nat) : Transport :=
  let c := t.connections id
  match c.closing with
  | .notClosed =>
    if c.enqueuing.isNone then t.set id { c with closed := true, closing := .draining .next }
    else t
  | _ => t

/-- The next step of `closeWith`. -/
def drain (o : TransportOptions) (t : Transport) (id : Nat) : Transport :=
  let c := t.connections id
  match c.closing with
  | .draining .next =>
    match c.outbound with
    | [] => t.set id { c with closing := .finished }
    | message :: rest =>
      t.set id { c with outbound := rest, closing := .draining (.taken message) }
  | .draining (.taken message) =>
    if c.outboundSlots < o.outboundQueueCapacity then
      t.set id { c with
        outboundSlots := c.outboundSlots + 1
        closing := .draining (.completing message 3) }
    else t
  | .draining (.completing message held) =>
    if held = 0 then
      t.set id { c with
        completed := c.completed ++ [(message.number, true)]
        closing := .draining .next }
    else
      match releaseLast t.budgets (t.budgetsFor id .outbound) message.reservation held with
      | none => t.panic
      | some g => t.put g id { c with closing := .draining (.completing message (held - 1)) }
  | _ => t

/-- The writer receives a message. -/
def receive (t : Transport) (id : Nat) : Transport :=
  let c := t.connections id
  match c.writer, c.outbound with
  | .waiting, message :: rest => t.set id { c with outbound := rest, writer := .taken message }
  | _, _ => t

/-- The writer's context ends, or it finds the connection closed. -/
def stopWriter (t : Transport) (id : Nat) : Transport :=
  let c := t.connections id
  match c.writer with
  | .waiting => t.set id { c with writer := .stopping }
  | _ => t

/-- The write of a message ends. -/
def write (t : Transport) (id : Nat) (ok : Bool) : Transport :=
  let c := t.connections id
  match c.writer with
  | .writing message =>
    if ok then
      t.set id { c with
        written := c.written ++ [message.number]
        writer := .completing message false false 3 }
    else t.set id { c with writer := .completing message true true 3 }
  | _ => t

/-- The next step of the writer. -/
def runWriter (o : TransportOptions) (t : Transport) (id : Nat) : Transport :=
  let c := t.connections id
  match c.writer with
  | .taken message =>
    if c.outboundSlots < o.outboundQueueCapacity then
      t.set id { c with outboundSlots := c.outboundSlots + 1, writer := .checking message }
    else t
  | .checking message =>
    if c.closed then t.set id { c with writer := .completing message true true 3 }
    else t.set id { c with writer := .writing message }
  | .completing message error stop held =>
    if held = 0 then
      t.set id { c with
        completed := c.completed ++ [(message.number, error)]
        writer := if stop then .stopping else .waiting }
    else
      match releaseLast t.budgets (t.budgetsFor id .outbound) message.reservation held with
      | none => t.panic
      | some g => t.put g id { c with writer := .completing message error stop (held - 1) }
  | .stopping =>
    match c.closing with
    | .finished => t.set id { c with writer := .returned }
    | _ => t
  | _ => t

/-- A read begins to reserve. -/
def read (o : TransportOptions) (t : Transport) (id : Nat) : Transport :=
  let c := t.connections id
  t.set id { c with
    reads := c.reads ++ [.reserving (Reservation.start (o.maxFrameBytes + 1))] }

/-- The next step of a read. -/
def readStep (o : TransportOptions) (t : Transport) (id : Nat) (index : Nat) : Transport :=
  let c := t.connections id
  let budgets := t.budgetsFor id .inFlightRead
  match c.reads[index]? with
  | none => t
  | some (.reserving r) =>
    if r.failed then
      if r.held = 0 then t.set id { c with reads := c.reads.eraseIdx index }
      else
        match r.rollBackNext t.budgets budgets with
        | none => t.panic
        | some (g, r) => t.put g id { c with reads := c.reads.set index (.reserving r) }
    else if r.held < budgets.length then
      let (g, r) := r.reserveNext o t.budgets budgets
      t.put g id { c with reads := c.reads.set index (.reserving r) }
    else t.set id { c with reads := c.reads.set index .reading }
  | some .reading => t.set id { c with reads := c.reads.set index (.releasing 3) }
  | some (.releasing held) =>
    if held = 0 then t.set id { c with reads := c.reads.eraseIdx index }
    else
      match releaseLast t.budgets budgets (o.maxFrameBytes + 1) held with
      | none => t.panic
      | some g => t.put g id { c with reads := c.reads.set index (.releasing (held - 1)) }

/-- A step of one of the goroutines. -/
inductive Input where
  | accept (ip : String)
  | releaseConnection (id : Nat)
  | takeSlot (id : Nat) (bytes : Int)
  | lockQueue (id waiter : Nat)
  | enqueue (id : Nat)
  | closeConnection (id : Nat)
  | drain (id : Nat)
  | receive (id : Nat)
  | stopWriter (id : Nat)
  | write (id : Nat) (ok : Bool)
  | runWriter (id : Nat)
  | read (id : Nat)
  | readStep (id index : Nat)

/-- The connection that a step belongs to. -/
def Input.connection? : Input → Option Nat
  | .accept _ => none
  | .releaseConnection id => some id
  | .takeSlot id _ => some id
  | .lockQueue id _ => some id
  | .enqueue id => some id
  | .closeConnection id => some id
  | .drain id => some id
  | .receive id => some id
  | .stopWriter id => some id
  | .write id _ => some id
  | .runWriter id => some id
  | .read id => some id
  | .readStep id _ => some id

/-- A step of a process that has not stopped and of a connection that was accepted. -/
def act (o : TransportOptions) (t : Transport) : Input → Transport
  | .accept ip => t.accept o ip
  | .releaseConnection id => t.releaseConnection id
  | .takeSlot id bytes => t.takeSlot id bytes
  | .lockQueue id waiter => t.lockQueue id waiter
  | .enqueue id => t.enqueue o id
  | .closeConnection id => t.closeConnection id
  | .drain id => t.drain o id
  | .receive id => t.receive id
  | .stopWriter id => t.stopWriter id
  | .write id ok => t.write id ok
  | .runWriter id => t.runWriter o id
  | .read id => t.read o id
  | .readStep id index => t.readStep o id index

/-- One step. -/
def step (o : TransportOptions) (t : Transport) (input : Input) : Transport :=
  if t.panicked || input.connection?.any (fun id => decide (t.accepted ≤ id)) then t
  else t.act o input

/-- The connections as a machine over the steps of their goroutines. -/
def machine (o : TransportOptions) : Machine Transport Input Unit where
  step t input := (t.step o input, ())

end Transport

end Server

end Roammand
