import Mathlib.Data.Finset.Card
import Mathlib.Data.List.DropRight
import Roammand.Bridge.Lease
import Roammand.Protocol.Messages

/-!
# Privileged bridge: authentication of a connection

A connection proves with a keyed digest over the broker's and its own nonce that it knows the
secret of its role.  The broker remembers the nonces of the last successful proofs, over all
connections, and accepts none of them again.

Main results:

- Definitions `NonceReplayGuard.claim` and `BridgeAuthenticator.authenticate`.
- Definition `Authentication.machine`: connections that share one guard.
- Theorem `Authentication.claim_holds`: the guard holds the nonces accepted last.
- Theorem `Authentication.authentication`: exactly which calls succeed, in any run.
-/

namespace Roammand

namespace Bridge

open Library Protocol

/-- Thirty-two bytes, as a nonce, a secret or a proof. -/
abbrev Bytes32 := Vector UInt8 32

/-! ## Proofs -/

/-- Which side of the bridge a connection claims to be. -/
inductive BridgeRole where
  | hostAgent
  | sessionHelper

/-- Which local channel a proof is for. -/
inductive AuthChannel where
  | flutterHost
  | privilegedHost
  | privilegedHelper

/-- The channel of a role. -/
def BridgeRole.authChannel : BridgeRole → AuthChannel
  | .hostAgent => .privilegedHost
  | .sessionHelper => .privilegedHelper

/-- The domain of a client's proof. -/
def clientDomain : AuthChannel → Bytes
  | .flutterHost => utf8 "PRD-IPC-CLIENT-V1"
  | .privilegedHost => utf8 "PRD-BRIDGE-HOST-CLIENT-V1"
  | .privilegedHelper => utf8 "PRD-BRIDGE-HELPER-CLIENT-V1"

/-- The domain of a server's proof. -/
def serverDomain : AuthChannel → Bytes
  | .flutterHost => utf8 "PRD-IPC-SERVER-V1"
  | .privilegedHost => utf8 "PRD-BRIDGE-HOST-SERVER-V1"
  | .privilegedHelper => utf8 "PRD-BRIDGE-HELPER-SERVER-V1"

/-- Why an authentication is refused. -/
inductive AuthenticationError where
  | invalidLength
  | reflectedNonce
  | authenticationFailed
  | nonceReused
  | alreadyAuthenticated
  | invalidReplayCapacity

section Proofs

variable (hmacSha256 : Bytes → Bytes → Bytes32)

variable (token : Bytes32)

/-- The keyed digest of a domain, the instance and both nonces. -/
def proof (domain : Bytes) (instanceId : Bytes16) (serverNonce clientNonce : Bytes32) : Bytes32 :=
  hmacSha256 token.toList (domain ++ instanceId.toList ++ serverNonce.toList ++ clientNonce.toList)

variable (channel : AuthChannel)

/-- The proof that the server answers with. -/
def channelServerProof (instanceId : Bytes16) (serverNonce clientNonce : Bytes32) : Bytes32 :=
  proof hmacSha256 token (serverDomain channel) instanceId serverNonce clientNonce

/-- The proof that a client is asked for. -/
def channelClientProof (instanceId : Bytes16) (serverNonce clientNonce : Bytes32) : Bytes32 :=
  proof hmacSha256 token (clientDomain channel) instanceId serverNonce clientNonce

/-- Whether a candidate is the client's proof. -/
def verifyChannelClientProof (instanceId : Bytes16)
    (serverNonce clientNonce : Bytes32) (candidate : Bytes) : Bool :=
  (channelClientProof hmacSha256 token channel instanceId serverNonce clientNonce).toList
    = candidate

end Proofs

/-! ## Nonces that have been used -/

/-- The nonces accepted last: a set to search and a queue to evict from. -/
structure NonceReplayGuard where
  used : Finset Bytes32
  insertionOrder : List Bytes32
  capacity : Nat

namespace NonceReplayGuard

/-- An empty guard of positive capacity. -/
def new (capacity : Nat) : Except AuthenticationError NonceReplayGuard :=
  if capacity = 0 then .error .invalidReplayCapacity
  else .ok { used := ∅, insertionOrder := [], capacity }

/-- Make room for one nonce. -/
def evict (g : NonceReplayGuard) : NonceReplayGuard :=
  if g.used.card = g.capacity then
    match g.insertionOrder with
    | [] => g
    | expired :: rest => { g with used := g.used.erase expired, insertionOrder := rest }
  else g

/-- Remember a nonce that has not been used. -/
def claim (g : NonceReplayGuard) (nonce : Bytes32) :
    NonceReplayGuard × Except AuthenticationError Unit :=
  if nonce ∈ g.used then (g, .error .nonceReused)
  else
    ({ g.evict with
        used := insert nonce g.evict.used
        insertionOrder := g.evict.insertionOrder ++ [nonce] }, .ok ())

/-- The set and the queue hold the same nonces, each once, and no more than fit. -/
structure Coherent (g : NonceReplayGuard) : Prop where
  used_eq : g.used = g.insertionOrder.toFinset
  nodup : g.insertionOrder.Nodup
  bounded : g.insertionOrder.length ≤ g.capacity
  positive : 0 < g.capacity

variable {g : NonceReplayGuard}

theorem new_eq_ok {capacity : Nat} :
    new capacity = .ok g ↔
      0 < capacity ∧ g = { used := ∅, insertionOrder := [], capacity } := by
  unfold new
  split_ifs with h
  · exact ⟨nofun, fun hpos => absurd h (by omega)⟩
  · constructor
    · intro hok
      exact ⟨by omega, (Except.ok.inj hok).symm⟩
    · rintro ⟨-, rfl⟩
      rfl

/-- Eviction drops the oldest nonce of a full guard. -/
theorem evict_coherent (h : g.Coherent) :
    g.evict.used = g.evict.insertionOrder.toFinset ∧
      g.evict.capacity = g.capacity ∧
      g.evict.insertionOrder = g.insertionOrder.rtake (g.capacity - 1) := by
  have hcard : g.used.card = g.insertionOrder.length := by
    rw [h.used_eq, List.toFinset_card_of_nodup h.nodup]
  have hpositive := h.positive
  have hbounded := h.bounded
  unfold evict List.rtake
  rw [hcard]
  split_ifs with hfull
  · cases horder : g.insertionOrder with
    | nil =>
      rw [horder, List.length_nil] at hfull
      omega
    | cons expired rest =>
      have hnodup := h.nodup
      rw [horder, List.length_cons] at hfull
      rw [horder, List.nodup_cons] at hnodup
      refine ⟨?_, rfl, ?_⟩
      · dsimp only
        rw [h.used_eq, horder, List.toFinset_cons, Finset.erase_insert]
        exact fun hmem => hnodup.1 (List.mem_toFinset.mp hmem)
      · have hdrop : (expired :: rest).length - (g.capacity - 1) = 1 := by
          rw [List.length_cons]
          omega
        rw [hdrop]
        rfl
  · refine ⟨h.used_eq, rfl, ?_⟩
    have hdrop : g.insertionOrder.length - (g.capacity - 1) = 0 := by omega
    rw [hdrop]
    rfl

/-- A claim of a used nonce is refused and changes nothing. -/
theorem claim_used {nonce : Bytes32} (h : nonce ∈ g.used) :
    g.claim nonce = (g, .error .nonceReused) := if_pos h

/-- A claim of a fresh nonce appends it to the last ones. -/
theorem claim_fresh (h : g.Coherent) {nonce : Bytes32} (hfresh : nonce ∉ g.used) :
    (g.claim nonce).2 = .ok () ∧ (g.claim nonce).1.Coherent ∧
      (g.claim nonce).1.capacity = g.capacity ∧
      (g.claim nonce).1.insertionOrder = (g.insertionOrder ++ [nonce]).rtake g.capacity := by
  obtain ⟨hused, hcapacity, horder⟩ := evict_coherent h
  have hpositive := h.positive
  have hsuffix : g.evict.insertionOrder <:+ g.insertionOrder := by
    rw [horder]
    exact List.drop_suffix _ _
  have hnew : nonce ∉ g.evict.insertionOrder := fun hmem =>
    hfresh (by rw [h.used_eq]; exact List.mem_toFinset.mpr (hsuffix.subset hmem))
  have hlast : (g.insertionOrder ++ [nonce]).rtake g.capacity =
      g.evict.insertionOrder ++ [nonce] := by
    obtain ⟨below, hbelow⟩ : ∃ below, g.capacity = below + 1 := ⟨g.capacity - 1, by omega⟩
    rw [horder, hbelow, List.rtake_concat_succ]
    rfl
  unfold claim
  rw [if_neg hfresh]
  refine ⟨rfl, ⟨?_, ?_, ?_, ?_⟩, hcapacity, hlast.symm⟩
  · dsimp only
    rw [hused, List.toFinset_append, List.toFinset_cons, List.toFinset_nil]
    rw [Finset.union_insert, Finset.union_empty]
  · apply List.nodup_append.mpr
    refine ⟨hsuffix.sublist.nodup h.nodup, List.nodup_singleton _, ?_⟩
    rintro x hx y hy rfl
    exact hnew (List.mem_singleton.mp hy ▸ hx)
  · have hlength : g.evict.insertionOrder.length ≤ g.capacity - 1 := by
      rw [horder, List.rtake, List.length_drop]
      omega
    dsimp only
    rw [List.length_append, List.length_singleton, hcapacity]
    omega
  · dsimp only
    omega

end NonceReplayGuard

/-! ## The authentication of a connection -/

/-- What the broker keeps of a connection that has been sent its challenge. -/
structure BridgeAuthenticator where
  role : BridgeRole
  secret : Bytes32
  instanceId : Bytes16
  serverNonce : Bytes32
  authenticated : Bool

namespace BridgeAuthenticator

/-- A connection that has proved nothing. -/
def new (role : BridgeRole) (secret : Bytes32) (instanceId : Bytes16) (serverNonce : Bytes32) :
    BridgeAuthenticator where
  role
  secret
  instanceId
  serverNonce
  authenticated := false

variable (hmacSha256 : Bytes → Bytes → Bytes32)

/-- Whether a proof is right for a connection and a client nonce. -/
def verifies (a : BridgeAuthenticator) (clientNonce : Bytes32) (clientProof : Bytes) : Bool :=
  verifyChannelClientProof hmacSha256 a.secret a.role.authChannel a.instanceId a.serverNonce
    clientNonce clientProof

/-- The answer to a proof that has been accepted. -/
def answer (a : BridgeAuthenticator) (clientNonce : Bytes32) : Bytes32 :=
  channelServerProof hmacSha256 a.secret a.role.authChannel a.instanceId a.serverNonce clientNonce

/-- Check the proof of a connection. -/
def authenticate (a : BridgeAuthenticator) (clientNonce clientProof : Bytes)
    (guard : NonceReplayGuard) :
    BridgeAuthenticator × NonceReplayGuard × Except AuthenticationError Bytes32 :=
  if a.authenticated then (a, guard, .error .alreadyAuthenticated)
  else
    match toArray? 32 clientNonce with
    | none => (a, guard, .error .invalidLength)
    | some clientNonce =>
      if clientProof.length ≠ 32 then (a, guard, .error .invalidLength)
      else if clientNonce = a.serverNonce then (a, guard, .error .reflectedNonce)
      else if ¬ a.verifies hmacSha256 clientNonce clientProof then
        (a, guard, .error .authenticationFailed)
      else
        match guard.claim clientNonce with
        | (guard, .error e) => (a, guard, .error e)
        | (guard, .ok ()) =>
          ({ a with authenticated := true }, guard, .ok (a.answer hmacSha256 clientNonce))

/-- What the broker asks of a proof. -/
structure Acceptable (a : BridgeAuthenticator) (guard : NonceReplayGuard) (nonce : Bytes32)
    (clientProof : Bytes) : Prop where
  first : a.authenticated = false
  verified : a.verifies hmacSha256 nonce clientProof = true
  notReflected : nonce ≠ a.serverNonce
  notUsed : nonce ∉ guard.used

variable {hmacSha256} {a : BridgeAuthenticator} {guard : NonceReplayGuard}

/-- A proof that verifies is as long as a digest. -/
theorem length_of_verifies {nonce : Bytes32} {clientProof : Bytes}
    (h : a.verifies hmacSha256 nonce clientProof = true) : clientProof.length = 32 := by
  rw [← of_decide_eq_true h, Vector.length_toList]

variable (hmacSha256 a guard) in
/-- A call either accepts a proof as asked for, or changes nothing. -/
theorem authenticate_cases (clientNonce clientProof : Bytes) :
    (∃ nonce, toArray? 32 clientNonce = some nonce ∧
      a.Acceptable hmacSha256 guard nonce clientProof ∧
      a.authenticate hmacSha256 clientNonce clientProof guard =
        ({ a with authenticated := true }, (guard.claim nonce).1,
          .ok (a.answer hmacSha256 nonce))) ∨
    ((∃ e, a.authenticate hmacSha256 clientNonce clientProof guard = (a, guard, .error e)) ∧
      ∀ nonce, toArray? 32 clientNonce = some nonce →
        ¬ a.Acceptable hmacSha256 guard nonce clientProof) := by
  unfold authenticate
  by_cases hdone : a.authenticated = true
  · rw [if_pos hdone]
    refine .inr ⟨⟨_, rfl⟩, fun nonce _ hasked => ?_⟩
    rw [hasked.first] at hdone
    cases hdone
  rw [if_neg hdone]
  cases hnonce : toArray? 32 clientNonce with
  | none => exact .inr ⟨⟨_, rfl⟩, nofun⟩
  | some nonce =>
    dsimp only
    by_cases hlength : clientProof.length ≠ 32
    · rw [if_pos hlength]
      refine .inr ⟨⟨_, rfl⟩, fun other hother hasked => ?_⟩
      exact hlength (length_of_verifies hasked.verified)
    rw [if_neg hlength]
    by_cases hreflected : nonce = a.serverNonce
    · rw [if_pos hreflected]
      refine .inr ⟨⟨_, rfl⟩, fun other hother hasked => ?_⟩
      cases hother
      exact hasked.notReflected hreflected
    rw [if_neg hreflected]
    by_cases hverifies : a.verifies hmacSha256 nonce clientProof = true
    · rw [if_neg (not_not.mpr hverifies)]
      by_cases hused : nonce ∈ guard.used
      · rw [NonceReplayGuard.claim_used hused]
        refine .inr ⟨⟨_, rfl⟩, fun other hother hasked => ?_⟩
        cases hother
        exact hasked.notUsed hused
      · refine .inl ⟨nonce, rfl, ⟨?_, hverifies, hreflected, hused⟩, ?_⟩
        · exact Bool.of_not_eq_true hdone
        · rw [NonceReplayGuard.claim, if_neg hused]
    · rw [if_pos hverifies]
      refine .inr ⟨⟨_, rfl⟩, fun other hother hasked => ?_⟩
      cases hother
      exact hverifies hasked.verified

end BridgeAuthenticator

/-! ## Connections that share a guard -/

/-- The guard and the connections, in the order in which they were accepted. -/
structure Authentication where
  guard : NonceReplayGuard
  authenticators : List BridgeAuthenticator

/-- A new connection, or a proof on one of them. -/
inductive AuthenticationAction where
  | connect (role : BridgeRole) (secret : Bytes32) (instanceId : Bytes16) (serverNonce : Bytes32)
  | authenticate (connection : Nat) (clientNonce clientProof : Bytes)

namespace Authentication

/-- The broker before its first connection. -/
def new (guard : NonceReplayGuard) : Authentication where
  guard
  authenticators := []

variable (hmacSha256 : Bytes → Bytes → Bytes32)

/-- One action; a call yields its result. -/
def step (s : Authentication) :
    AuthenticationAction → Authentication × Option (Except AuthenticationError Bytes32)
  | .connect role secret instanceId serverNonce =>
    ({ s with
        authenticators :=
          s.authenticators ++ [BridgeAuthenticator.new role secret instanceId serverNonce] },
      none)
  | .authenticate connection clientNonce clientProof =>
    match s.authenticators[connection]? with
    | none => (s, none)
    | some a =>
      match a.authenticate hmacSha256 clientNonce clientProof s.guard with
      | (a, guard, result) =>
        ({ guard, authenticators := s.authenticators.set connection a }, some result)

/-- The broker as a machine. -/
def machine : Machine Authentication AuthenticationAction
    (Option (Except AuthenticationError Bytes32)) where
  step := step hmacSha256

/-- One step of a run of the broker. -/
abbrev Moment :=
  Occurrence Authentication AuthenticationAction (Option (Except AuthenticationError Bytes32))

/-- The connection that an action opens. -/
def connected (e : Moment) : Option BridgeAuthenticator :=
  match e.input with
  | .connect role secret instanceId serverNonce =>
    some (BridgeAuthenticator.new role secret instanceId serverNonce)
  | .authenticate .. => none

/-- The connection and the nonce of a call that has succeeded. -/
def accepted (e : Moment) : Option (Nat × Bytes) :=
  match e.input, e.output with
  | .authenticate connection clientNonce _, some (.ok _) => some (connection, clientNonce)
  | _, _ => none

/-- The connections opened so far, each as it was opened. -/
def connections (past : List Moment) : List BridgeAuthenticator := past.filterMap connected

/-- The connections whose proof has been accepted. -/
def succeeded (past : List Moment) : List Nat := (past.filterMap accepted).map Prod.fst

/-- The client nonces accepted so far. -/
def acceptedNonces (past : List Moment) : List Bytes := (past.filterMap accepted).map Prod.snd

/-- The guard and the connections are what the run so far has made of them. -/
structure Holds (capacity : Nat) (past : List Moment) (s : Authentication) : Prop where
  coherent : s.guard.Coherent
  capacity_eq : s.guard.capacity = capacity
  order_eq : s.guard.insertionOrder.map Vector.toList = (acceptedNonces past).rtake capacity
  authenticators_eq : s.authenticators =
    (connections past).mapIdx fun i a => { a with authenticated := decide (i ∈ succeeded past) }
  known : ∀ i ∈ succeeded past, i < (connections past).length
  unproved : ∀ a ∈ connections past, a.authenticated = false

variable {hmacSha256} {capacity : Nat} {past : List Moment} {s : Authentication}

variable {α : Type*} (l : List α)

/-- The last of the last ones. -/
theorem rtake_rtake {m n : Nat} (h : m ≤ n) :
    (l.rtake n).rtake m = l.rtake m := by
  rw [List.rtake_eq_reverse_take_reverse, List.rtake_eq_reverse_take_reverse (l := l),
    List.rtake_eq_reverse_take_reverse (l := l), List.reverse_reverse, List.take_take,
    min_eq_left h]

/-- Appending one to the last ones drops the same as appending it to all. -/
theorem rtake_rtake_concat (x : α) {n : Nat} (h : 0 < n) :
    (l.rtake n ++ [x]).rtake n = (l ++ [x]).rtake n := by
  obtain ⟨m, rfl⟩ : ∃ m, n = m + 1 := ⟨n - 1, by omega⟩
  rw [List.rtake_concat_succ, List.rtake_concat_succ, rtake_rtake l (Nat.le_succ m)]

theorem map_rtake {α β : Type*} (f : α → β) (l : List α) (n : Nat) :
    (l.rtake n).map f = (l.map f).rtake n := by
  rw [List.rtake, List.rtake, List.map_drop, List.length_map]

/-- The guard knows a nonce if it is among the last ones accepted. -/
theorem Holds.mem_used (h : Holds capacity past s) (nonce : Bytes32) :
    nonce ∈ s.guard.used ↔ nonce.toList ∈ (acceptedNonces past).rtake capacity := by
  rw [h.coherent.used_eq, List.mem_toFinset, ← h.order_eq]
  exact (List.mem_map_of_injective fun _ _ h => Vector.toList_inj.mp h).symm

/-- A connection is as it was opened, apart from its proof. -/
theorem Holds.authenticator (h : Holds capacity past s) (i : Nat) :
    s.authenticators[i]? =
      (connections past)[i]?.map fun a =>
        { a with authenticated := decide (i ∈ succeeded past) } := by
  rw [h.authenticators_eq, List.getElem?_mapIdx]

theorem new_holds {guard : NonceReplayGuard} (h : NonceReplayGuard.new capacity = .ok guard) :
    Holds capacity [] (new guard) := by
  obtain ⟨hpositive, rfl⟩ := NonceReplayGuard.new_eq_ok.mp h
  exact
    { coherent :=
        { used_eq := rfl, nodup := List.nodup_nil, bounded := Nat.zero_le _, positive := hpositive }
      capacity_eq := rfl
      order_eq := (List.rtake_nil _).symm
      authenticators_eq := rfl
      known := List.forall_mem_nil _
      unproved := List.forall_mem_nil _ }

variable (e : Moment)

theorem connections_snoc :
    connections (past ++ [e]) = connections past ++ (connected e).toList := by
  unfold connections
  rw [List.filterMap_append]
  cases h : connected e <;> simp [h]

theorem succeeded_snoc :
    succeeded (past ++ [e]) = succeeded past ++ ((accepted e).map Prod.fst).toList := by
  unfold succeeded
  rw [List.filterMap_append]
  cases h : accepted e <;> simp [h]

theorem acceptedNonces_snoc :
    acceptedNonces (past ++ [e]) = acceptedNonces past ++ ((accepted e).map Prod.snd).toList := by
  unfold acceptedNonces
  rw [List.filterMap_append]
  cases h : accepted e <;> simp [h]

/-- What neither opens nor accepts a connection changes nothing. -/
theorem Holds.quiet (h : Holds capacity past s) {e : Moment} (hconnected : connected e = none)
    (haccepted : accepted e = none) : Holds capacity (past ++ [e]) s := by
  have hconnections : connections (past ++ [e]) = connections past := by
    rw [connections_snoc, hconnected]
    exact List.append_nil _
  have hsucceeded : succeeded (past ++ [e]) = succeeded past := by
    rw [succeeded_snoc, haccepted]
    exact List.append_nil _
  have hnonces : acceptedNonces (past ++ [e]) = acceptedNonces past := by
    rw [acceptedNonces_snoc, haccepted]
    exact List.append_nil _
  exact
    { coherent := h.coherent
      capacity_eq := h.capacity_eq
      order_eq := by rw [hnonces]; exact h.order_eq
      authenticators_eq := by rw [hconnections, hsucceeded]; exact h.authenticators_eq
      known := by rw [hconnections, hsucceeded]; exact h.known
      unproved := by rw [hconnections]; exact h.unproved }

/-- A new connection has proved nothing. -/
theorem Holds.connect (h : Holds capacity past s) {e : Moment} {a : BridgeAuthenticator}
    (hunproved : a.authenticated = false) (hconnected : connected e = some a)
    (haccepted : accepted e = none) :
    Holds capacity (past ++ [e]) { s with authenticators := s.authenticators ++ [a] } := by
  have hconnections : connections (past ++ [e]) = connections past ++ [a] := by
    rw [connections_snoc, hconnected]
    rfl
  have hsucceeded : succeeded (past ++ [e]) = succeeded past := by
    rw [succeeded_snoc, haccepted]
    exact List.append_nil _
  have hnonces : acceptedNonces (past ++ [e]) = acceptedNonces past := by
    rw [acceptedNonces_snoc, haccepted]
    exact List.append_nil _
  have hnew : (connections past).length ∉ succeeded past := fun hmem =>
    Nat.lt_irrefl _ (h.known _ hmem)
  refine
    { coherent := h.coherent
      capacity_eq := h.capacity_eq
      order_eq := by rw [hnonces]; exact h.order_eq
      authenticators_eq := ?_
      known := fun i hi => ?_
      unproved := ?_ }
  · have hfresh : ({ a with authenticated := false } : BridgeAuthenticator) = a := by
      rw [← hunproved]
    rw [hconnections, hsucceeded, List.mapIdx_concat, decide_eq_false hnew, hfresh,
      ← h.authenticators_eq]
  · rw [hsucceeded] at hi
    rw [hconnections, List.length_append]
    exact Nat.lt_add_right _ (h.known i hi)
  · rw [hconnections, List.forall_mem_append]
    exact ⟨h.unproved, List.forall_mem_singleton.mpr hunproved⟩

/-- An accepted proof is remembered by its connection and its nonce by the guard. -/
theorem Holds.accept (h : Holds capacity past s) {e : Moment} {i : Nat}
    {a : BridgeAuthenticator} {nonce : Bytes32} (ha : s.authenticators[i]? = some a)
    (hfresh : nonce ∉ s.guard.used) (hconnected : connected e = none)
    (haccepted : accepted e = some (i, nonce.toList)) :
    Holds capacity (past ++ [e])
      { guard := (s.guard.claim nonce).1
        authenticators := s.authenticators.set i { a with authenticated := true } } := by
  obtain ⟨-, hcoherent, hcapacity, horder⟩ := NonceReplayGuard.claim_fresh h.coherent hfresh
  have hconnections : connections (past ++ [e]) = connections past := by
    rw [connections_snoc, hconnected]
    exact List.append_nil _
  have hsucceeded : succeeded (past ++ [e]) = succeeded past ++ [i] := by
    rw [succeeded_snoc, haccepted]
    rfl
  have hnonces : acceptedNonces (past ++ [e]) = acceptedNonces past ++ [nonce.toList] := by
    rw [acceptedNonces_snoc, haccepted]
    rfl
  have hpositive : 0 < capacity := h.capacity_eq ▸ h.coherent.positive
  have hopened := h.authenticator i
  rw [ha] at hopened
  obtain ⟨c, hc, hsame⟩ := Option.map_eq_some_iff.mp hopened.symm
  refine
    { coherent := hcoherent
      capacity_eq := hcapacity.trans h.capacity_eq
      order_eq := ?_
      authenticators_eq := ?_
      known := ?_
      unproved := by rw [hconnections]; exact h.unproved }
  · dsimp only
    rw [horder, h.capacity_eq, map_rtake, List.map_append, h.order_eq, hnonces]
    exact rtake_rtake_concat _ _ hpositive
  · apply List.ext_getElem?
    intro j
    rw [hconnections, hsucceeded, List.getElem?_mapIdx]
    have hj := h.authenticator j
    by_cases hij : i = j
    · subst hij
      rw [List.getElem?_set_self', hc, ha, ← hsame]
      simp
    · rw [List.getElem?_set_ne hij, hj]
      simp [Ne.symm hij]
  · rw [hconnections, hsucceeded, List.forall_mem_append]
    refine ⟨h.known, List.forall_mem_singleton.mpr ?_⟩
    exact (List.getElem?_eq_some_iff.mp hc).1

/-- What a run has made of the broker, one step on. -/
theorem step_holds (h : Holds capacity past s) (action : AuthenticationAction) :
    Holds capacity (past ++ [(machine hmacSha256).occurrence s action])
      ((machine hmacSha256).step s action).1 := by
  cases action with
  | connect role secret instanceId serverNonce => exact h.connect rfl rfl rfl
  | authenticate i clientNonce clientProof =>
    generalize hmoment : (machine hmacSha256).occurrence s
      (.authenticate i clientNonce clientProof) = e
    have hinput : e.input = .authenticate i clientNonce clientProof := by rw [← hmoment]; rfl
    have houtput : e.output =
        (s.step hmacSha256 (.authenticate i clientNonce clientProof)).2 := by rw [← hmoment]; rfl
    have hconnected : connected e = none := by rw [connected, hinput]
    change Holds capacity _ (s.step hmacSha256 (.authenticate i clientNonce clientProof)).1
    unfold step at houtput ⊢
    dsimp only at houtput ⊢
    cases ha : s.authenticators[i]? with
    | none =>
      rw [ha] at houtput
      exact h.quiet hconnected (by rw [accepted, hinput, houtput])
    | some a =>
      rw [ha] at houtput
      dsimp only at houtput ⊢
      obtain ⟨nonce, hnonce, hasked, hresult⟩ | ⟨⟨error, hresult⟩, -⟩ :=
        BridgeAuthenticator.authenticate_cases hmacSha256 a s.guard clientNonce clientProof
      · rw [hresult] at houtput ⊢
        refine h.accept ha hasked.notUsed hconnected ?_
        rw [accepted, hinput, houtput, toArray?_eq_some.mp hnonce]
      · rw [hresult] at houtput ⊢
        have hkept : s.authenticators.set i a = s.authenticators := by
          obtain ⟨hlt, hget⟩ := List.getElem?_eq_some_iff.mp ha
          rw [← hget]
          exact List.set_getElem_self hlt
        dsimp only
        rw [hkept]
        exact h.quiet hconnected (by rw [accepted, hinput, houtput])

variable (hmacSha256) in
/-- The guard holds the nonces accepted last, and each connection whether it has proved itself. -/
theorem run_holds {guard : NonceReplayGuard} (hguard : NonceReplayGuard.new capacity = .ok guard)
    (actions : List AuthenticationAction) :
    Holds capacity ((machine hmacSha256).trace (new guard) actions)
      ((machine hmacSha256).run (new guard) actions) :=
  Machine.history_invariant (Holds capacity) (fun _ _ action h _ => step_holds h action) []
    (new_holds hguard) (Machine.guarded_true _ _)

/-- Which calls succeed in a state that a run has led to, and what a refused one does. -/
theorem Holds.authenticate (h : Holds capacity past s) (i : Nat) (clientNonce clientProof : Bytes) :
    (∀ reply, (s.step hmacSha256 (.authenticate i clientNonce clientProof)).2 = some (.ok reply) ↔
      ∃ a nonce, (connections past)[i]? = some a ∧ i ∉ succeeded past ∧
        nonce.toList = clientNonce ∧ a.verifies hmacSha256 nonce clientProof = true ∧
        nonce ≠ a.serverNonce ∧ clientNonce ∉ (acceptedNonces past).rtake capacity ∧
        reply = a.answer hmacSha256 nonce) ∧
    (∀ error,
      (s.step hmacSha256 (.authenticate i clientNonce clientProof)).2 = some (.error error) →
        (s.step hmacSha256 (.authenticate i clientNonce clientProof)).1 = s) := by
  have ha := h.authenticator i
  unfold step
  dsimp only
  cases hc : (connections past)[i]? with
  | none =>
    rw [hc] at ha
    rw [ha]
    refine ⟨fun reply => ⟨nofun, ?_⟩, nofun⟩
    rintro ⟨a, nonce, hopened, -⟩
    cases hopened
  | some c =>
    rw [hc, Option.map_some] at ha
    rw [ha]
    dsimp only
    obtain ⟨nonce, hnonce, hasked, hresult⟩ | ⟨⟨error, hresult⟩, hunasked⟩ :=
      BridgeAuthenticator.authenticate_cases hmacSha256
        { c with authenticated := decide (i ∈ succeeded past) } s.guard clientNonce clientProof
    · rw [hresult]
      refine ⟨fun reply => ⟨fun hreply => ?_, ?_⟩, nofun⟩
      · have hbytes := toArray?_eq_some.mp hnonce
        refine ⟨c, nonce, rfl, of_decide_eq_false hasked.first, hbytes, hasked.verified,
          hasked.notReflected, ?_, (Except.ok.inj (Option.some.inj hreply)).symm⟩
        rw [← hbytes, ← h.mem_used nonce]
        exact hasked.notUsed
      · rintro ⟨a, other, hopened, -, hbytes, -, -, -, rfl⟩
        have hsame := toArray?_eq_some.mpr hbytes
        rw [hnonce] at hsame
        cases hsame
        cases hopened
        rfl
    · rw [hresult]
      refine ⟨fun reply => ⟨nofun, ?_⟩, fun _ _ => ?_⟩
      · rintro ⟨a, nonce, hopened, hfirst, hbytes, hverified, hreflected, hunused, -⟩
        cases hopened
        refine absurd ?_ (hunasked nonce (toArray?_eq_some.mpr hbytes))
        rw [← hbytes, ← h.mem_used nonce] at hunused
        exact
          { first := decide_eq_false hfirst
            verified := hverified
            notReflected := hreflected
            notUsed := hunused }
      · obtain ⟨hlt, hget⟩ := List.getElem?_eq_some_iff.mp ha
        dsimp only
        rw [← hget, List.set_getElem_self hlt]

/-- The authentication of connections that share one guard, over every run.  A call succeeds
exactly if its connection has not succeeded before, the proof is the one for its role, instance
and nonces, and the client nonce is neither the server's nor among the last ones accepted; a
refused call changes nothing; and the guard's set and queue hold the same distinct nonces, the
last ones accepted. -/
theorem authentication {guard : NonceReplayGuard}
    (hguard : NonceReplayGuard.new capacity = .ok guard) (actions : List AuthenticationAction) :
    (∀ past e rest, (machine hmacSha256).trace (new guard) actions = past ++ e :: rest →
      ∀ connection clientNonce clientProof,
        e.input = .authenticate connection clientNonce clientProof →
        (∀ reply, e.output = some (.ok reply) ↔
          ∃ a nonce, (connections past)[connection]? = some a ∧
            connection ∉ succeeded past ∧
            nonce.toList = clientNonce ∧
            a.verifies hmacSha256 nonce clientProof = true ∧
            nonce ≠ a.serverNonce ∧
            clientNonce ∉ (acceptedNonces past).rtake capacity ∧
            reply = a.answer hmacSha256 nonce) ∧
        (∀ error, e.output = some (.error error) → e.after = e.before)) ∧
    (let reached := (machine hmacSha256).run (new guard) actions
     let trace := (machine hmacSha256).trace (new guard) actions
     reached.guard.used = reached.guard.insertionOrder.toFinset ∧
      reached.guard.insertionOrder.Nodup ∧
      reached.guard.insertionOrder.length ≤ capacity ∧
      reached.guard.insertionOrder.map Vector.toList = (acceptedNonces trace).rtake capacity) := by
  have hrun := run_holds hmacSha256 hguard
  refine ⟨fun past e rest htrace i clientNonce clientProof hinput => ?_, ?_⟩
  · obtain ⟨before, action, after, rfl, rfl, rfl, -⟩ := Machine.trace_split htrace
    obtain rfl : action = .authenticate i clientNonce clientProof := hinput
    exact (hrun before).authenticate i clientNonce clientProof
  · have h := hrun actions
    exact ⟨h.coherent.used_eq, h.coherent.nodup, h.capacity_eq ▸ h.coherent.bounded, h.order_eq⟩

/-- The theorem for a guard of two nonces. -/
theorem authentication_sample :
    NonceReplayGuard.new 2 = .ok { used := ∅, insertionOrder := [], capacity := 2 } ∧
      ∀ (hmacSha256 : Bytes → Bytes → Bytes32) (actions : List AuthenticationAction),
        ((machine hmacSha256).run (new { used := ∅, insertionOrder := [], capacity := 2 })
          actions).guard.insertionOrder.length ≤ 2 := by
  have hguard : NonceReplayGuard.new 2 =
      .ok { used := ∅, insertionOrder := [], capacity := 2 } := rfl
  exact ⟨hguard, fun hmacSha256 actions => (authentication hguard actions).2.2.2.1⟩

end Authentication

end Bridge

end Roammand
