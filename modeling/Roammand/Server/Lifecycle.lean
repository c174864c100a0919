import Roammand.Server.Handlers

/-!
# Presence and rendezvous belong to one connection

A device is registered by one connection at a time, and the store holds rendezvous only of
devices that a serving connection has registered.  The order of the two sections of the cleanup
is what makes this hold: the rendezvous of a device are removed while its identifier is still
reserved.

The argument needs little of the service.  `Lifecycle` keeps only which connection holds a
device, how far each connection has come and the store; its steps are the abstract life of a
connection, and every step of the service is one of them.

Main results:

- Definition `Lifecycle.Step`: the life of connections.
- Definition `Lifecycle.Valid` with theorem `Lifecycle.Step.valid`: what every step keeps.
- Theorem `Service.Stepped.lifecycle`: a step of the service is a step of the life of
  connections.
- Theorem `Service.lifecycle_consistent`: the agreement of presence and rendezvous over every
  run.
-/

namespace Roammand

namespace Server

open Library Protocol RendezvousStore Function ClientConnection Option

/-! ## The life of connections -/

/-- How far a connection has come. -/
structure ConnectionLife where
  token : UInt64
  registered : Bool
  deviceID : DeviceID
  phase : Phase

/-- The connection holds its device. -/
def ConnectionLife.Holds (x : ConnectionLife) : Prop :=
  x.registered = true ∧ (x.phase = .serving ∨ x.phase = .closing)

/-- Which connection holds a device, how far the connections have come, and the store with the
connections under which its rendezvous were created and joined. -/
structure Lifecycle where
  owner : DeviceID → Option (UInt64 × Nat)
  connection : Nat → Option ConnectionLife
  rendezvous : RendezvousStore
  createdBy : RendezvousID → Nat
  joinedBy : RendezvousID → Nat

namespace Lifecycle

/-- Replace a connection. -/
def setConnection (c : Lifecycle) (n : Nat) (x : ConnectionLife) : Lifecycle :=
  { c with connection := update c.connection n (some x) }

/-- The life of connections. -/
inductive Step (c : Lifecycle) : Lifecycle → Prop
  | stay : Step c c
  | connect {n x} (fresh : c.connection n = none) (unregistered : x.registered = false)
      (serving : x.phase = .serving) : Step c (c.setConnection n x)
  | register {n x d} (present : c.connection n = some x) (unregistered : x.registered = false)
      (serving : x.phase = .serving) (free : c.owner d = none) :
      Step c ({ c with owner := update c.owner d (some (x.token, n)) }.setConnection n
        { x with deviceID := d, registered := true })
  | remove {removed store} (sound : Sound c.rendezvous store)
      (removes : Removes c.rendezvous removed store) :
      Step c { c with rendezvous := store }
  | create {n x removed store stored} (present : c.connection n = some x)
      (registered : x.registered = true) (serving : x.phase = .serving)
      (sound : Sound c.rendezvous store)
      (removes : Removes c.rendezvous removed store)
      (host : stored.host = x.deviceID) (controller : stored.controller = none)
      (free : store.refusal stored = none) :
      Step c { c with
        rendezvous := store.add stored
        createdBy := update c.createdBy stored.id n }
  | join {n x r} (present : c.connection n = some x) (registered : x.registered = true)
      (serving : x.phase = .serving) (stored : c.rendezvous.byID.lookup r.id = some r)
      (notHost : r.host ≠ x.deviceID) (unjoined : r.controller = none) :
      Step c { c with
        rendezvous := c.rendezvous.joined r x.deviceID
        joinedBy := update c.joinedBy r.id n }
  | close {n x removed store} (present : c.connection n = some x)
      (registered : x.registered = true) (serving : x.phase = .serving)
      (sound : Sound c.rendezvous store)
      (removes : Removes c.rendezvous removed store)
      (mem_iff : ∀ r, r ∈ removed ↔ c.rendezvous.byID.lookup r.id = some r ∧
        r.id ∈ c.rendezvous.memberIndex.memberIDs x.deviceID) :
      Step c ({ c with rendezvous := store }.setConnection n { x with phase := .closing })
  | release {n x} (present : c.connection n = some x) (closing : x.phase = .closing) :
      Step c ({ c with
        owner := fun d => if d = x.deviceID ∧ (c.owner d).map Prod.fst = some x.token then none
          else c.owner d }.setConnection n { x with phase := .leaving })
  | abandon {n x} (present : c.connection n = some x) (unregistered : x.registered = false) :
      Step c (c.setConnection n { x with phase := .leaving })
  | finish {n x} (present : c.connection n = some x) (leaving : x.phase = .leaving) :
      Step c (c.setConnection n { x with phase := .ended })

/-- The device is held by the connection, which is serving. -/
def ServedBy (c : Lifecycle) (d : DeviceID) (n : Nat) : Prop :=
  ∃ x, c.connection n = some x ∧ x.phase = .serving ∧ x.deviceID = d ∧
    c.owner d = some (x.token, n)

/-- Presence, connections and store agree. -/
structure Valid (c : Lifecycle) : Prop where
  indexed : c.rendezvous.Indexed
  members : c.rendezvous.MembersIndexed
  held : ∀ d o, c.owner d = some o →
    ∃ x, c.connection o.2 = some x ∧ x.Holds ∧ x.deviceID = d ∧ x.token = o.1
  holds : ∀ n x, c.connection n = some x → x.Holds → c.owner x.deviceID = some (x.token, n)
  closing : ∀ n x, c.connection n = some x → x.phase = .closing → x.registered = true
  host : ∀ id r, c.rendezvous.byID.lookup id = some r → c.ServedBy r.host (c.createdBy id)
  controller : ∀ id r d, c.rendezvous.byID.lookup id = some r → r.controller = some d →
    c.ServedBy d (c.joinedBy id) ∧ d ≠ r.host

section valid

variable {c : Lifecycle}

theorem setConnection_self (c : Lifecycle) (n : Nat) (x : ConnectionLife) :
    (c.setConnection n x).connection n = some x := update_self _ _ _

theorem setConnection_of_ne (c : Lifecycle) {n m : Nat} (x : ConnectionLife) (h : m ≠ n) :
    (c.setConnection n x).connection m = c.connection m := update_of_ne h _ _

/-- A connection that holds no device holds none of another connection's either. -/
theorem Valid.owner_ne (hc : c.Valid) {n : Nat} {x : ConnectionLife}
    (hx : c.connection n = some x) (hnot : ¬ x.Holds) {d : DeviceID} {o : UInt64 × Nat}
    (ho : c.owner d = some o) : o.2 ≠ n := by
  rintro rfl
  obtain ⟨y, hy, hholds, -⟩ := hc.held d o ho
  rw [hx] at hy
  exact hnot (some.inj hy ▸ hholds)

/-- A connection that is closing is registered, if the changed one is. -/
theorem Valid.closing_setConnection (hc : c.Valid) {n : Nat} {x : ConnectionLife}
    (hx : x.phase = .closing → x.registered = true) (m : Nat) (y : ConnectionLife)
    (hy : update c.connection n (some x) m = some y) (hphase : y.phase = .closing) :
    y.registered = true := by
  by_cases hmn : m = n
  · subst hmn
    rw [update_self] at hy
    rw [← some.inj hy] at hphase ⊢
    exact hx hphase
  · rw [update_of_ne hmn] at hy
    exact hc.closing m y hy hphase

/-- A serving connection is still one after another connection has changed. -/
theorem ServedBy.setConnection {d : DeviceID} {m n : Nat} {x : ConnectionLife}
    (h : c.ServedBy d m) (hne : m ≠ n) : (c.setConnection n x).ServedBy d m := by
  obtain ⟨y, hy, hphase, hd, ho⟩ := h
  exact ⟨y, by rw [setConnection_of_ne c x hne]; exact hy, hphase, hd, ho⟩

/-- A change of a connection that holds no device, into another one that holds none. -/
theorem Valid.setConnection (hc : c.Valid) {n : Nat} {x : ConnectionLife}
    (hold : ∀ y, c.connection n = some y → ¬ y.Holds) (hnew : ¬ x.Holds)
    (hphase : x.phase ≠ .closing) : (c.setConnection n x).Valid := by
  have howner : ∀ {d o}, c.owner d = some o → o.2 ≠ n := by
    rintro d o ho rfl
    obtain ⟨y, hy, hholds, -⟩ := hc.held d o ho
    exact hold y hy hholds
  have hserved : ∀ {d m}, c.ServedBy d m → (c.setConnection n x).ServedBy d m := by
    intro d m h
    obtain ⟨y, -, -, -, ho⟩ := id h
    exact h.setConnection (howner ho)
  refine ⟨hc.indexed, hc.members, ?_, ?_, ?_, ?_, ?_⟩
  · intro d o ho
    obtain ⟨y, hy, hrest⟩ := hc.held d o ho
    exact ⟨y, by rw [setConnection_of_ne c x (howner ho)]; exact hy, hrest⟩
  · intro m y hy hholds
    by_cases hmn : m = n
    · subst hmn
      rw [setConnection_self] at hy
      exact absurd (some.inj hy ▸ hholds) hnew
    · rw [setConnection_of_ne c x hmn] at hy
      exact hc.holds m y hy hholds
  · exact hc.closing_setConnection fun h => absurd h hphase
  · exact fun id r hr => hserved (hc.host id r hr)
  · exact fun id r d hr hd => ⟨hserved (hc.controller id r d hr hd).1,
      (hc.controller id r d hr hd).2⟩

/-- A smaller store. -/
theorem Valid.remove (hc : c.Valid) {removed : List Rendezvous} {store : RendezvousStore}
    (hsound : Sound c.rendezvous store)
    (hremoves : Removes c.rendezvous removed store) :
    Valid { c with rendezvous := store } :=
  ⟨hsound.indexed, hsound.members hc.members, hc.held, hc.holds, hc.closing,
    fun id r hr => hc.host id r (hremoves.lookup_eq_some hr).2,
    fun id r d hr hd => hc.controller id r d (hremoves.lookup_eq_some hr).2 hd⟩

theorem Valid.register (hc : c.Valid) {n : Nat} {x : ConnectionLife} {d : DeviceID}
    (hx : c.connection n = some x) (hregistered : x.registered = false)
    (hserving : x.phase = .serving) (hfree : c.owner d = none) :
    Valid ({ c with owner := update c.owner d (some (x.token, n)) }.setConnection n
      { x with deviceID := d, registered := true }) := by
  have hnot : ¬ x.Holds := fun h => by
    rw [h.1] at hregistered
    cases hregistered
  have hserved : ∀ {d' m}, c.ServedBy d' m →
      ServedBy ({ c with owner := update c.owner d (some (x.token, n)) }.setConnection n
        { x with deviceID := d, registered := true }) d' m := by
    rintro d' m ⟨y, hy, hphase, hd, ho⟩
    have hne : m ≠ n := hc.owner_ne hx hnot ho
    have hd' : d' ≠ d := by
      rintro rfl
      rw [hfree] at ho
      cases ho
    refine ⟨y, by rw [setConnection_of_ne _ _ hne]; exact hy, hphase, hd, ?_⟩
    exact (update_of_ne hd' _ _).trans ho
  refine ⟨hc.indexed, hc.members, ?_, ?_, ?_, ?_, ?_⟩
  · intro d' o ho
    by_cases hd' : d' = d
    · subst hd'
      have heq : o = (x.token, n) :=
        (some.inj ((update_self d' _ c.owner).symm.trans ho)).symm
      subst heq
      exact ⟨_, setConnection_self _ _ _, ⟨rfl, .inl hserving⟩, rfl, rfl⟩
    · have ho' : c.owner d' = some o := (update_of_ne hd' _ _).symm.trans ho
      obtain ⟨y, hy, hrest⟩ := hc.held d' o ho'
      exact ⟨y, by rw [setConnection_of_ne _ _ (hc.owner_ne hx hnot ho')]; exact hy, hrest⟩
  · intro m y hy hholds
    by_cases hmn : m = n
    · subst hmn
      rw [setConnection_self] at hy
      rw [← some.inj hy]
      exact update_self _ _ _
    · rw [setConnection_of_ne _ _ hmn] at hy
      have ho := hc.holds m y hy hholds
      have hd' : y.deviceID ≠ d := by
        intro heq
        rw [heq, hfree] at ho
        cases ho
      exact (update_of_ne hd' _ _).trans ho
  · exact hc.closing_setConnection fun _ => rfl
  · exact fun id r hr => hserved (hc.host id r hr)
  · exact fun id r d hr hd => ⟨hserved (hc.controller id r d hr hd).1,
      (hc.controller id r d hr hd).2⟩

/-- A serving connection serves its device. -/
theorem Valid.servedBy (hc : c.Valid) {n : Nat} {x : ConnectionLife}
    (hx : c.connection n = some x) (hregistered : x.registered = true)
    (hserving : x.phase = .serving) : c.ServedBy x.deviceID n :=
  ⟨x, hx, hserving, rfl, hc.holds n x hx ⟨hregistered, .inl hserving⟩⟩

theorem Valid.create (hc : c.Valid) {n : Nat} {x : ConnectionLife} {stored : Rendezvous}
    (hx : c.connection n = some x) (hregistered : x.registered = true)
    (hserving : x.phase = .serving) (hhost : stored.host = x.deviceID)
    (hcontroller : stored.controller = none) (hfree : c.rendezvous.refusal stored = none) :
    Valid { c with
      rendezvous := c.rendezvous.add stored
      createdBy := update c.createdBy stored.id n } := by
  have hnew := (refusal_eq_none hfree).1
  refine ⟨hc.indexed.add hfree, hc.members.add hnew hcontroller, hc.held, hc.holds, hc.closing,
    ?_, ?_⟩
  · intro id r hr
    rw [lookup_add] at hr
    by_cases hid : id = stored.id
    · subst hid
      rw [if_pos rfl] at hr
      rw [← some.inj hr, hhost]
      dsimp only
      rw [update_self]
      exact hc.servedBy hx hregistered hserving
    · rw [if_neg hid] at hr
      dsimp only
      rw [update_of_ne hid]
      exact hc.host id r hr
  · intro id r d hr hd
    rw [lookup_add] at hr
    by_cases hid : id = stored.id
    · rw [if_pos hid] at hr
      rw [← some.inj hr, hcontroller] at hd
      cases hd
    · rw [if_neg hid] at hr
      exact hc.controller id r d hr hd

theorem Valid.join (hc : c.Valid) {n : Nat} {x : ConnectionLife} {r : Rendezvous}
    (hx : c.connection n = some x) (hregistered : x.registered = true)
    (hserving : x.phase = .serving) (hr : c.rendezvous.byID.lookup r.id = some r)
    (hhost : r.host ≠ x.deviceID) (hcontroller : r.controller = none) :
    Valid { c with
      rendezvous := c.rendezvous.joined r x.deviceID
      joinedBy := update c.joinedBy r.id n } := by
  refine ⟨hc.indexed.joined hr, hc.members.joined hr hcontroller, hc.held, hc.holds, hc.closing,
    ?_, ?_⟩
  · intro id r' hr'
    rw [lookup_joined] at hr'
    by_cases hid : id = r.id
    · rw [if_pos hid] at hr'
      rw [← some.inj hr']
      exact hc.host id r (hid ▸ hr)
    · rw [if_neg hid] at hr'
      exact hc.host id r' hr'
  · intro id r' d hr' hd
    rw [lookup_joined] at hr'
    dsimp only
    by_cases hid : id = r.id
    · rw [if_pos hid] at hr'
      rw [← some.inj hr'] at hd ⊢
      rw [hid, update_self, ← some.inj hd]
      exact ⟨hc.servedBy hx hregistered hserving, Ne.symm hhost⟩
    · rw [if_neg hid] at hr'
      rw [update_of_ne hid]
      exact hc.controller id r' d hr' hd

/-- After the rendezvous of a device have been removed none has it as a member. -/
theorem Valid.not_member (hc : c.Valid) {d : DeviceID} {removed : List Rendezvous}
    {store : RendezvousStore} (hremoves : Removes c.rendezvous removed store)
    (hmem : ∀ r, r ∈ removed ↔ c.rendezvous.byID.lookup r.id = some r ∧
      r.id ∈ c.rendezvous.memberIndex.memberIDs d)
    {id : RendezvousID} {r : Rendezvous} (hr : store.byID.lookup id = some r) :
    ¬ r.Member d := by
  intro hd
  obtain ⟨hnot, hold⟩ := hremoves.lookup_eq_some hr
  have hid := hc.indexed.ids id r hold
  subst hid
  have hindex := (hc.members.members d r.id).mpr ⟨r, hold, hd⟩
  exact hnot (List.mem_map_of_mem ((hmem r).mpr ⟨hold, hindex⟩))

theorem Valid.close (hc : c.Valid) {n : Nat} {x : ConnectionLife} {removed : List Rendezvous}
    {store : RendezvousStore} (hx : c.connection n = some x) (hregistered : x.registered = true)
    (hserving : x.phase = .serving) (hsound : Sound c.rendezvous store)
    (hremoves : Removes c.rendezvous removed store)
    (hmem : ∀ r, r ∈ removed ↔ c.rendezvous.byID.lookup r.id = some r ∧
      r.id ∈ c.rendezvous.memberIndex.memberIDs x.deviceID) :
    Valid ({ c with rendezvous := store }.setConnection n { x with phase := .closing }) := by
  have howner := hc.holds n x hx ⟨hregistered, .inl hserving⟩
  have hserved : ∀ {d m}, d ≠ x.deviceID → c.ServedBy d m →
      ServedBy ({ c with rendezvous := store }.setConnection n { x with phase := .closing })
        d m := by
    rintro d m hd ⟨y, hy, hphase, hyd, ho⟩
    have hne : m ≠ n := by
      rintro rfl
      rw [hx] at hy
      rw [← some.inj hy] at hyd
      exact hd hyd.symm
    exact ⟨y, by rw [setConnection_of_ne _ _ hne]; exact hy, hphase, hyd, ho⟩
  refine ⟨hsound.indexed, hsound.members hc.members, ?_, ?_, ?_, ?_, ?_⟩
  · intro d o ho
    obtain ⟨y, hy, hholds, hrest⟩ := hc.held d o ho
    by_cases hn : o.2 = n
    · rw [hn, hx] at hy
      rw [← some.inj hy] at hrest
      refine ⟨{ x with phase := .closing }, ?_, ⟨hregistered, .inr rfl⟩, hrest⟩
      rw [hn]
      exact setConnection_self _ _ _
    · exact ⟨y, by rw [setConnection_of_ne _ _ hn]; exact hy, hholds, hrest⟩
  · intro m y hy hholds
    by_cases hmn : m = n
    · subst hmn
      rw [setConnection_self] at hy
      rw [← some.inj hy]
      exact howner
    · rw [setConnection_of_ne _ _ hmn] at hy
      exact hc.holds m y hy hholds
  · exact hc.closing_setConnection fun _ => hregistered
  · intro id r hr
    have hnot := hc.not_member hremoves hmem hr
    refine hserved (fun heq => hnot (.inl heq)) (hc.host id r (hremoves.lookup_eq_some hr).2)
  · intro id r d hr hd
    have hnot := hc.not_member hremoves hmem hr
    have hold := hc.controller id r d (hremoves.lookup_eq_some hr).2 hd
    exact ⟨hserved (fun heq => hnot (.inr (heq ▸ hd))) hold.1, hold.2⟩

theorem Valid.release (hc : c.Valid) {n : Nat} {x : ConnectionLife}
    (hx : c.connection n = some x) (hclosing : x.phase = .closing) :
    Valid ({ c with
      owner := fun d => if d = x.deviceID ∧ (c.owner d).map Prod.fst = some x.token then none
        else c.owner d }.setConnection n { x with phase := .leaving }) := by
  have hregistered := hc.closing n x hx hclosing
  have howner := hc.holds n x hx ⟨hregistered, .inr hclosing⟩
  have hself : (if x.deviceID = x.deviceID ∧ (c.owner x.deviceID).map Prod.fst = some x.token
      then none else c.owner x.deviceID) = none :=
    if_pos ⟨rfl, by rw [howner]; rfl⟩
  have hother : ∀ {d}, d ≠ x.deviceID →
      (if d = x.deviceID ∧ (c.owner d).map Prod.fst = some x.token then none else c.owner d) =
        c.owner d := fun hd => if_neg fun h => hd h.1
  have hne : ∀ {d m y}, d ≠ x.deviceID → c.connection m = some y → y.deviceID = d → m ≠ n := by
    rintro d m y hd hy hyd rfl
    rw [hx] at hy
    rw [← some.inj hy] at hyd
    exact hd hyd.symm
  have hserved : ∀ {d m}, c.ServedBy d m →
      ServedBy ({ c with
        owner := fun d => if d = x.deviceID ∧ (c.owner d).map Prod.fst = some x.token then none
          else c.owner d }.setConnection n { x with phase := .leaving }) d m := by
    rintro d m ⟨y, hy, hphase, hyd, ho⟩
    have hd : d ≠ x.deviceID := by
      rintro rfl
      rw [howner] at ho
      have hm : n = m := congrArg Prod.snd (some.inj ho)
      rw [← hm, hx] at hy
      rw [← some.inj hy, hclosing] at hphase
      cases hphase
    refine ⟨y, by rw [setConnection_of_ne _ _ (hne hd hy hyd)]; exact hy, hphase, hyd, ?_⟩
    exact (hother hd).trans ho
  refine ⟨hc.indexed, hc.members, ?_, ?_, ?_, ?_, ?_⟩
  · intro d o ho
    by_cases hd : d = x.deviceID
    · subst hd
      cases hself.symm.trans ho
    · have ho' : c.owner d = some o := (hother hd).symm.trans ho
      obtain ⟨y, hy, hholds, hyd, htoken⟩ := hc.held d o ho'
      exact ⟨y, by rw [setConnection_of_ne _ _ (hne hd hy hyd)]; exact hy, hholds, hyd, htoken⟩
  · intro m y hy hholds
    by_cases hmn : m = n
    · subst hmn
      rw [setConnection_self] at hy
      rw [← some.inj hy] at hholds
      rcases hholds.2 with hphase | hphase <;> cases hphase
    · rw [setConnection_of_ne _ _ hmn] at hy
      have ho := hc.holds m y hy hholds
      have hd : y.deviceID ≠ x.deviceID := by
        intro heq
        rw [heq, howner] at ho
        exact hmn (congrArg Prod.snd (some.inj ho)).symm
      exact (hother hd).trans ho
  · exact hc.closing_setConnection fun h => by cases h
  · exact fun id r hr => hserved (hc.host id r hr)
  · exact fun id r d hr hd => ⟨hserved (hc.controller id r d hr hd).1,
      (hc.controller id r d hr hd).2⟩

/-- Every step keeps presence, connections and store in agreement. -/
theorem Step.valid {c c' : Lifecycle} (h : Step c c') (hc : c.Valid) : c'.Valid := by
  cases h with
  | stay => exact hc
  | @connect n x hfresh hregistered hserving =>
    refine hc.setConnection (fun y hy => ?_) (fun h => ?_) (by rw [hserving]; decide)
    · rw [hfresh] at hy
      cases hy
    · rw [h.1] at hregistered
      cases hregistered
  | register hx hregistered hserving hfree => exact hc.register hx hregistered hserving hfree
  | remove hsound hremoves => exact hc.remove hsound hremoves
  | create hx hregistered hserving hsound hremoves hhost hcontroller hfree =>
    exact (hc.remove hsound hremoves).create hx hregistered hserving hhost hcontroller hfree
  | join hx hregistered hserving hr hhost hcontroller =>
    exact hc.join hx hregistered hserving hr hhost hcontroller
  | close hx hregistered hserving hsound hremoves hmem =>
    exact hc.close hx hregistered hserving hsound hremoves hmem
  | release hx hclosing => exact hc.release hx hclosing
  | @abandon n x hx hregistered =>
    have hnot : ∀ {phase}, ¬ ConnectionLife.Holds { x with phase } := fun h => by
      rw [h.1] at hregistered
      cases hregistered
    refine hc.setConnection (fun y hy => ?_) hnot nofun
    rw [hx] at hy
    rw [← some.inj hy]
    exact hnot
  | @finish n x hx hleaving =>
    refine hc.setConnection (fun y hy h => ?_) (fun h => ?_) nofun
    · rw [hx] at hy
      rw [← some.inj hy] at h
      rcases h.2 with hphase | hphase <;> rw [hleaving] at hphase <;> cases hphase
    · rcases h.2 with hphase | hphase <;> cases hphase

end valid

/-- A registered connection keeps its device. -/
theorem Step.keeps_device {c c' : Lifecycle} (h : Step c c') {n : Nat} {x : ConnectionLife}
    (hx : c.connection n = some x) (hregistered : x.registered = true) :
    ∃ x', c'.connection n = some x' ∧ x'.registered = true ∧ x'.deviceID = x.deviceID := by
  have hset : ∀ {c : Lifecycle} {m y}, c.connection n = some x →
      (n = m → y.registered = true ∧ y.deviceID = x.deviceID) →
      ∃ x', (c.setConnection m y).connection n = some x' ∧ x'.registered = true ∧
        x'.deviceID = x.deviceID := by
    intro c m y hx hy
    by_cases hnm : n = m
    · subst hnm
      exact ⟨y, setConnection_self c n y, hy rfl⟩
    · exact ⟨x, by rw [setConnection_of_ne c y hnm]; exact hx, hregistered, rfl⟩
  cases h with
  | stay | remove | create | join => exact ⟨x, hx, hregistered, rfl⟩
  | connect hfresh =>
    refine hset hx ?_
    rintro rfl
    rw [hx] at hfresh
    cases hfresh
  | register hy hunregistered =>
    refine hset (c := { c with owner := _ }) hx ?_
    rintro rfl
    rw [hx] at hy
    rw [← some.inj hy, hregistered] at hunregistered
    cases hunregistered
  | @close m y removed store hy =>
    refine hset (c := { c with rendezvous := store }) hx ?_
    rintro rfl
    rw [hx] at hy
    rw [← some.inj hy]
    exact ⟨hregistered, rfl⟩
  | release hy =>
    refine hset (c := { c with owner := _ }) hx ?_
    rintro rfl
    rw [hx] at hy
    rw [← some.inj hy]
    exact ⟨hregistered, rfl⟩
  | abandon hy | finish hy =>
    refine hset hx ?_
    rintro rfl
    rw [hx] at hy
    rw [← some.inj hy]
    exact ⟨hregistered, rfl⟩

end Lifecycle

/-! ## The service -/

/-- How far a connection of the service has come. -/
def ClientConnection.life (connection : ClientConnection) : ConnectionLife :=
  { token := connection.token
    registered := connection.registered
    deviceID := connection.deviceID
    phase := connection.phase }

namespace Service

/-- What the life of connections sees of the service. -/
def lifecycle (s : Service) : Lifecycle where
  owner d := (s.presence.lookup d).map Route.owner
  connection n := s.connections[n]?.map life
  rendezvous := s.rendezvous
  createdBy := s.createdBy
  joinedBy := s.joinedBy

section lifecycle

variable {s : Service} {n : Nat} {connection : ClientConnection}

theorem lifecycle_connection (hn : s.connections[n]? = some connection) :
    s.lifecycle.connection n = some connection.life := by
  change s.connections[n]?.map life = _
  rw [hn, map_some]

theorem lifecycle_setConnection (hn : s.connections[n]? = some connection)
    (connection' : ClientConnection) :
    (s.setConnection n connection').lifecycle =
      s.lifecycle.setConnection n connection'.life := by
  have hlt := (List.getElem?_eq_some_iff.mp hn).1
  unfold lifecycle setConnection Lifecycle.setConnection
  congr 1
  funext m
  rw [List.getElem?_set]
  by_cases hmn : n = m
  · subst hmn
    simp [hlt]
  · rw [if_neg hmn, update_of_ne (Ne.symm hmn)]

/-- A change of connections that leaves their lives alone. -/
theorem lifecycle_congr {connections : List ClientConnection}
    (h : ∀ m : Nat, connections[m]?.map life =
      s.connections[m]?.map life) :
    lifecycle { s with connections } = s.lifecycle := by
  unfold lifecycle
  congr 1
  funext m
  exact h m

theorem lifecycle_modify (s : Service) (n : Nat) {f : ClientConnection → ClientConnection}
    (hf : ∀ connection, (f connection).life = connection.life) :
    lifecycle { s with connections := s.connections.modify n f } = s.lifecycle := by
  apply lifecycle_congr
  intro m
  rw [List.getElem?_modify]
  cases s.connections[m]? with
  | none => rfl
  | some connection =>
    by_cases hmn : n = m
    · simp [hmn, hf]
    · simp [hmn]

theorem lifecycle_setTasks (s : Service) (n : Nat) (tasks : List Task) :
    (s.setTasks n tasks).lifecycle = s.lifecycle :=
  lifecycle_modify s n fun _ => rfl

theorem lifecycle_closeNow (s : Service) (n : Nat) : (s.closeNow n).lifecycle = s.lifecycle :=
  lifecycle_modify s n fun _ => rfl

theorem lifecycle_closeExpired (s : Service) (cutoff : Time) :
    (s.closeExpired cutoff).lifecycle = s.lifecycle := by
  apply lifecycle_congr
  intro m
  rw [List.getElem?_mapIdx]
  cases s.connections[m]? <;> rfl

/-- Releasing a device with the token of its registration. -/
theorem lookup_remove_owner (registry : PresenceRegistry) (id d : DeviceID) (token : UInt64) :
    ((registry.remove id token).lookup d).map Route.owner =
      if d = id ∧ ((registry.lookup d).map Route.owner).map Prod.fst = some token then none
      else (registry.lookup d).map Route.owner := by
  unfold PresenceRegistry.remove
  cases hroute : registry.lookup id with
  | none =>
    rw [if_neg]
    rintro ⟨rfl, h⟩
    rw [hroute] at h
    cases h
  | some route =>
    by_cases htoken : route.token ≠ token
    · simp only [if_pos htoken]
      rw [if_neg]
      rintro ⟨rfl, h⟩
      rw [hroute] at h
      exact htoken (some.inj h)
    · simp only [if_neg htoken]
      rw [Table.lookup_erase]
      by_cases hd : d = id
      · subst hd
        rw [if_pos rfl, if_pos ⟨rfl, by rw [hroute]; exact congrArg some (not_not.mp htoken)⟩,
          map_none]
      · rw [if_neg hd, if_neg fun h => hd h.1]

/-- Running a task at most removes a rendezvous. -/
theorem Ran.lifecycle {self : Option (Nat × DeviceID)} {sent : Bool} {task : Task} {s' : Service}
    {tasks : List Task} {deliveries : List Delivery}
    (h : Ran s self sent task s' tasks deliveries) :
    Lifecycle.Step s.lifecycle s'.lifecycle := by
  cases h with
  | unreached | found | sent | keptUnreached | dropped => exact .stay
  | removedUnreached _ _ hsound hremoves => exact .remove hsound hremoves
  | @replied n deviceID frame notice _ =>
    cases sent
    · simp only [Bool.false_eq_true, if_false, lifecycle_closeNow]
      exact .stay
    · exact .stay
  | @closedExpired cutoff =>
    rw [lifecycle_closeExpired]
    exact .stay

theorem Handled.lifecycle {payload : SignalingClientPayload} {now : Time} {s' : Service}
    {tasks : List Task} (hn : s.connections[n]? = some connection)
    (hserving : connection.phase = .serving)
    (h : Handled s n connection payload now s' tasks) :
    Lifecycle.Step s.lifecycle s'.lifecycle := by
  have hx := lifecycle_connection hn
  cases h with
  | quiet | relayed => exact .stay
  | @touched presence _ same _ =>
    have heq : Service.lifecycle { s with presence } = s.lifecycle := by
      unfold Service.lifecycle
      congr 1
      funext d
      exact same d
    rw [heq]
    exact .stay
  | closed =>
    have heq : (s.setConnection n { connection with closed := true }).lifecycle =
        s.lifecycle := by
      rw [lifecycle_setConnection hn]
      unfold Lifecycle.setConnection
      rw [show life { connection with closed := true } = connection.life from
        rfl, ← hx, update_eq_self]
    rw [heq]
    exact .stay
  | @registered d _ hregistered hfree _ =>
    have hs : (Service.lifecycle { s with
        presence := s.presence.insert d ⟨connection.token, n, now⟩ }) =
        { s.lifecycle with
          owner := update s.lifecycle.owner d (some (connection.life.token, n)) } := by
      unfold Service.lifecycle
      congr 1
      funext d'
      rw [Table.lookup_insert]
      by_cases hd : d' = d
      · subst hd
        rw [if_pos rfl, update_self]
        rfl
      · rw [if_neg hd, update_of_ne hd]
    rw [lifecycle_setConnection (s := { s with
      presence := s.presence.insert d ⟨connection.token, n, now⟩ }) hn, hs]
    refine .register hx hregistered hserving ?_
    change (s.presence.lookup d).map Route.owner = none
    rw [Finmap.lookup_eq_none.mpr hfree, map_none]
  | createRefused hsweeps => exact .remove hsweeps.sound hsweeps.removes
  | created hregistered hsweeps hhost hcontroller hfree =>
    exact .create hx hregistered hserving hsweeps.sound hsweeps.removes hhost hcontroller hfree
  | joined hregistered hr hhost hcontroller =>
    exact .join hx hregistered hserving hr hhost hcontroller
  | completed _ _ hsound hremoves => exact .remove hsound hremoves

/-- A step of the service is a step of the life of connections. -/
theorem Stepped.lifecycle {input : Input} {s' : Service} {deliveries : List Delivery}
    (h : Stepped s input s' deliveries) : Lifecycle.Step s.lifecycle s'.lifecycle := by
  cases h with
  | idle => exact .stay
  | connected =>
    have heq : Service.lifecycle { s with
        nextToken := s.nextToken + 1
        connections := s.connections ++
          [{ token := s.nextToken + 1, registered := false, deviceID := Rendezvous.zero.host
             closed := false, phase := .serving, tasks := [] }] } =
        s.lifecycle.setConnection s.connections.length
          ⟨s.nextToken + 1, false, Rendezvous.zero.host, .serving⟩ := by
      unfold Service.lifecycle Lifecycle.setConnection
      congr 1
      funext m
      by_cases hm : m = s.connections.length
      · subst hm
        rw [update_self, List.getElem?_append_right (le_refl _), Nat.sub_self]
        rfl
      · rw [update_of_ne hm]
        rcases Nat.lt_or_gt_of_ne hm with hlt | hgt
        · rw [List.getElem?_append_left hlt]
        · have hnone : s.connections[m]? = none := List.getElem?_eq_none (by omega)
          rw [List.getElem?_eq_none (by simp; omega)]
          exact (congrArg (Option.map life) hnone).symm
    rw [heq]
    refine .connect ?_ rfl rfl
    change s.connections[s.connections.length]?.map life = none
    rw [List.getElem?_eq_none (le_refl _), map_none]
  | refused =>
    rw [lifecycle_setTasks]
    exact .stay
  | handled hn hserving _ _ h =>
    rw [lifecycle_setTasks]
    exact h.lifecycle hn hserving
  | ran _ _ _ h =>
    rw [lifecycle_setTasks]
    exact h.lifecycle
  | @released n connection sent hn hclosing =>
    have hs : (Service.lifecycle { s with
        presence := s.presence.remove connection.deviceID connection.token }) =
        { s.lifecycle with
          owner := fun d => if d = connection.life.deviceID ∧
              (s.lifecycle.owner d).map Prod.fst = some connection.life.token then none
            else s.lifecycle.owner d } := by
      unfold Service.lifecycle
      congr 1
      funext d
      exact lookup_remove_owner s.presence connection.deviceID d connection.token
    rw [lifecycle_setConnection (s := { s with
      presence := s.presence.remove connection.deviceID connection.token }) hn, hs]
    exact .release (lifecycle_connection hn) hclosing
  | ended hn hleaving _ =>
    rw [lifecycle_setConnection hn]
    exact .finish (lifecycle_connection hn) hleaving
  | @stopped n connection order removed store hn hserving _ hregistered hsound hremoves hmem =>
    rw [lifecycle_setConnection (s := { s.recordRemovals removed (some connection.deviceID) with
      rendezvous := store }) hn]
    exact .close (lifecycle_connection hn) hregistered hserving hsound hremoves hmem
  | abandoned hn _ _ hregistered =>
    rw [lifecycle_setConnection hn]
    exact .abandon (lifecycle_connection hn) hregistered
  | swept _ hsweeps => exact .remove hsweeps.sound hsweeps.removes
  | sweeperRan _ h => exact h.lifecycle

end lifecycle

/-! ## Runs -/

variable (text : CodeText) (options : Options) {maxPerHost maxTotal : Int}

theorem new_valid {s : Service} (h : new maxPerHost maxTotal = some s) : s.lifecycle.Valid := by
  unfold new at h
  obtain ⟨store, hstore, rfl⟩ := map_eq_some_iff.mp h
  have hstart := newRendezvousStore_indexed hstore
  have hempty : ∀ id, store.byID.lookup id = none := by
    intro id
    rw [hstart.2.2.2.2, Finmap.lookup_empty]
  refine ⟨hstart.1, hstart.2.1, ?_, ?_, ?_, ?_, ?_⟩
  · intro d o ho
    change ((∅ : PresenceRegistry).lookup d).map Route.owner = some o at ho
    rw [Finmap.lookup_empty] at ho
    cases ho
  · intro n x hx
    cases hx
  · intro n x hx
    cases hx
  · intro id r hr
    cases (hempty id).symm.trans hr
  · intro id r d hr
    cases (hempty id).symm.trans hr

theorem step_valid {s : Service} (hs : s.lifecycle.Valid)
    (input : Input) : ((machine text options).step s input).1.lifecycle.Valid :=
  (step_stepped text options hs.indexed input).lifecycle.valid hs

/-- The device is registered by the connection, under its token. -/
def RegisteredBy (s : Service) (d : DeviceID) (n : Nat) : Prop :=
  ∃ route connection, s.presence.lookup d = some route ∧ route.connection = n ∧
    s.connections[n]? = some connection ∧ connection.token = route.token ∧
    connection.registered = true ∧ connection.deviceID = d

theorem RegisteredBy.of_servedBy {s : Service} (hs : s.lifecycle.Valid) {d : DeviceID} {n : Nat}
    (h : s.lifecycle.ServedBy d n) : s.RegisteredBy d n := by
  obtain ⟨x, hx, -, hd, ho⟩ := h
  obtain ⟨connection, hn, rfl⟩ := map_eq_some_iff.mp hx
  obtain ⟨route, hroute, howner⟩ := map_eq_some_iff.mp ho
  have howner := Prod.mk.inj howner
  obtain ⟨y, hy, hholds, -⟩ := hs.held d _ ho
  rw [hx] at hy
  rw [← some.inj hy] at hholds
  exact ⟨route, connection, hroute, howner.2, hn, howner.1.symm, hholds.1, hd⟩

/-- The owner of a device is unique. -/
theorem owner_unique {s : Service} {d : DeviceID} {n m : Nat} {t t' : UInt64}
    (h₁ : s.lifecycle.owner d = some (t, n)) (h₂ : s.lifecycle.owner d = some (t', m)) : n = m :=
  congrArg Prod.snd (some.inj (h₁.symm.trans h₂))

/-- Running a task takes no device out of the registry. -/
theorem Ran.registered_stays {s s' : Service} {self : Option (Nat × DeviceID)} {sent : Bool}
    {task : Task} {tasks : List Task} {deliveries : List Delivery}
    (h : Ran s self sent task s' tasks deliveries) {d : DeviceID} (hd : d ∈ s.presence) :
    d ∈ s'.presence := by
  cases h with
  | replied => cases sent <;> exact hd
  | _ => exact hd

/-- Handling a frame takes no device out of the registry. -/
theorem Handled.registered_stays {s s' : Service} {n : Nat} {connection : ClientConnection}
    {payload : SignalingClientPayload} {now : Time} {tasks : List Task}
    (h : Handled s n connection payload now s' tasks) {d : DeviceID}
    (hd : d ∈ s.presence) : d ∈ s'.presence := by
  cases h with
  | @touched presence _ same _ =>
    obtain ⟨route, hroute⟩ := Finmap.mem_iff.mp hd
    have heq := same d
    rw [hroute] at heq
    obtain ⟨route', hroute', -⟩ := map_eq_some_iff.mp heq
    exact Finmap.mem_of_lookup_eq_some hroute'
  | registered => exact Finmap.mem_insert.mpr (.inr hd)
  | _ => exact hd

/-- A device leaves the registry only through the cleanup of the connection that registered
it. -/
theorem Stepped.released_by_owner {s s' : Service} {input : Input} {deliveries : List Delivery}
    (hs : s.lifecycle.Valid) (h : Stepped s input s' deliveries) {d : DeviceID} {route : Route}
    (hbefore : s.presence.lookup d = some route) (hafter : s'.presence.lookup d = none) :
    ∃ sent, input = .proceed route.connection sent := by
  have hd : d ∈ s.presence := Finmap.mem_of_lookup_eq_some hbefore
  have hgone : d ∉ s'.presence := Finmap.lookup_eq_none.mp hafter
  cases h with
  | @released n connection sent hn hclosing =>
    have hx := lifecycle_connection hn
    have howner := hs.holds n _ hx ⟨hs.closing n _ hx hclosing, .inr hclosing⟩
    have hself : d = connection.deviceID := by
      have hlookup := lookup_remove_owner s.presence connection.deviceID d connection.token
      by_contra hne
      rw [if_neg fun h => hne h.1, hbefore] at hlookup
      change ((s.presence.remove connection.deviceID connection.token).lookup d) = none at hafter
      rw [hafter] at hlookup
      cases hlookup
    have hroute : s.lifecycle.owner d = some route.owner := by
      change (s.presence.lookup d).map Route.owner = _
      rw [hbefore, map_some]
    rw [hself] at hroute
    have hn' : n = route.connection := owner_unique howner hroute
    exact ⟨sent, by rw [hn']⟩
  | handled _ _ _ _ h => exact absurd (h.registered_stays hd) hgone
  | ran _ _ _ h => exact absurd (h.registered_stays hd) hgone
  | sweeperRan _ h => exact absurd (h.registered_stays hd) hgone
  | _ => exact absurd hd hgone

/-- The first section of a cleanup removes rendezvous that the connection itself created or
joined. -/
theorem Stepped.stopped_own {s s' : Service} {n : Nat} {order : RangeOrder RendezvousID}
    {deliveries : List Delivery} (hs : s.lifecycle.Valid)
    (h : Stepped s (.stop n order) s' deliveries) {connection : ClientConnection}
    (hn : s.connections[n]? = some connection) {id : RendezvousID} {r : Rendezvous}
    (hbefore : s.rendezvous.byID.lookup id = some r)
    (hafter : s'.rendezvous.byID.lookup id = none) :
    (r.host = connection.deviceID ∧ s.createdBy id = n) ∨
      (r.controller = some connection.deviceID ∧ s.joinedBy id = n) := by
  have hkept : s'.rendezvous = s.rendezvous → False := by
    intro heq
    rw [heq, hbefore] at hafter
    cases hafter
  cases h with
  | @stopped _ connection' _ removed store hn' hserving _ hregistered _ hremoves hmem =>
    rw [hn] at hn'
    obtain rfl := some.inj hn'
    have howner := hs.holds n _ (lifecycle_connection hn) ⟨hregistered, .inl hserving⟩
    have hlookup := hremoves.after id
    change store.byID.lookup id = none at hafter
    have hid : id ∈ removed.map Rendezvous.id := by
      by_contra hnot
      rw [if_neg hnot, hafter, hbefore] at hlookup
      cases hlookup
    have hrid := hs.indexed.ids id r hbefore
    subst hrid
    have hindex := ((hmem r).mp (hremoves.mem_of_id_mem hbefore hid)).2
    obtain ⟨r', hr', hmember⟩ := (hs.members.members _ _).mp hindex
    rw [show s.lifecycle.rendezvous = s.rendezvous from rfl, hbefore] at hr'
    obtain rfl := some.inj hr'
    rcases hmember with hhost | hcontroller
    · obtain ⟨x, -, -, -, ho⟩ := hs.host r.id r hbefore
      rw [hhost] at ho
      exact .inl ⟨hhost, owner_unique ho howner⟩
    · obtain ⟨⟨x, -, -, -, ho⟩, -⟩ := hs.controller r.id r _ hbefore hcontroller
      exact .inr ⟨hcontroller, owner_unique ho howner⟩
  | _ => exact (hkept rfl).elim

/-- Over every interleaving a device is owned by at most one connection, the members of a stored
rendezvous are registered by the connections under which they created and joined it, and a
cleanup removes only what belongs to its own connection. -/
theorem lifecycle_consistent
    {s₀ : Service} (hnew : new maxPerHost maxTotal = some s₀) (inputs : List Input) :
    (∀ (n m : Nat) (x y : ClientConnection),
      ((machine text options).run s₀ inputs).connections[n]? = some x →
      ((machine text options).run s₀ inputs).connections[m]? = some y →
      x.life.Holds → y.life.Holds → x.deviceID = y.deviceID → n = m) ∧
    (∀ id r, ((machine text options).run s₀ inputs).rendezvous.byID.lookup id = some r →
      ((machine text options).run s₀ inputs).RegisteredBy r.host
        (((machine text options).run s₀ inputs).createdBy id) ∧
      ∀ d, r.controller = some d → ((machine text options).run s₀ inputs).RegisteredBy d
        (((machine text options).run s₀ inputs).joinedBy id)) ∧
    ∀ o ∈ (machine text options).trace s₀ inputs,
      (∀ d route, o.before.presence.lookup d = some route →
        o.after.presence.lookup d = none → ∃ sent, o.input = .proceed route.connection sent) ∧
      (∀ n order connection, o.input = .stop n order →
        o.before.connections[n]? = some connection → ∀ id r,
        o.before.rendezvous.byID.lookup id = some r →
        o.after.rendezvous.byID.lookup id = none →
        (r.host = connection.deviceID ∧ o.before.createdBy id = n) ∨
          (r.controller = some connection.deviceID ∧ o.before.joinedBy id = n)) := by
  have hstep : ∀ s input, s.lifecycle.Valid → True →
      ((machine text options).step s input).1.lifecycle.Valid :=
    fun s input hs _ => step_valid text options hs input
  have hvalid := Machine.run_invariant (fun s : Service => s.lifecycle.Valid) hstep
    (new_valid hnew) (Machine.guarded_true s₀ inputs)
  refine ⟨?_, ?_, ?_⟩
  · intro n m x y hx hy hholds hholds' hd
    have h₁ := hvalid.holds n _ (lifecycle_connection hx) hholds
    have h₂ := hvalid.holds m _ (lifecycle_connection hy) hholds'
    have hd' : x.life.deviceID = y.life.deviceID := hd
    rw [hd'] at h₁
    exact owner_unique h₁ h₂
  · intro id r hr
    exact ⟨.of_servedBy hvalid (hvalid.host id r hr),
      fun d hd => .of_servedBy hvalid (hvalid.controller id r d hr hd).1⟩
  · intro o ho
    obtain ⟨hs, -, -, ho⟩ := Machine.trace_invariant (fun s : Service => s.lifecycle.Valid)
      hstep (new_valid hnew) (Machine.guarded_true s₀ inputs) ho
    have h : Stepped o.before o.input o.after o.output := by
      rw [ho]
      exact step_stepped text options hs.indexed o.input
    refine ⟨fun d route hbefore hafter => h.released_by_owner hs hbefore hafter, ?_⟩
    intro n order connection hinput hn id r hbefore hafter
    rw [hinput] at h
    exact h.stopped_own hs hn hbefore hafter

section samples

open RendezvousStore (sampleText sampleStore sampleDevice)

/-- A new service. -/
def sampleService : Service :=
  { presence := ∅
    rendezvous := sampleStore
    nextToken := 0
    connections := []
    sweeper := []
    createdBy := fun _ => 0
    joinedBy := fun _ => 0
    removals := []
    attempts := [] }

/-- The settings of the samples. -/
def sampleOptions : Options := { presenceTimeout := 90, rendezvousTTL := 120 }

/-- A message of a device. -/
def sampleMessage (payload : SignalingClientPayload) : Received :=
  .decoded { protocolVersion := some ⟨1, 0⟩, requestId := "r", payload := some payload }

/-- The identifier of the rendezvous of the samples. -/
def sampleRendezvousID : RendezvousID :=
  ⟨List.replicate rendezvousIdBytes 7, List.length_replicate⟩

/-- Device 1 connects and creates a rendezvous, and device 2 connects. -/
def sampleOpening : List Input :=
  [.connect, .receive 0 (sampleMessage (.register (sampleDevice 1).1)) 0 true,
    .proceed 0 true,
    .receive 0 (sampleMessage (.createRendezvous sampleRendezvousID.1 1 "")) 1 true,
    .proceed 0 true,
    .connect, .receive 1 (sampleMessage (.register (sampleDevice 2).1)) 2 true,
    .proceed 1 true]

/-- Device 2 joins, and device 1 is told. -/
def sampleJoin : List Input :=
  [.receive 1 (sampleMessage (.joinRendezvousById sampleRendezvousID.1)) 3 true,
    .proceed 1 true, .proceed 1 true, .proceed 1 true]

theorem lifecycle_consistent_sample :
    new 2 3 = some sampleService ∧
      ∃ r, ((machine sampleText sampleOptions).run sampleService
          (sampleOpening ++ sampleJoin)).rendezvous.byID.lookup sampleRendezvousID = some r ∧
        r.controller = some (sampleDevice 2) ∧
        ((machine sampleText sampleOptions).run sampleService
          (sampleOpening ++ sampleJoin)).RegisteredBy (sampleDevice 2) 1 := by
  have hnew : new 2 3 = some sampleService := rfl
  have h := (lifecycle_consistent sampleText sampleOptions hnew
    (sampleOpening ++ sampleJoin)).2.1 sampleRendezvousID
  have hstored : (((machine sampleText sampleOptions).run sampleService
      (sampleOpening ++ sampleJoin)).rendezvous.byID.lookup sampleRendezvousID).map
        Rendezvous.controller = some (some (sampleDevice 2)) := by decide +kernel
  have hjoined : ((machine sampleText sampleOptions).run sampleService
      (sampleOpening ++ sampleJoin)).joinedBy sampleRendezvousID = 1 := by decide +kernel
  obtain ⟨r, hr, hcontroller⟩ := map_eq_some_iff.mp hstored
  refine ⟨hnew, r, hr, hcontroller, ?_⟩
  rw [← hjoined]
  exact (h r hr).2 _ hcontroller

end samples

end Service

end Server

end Roammand
