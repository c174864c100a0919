import Roammand.Host.Authorization
import Roammand.Library.Run
import Roammand.Protocol.PrivilegedBridge

/-!
# The Host's view of the privileged bridge

The Host keeps the last status of the privileged bridge for its local clients, with the highest
generation of a desktop session that it has been shown.  Two operations write it: an update,
which adds the name of the controller, and the emergency stop.

Main results:

- Definitions `BridgeStatusStore.update` and `BridgeStatusStore.emergencyStop`.
- Theorem `BridgeStatusStore.update_cases`: what an accepted update stores.
- Theorem `BridgeStatusStore.status_store`: in which runs the stored generations never go back.
-/

namespace Roammand

namespace Host

open Library Protocol PrivilegedBridgeState List Option

/-- Why an update is refused. -/
inductive BridgeStatusError where
  | invalidStatus
  | staleGeneration

/-- The status of a Host without a privileged bridge. -/
def userSessionOnlyBridgeStatus : PrivilegedBridgeStatusSnapshot where
  state := userSessionOnly.toInt32
  interactiveSession := none
  helperConnected := false
  activeControllerDisplayName := ""
  error := none

/-- The display name in the grant of a controller. -/
def AuthorizationRegistry.controllerDisplayName (r : AuthorizationRegistry)
    (controllerDeviceId : Bytes) : Option String :=
  let grants := r.listControllerGrants.filterMap (·.grant)
  let controllers := grants.filterMap (·.controller)
  (controllers.find? fun controller => controller.deviceId = controllerDeviceId).map (·.displayName)

/-- The stored status, and the highest generation that has been stored. -/
structure BridgeStatusStore where
  status : PrivilegedBridgeStatusSnapshot
  generation : Nat

namespace BridgeStatusStore

/-- The store of a new Host. -/
def new : BridgeStatusStore where
  status := userSessionOnlyBridgeStatus
  generation := 0

/-- The name to show: that of the controller's grant if the bridge is controlled, and none
otherwise. -/
def resolveName (r : AuthorizationRegistry) (state : PrivilegedBridgeState)
    (controllerDeviceId : Option Bytes) : Except BridgeStatusError String :=
  if state = .controlled then do
    let controllerDeviceId ← okOr controllerDeviceId .invalidStatus
    okOr (r.controllerDisplayName controllerDeviceId) .invalidStatus
  else do
    ensure (controllerDeviceId = none) .invalidStatus
    .ok ""

/-- Name the controller in a snapshot that is handed over without a name, and check it. -/
def resolve (r : AuthorizationRegistry) (snapshot : PrivilegedBridgeStatusSnapshot)
    (controllerDeviceId : Option Bytes) :
    Except BridgeStatusError PrivilegedBridgeStatusSnapshot := do
  ensure (snapshot.activeControllerDisplayName = "") .invalidStatus
  let state ← okOr (ofInt32? snapshot.state) .invalidStatus
  let activeControllerDisplayName ← resolveName r state controllerDeviceId
  let snapshot := { snapshot with activeControllerDisplayName }
  (validatePrivilegedBridgeStatusSnapshot snapshot).mapError fun _ => .invalidStatus
  return snapshot

/-- The generation of the session in a snapshot, 0 without one. -/
def nextGeneration (snapshot : PrivilegedBridgeStatusSnapshot) : Nat :=
  (snapshot.interactiveSession.map (·.generation)).getD 0

/-- Store a snapshot that is handed over. -/
def update (s : BridgeStatusStore) (r : AuthorizationRegistry)
    (snapshot : PrivilegedBridgeStatusSnapshot) (controllerDeviceId : Option Bytes) :
    BridgeStatusStore × Except BridgeStatusError Unit :=
  match resolve r snapshot controllerDeviceId with
  | .error e => (s, .error e)
  | .ok snapshot =>
    if nextGeneration snapshot ≠ 0 ∧ nextGeneration snapshot < s.generation then
      (s, .error .staleGeneration)
    else
      ({ status := snapshot
         generation :=
          if nextGeneration snapshot ≠ 0 then nextGeneration snapshot else s.generation },
        .ok ())

/-- Release the desktop: keep a connected Helper, and forget everything else. -/
def emergencyStop (s : BridgeStatusStore) : BridgeStatusStore :=
  if s.status.interactiveSession.isSome ∧ s.status.helperConnected then
    { s with
      status := { s.status with
        state := ready.toInt32
        activeControllerDisplayName := ""
        error := none } }
  else { s with status := userSessionOnlyBridgeStatus }

/-- The calls that write the store; an update meets the registry of its moment. -/
inductive Call where
  | update (r : AuthorizationRegistry) (snapshot : PrivilegedBridgeStatusSnapshot)
      (controllerDeviceId : Option Bytes)
  | emergencyStop

/-- One call. -/
def step (s : BridgeStatusStore) : Call → BridgeStatusStore × Except BridgeStatusError Unit
  | .update r snapshot controllerDeviceId => s.update r snapshot controllerDeviceId
  | .emergencyStop => (s.emergencyStop, .ok ())

/-- The store as a machine. -/
def machine : Machine BridgeStatusStore Call (Except BridgeStatusError Unit) where
  step := step

/-! ## What a valid status says -/

/-- What the validator establishes about the session and the name in a status. -/
structure Consistent (snapshot : PrivilegedBridgeStatusSnapshot) : Prop where
  session : snapshot.state ≠ failed.toInt32 →
    ∀ session ∈ snapshot.interactiveSession,
      validatePrivilegedSessionDescriptor session = .ok ()
  offline : snapshot.state = failed.toInt32 →
    snapshot.helperConnected = false

theorem generation_ne_zero {session : PrivilegedSessionDescriptor}
    (h : validatePrivilegedSessionDescriptor session = .ok ()) : session.generation ≠ 0 := by
  unfold validatePrivilegedSessionDescriptor at h
  simp only [bind_eq_ok, ensure_eq_ok] at h
  obtain ⟨-, -, -, -, -, hgeneration⟩ := h
  exact hgeneration

theorem consistent_of_valid {snapshot : PrivilegedBridgeStatusSnapshot}
    (h : validatePrivilegedBridgeStatusSnapshot snapshot = .ok ()) : Consistent snapshot := by
  unfold validatePrivilegedBridgeStatusSnapshot at h
  obtain ⟨state, hstate, h⟩ := bind_eq_ok.mp h
  obtain ⟨-, -, h⟩ := bind_eq_ok.mp h
  obtain ⟨-, -, h⟩ := bind_eq_ok.mp h
  rw [okOr_eq_ok, ofInt32?_eq_some] at hstate
  cases state with
  | unspecified => cases h
  | notInstalled | approvalRequired | permissionRequired | userSessionOnly =>
    rw [ensure_eq_ok] at h
    constructor
    · intro _
      rw [h.1]
      nofun
    · intro hfailed
      rw [hstate] at hfailed
      cases hfailed
  | ready | controlled =>
    obtain ⟨session, hsession, h⟩ := bind_eq_ok.mp h
    obtain ⟨_, hvalid, h⟩ := bind_eq_ok.mp h
    rw [okOr_eq_ok] at hsession
    constructor
    · intro _
      rw [hsession]
      rintro _ ⟨⟩
      exact hvalid
    · intro hfailed
      rw [hstate] at hfailed
      cases hfailed
  | transitioning =>
    obtain ⟨_, hvalid, h⟩ := bind_eq_ok.mp h
    constructor
    · intro _ session hsession
      rw [mem_def.mp hsession] at hvalid
      exact hvalid
    · intro hfailed
      rw [hstate] at hfailed
      cases hfailed
  | failed =>
    obtain ⟨_, hoffline, -⟩ := bind_eq_ok.mp h
    rw [ensure_eq_ok] at hoffline
    exact ⟨fun hne => absurd hstate hne, fun _ => hoffline.1⟩

/-! ## What an update and a stop store -/

variable {s : BridgeStatusStore}

/-- A resolved snapshot is valid, and it is named exactly if it is controlled. -/
theorem resolve_eq_ok {r : AuthorizationRegistry} {snapshot next : PrivilegedBridgeStatusSnapshot}
    {controllerDeviceId : Option Bytes} (h : resolve r snapshot controllerDeviceId = .ok next) :
    validatePrivilegedBridgeStatusSnapshot next = .ok () ∧
      ((snapshot.state = controlled.toInt32 ∧
          ∃ id name, controllerDeviceId = some id ∧ r.controllerDisplayName id = some name ∧
            next = { snapshot with activeControllerDisplayName := name }) ∨
        (snapshot.state ≠ controlled.toInt32 ∧ controllerDeviceId = none ∧
          snapshot.activeControllerDisplayName = "" ∧ next = snapshot)) := by
  unfold resolve at h
  obtain ⟨_, hname, h⟩ := bind_eq_ok.mp h
  obtain ⟨state, hstate, h⟩ := bind_eq_ok.mp h
  obtain ⟨name, hresolved, h⟩ := bind_eq_ok.mp h
  obtain ⟨_, hvalid, h⟩ := bind_eq_ok.mp h
  rw [ensure_eq_ok] at hname
  rw [okOr_eq_ok, ofInt32?_eq_some] at hstate
  rw [mapError_eq_ok] at hvalid
  obtain rfl := Except.ok.inj h
  refine ⟨hvalid, ?_⟩
  unfold resolveName at hresolved
  split_ifs at hresolved with hcontrolled
  · obtain ⟨id, hid, hgrant⟩ := bind_eq_ok.mp hresolved
    rw [okOr_eq_ok] at hid hgrant
    exact .inl ⟨by rw [hstate, hcontrolled], id, name, hid, hgrant, rfl⟩
  · obtain ⟨_, hnone, hsame⟩ := bind_eq_ok.mp hresolved
    rw [ensure_eq_ok] at hnone
    obtain rfl := Except.ok.inj hsame
    refine .inr ⟨fun heq => hcontrolled ?_, hnone, hname, by rw [← hname]⟩
    have hwire := ofInt32?_eq_some.mpr heq
    rw [ofInt32?_eq_some.mpr hstate] at hwire
    exact some.inj hwire

/-- A valid snapshot of a failed bridge is stored as it is. -/
theorem resolve_failed (r : AuthorizationRegistry) {snapshot : PrivilegedBridgeStatusSnapshot}
    (hfailed : snapshot.state = failed.toInt32)
    (hvalid : validatePrivilegedBridgeStatusSnapshot snapshot = .ok ()) :
    resolve r snapshot none = .ok snapshot := by
  have hstate := ofInt32?_eq_some.mpr hfailed
  have hname : snapshot.activeControllerDisplayName = "" := by
    have h := hvalid
    unfold validatePrivilegedBridgeStatusSnapshot at h
    rw [hstate] at h
    obtain ⟨_, hok, h⟩ := bind_eq_ok.mp h
    obtain rfl := Except.ok.inj hok
    obtain ⟨_, -, h⟩ := bind_eq_ok.mp h
    obtain ⟨_, -, h⟩ := bind_eq_ok.mp h
    obtain ⟨_, hempty, -⟩ := bind_eq_ok.mp h
    exact (ensure_eq_ok.mp hempty).2
  have hsame : { snapshot with activeControllerDisplayName := "" } = snapshot := by
    rw [← hname]
  unfold resolve
  rw [hstate, hname]
  change (do
    (validatePrivilegedBridgeStatusSnapshot
      { snapshot with activeControllerDisplayName := "" }).mapError fun _ => _
    return { snapshot with activeControllerDisplayName := "" }) = _
  rw [hsame, hvalid]
  rfl

/-- An update is refused and changes nothing, or stores the resolved snapshot. -/
theorem update_cases (s : BridgeStatusStore) (r : AuthorizationRegistry)
    (snapshot : PrivilegedBridgeStatusSnapshot) (controllerDeviceId : Option Bytes) :
    (∃ e, s.update r snapshot controllerDeviceId = (s, .error e)) ∨
      ∃ next, resolve r snapshot controllerDeviceId = .ok next ∧
        (nextGeneration next = 0 ∨ s.generation ≤ nextGeneration next) ∧
        s.update r snapshot controllerDeviceId =
          ({ status := next, generation := max s.generation (nextGeneration next) }, .ok ()) := by
  unfold update
  cases hresolve : resolve r snapshot controllerDeviceId with
  | error e => exact .inl ⟨e, rfl⟩
  | ok next =>
    dsimp only
    by_cases hstale : nextGeneration next ≠ 0 ∧ nextGeneration next < s.generation
    · rw [if_pos hstale]
      exact .inl ⟨_, rfl⟩
    · rw [if_neg hstale]
      refine .inr ⟨next, rfl, by omega, ?_⟩
      have hmax : (if nextGeneration next ≠ 0 then nextGeneration next else s.generation) =
          max s.generation (nextGeneration next) := by
        split_ifs <;> omega
      rw [hmax]

/-- A stop leaves a valid status without a name, of the same session or of none. -/
theorem emergencyStop_spec (h : validatePrivilegedBridgeStatusSnapshot s.status = .ok ()) :
    validatePrivilegedBridgeStatusSnapshot s.emergencyStop.status = .ok () ∧
      s.emergencyStop.generation = s.generation ∧
      s.emergencyStop.status.state ≠ controlled.toInt32 ∧
      s.emergencyStop.status.activeControllerDisplayName = "" ∧
      (s.emergencyStop.status.interactiveSession = s.status.interactiveSession ∨
        s.emergencyStop.status.interactiveSession = none) := by
  unfold emergencyStop
  split_ifs with hconnected
  · refine ⟨?_, rfl, (by decide : (5 : Int32) ≠ 7), rfl, .inl rfl⟩
    obtain ⟨hsome, hhelper⟩ := hconnected
    obtain ⟨session, hsession⟩ := isSome_iff_exists.mp hsome
    have hconsistent := consistent_of_valid h
    have hdescriptor := hconsistent.session
      (fun hfailed => by rw [hconsistent.offline hfailed] at hhelper; cases hhelper)
      session hsession
    have hstate : ofInt32? ready.toInt32 = some .ready := rfl
    unfold validatePrivilegedBridgeStatusSnapshot
    dsimp only
    rw [hstate, hsession, hhelper]
    change (do
      validatePrivilegedSessionDescriptor session
      ensure (true = true ∧ "" = "" ∧ (none : Option ReportedError) = none) .invalidState) = _
    rw [hdescriptor]
    rfl
  · exact ⟨by rfl, rfl, (by decide : (4 : Int32) ≠ 7), rfl, .inr rfl⟩

/-! ## Runs -/

/-- One step of a run of the store. -/
abbrev Moment := Occurrence BridgeStatusStore Call (Except BridgeStatusError Unit)

/-- The statuses that have been stored, from the first one on. -/
def visited (past : List Moment) : List PrivilegedBridgeStatusSnapshot :=
  new.status :: past.map (·.after.status)

/-- No session of the later status has a lower generation than one of the earlier. -/
def NotBelow (earlier later : PrivilegedBridgeStatusSnapshot) : Prop :=
  ∀ a ∈ earlier.interactiveSession, ∀ b ∈ later.interactiveSession, a.generation ≤ b.generation

/-- A registry grants access to a controller of that name. -/
def HasGrant (r : AuthorizationRegistry) (controllerDeviceId : Bytes) (name : String) : Prop :=
  ∃ view ∈ r.listControllerGrants, ∃ grant controller, view.grant = some grant ∧
    grant.controller = some controller ∧ controller.deviceId = controllerDeviceId ∧
    controller.displayName = name

/-- A controlled status has the name from the grant of the controller that its update was given,
and nothing has changed the store since; any other status has no name. -/
def Named (past : List Moment) (status : PrivilegedBridgeStatusSnapshot) : Prop :=
  if status.state = controlled.toInt32 then
    ∃ before setter after r snapshot id, past = before ++ setter :: after ∧
      setter.input = .update r snapshot (some id) ∧ setter.output = .ok () ∧
      setter.after.status = status ∧ HasGrant r id status.activeControllerDisplayName ∧
      ∀ e ∈ after, e.after = e.before
  else status.activeControllerDisplayName = ""

/-- What is asked of a run of the store. -/
structure Sound (calls : List Call) : Prop where
  valid : ∀ status ∈ visited (machine.trace new calls),
    validatePrivilegedBridgeStatusSnapshot status = .ok ()
  monotone : (visited (machine.trace new calls)).Pairwise NotBelow
  named : ∀ past e rest, machine.trace new calls = past ++ e :: rest →
    Named (past ++ [e]) e.after.status
  unchanged : ∀ e ∈ machine.trace new calls, ∀ error, e.output = .error error →
    e.after = e.before

/-- A valid snapshot of a failed bridge with a session of generation 0 comes only while no
positive generation has been stored. -/
def Fresh (s : BridgeStatusStore) : Call → Prop
  | .update _ snapshot controllerDeviceId =>
    snapshot.state = failed.toInt32 → controllerDeviceId = none →
    validatePrivilegedBridgeStatusSnapshot snapshot = .ok () →
    ∀ session ∈ snapshot.interactiveSession, session.generation = 0 → s.generation = 0
  | .emergencyStop => True

/-- What holds after every run: the store is described by the statuses it has held. -/
structure Holds (past : List Moment) (s : BridgeStatusStore) : Prop where
  last : ∃ before, visited past = before ++ [s.status]
  bounded : ∀ status ∈ visited past, ∀ session ∈ status.interactiveSession,
    session.generation ≤ s.generation
  reached : s.generation = 0 ∨ ∃ status ∈ visited past, ∃ session ∈ status.interactiveSession,
    session.generation = s.generation
  valid : validatePrivilegedBridgeStatusSnapshot s.status = .ok ()
  named : Named past s.status

variable {past : List Moment}

theorem visited_snoc (e : Moment) : visited (past ++ [e]) = visited past ++ [e.after.status] := by
  unfold visited
  rw [map_append]
  rfl

variable {r : AuthorizationRegistry}

theorem hasGrant_of_displayName {id : Bytes} {name : String}
    (h : r.controllerDisplayName id = some name) : HasGrant r id name := by
  unfold AuthorizationRegistry.controllerDisplayName at h
  obtain ⟨controller, hfound, hname⟩ := map_eq_some_iff.mp h
  have hmatches := find?_some hfound
  have hid : controller.deviceId = id := of_decide_eq_true hmatches
  obtain ⟨grant, hgrant, hcontroller⟩ := mem_filterMap.mp (mem_of_find?_eq_some hfound)
  obtain ⟨view, hview, hsome⟩ := mem_filterMap.mp hgrant
  exact ⟨view, hview, grant, controller, hsome, hcontroller, hid, hname⟩

/-- A step that changes nothing keeps what holds. -/
theorem Holds.unchanged (h : Holds past s) {e : Moment} (hbefore : e.before = s)
    (hafter : e.after = s) : Holds (past ++ [e]) s := by
  have hmem : s.status ∈ visited past := by
    obtain ⟨before, hlast⟩ := h.last
    rw [hlast]
    exact mem_append_right _ (mem_singleton_self _)
  refine
    { last := ⟨visited past, by rw [visited_snoc, hafter]⟩
      bounded := fun status hstatus => ?_
      reached := ?_
      valid := h.valid
      named := ?_ }
  · rw [visited_snoc, hafter, mem_append, mem_singleton] at hstatus
    rcases hstatus with hstatus | rfl
    · exact h.bounded status hstatus
    · exact h.bounded _ hmem
  · obtain hzero | ⟨status, hstatus, hsession⟩ := h.reached
    · exact .inl hzero
    · exact .inr ⟨status, by rw [visited_snoc]; exact mem_append_left _ hstatus, hsession⟩
  · have hnamed := h.named
    unfold Named at hnamed ⊢
    split_ifs at hnamed ⊢ with hcontrolled
    · obtain ⟨before, setter, after, r, snapshot, id, rfl, hinput, houtput, hstatus, hgrant,
        hquiet⟩ := hnamed
      refine ⟨before, setter, after ++ [e], r, snapshot, id, ?_, hinput, houtput, hstatus, hgrant,
        ?_⟩
      · rw [append_assoc, cons_append]
      · rw [forall_mem_append]
        exact ⟨hquiet, forall_mem_singleton.mpr (hafter.trans hbefore.symm)⟩
    · exact hnamed

/-- A step that stores a valid status whose session is not unknown keeps what holds. -/
theorem Holds.store (h : Holds past s) {e : Moment} {next : BridgeStatusStore}
    (hafter : e.after = next)
    (hvalid : validatePrivilegedBridgeStatusSnapshot next.status = .ok ())
    (hbounded : s.generation ≤ next.generation ∧
      ∀ session ∈ next.status.interactiveSession, session.generation ≤ next.generation)
    (hreached : next.generation = s.generation ∨
      ∃ session ∈ next.status.interactiveSession, session.generation = next.generation)
    (hnamed : Named (past ++ [e]) next.status) : Holds (past ++ [e]) next := by
  refine
    { last := ⟨visited past, by rw [visited_snoc, hafter]⟩
      bounded := fun status hstatus session hsession => ?_
      reached := ?_
      valid := hvalid
      named := hnamed }
  · rw [visited_snoc, hafter, mem_append, mem_singleton] at hstatus
    rcases hstatus with hstatus | rfl
    · exact (h.bounded status hstatus session hsession).trans hbounded.1
    · exact hbounded.2 session hsession
  · rw [visited_snoc, hafter]
    obtain hsame | hsession := hreached
    · rw [hsame]
      obtain hzero | ⟨status, hstatus, hsession⟩ := h.reached
      · exact .inl hzero
      · exact .inr ⟨status, mem_append_left _ hstatus, hsession⟩
    · exact .inr ⟨_, mem_append_right _ (mem_singleton_self _), hsession⟩

/-- The session of a snapshot has its generation. -/
theorem nextGeneration_eq {snapshot : PrivilegedBridgeStatusSnapshot}
    {session : PrivilegedSessionDescriptor} (h : session ∈ snapshot.interactiveSession) :
    nextGeneration snapshot = session.generation := by
  unfold nextGeneration
  rw [mem_def.mp h]
  rfl

/-- The resolved snapshot of an accepted update is named as asked for. -/
theorem named_of_resolve {snapshot next : PrivilegedBridgeStatusSnapshot}
    {controllerDeviceId : Option Bytes} (h : resolve r snapshot controllerDeviceId = .ok next)
    {e : Moment} (hinput : e.input = .update r snapshot controllerDeviceId)
    (houtput : e.output = .ok ()) (hstatus : e.after.status = next) :
    Named (past ++ [e]) next := by
  unfold Named
  obtain ⟨-, ⟨hstate, id, name, rfl, hgrant, rfl⟩ | ⟨hstate, -, hname, rfl⟩⟩ := resolve_eq_ok h
  · rw [if_pos hstate]
    exact ⟨past, e, [], r, snapshot, id, rfl, hinput, houtput, hstatus,
      hasGrant_of_displayName hgrant, forall_mem_nil _⟩
  · rw [if_neg hstate]
    exact hname

/-- Every step keeps what holds. -/
theorem step_holds (h : Holds past s) (call : Call) :
    Holds (past ++ [machine.occurrence s call]) (machine.step s call).1 := by
  cases call with
  | update r snapshot controllerDeviceId =>
    generalize hmoment : machine.occurrence s (.update r snapshot controllerDeviceId) = e
    have hinput : e.input = .update r snapshot controllerDeviceId := by rw [← hmoment]; rfl
    have hbefore : e.before = s := by rw [← hmoment]; rfl
    have houtput : e.output = (s.update r snapshot controllerDeviceId).2 := by
      rw [← hmoment]; rfl
    have hafter : e.after = (s.update r snapshot controllerDeviceId).1 := by
      rw [← hmoment]; rfl
    change Holds (past ++ [e]) (s.update r snapshot controllerDeviceId).1
    obtain ⟨error, hupdate⟩ | ⟨next, hresolve, hfresh, hupdate⟩ :=
      update_cases s r snapshot controllerDeviceId
    · rw [hupdate] at hafter ⊢
      exact h.unchanged hbefore hafter
    · rw [hupdate] at houtput hafter ⊢
      refine h.store hafter (resolve_eq_ok hresolve).1 ⟨le_max_left _ _, ?_⟩ ?_ ?_
      · intro session hsession
        rw [← nextGeneration_eq hsession]
        exact le_max_right _ _
      · by_cases hzero : nextGeneration next = 0
        · exact .inl (by dsimp only; omega)
        · right
          cases hsession : next.interactiveSession with
          | none =>
            unfold nextGeneration at hzero
            rw [hsession] at hzero
            exact absurd rfl hzero
          | some session =>
            refine ⟨session, rfl, ?_⟩
            have hgeneration := nextGeneration_eq (mem_def.mpr hsession)
            dsimp only
            omega
      · exact named_of_resolve hresolve hinput houtput (by rw [hafter])
  | emergencyStop =>
    obtain ⟨hvalid, hgeneration, hstate, hname, hsession⟩ := emergencyStop_spec h.valid
    refine h.store (e := machine.occurrence s .emergencyStop) rfl hvalid
      ⟨le_of_eq hgeneration.symm, fun session hmem => ?_⟩ (.inl hgeneration) ?_
    · change session.generation ≤ s.emergencyStop.generation
      have hmem : session ∈ s.emergencyStop.status.interactiveSession := hmem
      obtain hsame | hnone := hsession
      · rw [hsame] at hmem
        obtain ⟨before, hlast⟩ := h.last
        rw [hgeneration]
        refine h.bounded s.status ?_ session hmem
        rw [hlast]
        exact mem_append_right _ (mem_singleton_self _)
      · rw [hnone] at hmem
        cases hmem
    · refine (if_neg hstate).mpr ?_
      exact hname

theorem new_holds : Holds [] new where
  last := ⟨[], rfl⟩
  bounded := by
    intro status hstatus
    rw [mem_singleton.mp hstatus]
    nofun
  reached := .inl rfl
  valid := by rfl
  named := by
    unfold Named
    rw [if_neg (by decide)]
    rfl

variable (calls : List Call)

theorem run_holds : Holds (machine.trace new calls) (machine.run new calls) :=
  Machine.history_invariant Holds (fun _ _ call h _ => step_holds h call) [] new_holds
    (Machine.guarded_true _ _)

/-! ## When generations never go back -/

/-- A step keeps the generations in order exactly if it is fresh. -/
theorem step_notBelow (h : Holds past s) (hordered : (visited past).Pairwise NotBelow)
    (call : Call) :
    (∀ status ∈ visited past, NotBelow status (machine.step s call).1.status) ↔ Fresh s call := by
  obtain ⟨before, hlast⟩ := h.last
  have hcurrent : ∀ status ∈ visited past, NotBelow status s.status := by
    rw [hlast] at hordered ⊢
    obtain ⟨-, -, hordered⟩ := pairwise_append.mp hordered
    rw [forall_mem_append]
    refine ⟨fun status hmem => hordered status hmem _ (mem_singleton_self _), ?_⟩
    rw [forall_mem_singleton]
    intro a ha b hb
    rw [mem_def] at ha hb
    rw [some.inj (ha.symm.trans hb)]
  cases call with
  | emergencyStop =>
    refine ⟨fun _ => trivial, fun _ status hmem a ha b hb => ?_⟩
    have hb : b ∈ s.emergencyStop.status.interactiveSession := hb
    obtain hsame | hnone := (emergencyStop_spec h.valid).2.2.2.2
    · rw [hsame] at hb
      exact hcurrent status hmem a ha b hb
    · rw [hnone] at hb
      cases hb
  | update r snapshot controllerDeviceId =>
    change (∀ status ∈ visited past,
      NotBelow status (s.update r snapshot controllerDeviceId).1.status) ↔ _
    constructor
    · rintro hall hfailed rfl hvalid session hsession hzero
      have hresolve := resolve_failed r hfailed hvalid
      have hnext : nextGeneration snapshot = 0 := (nextGeneration_eq hsession).trans hzero
      have hstored : (s.update r snapshot none).1.status = snapshot := by
        unfold update
        rw [hresolve]
        dsimp only
        rw [if_neg (by omega)]
      obtain hzero' | ⟨status, hmem, a, ha, hgeneration⟩ := h.reached
      · exact hzero'
      · have hbelow := hall status hmem a ha session (by rw [hstored]; exact hsession)
        omega
    · intro hfresh status hmem
      obtain ⟨error, hupdate⟩ | ⟨next, hresolve, hnewer, hupdate⟩ :=
        update_cases s r snapshot controllerDeviceId
      · rw [hupdate]
        exact hcurrent status hmem
      · rw [hupdate]
        intro a ha b hb
        have hb : b ∈ next.interactiveSession := hb
        have hnext := nextGeneration_eq hb
        have hbound := h.bounded status hmem a ha
        obtain hzero | hnewer := hnewer
        · obtain ⟨hvalid, hnamed⟩ := resolve_eq_ok hresolve
          by_cases hfailed : next.state = failed.toInt32
          · obtain ⟨hcontrolled, id, name, rfl, -, rfl⟩ | ⟨-, rfl, -, rfl⟩ := hnamed
            · exact absurd (hcontrolled.symm.trans hfailed) (by decide)
            · have hnone := hfresh hfailed rfl hvalid b hb (by omega)
              omega
          · have hpositive := generation_ne_zero ((consistent_of_valid hvalid).session hfailed b hb)
            omega
        · omega

/-- The store is sound exactly in the runs without a failed bridge whose session has generation 0
after a positive generation. -/
theorem status_store : Sound calls ↔ machine.Guarded Fresh new calls := by
  have hordered : (visited (machine.trace new calls)).Pairwise NotBelow ↔
      machine.Guarded Fresh new calls := by
    induction calls using reverseRecOn with
    | nil => exact ⟨fun _ => trivial, fun _ => pairwise_singleton _ _⟩
    | append_singleton calls call ih =>
      have h := run_holds calls
      rw [Machine.trace_snoc, visited_snoc, pairwise_append, Machine.guarded_append, ← ih]
      have hstep := step_notBelow h
      constructor
      · rintro ⟨hbefore, -, hlast⟩
        refine ⟨hbefore, (hstep hbefore call).mp fun status hmem => ?_, trivial⟩
        exact hlast status hmem _ (mem_singleton_self _)
      · rintro ⟨hbefore, hfresh, -⟩
        refine ⟨hbefore, pairwise_singleton _ _, fun status hmem other hother => ?_⟩
        rw [mem_singleton.mp hother]
        exact (hstep hbefore call).mpr hfresh status hmem
  refine ⟨fun h => hordered.mp h.monotone, fun hfresh => ?_⟩
  have hmoment : ∀ past e rest, machine.trace new calls = past ++ e :: rest →
      Holds past e.before ∧ e = machine.occurrence e.before e.input ∧
        Holds (past ++ [e]) e.after := by
    intro past e rest htrace
    obtain ⟨before, call, after, -, rfl, rfl, -⟩ := Machine.trace_split htrace
    have h := run_holds before
    exact ⟨h, rfl, step_holds h call⟩
  refine
    { valid := ?_
      monotone := hordered.mpr hfresh
      named := fun past e rest htrace => (hmoment past e rest htrace).2.2.named
      unchanged := fun e he error herror => ?_ }
  · refine forall_mem_cons.mpr ⟨new_holds.valid, fun status hstatus => ?_⟩
    obtain ⟨e, he, rfl⟩ := mem_map.mp hstatus
    obtain ⟨past, rest, htrace⟩ := append_of_mem he
    exact (hmoment past e rest htrace).2.2.valid
  · obtain ⟨past, rest, htrace⟩ := append_of_mem he
    obtain ⟨-, hoccurrence, -⟩ := hmoment past e rest htrace
    have houtput : (machine.step e.before e.input).2 = .error error := by
      rw [← herror, hoccurrence]
      rfl
    have hafter : e.after = (machine.step e.before e.input).1 := by
      rw [hoccurrence]
      rfl
    rw [hafter]
    cases hcall : e.input with
    | emergencyStop =>
      rw [hcall] at houtput
      cases houtput
    | update r snapshot controllerDeviceId =>
      rw [hcall] at houtput
      change (e.before.update r snapshot controllerDeviceId).2 = _ at houtput
      change (e.before.update r snapshot controllerDeviceId).1 = _
      obtain ⟨_, hupdate⟩ | ⟨next, -, -, hupdate⟩ :=
        update_cases e.before r snapshot controllerDeviceId
      · rw [hupdate]
      · rw [hupdate] at houtput
        cases houtput

/-- A desktop session of macOS. -/
def sampleSession (generation : Nat) : PrivilegedSessionDescriptor where
  platform := 4
  osSessionId := 1
  desktopKind := 1
  generation

/-- A Helper is ready on generation 5, then the bridge fails and reports its session without a
generation. -/
def backwards : List Call :=
  [.update { hostDeviceId := [], grantsByController := ∅ }
      { state := ready.toInt32
        interactiveSession := some (sampleSession 5)
        helperConnected := true
        activeControllerDisplayName := ""
        error := none } none,
    .update { hostDeviceId := [], grantsByController := ∅ }
      { state := failed.toInt32
        interactiveSession := some (sampleSession 0)
        helperConnected := false
        activeControllerDisplayName := ""
        error := some
          { code := 21, messageKey := "bridge", retryable := true, requestId := ""
            details := none } } none]

/-- The stored generation goes from 5 back to 0. -/
theorem generation_goes_back : ¬ Sound backwards := by
  intro h
  have hvisited : (visited (machine.trace new backwards)).map
      (fun status => status.interactiveSession.map (·.generation)) =
        [none, some 5, some 0] := by rfl
  have hordered := h.monotone.map (S := fun x y => ∀ a ∈ x, ∀ b ∈ y, a ≤ b)
    (fun status => status.interactiveSession.map (·.generation)) (by
      intro earlier later hbelow a ha b hb
      obtain ⟨first, hfirst, rfl⟩ := map_eq_some_iff.mp ha
      obtain ⟨second, hsecond, rfl⟩ := map_eq_some_iff.mp hb
      exact hbelow first hfirst second hsecond)
  rw [hvisited] at hordered
  have hlast := (pairwise_cons.mp (pairwise_cons.mp hordered).2).1 (some 0)
    (mem_singleton_self _) 5 rfl 0 rfl
  exact absurd hlast (by decide)

end BridgeStatusStore

end Host

end Roammand
