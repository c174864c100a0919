import Roammand.Client.TrustedHostEnvelope
import Roammand.Library.Serial

/-!
# The repository of trusted Hosts

A controller lists the Hosts that it trusts in memory and in a file.  The operations on the
list are asynchronous: each reads the list, computes the next one, and replaces it when the
file has been replaced.  The repository runs them one after another, by a chain of futures,
so none of them works with a list that another one is about to change.

Main results:

- Definition `TrustedHostRepository` with its operations.
- Definition `repositoryLogic`: the sections of the operations.
- Theorem `repositoryLogic_kept`: each section keeps memory and file in agreement.
- Theorem `host_list_agreement`: what holds in every run of every lifetime.
-/

namespace Roammand

namespace Client

namespace TrustedHosts

open Library Protocol Host List Serial TrustedHostStore

/-! ## Records -/

/-- The errors of the repository. -/
inductive TrustedHostRepositoryError where
  | notInitialized
  | duplicateHost
  | hostNotFound
  | invalidDisplayName
  | invalidTimestamp
  | persistence
  | closed

/-- A Host in memory. -/
structure TrustedHostRecord (setting : TrustedHostSetting) where
  hostIdentity : DeviceIdentity
  signalingEndpoint : setting.uris.Uri
  pairedAtUnixMs : Int64
  lastSuccessfulConnectionAtUnixMs : Int64
  displayOrder : UInt32
  localAlias : String

namespace TrustedHostRecord

variable {setting : TrustedHostSetting}

/-- The record of a binding, unless its address cannot be parsed. -/
def ofBinding (setting : TrustedHostSetting) (binding : TrustedHostBinding) :
    Option (TrustedHostRecord setting) :=
  (setting.uris.parse binding.signalingEndpoint).map fun uri =>
    { hostIdentity := identityOf binding.hostIdentity
      signalingEndpoint := uri
      pairedAtUnixMs := binding.pairedAtUnixMs.toInt64
      lastSuccessfulConnectionAtUnixMs := binding.lastSuccessfulConnectionAtUnixMs.toInt64
      displayOrder := binding.displayOrder
      localAlias := binding.localAlias }

variable (record : TrustedHostRecord setting)

/-- The binding of a record. -/
def toBinding : TrustedHostBinding where
  hostIdentity := some record.hostIdentity
  signalingEndpoint := setting.uris.text record.signalingEndpoint
  pairedAtUnixMs := record.pairedAtUnixMs.toUInt64
  lastSuccessfulConnectionAtUnixMs := record.lastSuccessfulConnectionAtUnixMs.toUInt64
  displayOrder := record.displayOrder
  localAlias := record.localAlias

/-- The device of a record. -/
def deviceId (record : TrustedHostRecord setting) : Bytes := record.hostIdentity.deviceId

/-- A record is made again from its own binding. -/
@[simp]
theorem ofBinding_toBinding :
    ofBinding setting record.toBinding = some record := by
  simp [ofBinding, toBinding, setting.uris.parse_text, identityOf]

end TrustedHostRecord

/-! ## The repository -/

/-- The repository with its file. -/
structure TrustedHostRepository (setting : TrustedHostSetting) where
  hosts : List (TrustedHostRecord setting)
  initialized : Bool
  closed : Bool
  file : Option Bytes
  /-- The last snapshot that was saved or loaded. -/
  snapshot : Option (List TrustedHostBinding)

/-- The operations of the repository. -/
inductive RepositoryOperation where
  | initializeHosts
  | add (binding : TrustedHostBinding)
  | savePairing (binding : TrustedHostBinding)
  | renameLocal (hostDeviceId : Bytes) (displayName : String)
  | deleteLocal (hostDeviceId : Bytes)
  | markSuccessfulConnection (hostDeviceId : Bytes) (nowUnixMs : Int64)
  | close

/-- What an operation returns. -/
inductive OperationResult where
  | done
  | deleted (found : Bool)

/-- What an operation is about to do to the list. -/
inductive Change (setting : TrustedHostSetting) where
  | keep (result : OperationResult)
  | commit (next : List (TrustedHostRecord setting)) (result : OperationResult)

namespace TrustedHostRepository

variable {setting : TrustedHostSetting}

/-- A repository with a file, before it is initialized. -/
def new (setting : TrustedHostSetting) (file : Option Bytes) : TrustedHostRepository setting where
  hosts := []
  initialized := false
  closed := false
  file := file
  snapshot := none

/-- The repository is open and has loaded its file. -/
def ensureReady (s : TrustedHostRepository setting) :
    Except TrustedHostRepositoryError Unit := do
  ensure (s.closed = false) .closed
  ensure (s.initialized = true) .notInitialized

/-- The Host with an identifier, and its place. -/
def indexWhere (hostDeviceId : Bytes) (s : TrustedHostRepository setting) :
    Option (Nat × TrustedHostRecord setting) :=
  (s.hosts.findIdx? fun host => host.deviceId = hostDeviceId).bind fun index =>
    s.hosts[index]?.map fun host => (index, host)

variable (binding : TrustedHostBinding)

/-- Add a Host. -/
def add (s : TrustedHostRepository setting) :
    Except TrustedHostRepositoryError (Change setting) := do
  s.ensureReady
  let normalized := { binding with displayOrder := .ofNat s.hosts.length }
  ensure (validateTrustedHostBindings setting.pairing [normalized] = true) .persistence
  ensure (∀ host ∈ s.hosts, host.deviceId ≠ normalized.deviceId) .duplicateHost
  let record ← okOr (TrustedHostRecord.ofBinding setting normalized) .persistence
  return .commit (s.hosts ++ [record]) .done

/-- Save a pairing.  A Host that is known keeps its place and its alias. -/
def savePairing (s : TrustedHostRepository setting) :
    Except TrustedHostRepositoryError (Change setting) := do
  s.ensureReady
  ensure (validateTrustedHostBindings setting.pairing [{ binding with displayOrder := 0 }] = true)
    .persistence
  match s.indexWhere binding.deviceId with
  | none =>
    let record ← okOr (TrustedHostRecord.ofBinding setting
      { binding with displayOrder := .ofNat s.hosts.length }) .persistence
    return .commit (s.hosts ++ [record]) .done
  | some (index, existing) =>
    let record ← okOr (TrustedHostRecord.ofBinding setting
      { binding with
        displayOrder := existing.displayOrder
        lastSuccessfulConnectionAtUnixMs := 0
        localAlias := existing.localAlias }) .persistence
    return .commit (s.hosts.set index record) .done

/-- Give a Host a local name, or take it away. -/
def renameLocal (hostDeviceId : Bytes) (displayName : String) (s : TrustedHostRepository setting) :
    Except TrustedHostRepositoryError (Change setting) := do
  s.ensureReady
  let normalized ← okOr (normalizeDeviceDisplayName displayName) .invalidDisplayName
  let (index, current) ← okOr (s.indexWhere hostDeviceId) .hostNotFound
  let localAlias := if normalized = current.hostIdentity.displayName then "" else normalized
  if localAlias = current.localAlias then return .keep .done
  else
    let record ← okOr (TrustedHostRecord.ofBinding setting { current.toBinding with localAlias })
      .persistence
    return .commit (s.hosts.set index record) .done

/-- Remove a Host from the list. -/
def deleteLocal (hostDeviceId : Bytes) (s : TrustedHostRepository setting) :
    Except TrustedHostRepositoryError (Change setting) := do
  s.ensureReady
  let retained := s.hosts.filter fun host => host.deviceId ≠ hostDeviceId
  if retained.length = s.hosts.length then return .keep (.deleted false)
  else
    let normalized ← okOr (retained.zipIdx.mapM fun (host, index) =>
      TrustedHostRecord.ofBinding setting { host.toBinding with displayOrder := .ofNat index })
      .persistence
    return .commit normalized (.deleted true)

/-- Remember when a Host was last connected. -/
def markSuccessfulConnection (hostDeviceId : Bytes) (nowUnixMs : Int64)
    (s : TrustedHostRepository setting) :
    Except TrustedHostRepositoryError (Change setting) := do
  s.ensureReady
  let (index, current) ← okOr (s.indexWhere hostDeviceId) .hostNotFound
  ensure (¬ (nowUnixMs < current.pairedAtUnixMs ∨
    nowUnixMs < current.lastSuccessfulConnectionAtUnixMs)) .invalidTimestamp
  let record ← okOr (TrustedHostRecord.ofBinding setting
    { current.toBinding with lastSuccessfulConnectionAtUnixMs := nowUnixMs.toUInt64 })
    .persistence
  return .commit (s.hosts.set index record) .done

/-- What an operation that changes the list is about to do. -/
def update (s : TrustedHostRepository setting) :
    RepositoryOperation → Except TrustedHostRepositoryError (Change setting)
  | .add binding => s.add binding
  | .savePairing binding => s.savePairing binding
  | .renameLocal hostDeviceId displayName => s.renameLocal hostDeviceId displayName
  | .deleteLocal hostDeviceId => s.deleteLocal hostDeviceId
  | .markSuccessfulConnection hostDeviceId nowUnixMs =>
    s.markSuccessfulConnection hostDeviceId nowUnixMs
  | .initializeHosts | .close => .ok (.keep .done)

/-- The records of bindings, in their order. -/
def records (setting : TrustedHostSetting) (bindings : List TrustedHostBinding) :
    Option (List (TrustedHostRecord setting)) :=
  if validateTrustedHostBindings setting.pairing bindings = true then
    (bindings.mergeSort fun left right => left.displayOrder ≤ right.displayOrder).mapM
      (TrustedHostRecord.ofBinding setting)
  else none

end TrustedHostRepository

/-! ## Sections of the operations -/

/-- What an operation awaits. -/
inductive RepositoryPoint (setting : TrustedHostSetting) where
  | loading
  | saving (next : List (TrustedHostRecord setting)) (result : OperationResult)
  | closing

/-- How an operation ends. -/
abbrev Ending := Except TrustedHostRepositoryError OperationResult

section Logic

variable (setting : TrustedHostSetting)

/-- An operation starts. -/
def startOperation (operation : RepositoryOperation) (s : TrustedHostRepository setting) :
    TrustedHostRepository setting × Progress (RepositoryPoint setting) Ending :=
  match operation with
  | .initializeHosts =>
    if s.closed then (s, .finished (.error .closed))
    else if s.initialized then (s, .finished (.ok .done))
    else (s, .awaiting .loading)
  | .close =>
    if s.closed then (s, .finished (.ok .done))
    else ({ s with closed := true }, .awaiting .closing)
  | operation =>
    match s.update operation with
    | .error e => (s, .finished (.error e))
    | .ok (.keep result) => (s, .finished (.ok result))
    | .ok (.commit next result) => (s, .awaiting (.saving next result))

/-- An operation goes on: the file system has done what it was asked for, or has failed. -/
def resumeOperation (point : RepositoryPoint setting) (succeeded : Bool)
    (s : TrustedHostRepository setting) :
    TrustedHostRepository setting × Progress (RepositoryPoint setting) Ending :=
  match point with
  | .loading =>
    match load setting succeeded s.file with
    | .error _ => (s, .finished (.error .persistence))
    | .ok bindings =>
      match TrustedHostRepository.records setting bindings with
      | none => (s, .finished (.error .persistence))
      | some hosts =>
        ({ s with hosts, initialized := true, snapshot := some bindings },
          .finished (.ok .done))
  | .saving next result =>
    match save setting succeeded s.file (next.map (·.toBinding)) with
    | (file, .error _) => ({ s with file }, .finished (.error .persistence))
    | (file, .ok _) =>
      ({ s with file, hosts := next, snapshot := some (next.map (·.toBinding)) },
        .finished (.ok result))
  | .closing => (s, .finished (.ok .done))

/-- The sections of the operations. -/
def repositoryLogic :
    TaskLogic (TrustedHostRepository setting) RepositoryOperation (RepositoryPoint setting) Bool
      Ending where
  start := startOperation setting
  resume := resumeOperation setting

/-- The repository under any interleaving. -/
def repositoryMachine :
    Machine (Serial (TrustedHostRepository setting) RepositoryOperation (RepositoryPoint setting)
      Ending) (SerialInput RepositoryOperation Bool) Unit :=
  machine (repositoryLogic setting)

/-- The file after some lifetimes of the application, which has begun without one. -/
def fileAfter (lives : List (List (SerialInput RepositoryOperation Bool))) : Option Bytes :=
  lives.foldl (fun file inputs =>
    ((repositoryMachine setting).run (new (.new setting file)) inputs).shared.file) none

end Logic

/-! ## The order of the list -/

variable {setting : TrustedHostSetting}

/-- The Hosts are numbered in their order. -/
def Ordered (hosts : List (TrustedHostRecord setting)) : Prop :=
  hosts.map (·.displayOrder.toNat) = range hosts.length

theorem TrustedHostRecord.ofBinding_displayOrder {binding : TrustedHostBinding}
    {record : TrustedHostRecord setting} (h : ofBinding setting binding = some record) :
    record.displayOrder = binding.displayOrder := by
  obtain ⟨uri, _, rfl⟩ := Option.map_eq_some_iff.mp h
  rfl

theorem Ordered.append {hosts : List (TrustedHostRecord setting)} (h : Ordered hosts)
    (hlength : hosts.length ≤ maxTrustedHostBindings) {record : TrustedHostRecord setting}
    (horder : record.displayOrder = .ofNat hosts.length) : Ordered (hosts ++ [record]) := by
  have hnumber : record.displayOrder.toNat = hosts.length := by
    rw [horder]
    exact UInt32.toNat_ofNat_of_lt' (Nat.lt_of_le_of_lt hlength (by decide))
  rw [Ordered, map_append, h, length_append, map_singleton, hnumber]
  exact range_succ.symm

theorem Ordered.set {hosts : List (TrustedHostRecord setting)} (h : Ordered hosts) {index : Nat}
    {existing record : TrustedHostRecord setting} (hexisting : hosts[index]? = some existing)
    (horder : record.displayOrder = existing.displayOrder) : Ordered (hosts.set index record) := by
  obtain ⟨hlt, rfl⟩ := List.getElem?_eq_some_iff.mp hexisting
  have hsame : (hosts.map (·.displayOrder.toNat)).set index record.displayOrder.toNat =
      hosts.map (·.displayOrder.toNat) := by
    have hindex : index < (hosts.map (·.displayOrder.toNat)).length := by simpa using hlt
    have hnumber : record.displayOrder.toNat = (hosts.map (·.displayOrder.toNat))[index] := by
      rw [horder, getElem_map]
    rw [hnumber]
    exact set_getElem_self _
  rw [Ordered, map_set, length_set, hsame]
  exact h

/-- Hosts that are numbered again are otherwise the same. -/
theorem renumbered_eq {hosts normalized : List (TrustedHostRecord setting)}
    (h : hosts.zipIdx.mapM (fun entry => TrustedHostRecord.ofBinding setting
      { entry.1.toBinding with displayOrder := .ofNat entry.2 }) = some normalized) :
    normalized = hosts.zipIdx.map fun entry =>
      { entry.1 with displayOrder := .ofNat entry.2 } := by
  have hone : ∀ entry : TrustedHostRecord setting × Nat,
      TrustedHostRecord.ofBinding setting
        { entry.1.toBinding with displayOrder := .ofNat entry.2 } =
        some { entry.1 with displayOrder := .ofNat entry.2 } := fun entry =>
    TrustedHostRecord.ofBinding_toBinding { entry.1 with displayOrder := .ofNat entry.2 }
  simp only [hone] at h
  exact Option.some.inj (h.symm.trans (mapM_pure (m := Option)))

theorem ordered_renumbered {hosts normalized : List (TrustedHostRecord setting)}
    (hlength : hosts.length ≤ maxTrustedHostBindings)
    (h : hosts.zipIdx.mapM (fun entry => TrustedHostRecord.ofBinding setting
      { entry.1.toBinding with displayOrder := .ofNat entry.2 }) = some normalized) :
    Ordered normalized := by
  obtain rfl := renumbered_eq h
  refine ext_getElem (by simp) fun index hindex _ => ?_
  have hlt : index < hosts.length := by simpa using hindex
  simp only [getElem_map, getElem_zipIdx, getElem_range]
  have hsmall : 0 + index < 2 ^ 32 := by
    simp only [maxTrustedHostBindings] at hlength
    omega
  rw [UInt32.toNat_ofNat_of_lt' hsmall, Nat.zero_add]

namespace TrustedHostRepository

variable {s : TrustedHostRepository setting}

theorem ensureReady_eq_ok {u : Unit} :
    s.ensureReady = .ok u ↔ s.closed = false ∧ s.initialized = true := by
  simp only [ensureReady, bind_eq_ok, ensure_eq_ok]
  constructor
  · rintro ⟨_, hclosed, hready⟩
    exact ⟨hclosed, hready⟩
  · rintro ⟨hclosed, hready⟩
    exact ⟨(), hclosed, hready⟩

theorem indexWhere_eq_some {hostDeviceId : Bytes} {index : Nat}
    {host : TrustedHostRecord setting} (h : s.indexWhere hostDeviceId = some (index, host)) :
    s.hosts[index]? = some host ∧ host.deviceId = hostDeviceId := by
  obtain ⟨i, hindex, hmap⟩ := Option.bind_eq_some_iff.mp h
  obtain ⟨other, hother, heq⟩ := Option.map_eq_some_iff.mp hmap
  cases heq
  obtain ⟨hlt, hfound, -⟩ := findIdx?_eq_some_iff_getElem.mp hindex
  obtain ⟨_, hsame⟩ := List.getElem?_eq_some_iff.mp hother
  rw [hsame] at hfound
  exact ⟨hother, of_decide_eq_true hfound⟩

/-- The record that replaces a found one is listed. -/
theorem mem_set_of_found {hostDeviceId : Bytes} {index : Nat}
    {host record : TrustedHostRecord setting} (h : s.indexWhere hostDeviceId = some (index, host)) :
    record ∈ s.hosts.set index record :=
  List.mem_set (List.getElem?_eq_some_iff.mp (indexWhere_eq_some h).1).1 record

/-- What an operation commits: only an initialized repository does, and the Hosts stay
numbered in their order. -/
theorem update_commit {operation : RepositoryOperation}
    {next : List (TrustedHostRecord setting)} {result : OperationResult}
    (h : s.update operation = .ok (.commit next result)) :
    s.initialized = true ∧
      (Ordered s.hosts → s.hosts.length ≤ maxTrustedHostBindings → Ordered next) := by
  cases operation with
  | initializeHosts => cases h
  | close => cases h
  | add binding =>
    simp only [update, add, bind_eq_ok, ensureReady_eq_ok, ensure_eq_ok, okOr_eq_ok] at h
    obtain ⟨_, ⟨_, hready⟩, _, _, _, _, record, hrecord, heq⟩ := h
    cases heq
    refine ⟨hready, fun hordered hlength => hordered.append hlength ?_⟩
    exact TrustedHostRecord.ofBinding_displayOrder hrecord
  | savePairing binding =>
    simp only [update, savePairing, bind_eq_ok, ensureReady_eq_ok, ensure_eq_ok] at h
    obtain ⟨_, ⟨_, hready⟩, _, _, h⟩ := h
    refine ⟨hready, fun hordered hlength => ?_⟩
    split at h
    · simp only [bind_eq_ok, okOr_eq_ok] at h
      obtain ⟨record, hrecord, heq⟩ := h
      cases heq
      exact hordered.append hlength (TrustedHostRecord.ofBinding_displayOrder hrecord)
    · rename_i index existing hfound
      simp only [bind_eq_ok, okOr_eq_ok] at h
      obtain ⟨record, hrecord, heq⟩ := h
      cases heq
      exact hordered.set (indexWhere_eq_some hfound).1
        (TrustedHostRecord.ofBinding_displayOrder hrecord)
  | renameLocal hostDeviceId displayName =>
    simp only [update, renameLocal, bind_eq_ok, ensureReady_eq_ok, okOr_eq_ok] at h
    obtain ⟨_, ⟨_, hready⟩, _, _, ⟨index, current⟩, hfound, h⟩ := h
    refine ⟨hready, fun hordered _ => ?_⟩
    generalize (if _ = current.hostIdentity.displayName then "" else _) = localAlias at h
    dsimp only at h
    split_ifs at h
    · exact absurd (Except.ok.inj h) (by rintro ⟨⟩)
    · simp only [bind_eq_ok, okOr_eq_ok] at h
      obtain ⟨record, hrecord, heq⟩ := h
      cases heq
      exact hordered.set (indexWhere_eq_some hfound).1
        (TrustedHostRecord.ofBinding_displayOrder hrecord)
  | deleteLocal hostDeviceId =>
    simp only [update, deleteLocal, bind_eq_ok, ensureReady_eq_ok] at h
    obtain ⟨_, ⟨_, hready⟩, h⟩ := h
    refine ⟨hready, fun hordered hlength => ?_⟩
    split_ifs at h
    · exact absurd (Except.ok.inj h) (by rintro ⟨⟩)
    · simp only [bind_eq_ok, okOr_eq_ok] at h
      obtain ⟨normalized, hnormalized, heq⟩ := h
      cases heq
      refine ordered_renumbered ?_ hnormalized
      exact (length_filter_le _ _).trans hlength
  | markSuccessfulConnection hostDeviceId nowUnixMs =>
    simp only [update, markSuccessfulConnection, bind_eq_ok, ensureReady_eq_ok, okOr_eq_ok,
      ensure_eq_ok] at h
    obtain ⟨_, ⟨_, hready⟩, ⟨index, current⟩, hfound, _, _, record, hrecord, heq⟩ := h
    cases heq
    refine ⟨hready, fun hordered _ => hordered.set (indexWhere_eq_some hfound).1 ?_⟩
    exact TrustedHostRecord.ofBinding_displayOrder hrecord

end TrustedHostRepository

/-! ## Memory and file agree -/

theorem mapM_ofBinding (hosts : List (TrustedHostRecord setting)) :
    (hosts.map (·.toBinding)).mapM (TrustedHostRecord.ofBinding setting) = some hosts := by
  induction hosts with
  | nil => rfl
  | cons host hosts ih => simp [ih]

/-- Hosts that are numbered in their order are read back in it. -/
theorem records_toBinding {hosts : List (TrustedHostRecord setting)} (hordered : Ordered hosts)
    (haccepted : Accepted setting (hosts.map (·.toBinding))) :
    TrustedHostRepository.records setting (hosts.map (·.toBinding)) = some hosts := by
  have hpairwise : (hosts.map (·.toBinding)).Pairwise fun left right =>
      decide (left.displayOrder ≤ right.displayOrder) = true := by
    have hnumbers : (hosts.map (·.displayOrder.toNat)).Pairwise (· < ·) := by
      rw [hordered]
      exact pairwise_lt_range
    refine pairwise_map.mpr ((pairwise_map.mp hnumbers).imp fun hlt => ?_)
    exact decide_eq_true (UInt32.le_iff_toNat_le.mpr hlt.le)
  rw [TrustedHostRepository.records, if_pos haccepted.1, mergeSort_of_pairwise hpairwise]
  exact mapM_ofBinding hosts

/-- The file holds Hosts that the repository accepts, in their order. -/
def Holds (file : Option Bytes) (hosts : List (TrustedHostRecord setting)) : Prop :=
  Ordered hosts ∧ Accepted setting (hosts.map (·.toBinding)) ∧
    load setting true file = .ok (hosts.map (·.toBinding))

theorem accepted_nil : Accepted setting [] :=
  ⟨rfl, (setting.codec.length_writeToBuffer_le _).trans (by decide : (60 : Nat) ≤ 1024 * 1024)⟩

theorem holds_none : Holds none ([] : List (TrustedHostRecord setting)) :=
  ⟨rfl, accepted_nil, rfl⟩

/-- What an operation that is under way will do still fits to the list. -/
def Awaits (s : TrustedHostRepository setting) :
    RepositoryOperation → RepositoryPoint setting → Prop
  | operation, .loading => operation = .initializeHosts ∧ s.initialized = false
  | operation, .saving next result => s.update operation = .ok (.commit next result)
  | operation, .closing => operation = .close

/-- Memory and file agree, whatever operation is under way. -/
structure Agreement (s : TrustedHostRepository setting)
    (current : Option (RepositoryOperation × RepositoryPoint setting)) : Prop where
  snapshot : s.hosts.map (·.toBinding) = s.snapshot.getD []
  file : ∃ hosts : List (TrustedHostRecord setting), Holds s.file hosts
  loaded : s.initialized = true → Holds s.file s.hosts
  unloaded : s.initialized = false → s.hosts = []
  underWay : ∀ operation point, current = some (operation, point) → Awaits s operation point

namespace Agreement

variable {s : TrustedHostRepository setting}
  {current : Option (RepositoryOperation × RepositoryPoint setting)}

theorem new {file : Option Bytes} (hfile : ∃ hosts : List (TrustedHostRecord setting),
    Holds file hosts) : Agreement (.new setting file) none where
  snapshot := rfl
  file := hfile
  loaded := nofun
  unloaded := fun _ => rfl
  underWay := nofun

/-- An operation ends without a change. -/
theorem idle (h : Agreement s current) : Agreement s none := { h with underWay := nofun }

theorem accepted (h : Agreement s current) :
    Ordered s.hosts ∧ Accepted setting (s.hosts.map (·.toBinding)) := by
  by_cases hready : s.initialized = true
  · exact ⟨(h.loaded hready).1, (h.loaded hready).2.1⟩
  · rw [h.unloaded (by simpa using hready)]
    exact ⟨rfl, accepted_nil⟩

theorem length_le (h : Agreement s current) : s.hosts.length ≤ maxTrustedHostBindings := by
  have hvalid := h.accepted.2.1
  simp only [validateTrustedHostBindings, Bool.and_eq_true, decide_eq_true_eq, length_map] at hvalid
  exact hvalid.1.1

theorem nodup (h : Agreement s current) : (s.hosts.map (·.deviceId)).Nodup := by
  have hvalid := h.accepted.2.1
  simp only [validateTrustedHostBindings, Bool.and_eq_true, decide_eq_true_eq, map_map] at hvalid
  exact hvalid.2

/-- An operation awaits something. -/
theorem await (h : Agreement s none) {operation : RepositoryOperation}
    {point : RepositoryPoint setting} (hawaits : Awaits s operation point) :
    Agreement s (some (operation, point)) :=
  { h with
    underWay := fun _ _ heq => by
      cases heq
      exact hawaits }

end Agreement

/-- Loading fails, or memory is what the file holds. -/
theorem load_cases {s : TrustedHostRepository setting}
    {current : Option (RepositoryOperation × RepositoryPoint setting)} (h : Agreement s current)
    (readable : Bool) :
    resumeOperation setting .loading readable s = (s, .finished (.error .persistence)) ∨
      ∃ hosts : List (TrustedHostRecord setting), Holds s.file hosts ∧
        resumeOperation setting .loading readable s =
          ({ s with hosts, initialized := true, snapshot := some (hosts.map (·.toBinding)) },
            .finished (.ok .done)) := by
  cases readable with
  | false => exact .inl rfl
  | true =>
    obtain ⟨hosts, hholds⟩ := h.file
    refine .inr ⟨hosts, hholds, ?_⟩
    simp only [resumeOperation, hholds.2.2, records_toBinding hholds.1 hholds.2.1]

/-- Saving fails and changes nothing, or memory and file are replaced. -/
theorem save_cases (replaceable : Bool) (s : TrustedHostRepository setting)
    (next : List (TrustedHostRecord setting)) (result : OperationResult) :
    resumeOperation setting (.saving next result) replaceable s =
        (s, .finished (.error .persistence)) ∨
      replaceable = true ∧ Accepted setting (next.map (·.toBinding)) ∧
        resumeOperation setting (.saving next result) replaceable s =
          ({ s with
              file := some (fileOf setting (next.map (·.toBinding)))
              hosts := next
              snapshot := some (next.map (·.toBinding)) }, .finished (.ok result)) := by
  rcases TrustedHostStore.save_cases replaceable s.file (next.map (·.toBinding)) with
    ⟨hreplaced, haccepted, hsaved⟩ | ⟨_, e, hfailed⟩
  · refine .inr ⟨hreplaced, haccepted, ?_⟩
    simp only [resumeOperation, hsaved]
  · refine .inl ?_
    simp only [resumeOperation, hfailed]

/-- Each section keeps memory and file in agreement. -/
theorem repositoryLogic_kept (setting : TrustedHostSetting) :
    Kept (repositoryLogic setting) Agreement where
  start := by
    intro s operation h
    change Agreement (startOperation setting operation s).1
      (Progress.current operation (startOperation setting operation s).2)
    unfold startOperation
    split
    · by_cases hclosed : s.closed = true
      · rw [if_pos hclosed]
        exact h.idle
      rw [if_neg hclosed]
      by_cases hready : s.initialized = true
      · rw [if_pos hready]
        exact h.idle
      · rw [if_neg hready]
        exact h.await ⟨rfl, by simpa using hready⟩
    · by_cases hclosed : s.closed = true
      · rw [if_pos hclosed]
        exact h.idle
      · rw [if_neg hclosed]
        have hmarked : Agreement { s with closed := true } none := { h with underWay := nofun }
        exact hmarked.await rfl
    · split
      · exact h.idle
      · exact h.idle
      · rename_i next result hupdate
        exact h.await hupdate
  resume := by
    intro s operation point answer h
    have hawaits := h.underWay operation point rfl
    change Agreement (resumeOperation setting point answer s).1
      (Progress.current operation (resumeOperation setting point answer s).2)
    cases point with
    | loading =>
      rcases load_cases h answer with hfailed | hloaded
      · rw [hfailed]
        exact h.idle
      · obtain ⟨hosts, hholds, hloaded⟩ := hloaded
        rw [hloaded]
        exact ⟨rfl, ⟨hosts, hholds⟩, fun _ => hholds, nofun, nofun⟩
    | saving next result =>
      rcases save_cases answer s next result with hfailed | ⟨_, haccepted, hsaved⟩
      · rw [hfailed]
        exact h.idle
      · rw [hsaved]
        obtain ⟨hready, hordered⟩ := TrustedHostRepository.update_commit hawaits
        have hholds : Holds (some (fileOf setting (next.map (·.toBinding)))) next :=
          ⟨hordered h.accepted.1 h.length_le, haccepted, load_save haccepted⟩
        exact ⟨rfl, ⟨next, hholds⟩, fun _ => hholds,
          fun hnot => absurd (hready.symm.trans hnot) nofun, nofun⟩
    | closing => exact h.idle

/-! ## What an operation does -/

/-- The Hosts that a file holds, if the file system gives it. -/
def reload (setting : TrustedHostSetting) (file : Option Bytes) :
    Option (List (TrustedHostRecord setting)) :=
  match load setting true file with
  | .ok bindings => TrustedHostRepository.records setting bindings
  | .error _ => none

variable {file : Option Bytes}

theorem reload_holds {hosts : List (TrustedHostRecord setting)}
    (h : Holds file hosts) : reload setting file = some hosts := by
  rw [reload, h.2.2]
  exact records_toBinding h.1 h.2.1

/-- What an operation that ends well has made of the list that it finds. -/
def Done (s : TrustedHostRepository setting) (operation : RepositoryOperation)
    (value : OperationResult) (hosts : List (TrustedHostRecord setting)) : Prop :=
  match operation with
  | .initializeHosts =>
    s.initialized = true ∧ hosts = s.hosts ∨
      s.initialized = false ∧ reload setting s.file = some hosts
  | operation =>
    s.update operation = .ok (.keep value) ∧ hosts = s.hosts ∨
      s.update operation = .ok (.commit hosts value)

/-- What an operation that has ended well has achieved: the Host is listed, has its name, is
gone, or has been connected. -/
def TakesEffect (s : TrustedHostRepository setting) (value : OperationResult)
    (hosts : List (TrustedHostRecord setting)) : RepositoryOperation → Prop
  | .add binding | .savePairing binding =>
    ∃ host ∈ hosts, host.hostIdentity = identityOf binding.hostIdentity ∧
      host.pairedAtUnixMs = binding.pairedAtUnixMs.toInt64
  | .renameLocal hostDeviceId displayName => ∃ host ∈ hosts, host.deviceId = hostDeviceId ∧
      ∃ name, normalizeDeviceDisplayName displayName = some name ∧
        host.localAlias = if name = host.hostIdentity.displayName then "" else name
  | .deleteLocal hostDeviceId => (∀ host ∈ hosts, host.deviceId ≠ hostDeviceId) ∧
      (value = .deleted true ↔ ∃ host ∈ s.hosts, host.deviceId = hostDeviceId)
  | .markSuccessfulConnection hostDeviceId nowUnixMs => ∃ host ∈ hosts,
      host.deviceId = hostDeviceId ∧ host.lastSuccessfulConnectionAtUnixMs = nowUnixMs
  | .initializeHosts | .close => True

/-- A section leaves the list as it is, or it ends an operation well. -/
def Outcome (s s' : TrustedHostRepository setting) (operation : RepositoryOperation) :
    Progress (RepositoryPoint setting) Ending → Prop
  | .finished (.ok value) => Done s operation value s'.hosts
  | _ => s'.hosts = s.hosts

/-- An operation that ends well takes effect. -/
theorem Done.takesEffect {s : TrustedHostRepository setting} {operation : RepositoryOperation}
    {value : OperationResult} {hosts : List (TrustedHostRecord setting)}
    (h : Done s operation value hosts) : TakesEffect s value hosts operation := by
  cases operation with
  | initializeHosts => trivial
  | close => trivial
  | add binding =>
    simp only [Done, TrustedHostRepository.update, TrustedHostRepository.add, bind_eq_ok,
      okOr_eq_ok] at h
    rcases h with ⟨⟨_, _, _, _, _, _, _, _, hkeep⟩, -⟩ | ⟨_, _, _, _, _, _, record, hrecord, heq⟩
    · cases hkeep
    · cases heq
      obtain ⟨_, _, rfl⟩ := Option.map_eq_some_iff.mp hrecord
      exact ⟨_, mem_append_right _ (mem_singleton_self _), rfl, rfl⟩
  | savePairing binding =>
    simp only [Done, TrustedHostRepository.update, TrustedHostRepository.savePairing,
      bind_eq_ok] at h
    rcases h with ⟨⟨_, _, _, _, h⟩, -⟩ | ⟨_, _, _, _, h⟩
    · split at h
      all_goals
        obtain ⟨_, -, heq⟩ := bind_eq_ok.mp h
        cases heq
    · split at h
      · obtain ⟨record, hrecord, heq⟩ := bind_eq_ok.mp h
        cases heq
        obtain ⟨_, _, rfl⟩ := Option.map_eq_some_iff.mp (okOr_eq_ok.mp hrecord)
        exact ⟨_, mem_append_right _ (mem_singleton_self _), rfl, rfl⟩
      · next index existing hfound =>
        obtain ⟨record, hrecord, heq⟩ := bind_eq_ok.mp h
        cases heq
        obtain ⟨_, _, rfl⟩ := Option.map_eq_some_iff.mp (okOr_eq_ok.mp hrecord)
        exact ⟨_, TrustedHostRepository.mem_set_of_found hfound, rfl, rfl⟩
  | renameLocal hostDeviceId displayName =>
    simp only [Done, TrustedHostRepository.update, TrustedHostRepository.renameLocal,
      bind_eq_ok, okOr_eq_ok] at h
    rcases h with ⟨⟨_, _, name, hname, ⟨index, current⟩, hfound, h⟩, rfl⟩ |
      ⟨_, _, name, hname, ⟨index, current⟩, hfound, h⟩
    all_goals obtain ⟨hlisted, hid⟩ := TrustedHostRepository.indexWhere_eq_some hfound
    all_goals
      dsimp only at h
      generalize halias : (if name = current.hostIdentity.displayName then "" else name) =
        localAlias at h
    · split_ifs at h with hsame
      · exact ⟨current, mem_of_getElem? hlisted, hid, name, hname, hsame.symm.trans halias.symm⟩
      · obtain ⟨_, -, heq⟩ := bind_eq_ok.mp h
        cases heq
    · split_ifs at h with hsame
      · cases h
      · obtain ⟨record, hrecord, heq⟩ := bind_eq_ok.mp h
        cases heq
        obtain ⟨_, _, rfl⟩ := Option.map_eq_some_iff.mp (okOr_eq_ok.mp hrecord)
        exact ⟨_, TrustedHostRepository.mem_set_of_found hfound, hid, name, hname,
          halias.symm⟩
  | deleteLocal hostDeviceId =>
    simp only [Done, TrustedHostRepository.update, TrustedHostRepository.deleteLocal,
      bind_eq_ok] at h
    rcases h with ⟨⟨_, _, h⟩, rfl⟩ | ⟨_, _, h⟩
    · split_ifs at h with hlength
      · have hall := length_filter_eq_length_iff.mp hlength
        cases h
        refine ⟨fun host hhost => of_decide_eq_true (hall host hhost), ?_⟩
        refine iff_of_false (by simp) ?_
        rintro ⟨host, hhost, hid⟩
        exact of_decide_eq_true (hall host hhost) hid
      · obtain ⟨_, -, heq⟩ := bind_eq_ok.mp h
        cases heq
    · split_ifs at h with hlength
      · cases h
      · obtain ⟨normalized, hnormalized, heq⟩ := bind_eq_ok.mp h
        cases heq
        obtain rfl := renumbered_eq (okOr_eq_ok.mp hnormalized)
        refine ⟨fun host hhost => ?_, iff_of_true rfl ?_⟩
        · obtain ⟨⟨retained, index⟩, hmem, rfl⟩ := mem_map.mp hhost
          have hretained := fst_mem_of_mem_zipIdx hmem
          exact of_decide_eq_true (mem_filter.mp hretained).2
        · by_contra hnone
          push Not at hnone
          exact hlength (length_filter_eq_length_iff.mpr fun host hhost =>
            decide_eq_true (hnone host hhost))
  | markSuccessfulConnection hostDeviceId nowUnixMs =>
    simp only [Done, TrustedHostRepository.update,
      TrustedHostRepository.markSuccessfulConnection, bind_eq_ok, okOr_eq_ok] at h
    rcases h with ⟨⟨_, _, _, _, _, _, _, _, heq⟩, -⟩ |
      ⟨_, _, ⟨index, current⟩, hfound, _, _, record, hrecord, heq⟩
    · cases heq
    · cases heq
      obtain ⟨_, _, rfl⟩ := Option.map_eq_some_iff.mp hrecord
      exact ⟨_, TrustedHostRepository.mem_set_of_found hfound,
        (TrustedHostRepository.indexWhere_eq_some hfound).2, Int64.toInt64_toUInt64 _⟩

theorem start_outcome (operation : RepositoryOperation) (s : TrustedHostRepository setting) :
    Outcome s (startOperation setting operation s).1 operation
      (startOperation setting operation s).2 := by
  unfold startOperation
  split
  · by_cases hclosed : s.closed = true
    · rw [if_pos hclosed]
      exact rfl
    rw [if_neg hclosed]
    by_cases hready : s.initialized = true
    · rw [if_pos hready]
      exact .inl ⟨hready, rfl⟩
    · rw [if_neg hready]
      exact rfl
  · split_ifs
    · exact .inl ⟨rfl, rfl⟩
    · exact rfl
  · rename_i hinit hclose
    split
    · exact rfl
    · rename_i result hupdate
      cases operation with
      | initializeHosts => exact absurd rfl hinit
      | _ => exact .inl ⟨hupdate, rfl⟩
    · exact rfl

theorem resume_outcome {s : TrustedHostRepository setting} {operation : RepositoryOperation}
    {point : RepositoryPoint setting} (h : Agreement s (some (operation, point)))
    (answer : Bool) :
    Outcome s (resumeOperation setting point answer s).1 operation
      (resumeOperation setting point answer s).2 := by
  have hawaits := h.underWay operation point rfl
  cases point with
  | loading =>
    obtain ⟨rfl, hready⟩ := hawaits
    rcases load_cases h answer with hfailed | ⟨hosts, hholds, hloaded⟩
    · rw [hfailed]
      exact rfl
    · rw [hloaded]
      exact .inr ⟨hready, reload_holds hholds⟩
  | saving next result =>
    rcases save_cases answer s next result with hfailed | ⟨_, _, hsaved⟩
    · rw [hfailed]
      exact rfl
    · rw [hsaved]
      cases operation with
      | initializeHosts => cases hawaits
      | _ => exact .inr hawaits
  | closing =>
    cases hawaits
    exact .inl ⟨rfl, rfl⟩

/-- What the file system answers ends an operation. -/
theorem resume_finishes (point : RepositoryPoint setting) (answer : Bool)
    (s : TrustedHostRepository setting) :
    ∃ ending, (resumeOperation setting point answer s).2 = .finished ending := by
  unfold resumeOperation
  split
  · split
    · exact ⟨_, rfl⟩
    · split <;> exact ⟨_, rfl⟩
  · split <;> exact ⟨_, rfl⟩
  · exact ⟨_, rfl⟩

/-! ## Runs -/

/-- The repository with the operations that have been called. -/
abbrev Operations (setting : TrustedHostSetting) :=
  Serial (TrustedHostRepository setting) RepositoryOperation (RepositoryPoint setting) Ending

/-- A step changes the list only by ending the next operation well, and then as that
operation does with the list that it finds, which has taken effect. -/
def ChangesInTurn (s s' : Operations setting) : Prop :=
  s'.finished = s.finished ∧ s'.shared.hosts = s.shared.hosts ∨
    ∃ operation preceding ending, s.tasks[s.finished.length]? = some (operation, preceding) ∧
      s'.finished = s.finished ++ [(s.finished.length, ending)] ∧
      ((∃ error, ending = .error error ∧ s'.shared.hosts = s.shared.hosts) ∨
        ∃ value, ending = .ok value ∧ Done s.shared operation value s'.shared.hosts ∧
          TakesEffect s.shared value s'.shared.hosts operation)

/-- The next operation starts, or the file system ends it, well or badly. -/
def GoesOn (s : Operations setting) : Prop :=
  s.finished.length < s.tasks.length →
    (s.running = [] ∧
        ((∃ point, (s.finished.length, point) ∈
            (s.start (repositoryLogic setting) s.finished.length).running) ∨
          (s.start (repositoryLogic setting) s.finished.length).finished.length =
            s.finished.length + 1)) ∨
      ∃ point, s.running = [(s.finished.length, point)] ∧
        ∀ answer, (s.resume (repositoryLogic setting) s.finished.length answer).finished.length =
          s.finished.length + 1

theorem settle_changesInTurn {s : Operations setting} {operation : RepositoryOperation}
    {preceding : Option Nat}
    (htask : s.tasks[s.finished.length]? = some (operation, preceding))
    {result : TrustedHostRepository setting × Progress (RepositoryPoint setting) Ending}
    (houtcome : Outcome s.shared result.1 operation result.2) :
    ChangesInTurn s (s.settle s.finished.length result) := by
  obtain ⟨shared, progress⟩ := result
  cases progress with
  | awaiting point => exact .inl ⟨rfl, houtcome⟩
  | finished ending =>
    refine .inr ⟨operation, preceding, ending, htask, rfl, ?_⟩
    cases ending with
    | error error => exact .inl ⟨error, rfl, houtcome⟩
    | ok value => exact .inr ⟨value, rfl, houtcome, houtcome.takesEffect⟩

theorem step_changesInTurn {s : Operations setting} (h : InTurn s)
    (hagreement : Agreement s.shared s.current) (input : SerialInput RepositoryOperation Bool) :
    ChangesInTurn s (s.step (repositoryLogic setting) input) := by
  have hstep := step_cases h (repositoryLogic setting) input
  generalize s.step (repositoryLogic setting) input = s' at hstep
  cases hstep with
  | nothing => exact .inl ⟨rfl, rfl⟩
  | called task => exact .inl ⟨rfl, rfl⟩
  | started htask _ => exact settle_changesInTurn htask (start_outcome _ _)
  | @resumed operation preceding point answer htask hrunning =>
    have hcurrent : s.current = some (operation, point) := by
      simp [current, hrunning, htask]
    rw [hcurrent] at hagreement
    exact settle_changesInTurn htask (resume_outcome hagreement answer)

theorem goesOn {s : Operations setting} (h : InTurn s) : GoesOn s := by
  intro hleft
  rcases progress h (repositoryLogic setting) hleft with
    ⟨hidle, operation, preceding, _, hstart⟩ | ⟨point, hrunning, hresume⟩
  · refine .inl ⟨hidle, ?_⟩
    rw [hstart]
    cases hprogress : ((repositoryLogic setting).start operation s.shared).2 with
    | awaiting point => exact .inl ⟨point, (settle_awaiting hprogress s).2⟩
    | finished ending =>
      refine .inr ?_
      rw [settle_finished hprogress]
      simp
  · refine .inr ⟨point, hrunning, fun answer => ?_⟩
    obtain ⟨ending, hending⟩ : ∃ ending,
        ((repositoryLogic setting).resume point answer s.shared).2 = .finished ending :=
      resume_finishes point answer s.shared
    rw [hresume, settle_finished hending]
    simp

/-- A file from before still holds Hosts in their order after a lifetime. -/
theorem run_agreement (hfile : ∃ hosts : List (TrustedHostRecord setting), Holds file hosts)
    (inputs : List (SerialInput RepositoryOperation Bool)) :
    let s := (repositoryMachine setting).run (new (.new setting file)) inputs
    InTurn s ∧ Agreement s.shared s.current :=
  run_invariant (repositoryLogic_kept setting) (Agreement.new hfile) inputs

theorem fileAfter_holds (setting : TrustedHostSetting)
    (lives : List (List (SerialInput RepositoryOperation Bool))) :
    ∃ hosts : List (TrustedHostRecord setting), Holds (fileAfter setting lives) hosts := by
  induction lives using reverseRecOn with
  | nil => exact ⟨[], holds_none⟩
  | append_singleton lives inputs ih =>
    have hfile := (run_agreement ih inputs).2.file
    rw [fileAfter, foldl_append]
    exact hfile

/-- **The list of trusted Hosts.**  In every run of every lifetime the list in memory is the
last snapshot that was saved or loaded.  The operations end in the order in which they were
called; each that ends well changes the list as it is then, none that fails changes it, and
the next one can always go on.  The list has no Host twice, is numbered in its order and
stays within its bound.  Only the file system can prevent that it is saved again, or that
the file is loaded again. -/
theorem host_list_agreement (setting : TrustedHostSetting)
    (lives : List (List (SerialInput RepositoryOperation Bool)))
    (inputs : List (SerialInput RepositoryOperation Bool)) :
    let initial := new (.new setting (fileAfter setting lives))
    let s := (repositoryMachine setting).run initial inputs
    s.shared.hosts.map (·.toBinding) = s.shared.snapshot.getD [] ∧
      (s.finished.map (·.1) = range s.finished.length ∧ GoesOn s ∧
        ∀ e ∈ (repositoryMachine setting).trace initial inputs,
          ChangesInTurn e.before e.after) ∧
      ((s.shared.hosts.map (·.deviceId)).Nodup ∧ Ordered s.shared.hosts ∧
        s.shared.hosts.length ≤ maxTrustedHostBindings) ∧
      (∀ file, (save setting true file (s.shared.hosts.map (·.toBinding))).2 = .ok ()) ∧
      ∃ hosts, reload setting s.shared.file = some hosts ∧
        (s.shared.initialized = true → hosts = s.shared.hosts) := by
  intro initial s
  have hfile := fileAfter_holds setting lives
  obtain ⟨hturn, hagreement⟩ := run_agreement hfile inputs
  refine ⟨hagreement.snapshot, ⟨hturn.finished, goesOn hturn, fun e he => ?_⟩,
    ⟨hagreement.nodup, hagreement.accepted.1, hagreement.length_le⟩, fun file => ?_, ?_⟩
  · obtain ⟨⟨hbefore, hagree⟩, _, _, heq⟩ := (repositoryMachine setting).trace_invariant
      (fun s => InTurn s ∧ Agreement s.shared s.current)
      (fun s input h _ =>
        have hstep := step_cases h.1 (repositoryLogic setting) input
        ⟨hstep.inTurn h.1, hstep.keeps (repositoryLogic_kept setting) h.1 h.2⟩)
      ⟨new_inTurn _, Agreement.new hfile⟩
      ((repositoryMachine setting).guarded_true initial inputs) he
    rw [heq]
    exact step_changesInTurn hbefore hagree e.input
  · rcases TrustedHostStore.save_cases true file (s.shared.hosts.map (·.toBinding)) with
      ⟨_, _, hsaved⟩ | ⟨hnot, _⟩
    · rw [hsaved]
    · exact absurd ⟨rfl, hagreement.accepted.2⟩ hnot
  · by_cases hready : s.shared.initialized = true
    · exact ⟨_, reload_holds (hagreement.loaded hready), fun _ => rfl⟩
    · obtain ⟨hosts, hholds⟩ := hagreement.file
      exact ⟨hosts, reload_holds hholds, fun h => absurd h hready⟩

/-! ### A lifetime -/

/-- The setting of the sample Host. -/
def deskSetting : TrustedHostSetting := dottedSetting "wss://desk.example/"

/-- The sample Host is paired and renamed, while its removal has already been called. -/
def sampleLifetime : List (SerialInput RepositoryOperation Bool) :=
  [.call .initializeHosts, .start 0, .call (.add (bindingAt "wss://desk.example/")), .resume 0 true,
    .call (.renameLocal sampleHostIdentity.deviceId "study"), .start 1,
    .resume 1 true, .call (.deleteLocal sampleHostIdentity.deviceId), .start 2,
    .resume 2 true]

/-- The Host has its name, and would be loaded with it; it is gone when its removal has ended. -/
theorem host_list_agreement_sample :
    let initial := new (.new deskSetting (fileAfter deskSetting []))
    let s := (repositoryMachine deskSetting).run initial sampleLifetime
    let after := (repositoryMachine deskSetting).run s [.start 3, .resume 3 true]
    s.shared.hosts.map (·.localAlias) = ["study"] ∧
      reload deskSetting s.shared.file = some s.shared.hosts ∧
      after.shared.hosts.map (·.localAlias) = [] ∧
      after.finished.map (·.1) = [0, 1, 2, 3] := by
  intro initial s after
  have hready : s.shared.initialized = true := by decide +kernel
  obtain ⟨-, -, -, -, hosts, hreload, hsame⟩ :=
    host_list_agreement deskSetting [] sampleLifetime
  obtain rfl := hsame hready
  exact ⟨by decide +kernel, hreload, by decide +kernel, by decide +kernel⟩

end TrustedHosts

end Client

end Roammand
