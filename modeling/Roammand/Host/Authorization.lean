import Mathlib.Data.List.Sort
import Mathlib.Tactic.Common
import Roammand.Host.GrantStore

/-!
# The Host's authorization registry

The registry holds one grant per controller, keyed by the controller's device
identifier.  Every change builds the next snapshot, persists it and only then changes
the registry.

Main results:

- Definitions `AuthorizationRegistry.load`, `createControllerGrant`,
  `recordAuthenticatedSession` and `revokeControllerGrant`.
- Theorem `normalizeStoredPermissions_ok`: normalized permissions are view alone or view
  and control.
- Theorem `validateStoredGrant_eq_ok`: what a valid stored grant is.
-/

namespace Roammand

namespace Host

open Library Protocol

/-- Length of a grant identifier. -/
def grantIdBytes : Nat := 16

/-- How often a fresh grant identifier is drawn. -/
def grantIdGenerationAttempts : Nat := 16

/-- Errors of the authorization registry. -/
inductive AuthorizationError where
  | store (error : GrantStoreError)
  | invalidHostIdentity
  | invalidStoredGrant
  | duplicateGrantId
  | duplicateController
  | invalidController
  | selfGrant
  | invalidPermissions
  | grantConflict
  | grantLimit
  | randomGeneration
  | grantNotFound
  deriving DecidableEq

/-- Grants keyed by the controller's device identifier. -/
abbrev GrantMap := Std.ExtTreeMap Bytes ControllerGrantView compare

/-- The in-memory registry of one Host. -/
structure AuthorizationRegistry where
  hostDeviceId : Bytes
  grantsByController : GrantMap
  deriving DecidableEq

/-! ## Validation -/

/-- A controller identity is well formed and its identifier is derived from its key. -/
def validateController (crypto : Crypto) (controller : DeviceIdentity) :
    Except AuthorizationError Unit := do
  (validateDeviceIdentity controller).mapError fun _ => .invalidController
  let publicKey ← okOr (toArray? 32 controller.publicKey) .invalidController
  ensure (crypto.validKey publicKey) .invalidController
  let derived ← (deriveDeviceIdV1 crypto publicKey.toList).mapError fun _ => .invalidController
  ensure (controller.deviceId = derived.toList) .invalidController

/-- Collect wire permissions into a set, refusing unknown, unspecified and repeated
ones. -/
def collectPermissions : Std.ExtTreeSet Int32 compare → List Int32 →
    Except AuthorizationError (Std.ExtTreeSet Int32 compare)
  | normalized, [] => .ok normalized
  | normalized, value :: values =>
    match SessionPermission.ofInt32? value with
    | none => .error .invalidPermissions
    | some permission =>
      if permission = .unspecified ∨ value ∈ normalized then .error .invalidPermissions
      else collectPermissions (normalized.insert value) values

/-- The ascending form of a permission list: nonempty, and no control without view. -/
def normalizeStoredPermissions (permissions : List Int32) :
    Except AuthorizationError (List Int32) := do
  ensure (permissions ≠ []) .invalidPermissions
  let normalized ← collectPermissions ∅ permissions
  ensure (SessionPermission.controlInput.toInt32 ∈ normalized →
    SessionPermission.viewScreen.toInt32 ∈ normalized) .invalidPermissions
  return normalized.toList

/-- The same for permissions that are already known. -/
def normalizePermissions (permissions : List SessionPermission) :
    Except AuthorizationError (List Int32) :=
  normalizeStoredPermissions (permissions.map SessionPermission.toInt32)

/-- Check a stored grant of this Host and return the controller's identifier. -/
def validateStoredGrant (crypto : Crypto) (view : ControllerGrantView)
    (expectedHostDeviceId : Bytes) : Except AuthorizationError Bytes := do
  let grant ← okOr view.grant .invalidStoredGrant
  ensure (grant.grantId.length = grantIdBytes ∧ grant.hostDeviceId = expectedHostDeviceId)
    .invalidStoredGrant
  let controller ← okOr grant.controller .invalidStoredGrant
  (validateController crypto controller).mapError fun _ => .invalidStoredGrant
  ensure (controller.deviceId ≠ expectedHostDeviceId) .invalidStoredGrant
  let normalized ←
    (normalizeStoredPermissions grant.permissions).mapError fun _ => .invalidStoredGrant
  ensure (normalized = grant.permissions) .invalidStoredGrant
  return controller.deviceId

/-- The controller identifier a grant view is about. -/
def controllerDeviceIdFor (view : ControllerGrantView) : Option Bytes :=
  view.grant.bind fun grant => grant.controller.map (·.deviceId)

/-- Whether a grant view has the given grant identifier. -/
def hasGrantId (grantId : Bytes) (view : ControllerGrantView) : Bool :=
  view.grant.any fun grant => grant.grantId = grantId

/-- Order grants by controller identifier. -/
def sortGrants (grants : List ControllerGrantView) : List ControllerGrantView :=
  grants.insertionSort fun left right =>
    (compare (controllerDeviceIdFor left) (controllerDeviceIdFor right)).isLE

/-! ## Operations -/

namespace AuthorizationRegistry

/-- Check the loaded grants one by one and file them under their controllers. -/
def loadGrants (crypto : Crypto) (hostDeviceId : Bytes) :
    List Bytes → GrantMap → List ControllerGrantView → Except AuthorizationError GrantMap
  | _, grants, [] => .ok grants
  | grantIds, grants, view :: views => do
    let controllerId ← validateStoredGrant crypto view hostDeviceId
    let grant ← okOr view.grant .invalidStoredGrant
    ensure (grant.grantId ∉ grantIds) .duplicateGrantId
    ensure (controllerId ∉ grants) .duplicateController
    loadGrants crypto hostDeviceId (grant.grantId :: grantIds)
      (grants.insert controllerId view) views

/-- Load and validate the persisted grants of a Host. -/
def load (crypto : Crypto) (decode : Bytes → Option HostAuthorizationSnapshot)
    (faults : FileFaults) (file : Option Bytes) (hostDeviceId : Bytes) :
    Except AuthorizationError AuthorizationRegistry := do
  ensure (hostDeviceId.length = deviceIdBytes) .invalidHostIdentity
  let loaded ← (FileGrantStore.load crypto decode faults file hostDeviceId).mapError .store
  ensure (loaded.length ≤ maxControllerGrants) .invalidStoredGrant
  let grantsByController ← loadGrants crypto hostDeviceId [] ∅ loaded
  return { hostDeviceId, grantsByController }

/-- All grants in the order of their controllers. -/
def listControllerGrants (r : AuthorizationRegistry) : List ControllerGrantView :=
  r.grantsByController.toList.map Prod.snd

/-- The grant of a controller. -/
def controllerGrant (r : AuthorizationRegistry) (controllerDeviceId : Bytes) :
    Option ControllerGrantView :=
  r.grantsByController[controllerDeviceId]?

/-- Draw a grant identifier that is not in use; `random` gives the bytes of each
remaining attempt, or nothing when the system source fails. -/
def generateGrantId (r : AuthorizationRegistry) :
    (attempts : Nat) → (random : Nat → Option (Vector UInt8 16)) →
    Except AuthorizationError Bytes
  | 0, _ => .error .randomGeneration
  | attempts + 1, random =>
    match random attempts with
    | none => .error .randomGeneration
    | some grantId =>
      if r.listControllerGrants.any (hasGrantId grantId.toList) then
        generateGrantId r attempts random
      else .ok grantId.toList

variable (crypto : Crypto)

/-- Persist the next snapshot and, when that succeeds, commit the next registry. -/
def persistThen (r : AuthorizationRegistry) (faults : FileFaults)
    (file : Option Bytes) (next : List ControllerGrantView) (grants : GrantMap)
    (answer : ControllerGrantView) :
    (AuthorizationRegistry × Option Bytes) × Except AuthorizationError ControllerGrantView :=
  match FileGrantStore.persist crypto faults file r.hostDeviceId next with
  | (file', .error e) => ((r, file'), .error (.store e))
  | (file', .ok ()) => (({ r with grantsByController := grants }, file'), .ok answer)

/-- The checks on a requested grant before the registry is consulted. -/
def checkRequest (r : AuthorizationRegistry) (controller : DeviceIdentity)
    (permissions : List SessionPermission) : Except AuthorizationError (List Int32) := do
  validateController crypto controller
  ensure (controller.deviceId ≠ r.hostDeviceId) .selfGrant
  normalizePermissions permissions

/-- A fresh grant of this Host that has not been used yet. -/
def newGrantView (r : AuthorizationRegistry) (grantId : Bytes) (controller : DeviceIdentity)
    (createdAtUnixMs : UInt64) (permissions : List Int32) : ControllerGrantView :=
  { grant := some
      { grantId
        hostDeviceId := r.hostDeviceId
        controller := some controller
        createdAtUnixMs
        permissions }
    lastSuccessfulConnectionAtUnixMs := 0 }

/-- Grant a controller access, or return the identical grant it already has. -/
def createControllerGrant (r : AuthorizationRegistry)
    (faults : FileFaults) (file : Option Bytes) (controller : DeviceIdentity)
    (permissions : List SessionPermission) (createdAtUnixMs : UInt64)
    (random : Nat → Option (Vector UInt8 16)) :
    (AuthorizationRegistry × Option Bytes) × Except AuthorizationError ControllerGrantView :=
  match r.checkRequest crypto controller permissions with
  | .error e => ((r, file), .error e)
  | .ok normalized =>
    match r.grantsByController[controller.deviceId]? with
    | some existing =>
      match existing.grant with
      | none => ((r, file), .error .invalidStoredGrant)
      | some existingGrant =>
        if existingGrant.controller = some controller ∧
            existingGrant.permissions = normalized then
          ((r, file), .ok existing)
        else ((r, file), .error .grantConflict)
    | none =>
      if maxControllerGrants ≤ r.grantsByController.size then
        ((r, file), .error .grantLimit)
      else
        match r.generateGrantId grantIdGenerationAttempts random with
        | .error e => ((r, file), .error e)
        | .ok grantId =>
          let view := r.newGrantView grantId controller createdAtUnixMs normalized
          r.persistThen crypto faults file (sortGrants (r.listControllerGrants ++ [view]))
            (r.grantsByController.insert controller.deviceId view) view

/-- Replace the first element that satisfies `p`. -/
def replaceFirst {α : Type} (p : α → Bool) (new : α) : List α → Option (List α)
  | [] => none
  | a :: as => if p a then some (new :: as) else (replaceFirst p new as).map (a :: ·)

/-- Record a successful session authentication of a controller. -/
def recordAuthenticatedSession (r : AuthorizationRegistry)
    (faults : FileFaults) (file : Option Bytes) (controllerDeviceId : Bytes)
    (authenticatedAtUnixMs : UInt64) :
    (AuthorizationRegistry × Option Bytes) × Except AuthorizationError ControllerGrantView :=
  match r.grantsByController[controllerDeviceId]? with
  | none => ((r, file), .error .grantNotFound)
  | some existing =>
    if authenticatedAtUnixMs ≤ existing.lastSuccessfulConnectionAtUnixMs then
      ((r, file), .ok existing)
    else
      let updated :=
        { existing with lastSuccessfulConnectionAtUnixMs := authenticatedAtUnixMs }
      match replaceFirst (fun view => controllerDeviceIdFor view = some controllerDeviceId)
          updated r.listControllerGrants with
      | none => ((r, file), .error .invalidStoredGrant)
      | some next =>
        r.persistThen crypto faults file next
          (r.grantsByController.insert controllerDeviceId updated) updated

/-- Remove the grant with the given identifier. -/
def revokeControllerGrant (r : AuthorizationRegistry)
    (faults : FileFaults) (file : Option Bytes) (grantId : Bytes) :
    (AuthorizationRegistry × Option Bytes) × Except AuthorizationError ControllerGrantView :=
  match r.grantsByController.toList.find? fun entry => hasGrantId grantId entry.2 with
  | none => ((r, file), .error .grantNotFound)
  | some (controllerId, removed) =>
    let next := r.listControllerGrants.filter fun view =>
      controllerDeviceIdFor view ≠ some controllerId
    r.persistThen crypto faults file next (r.grantsByController.erase controllerId) removed

/-! ## Permissions are canonical -/

end AuthorizationRegistry

/-- Collected permissions are the view and control permissions only. -/
theorem collectPermissions_mem {normalized result : Std.ExtTreeSet Int32 compare}
    {values : List Int32} (h : collectPermissions normalized values = .ok result)
    (hknown : ∀ v ∈ normalized, v = 1 ∨ v = 2) :
    (∀ v ∈ result, v = 1 ∨ v = 2) ∧ (∀ v ∈ values, v ∈ result) ∧
      ∀ v ∈ normalized, v ∈ result := by
  induction values generalizing normalized with
  | nil =>
    cases h
    exact ⟨hknown, by simp, fun v hv => hv⟩
  | cons value values ih =>
    unfold collectPermissions at h
    split at h
    · cases h
    · next permission hpermission =>
      split at h
      · cases h
      · next hfresh =>
        have hvalue : value = 1 ∨ value = 2 := by
          have := SessionPermission.ofInt32?_eq_some.mp hpermission
          cases permission with
          | unspecified => exact absurd (Or.inl rfl) hfresh
          | viewScreen => exact .inl this
          | controlInput => exact .inr this
        have hnext : ∀ v ∈ normalized.insert value, v = 1 ∨ v = 2 := by
          intro v hv
          rcases Std.ExtTreeSet.mem_insert.mp hv with heq | hv
          · rw [← Std.LawfulEqCmp.eq_of_compare heq]
            exact hvalue
          · exact hknown v hv
        obtain ⟨hresult, hvalues, hkept⟩ := ih h hnext
        refine ⟨hresult, ?_, fun v hv => hkept v (by simp [hv])⟩
        intro v hv
        rcases List.mem_cons.mp hv with rfl | hv
        · exact hkept v (by simp)
        · exact hvalues v hv

variable {permissions result : List Int32}

/-- Normalized permissions are view alone or view and control. -/
theorem normalizeStoredPermissions_ok (h : normalizeStoredPermissions permissions = .ok result) :
    result = [1] ∨ result = [1, 2] := by
  unfold normalizeStoredPermissions at h
  simp only [bind_eq_ok, ensure_eq_ok] at h
  obtain ⟨-, hne, set, hset, -, hview, hresult⟩ := h
  cases hresult
  obtain ⟨hknown, hmem, -⟩ := collectPermissions_mem hset (by simp)
  obtain ⟨value, rest, rfl⟩ := List.exists_cons_of_ne_nil hne
  have hvalue : value ∈ set.toList := Std.ExtTreeSet.mem_toList.mpr (hmem value (by simp))
  have hsorted := Std.ExtTreeSet.ordered_toList (t := set)
  have hlist : ∀ v ∈ set.toList, v = 1 ∨ v = 2 := fun v hv =>
    hknown v (Std.ExtTreeSet.mem_toList.mp hv)
  have hcontrol : (2 : Int32) ∈ set.toList → (1 : Int32) ∈ set.toList := fun hv =>
    Std.ExtTreeSet.mem_toList.mpr (hview (Std.ExtTreeSet.mem_toList.mp hv))
  generalize set.toList = l at *
  rcases l with _ | ⟨a, _ | ⟨b, _ | ⟨c, rest⟩⟩⟩
  · cases hvalue
  · rcases hlist a (by simp) with rfl | rfl
    · exact .inl rfl
    · simpa using hcontrol (by simp)
  · have hab : compare a b = .lt := by
      simp only [List.pairwise_cons, List.mem_singleton] at hsorted
      exact hsorted.1 b rfl
    rcases hlist a (by simp) with rfl | rfl <;> rcases hlist b (by simp) with rfl | rfl
    · exact absurd hab (by decide)
    · exact .inr rfl
    · exact absurd hab (by decide)
    · exact absurd hab (by decide)
  · simp only [List.pairwise_cons, List.mem_cons] at hsorted
    have hab := hsorted.1 b (.inl rfl)
    have hbc := hsorted.2.1 c (.inl rfl)
    exfalso
    rcases hlist a (by simp) with rfl | rfl <;> rcases hlist b (by simp) with rfl | rfl <;>
      rcases hlist c (by simp) with rfl | rfl <;>
      first | exact absurd hab (by decide) | exact absurd hbc (by decide)

/-- Normalizing normalized permissions changes nothing. -/
theorem normalizeStoredPermissions_idem (h : normalizeStoredPermissions permissions = .ok result) :
    normalizeStoredPermissions result = .ok result := by
  rcases normalizeStoredPermissions_ok h with rfl | rfl <;> rfl

/-- What a valid stored grant is. -/
theorem validateStoredGrant_eq_ok {crypto : Crypto} {view : ControllerGrantView} {host k : Bytes} :
    validateStoredGrant crypto view host = .ok k ↔ ∃ grant controller,
      view.grant = some grant ∧ grant.controller = some controller ∧
      controller.deviceId = k ∧ grant.grantId.length = grantIdBytes ∧
      grant.hostDeviceId = host ∧ validateController crypto controller = .ok () ∧ k ≠ host ∧
      normalizeStoredPermissions grant.permissions = .ok grant.permissions := by
  unfold validateStoredGrant
  simp only [bind_eq_ok, okOr_eq_ok, ensure_eq_ok, mapError_eq_ok]
  constructor
  · rintro ⟨grant, hgrant, -, ⟨hid, hhost⟩, controller, hcontroller, _, hvalid, -, hself,
      normalized, hnormalized, -, rfl, hk⟩
    cases hk
    exact ⟨grant, controller, hgrant, hcontroller, rfl, hid, hhost, hvalid, hself,
      hnormalized⟩
  · rintro ⟨grant, controller, hgrant, hcontroller, rfl, hid, hhost, hvalid, hself,
      hnormalized⟩
    exact ⟨grant, hgrant, ⟨⟩, ⟨hid, hhost⟩, controller, hcontroller, ⟨⟩, hvalid, ⟨⟩, hself,
      _, hnormalized, ⟨⟩, rfl, rfl⟩

/-- A valid stored grant is about the controller it is filed under. -/
theorem controllerDeviceIdFor_of_valid {crypto : Crypto} {view : ControllerGrantView}
    {host k : Bytes} (h : validateStoredGrant crypto view host = .ok k) :
    controllerDeviceIdFor view = some k := by
  obtain ⟨grant, controller, hgrant, hcontroller, rfl, -⟩ := validateStoredGrant_eq_ok.mp h
  simp [controllerDeviceIdFor, hgrant, hcontroller]

end Host

end Roammand
