import Roammand.Protocol.Messages

/-!
# The Host's session registry

The registry knows which controller each running remote session belongs to.  A
local operation that ends sessions takes them out of the registry and announces
each of them on a channel that the session coordinator reads.

Main results:

- Definitions `SessionRegistry.register`, `unregister`, `terminateController` and
  `terminateAll`.
- Theorems `getElem?_terminateController` and `mem_terminateController`: what stays
  registered and what is announced.
-/

namespace Roammand

namespace Host

open Library Protocol

/-- How many announcements the channel keeps for a reader. -/
def terminationEventCapacity : Nat := 32

/-- Errors of the session registry. -/
inductive SessionRegistryError where
  | invalidIdentity
  | duplicateSession

/-- Why a local operation ends a session. -/
inductive TerminationReason where
  | authRevoked
  | localEmergencyStop
  deriving DecidableEq

/-- A session with the controller it belongs to. -/
structure RemoteSession where
  sessionId : Bytes
  controllerDeviceId : Bytes
  deriving DecidableEq

/-- The announcement that a session has been ended locally. -/
structure SessionTerminatedEvent where
  session : RemoteSession
  reason : TerminationReason
  deriving DecidableEq

/-- The controller of each registered session. -/
abbrev SessionRegistry := Std.ExtTreeMap Bytes Bytes compare

namespace SessionRegistry

variable (sessions : SessionRegistry)

/-- Register a session under a new identifier. -/
def register (session : RemoteSession) : Except SessionRegistryError SessionRegistry :=
  if session.sessionId.length ≠ sessionIdBytes ∨
      session.controllerDeviceId.length ≠ deviceIdBytes then
    .error .invalidIdentity
  else if session.sessionId ∈ sessions then .error .duplicateSession
  else .ok (sessions.insert session.sessionId session.controllerDeviceId)

/-- Forget a session, if it is known. -/
def unregister (sessionId : Bytes) : SessionRegistry × Except SessionRegistryError Bool :=
  if sessionId.length ≠ sessionIdBytes then (sessions, .error .invalidIdentity)
  else (sessions.erase sessionId, .ok (sessions.contains sessionId))

/-- Take out the sessions of one controller, with the announcements to send. -/
def terminateController (controllerDeviceId : Bytes) :
    SessionRegistry × List SessionTerminatedEvent :=
  (sessions.filter fun _ controller => controller ≠ controllerDeviceId,
    (sessions.toList.filter fun entry => entry.2 = controllerDeviceId).map fun entry =>
      { session := ⟨entry.1, controllerDeviceId⟩, reason := .authRevoked })

/-- Take out all sessions, with the announcements to send. -/
def terminateAll (reason : TerminationReason) : SessionRegistry × List SessionTerminatedEvent :=
  (∅, sessions.toList.map fun entry => { session := ⟨entry.1, entry.2⟩, reason })

variable {sessions}

/-- A termination leaves the sessions of the other controllers. -/
theorem getElem?_terminateController {sessionId controllerDeviceId other : Bytes} :
    (sessions.terminateController controllerDeviceId).1[sessionId]? = some other ↔
      sessions[sessionId]? = some other ∧ other ≠ controllerDeviceId := by
  simp only [terminateController, Std.ExtTreeMap.getElem?_filter]
  cases sessions[sessionId]? with
  | none => simp
  | some controller =>
    by_cases heq : controller = controllerDeviceId
    · subst heq
      simp
    · simp [Option.filter, heq]
      rintro rfl
      exact heq

variable {sessionId controllerDeviceId : Bytes}

/-- Every session of the controller is announced. -/
theorem mem_terminateController (h : sessions[sessionId]? = some controllerDeviceId) :
    ∃ event ∈ (sessions.terminateController controllerDeviceId).2,
      event.session = ⟨sessionId, controllerDeviceId⟩ := by
  refine ⟨_, List.mem_map.mpr ⟨(sessionId, controllerDeviceId), ?_, rfl⟩, rfl⟩
  rw [List.mem_filter]
  exact ⟨Std.ExtTreeMap.mem_toList_iff_getElem?_eq_some.mpr h, by simp⟩

/-- Every session is announced when all of them end. -/
theorem mem_terminateAll {reason : TerminationReason}
    (h : sessions[sessionId]? = some controllerDeviceId) :
    ∃ event ∈ (sessions.terminateAll reason).2,
      event.session = ⟨sessionId, controllerDeviceId⟩ := by
  refine ⟨_, List.mem_map.mpr ⟨(sessionId, controllerDeviceId), ?_, rfl⟩, rfl⟩
  exact Std.ExtTreeMap.mem_toList_iff_getElem?_eq_some.mpr h

theorem register_ok {session : RemoteSession} {next : SessionRegistry}
    (h : sessions.register session = .ok next) :
    session.sessionId.length = sessionIdBytes ∧ session.sessionId ∉ sessions ∧
      next = sessions.insert session.sessionId session.controllerDeviceId := by
  unfold register at h
  split at h
  · cases h
  · next hsized =>
      split at h
      · cases h
      · next hfresh =>
          cases h
          exact ⟨Decidable.not_not.mp fun hne => hsized (.inl hne), hfresh, rfl⟩

/-- A registered session is the new one or an old one. -/
theorem getElem?_insert_cases {k other : Bytes} {controller found : Bytes}
    (h : (sessions.insert k controller)[other]? = some found) :
    (other = k ∧ found = controller) ∨ sessions[other]? = some found := by
  by_cases heq : k = other
  · subst heq
    simp only [Std.ExtTreeMap.getElem?_insert_self, Option.some.injEq] at h
    exact .inl ⟨rfl, h.symm⟩
  · rw [Std.ExtTreeMap.getElem?_insert, if_neg] at h
    · exact .inr h
    · exact fun hcompare => heq (Std.LawfulEqCmp.eq_of_compare hcompare)

/-- What stays registered was registered before. -/
theorem getElem?_unregister {sessionId other controller : Bytes}
    (h : (sessions.unregister sessionId).1[other]? = some controller) :
    sessions[other]? = some controller ∧
      (sessionId.length = sessionIdBytes → other ≠ sessionId) := by
  unfold unregister at h
  split at h
  · next hlength => exact ⟨h, fun hlength' => absurd hlength' hlength⟩
  · by_cases heq : sessionId = other
    · subst heq
      simp at h
    · rw [Std.ExtTreeMap.getElem?_erase, if_neg] at h
      · exact ⟨h, fun _ => Ne.symm heq⟩
      · exact fun hcompare => heq (Std.LawfulEqCmp.eq_of_compare hcompare)

end SessionRegistry

/-! ## The announcement channel -/

/-- The announcements a reader has not received yet, and whether it has missed any:
the channel keeps the newest ones only. -/
structure TerminationChannel where
  waiting : List SessionTerminatedEvent
  missed : Bool

namespace TerminationChannel

/-- A channel that has carried nothing. -/
def new : TerminationChannel := { waiting := [], missed := false }

/-- Announce an ended session.  A reader that has fallen behind by the capacity of
the channel misses the oldest announcement. -/
def send (channel : TerminationChannel) (event : SessionTerminatedEvent) : TerminationChannel :=
  if channel.waiting.length < terminationEventCapacity then
    { channel with waiting := channel.waiting ++ [event] }
  else
    { waiting := channel.waiting.tail ++ [event], missed := true }

/-- An announcement reaches the reader, unless something was missed. -/
theorem waiting_send {channel : TerminationChannel} {event : SessionTerminatedEvent}
    (h : (channel.send event).missed = false) :
    channel.missed = false ∧ (channel.send event).waiting = channel.waiting ++ [event] := by
  unfold send at h ⊢
  split at h
  · next hroom =>
      rw [if_pos hroom]
      exact ⟨h, rfl⟩
  · cases h

end TerminationChannel

end Host

end Roammand
