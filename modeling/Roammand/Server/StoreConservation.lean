import Roammand.Server.StoreInvariant

/-!
# Conservation of rendezvous

The service sends its closure notices from the lists that the store returns, so that a
rendezvous must leave the store through exactly one of these lists.  The history of an
identifier is the list of successful creations and of returns under it.  After every run it is
a list of matched pairs, a creation followed by its return, with one more creation at the end
exactly if a rendezvous is stored under the identifier.

Main results:

- Definition `RendezvousStore.history`: the creations and returns of an identifier.
- Definition `RendezvousStore.Matched`: a history in which every creation is matched by one
  return or by what is stored.
- Theorem `store_conservation`: over every run the histories are matched, sweeps take out
  exactly what has expired and end, and a failed call changes nothing but for its sweep.
-/

namespace Roammand

namespace Server

open Library List

namespace RendezvousStore

/-! ## Histories -/

/-- A rendezvous enters the store or is handed back by it. -/
inductive Event where
  | created (r : Rendezvous)
  | returned (r : Rendezvous)

/-- The identifier an event is about. -/
def Event.id : Event → RendezvousID
  | .created r => r.id
  | .returned r => r.id

/-- The rendezvous that a reply hands back. -/
def Reply.returned : Reply → List Rendezvous
  | .created reply => reply.removed
  | .completed (.ok r) => [r]
  | .removed taken => taken
  | _ => []

/-- The call returned an error. -/
def Reply.Failed : Reply → Prop
  | .created reply => reply.err ≠ none
  | .joined (.error _) => True
  | .peer (.error _) => True
  | .completed (.error _) => True
  | .stuck => True
  | _ => False

/-- The rendezvous that a call created. -/
def creation : Call → Reply → List Rendezvous
  | .create r _ _, .created ⟨_, none⟩ => [r]
  | _, _ => []

/-- The events of one call. -/
def events (o : Occurrence RendezvousStore Call Reply) : List Event :=
  o.output.returned.map .returned ++ (creation o.input o.output).map .created

/-- The creations and returns of an identifier, in order. -/
def history (id : RendezvousID) (trace : List (Occurrence RendezvousStore Call Reply)) :
    List Event :=
  (trace.flatMap events).filter fun event => event.id = id

/-- Every creation is followed by the one return of its rendezvous, but for the last one if its
rendezvous is stored. -/
def Matched (events : List Event) (stored : Option Rendezvous) : Prop :=
  ∃ (pairs : List (Rendezvous × Rendezvous)) (last : Option Rendezvous),
    events = pairs.flatMap (fun p => [.created p.1, .returned p.2]) ++ last.toList.map .created ∧
    (∀ p ∈ pairs, SameRendezvous p.1 p.2) ∧ Option.Rel SameRendezvous last stored

/-- The time at which a call sweeps, if it does. -/
def Call.sweepTime : Call → Option Time
  | .sweep now => some now
  | .create r pairingCode now => if CreateValid r pairingCode now then some now else none
  | _ => none

/-- What is left under an identifier by a sweep, if there is one. -/
def keptAt : Option Time → Option Rendezvous → Option Rendezvous
  | none, stored => stored
  | some now, stored => stored.filter fun r => now < r.expiresAt

variable {s s' : RendezvousStore} {call : Call}

variable {reply : Reply} {join : DeviceID × Time}

theorem sweepTime_of_joins (h : call.joins = some join) :
    call.sweepTime = none := by
  cases call <;> first | rfl | cases h

theorem creation_of_joins (h : call.joins = some join)
    (reply : Reply) : creation call reply = [] := by
  cases call <;> first | rfl | cases h

variable {r : Rendezvous} {pairingCode : String} {now : Time}

theorem sweepTime_of_valid (h : CreateValid r pairingCode now) :
    (Call.create r pairingCode now).sweepTime = some now := if_pos h

theorem sweepTime_of_invalid (h : ¬ CreateValid r pairingCode now) :
    (Call.create r pairingCode now).sweepTime = none := if_neg h

theorem history_append (id : RendezvousID) (past : List (Occurrence RendezvousStore Call Reply))
    (o : Occurrence RendezvousStore Call Reply) :
    history id (past ++ [o]) =
      history id past ++ (events o).filter fun event => event.id = id := by
  unfold history
  rw [flatMap_append, filter_append, flatMap_singleton]

/-! ## One step of a history -/

theorem SameRendezvous.trans {r r' r'' : Rendezvous} (h₁ : SameRendezvous r r')
    (h₂ : SameRendezvous r' r'') : SameRendezvous r r'' :=
  ⟨h₂.id.trans h₁.id, h₂.kind.trans h₁.kind, h₂.host.trans h₁.host,
    h₂.expiresAt.trans h₁.expiresAt⟩

theorem Matched.nil : Matched [] none := ⟨[], none, rfl, nofun, .none⟩

/-- What is stored is returned. -/
theorem Matched.return {events : List Event} {r : Rendezvous} (h : Matched events (some r)) :
    Matched (events ++ [.returned r]) none := by
  obtain ⟨pairs, last, rfl, hpairs, hlast⟩ := h
  cases hlast with
  | @some r₀ _ hsame =>
    refine ⟨pairs ++ [(r₀, r)], none, ?_, ?_, .none⟩
    · simp
    · intro p hp
      rcases mem_append.mp hp with hp | hp
      · exact hpairs p hp
      · rw [mem_singleton.mp hp]
        exact hsame

/-- A rendezvous is created under a free identifier. -/
theorem Matched.create {events : List Event} {r r' : Rendezvous} (h : Matched events none)
    (hsame : SameRendezvous r r') : Matched (events ++ [.created r]) (some r') := by
  obtain ⟨pairs, last, rfl, hpairs, hlast⟩ := h
  cases hlast with
  | none => exact ⟨pairs, some r, by simp, hpairs, .some hsame⟩

/-- The stored rendezvous is joined. -/
theorem Matched.change {events : List Event} {r r' : Rendezvous} (h : Matched events (some r))
    (hsame : SameRendezvous r r') : Matched events (some r') := by
  obtain ⟨pairs, last, rfl, hpairs, hlast⟩ := h
  cases hlast with
  | some hsame' => exact ⟨pairs, _, rfl, hpairs, .some (hsame'.trans hsame)⟩

/-- What a removal returns under an identifier is what was stored there. -/
theorem Removes.filter_id {removed : List Rendezvous}
    (h : Removes s removed s') (id : RendezvousID) :
    (id ∉ removed.map Rendezvous.id ∧ (removed.filter fun r => r.id = id) = [] ∧
      s'.byID.lookup id = s.byID.lookup id) ∨
    (∃ r, s.byID.lookup id = some r ∧ (removed.filter fun r => r.id = id) = [r] ∧
      s'.byID.lookup id = none) := by
  have hafter := h.after id
  by_cases hid : id ∈ removed.map Rendezvous.id
  · rw [if_pos hid] at hafter
    obtain ⟨r, hr, rfl⟩ := mem_map.mp hid
    refine .inr ⟨r, h.stored r hr, ?_, hafter⟩
    obtain ⟨before, after, rfl⟩ := append_of_mem hr
    have hnodup := h.nodup
    rw [map_append, map_cons, nodup_append, nodup_cons] at hnodup
    have hbefore : (before.filter fun r' => r'.id = r.id) = [] := by
      rw [filter_eq_nil_iff]
      intro r' hr' heq
      exact hnodup.2.2 r'.id (mem_map_of_mem hr') r.id mem_cons_self (of_decide_eq_true heq)
    have hrest : (after.filter fun r' => r'.id = r.id) = [] := by
      rw [filter_eq_nil_iff]
      intro r' hr' heq
      have := mem_map_of_mem (f := Rendezvous.id) hr'
      rw [of_decide_eq_true heq] at this
      exact hnodup.2.1.1 this
    rw [filter_append, hbefore, filter_cons_of_pos (by simp), hrest, nil_append]
  · rw [if_neg hid] at hafter
    refine .inl ⟨hid, ?_, hafter⟩
    rw [filter_eq_nil_iff]
    intro r hr heq
    exact hid (of_decide_eq_true heq ▸ mem_map_of_mem hr)

/-- A history is still matched after the returns of a removal. -/
theorem Matched.removes {events : List Event} {s s' : RendezvousStore}
    {removed : List Rendezvous} {id : RendezvousID} (h : Matched events (s.byID.lookup id))
    (hremoves : Removes s removed s') :
    Matched (events ++ (removed.map Event.returned).filter fun event => event.id = id)
      (s'.byID.lookup id) := by
  have hfilter : ((removed.map Event.returned).filter fun event => event.id = id) =
      (removed.filter fun r => r.id = id).map Event.returned := by
    rw [filter_map]
    rfl
  rw [hfilter]
  rcases hremoves.filter_id id with ⟨-, hnil, hafter⟩ | ⟨r, hr, hone, hafter⟩
  · rw [hnil, hafter, map_nil, append_nil]
    exact h
  · rw [hone, hafter]
    rw [hr] at h
    exact h.return

/-- One call extends every history to a matched one. -/
theorem Effect.matched (h : Effect s call s' reply) {past : List Event} {id : RendezvousID}
    (hpast : Matched past (s.byID.lookup id)) :
    Matched (past ++ (reply.returned.map Event.returned ++
        (creation call reply).map Event.created).filter fun event => event.id = id)
      (s'.byID.lookup id) := by
  have hquiet : Matched (past ++ ([] : List Event).filter fun event => event.id = id)
      (s.byID.lookup id) := by
    rw [filter_nil, append_nil]
    exact hpast
  have hreturned : ∀ {removed s'}, Removes s removed s' →
      Matched (past ++ (removed.map Event.returned ++ ([] : List Event)).filter
        fun event => event.id = id) (s'.byID.lookup id) := by
    intro removed s' hremoves
    rw [append_nil]
    exact hpast.removes hremoves
  cases h with
  | createInvalid _ | peer | completeFailed => exact hquiet
  | joinRepeated joins =>
    rw [creation_of_joins joins]
    exact hquiet
  | joinFailed joins =>
    rw [creation_of_joins joins]
    exact hquiet
  | createRefused _ hsweeps => exact hreturned hsweeps.removes
  | @created r _ _ stored removed s₁ _ hsweeps hsame _ hfree =>
    have hnone := Finmap.lookup_eq_none.mpr (refusal_eq_none hfree).1
    have hswept := hpast.removes hsweeps.removes
    simp only [Reply.returned, creation, map_cons, map_nil, filter_append, ← append_assoc]
    rw [lookup_add]
    by_cases hid : id = stored.id
    · subst hid
      rw [hnone] at hswept
      rw [if_pos rfl, filter_cons_of_pos (by simp [Event.id, hsame.id]), filter_nil]
      exact hswept.create hsame
    · rw [if_neg hid, filter_cons_of_neg (by simp [Event.id, ← hsame.id, Ne.symm hid]),
        filter_nil, append_nil]
      exact hswept
  | @joined _ controller _ r joins hr =>
    have hsame : SameRendezvous r { r with controller := some controller } :=
      ⟨rfl, rfl, rfl, rfl⟩
    have hstored : Matched past ((s.joined r controller).byID.lookup id) := by
      rw [lookup_joined]
      by_cases hid : id = r.id
      · subst hid
        rw [hr] at hpast
        rw [if_pos rfl]
        exact hpast.change hsame
      · rw [if_neg hid]
        exact hpast
    rw [creation_of_joins joins]
    simpa [Reply.returned] using hstored
  | completed _ _ _ _ hremoves => exact hreturned hremoves
  | removed _ hremoves _ => exact hreturned hremoves
  | swept hsweeps => exact hreturned hsweeps.removes

/-! ## Sweeps and errors -/

/-- More rounds than the loop needs change nothing. -/
theorem sweepLoop_enough {s : RendezvousStore} (hs : s.Indexed) {fuel : Nat}
    (hfuel : s.expirations.entries.length < fuel) :
    sweepLoop now fuel s [] = s.sweepLocked now := by
  have hmore : ∀ (fuel : Nat) (s : RendezvousStore) (removed : List Rendezvous)
      (result : List Rendezvous × RendezvousStore) (extra : Nat),
      sweepLoop now fuel s removed = some result →
        sweepLoop now (fuel + extra) s removed = some result := by
    intro fuel
    induction fuel with
    | zero =>
      intro s removed result extra h
      cases h
    | succ fuel ih =>
      intro s removed result extra h
      rw [Nat.add_right_comm, sweepLoop]
      rw [sweepLoop] at h
      split at h
      case h_1 => exact h
      case h_2 root _ _ =>
        by_cases hlive : now < (s.expirations.cells root).expiresAt
        · rw [if_pos hlive] at h ⊢
          exact h
        · rw [if_neg hlive] at h ⊢
          dsimp only at h ⊢
          split at h
          · cases h
          · exact ih _ _ _ extra h
  obtain ⟨removed, s', h, -⟩ := sweepLocked_spec hs now
  rw [h]
  have hle : s.expirations.entries.length + 1 + (fuel - (s.expirations.entries.length + 1)) =
      fuel := Nat.add_sub_cancel' hfuel
  rw [← hle]
  exact hmore _ s [] _ _ h

/-- A call that sweeps returns exactly what has expired. -/
theorem Effect.sweeps (h : Effect s call s' reply) {now : Time} (htime : call.sweepTime = some now)
    (r : Rendezvous) :
    r ∈ reply.returned ↔ s.byID.lookup r.id = some r ∧ r.expiresAt ≤ now := by
  cases h with
  | createInvalid hinvalid =>
    rw [sweepTime_of_invalid hinvalid] at htime
    cases htime
  | createRefused hvalid h =>
    rw [sweepTime_of_valid hvalid] at htime
    cases htime
    exact h.mem_iff
  | created hvalid h =>
    rw [sweepTime_of_valid hvalid] at htime
    cases htime
    exact h.mem_iff
  | swept h =>
    cases htime
    exact h.mem_iff
  | joinFailed joins | joinRepeated joins | joined joins =>
    rw [sweepTime_of_joins joins] at htime
    cases htime
  | peer | completeFailed | completed | removed => cases htime

/-- What a sweep leaves stored. -/
theorem Sweeps.lookup {s s' : RendezvousStore} {now : Time} {removed : List Rendezvous}
    (h : Sweeps s now removed s') (id : RendezvousID) :
    s'.byID.lookup id = (s.byID.lookup id).filter fun r => now < r.expiresAt := by
  rcases h.removes.filter_id id with ⟨-, -, hafter⟩ | ⟨r, hr, hone, hafter⟩
  · rw [hafter]
    cases hr : s.byID.lookup id with
    | none => rfl
    | some r =>
      rw [hr] at hafter
      rw [Option.filter_some_pos (by simpa using h.live id r hafter)]
  · rw [hafter, hr]
    have hmem : r ∈ removed := mem_of_mem_filter (by rw [hone]; exact mem_singleton_self r)
    rw [Option.filter_some_neg (by simpa using h.expired r hmem)]

/-- A failed call changes the stored set by its sweep at most. -/
theorem Effect.failed (h : Effect s call s' reply) (hfailed : reply.Failed) (id : RendezvousID) :
    s'.byID.lookup id = keptAt call.sweepTime (s.byID.lookup id) := by
  cases h with
  | createInvalid hinvalid =>
    rw [sweepTime_of_invalid hinvalid]
    rfl
  | createRefused hvalid h =>
    rw [sweepTime_of_valid hvalid]
    exact h.lookup id
  | created => exact absurd rfl hfailed
  | joinFailed joins =>
    rw [sweepTime_of_joins joins]
    rfl
  | peer | completeFailed => rfl
  | joinRepeated | joined | completed | removed | swept => exact hfailed.elim

/-! ## Runs -/

/-- Over every run each created rendezvous is stored or was returned exactly once, sweeps take
out exactly what has expired and their loop ends, and a failed call changes the stored set by
its sweep at most. -/
theorem store_conservation (text : CodeText) {maxPerHost maxTotal : Int} {s₀ : RendezvousStore}
    (hnew : newRendezvousStore maxPerHost maxTotal = some s₀) (calls : List Call) :
    (∀ id, Matched (history id ((machine text).trace s₀ calls))
      (((machine text).run s₀ calls).byID.lookup id)) ∧
    ∀ o ∈ (machine text).trace s₀ calls,
      (∀ now, o.input.sweepTime = some now → ∀ r, r ∈ o.output.returned ↔
        o.before.byID.lookup r.id = some r ∧ r.expiresAt ≤ now) ∧
      (∀ now fuel, o.before.expirations.entries.length < fuel →
        ∃ result, sweepLoop now fuel o.before [] = some result ∧
          o.before.sweepLocked now = some result) ∧
      (o.output.Failed → ∀ id, o.after.byID.lookup id =
        keptAt o.input.sweepTime (o.before.byID.lookup id)) := by
  have hstart := newRendezvousStore_indexed hnew
  have hstep : ∀ s call, s.Indexed → True → ((machine text).step s call).1.Indexed :=
    fun s call hs _ => ((step_effect text hs call).keeps hs).1
  constructor
  · intro id
    have h := Machine.history_invariant (M := machine text) (G := fun _ _ => True)
      (fun past s => s.Indexed ∧ Matched (history id past) (s.byID.lookup id))
      (by
        rintro past s call ⟨hs, hpast⟩ -
        refine ⟨hstep s call hs trivial, ?_⟩
        rw [history_append]
        exact (step_effect text hs call).matched hpast)
      []
      ⟨hstart.1, by rw [hstart.2.2.2.2, Finmap.lookup_empty]; exact Matched.nil⟩
      (Machine.guarded_true s₀ calls)
    exact h.2
  · intro o ho
    obtain ⟨hs, -, -, ho⟩ := Machine.trace_invariant (G := fun _ _ => True) Indexed hstep
      hstart.1 (Machine.guarded_true s₀ calls) ho
    have heffect : Effect o.before o.input o.after o.output := by
      rw [ho]
      exact step_effect text hs o.input
    refine ⟨fun now htime r => heffect.sweeps htime r, fun now fuel hfuel => ?_,
      fun hfailed id => heffect.failed hfailed id⟩
    obtain ⟨removed, s', h, -⟩ := sweepLocked_spec hs now
    exact ⟨_, (sweepLoop_enough hs hfuel).trans h, h⟩

section samples

/-- Two rendezvous are created, the first expires and is swept away by a third creation that
reuses its identifier, and the second is completed. -/
def conservedCalls : List Call :=
  [.create (sampleRendezvous 1 .desktopCode 100) "ABCDEFGH" 0,
    .create (sampleRendezvous 2 .qr 300) "" 50,
    .create (sampleRendezvous 1 .qr 400) "" 200,
    .complete (sampleRendezvous 2 .qr 300).id (sampleDevice 1) 250]

theorem store_conservation_sample :
    newRendezvousStore 2 3 = some sampleStore ∧
      ∀ id, Matched (history id ((machine sampleText).trace sampleStore conservedCalls))
        (((machine sampleText).run sampleStore conservedCalls).byID.lookup id) := by
  have hnew : newRendezvousStore 2 3 = some sampleStore := rfl
  exact ⟨hnew, (store_conservation sampleText hnew conservedCalls).1⟩

/-- A creation with invalid arguments sweeps nothing, although a stored rendezvous has
expired. -/
theorem invalid_creation_sweeps_nothing :
    ∃ o ∈ (machine sampleText).trace sampleStore
        [.create (sampleRendezvous 1 .qr 100) "" 0,
          .create (sampleRendezvous 2 .qr 150) "" 200],
      o.input = .create (sampleRendezvous 2 .qr 150) "" 200 ∧
      o.before.byID.lookup (sampleRendezvous 1 .qr 100).id = some (sampleRendezvous 1 .qr 100) ∧
      (sampleRendezvous 1 .qr 100).expiresAt ≤ 200 ∧
      o.after.byID.lookup (sampleRendezvous 1 .qr 100).id = some (sampleRendezvous 1 .qr 100) := by
  refine ⟨_, mem_cons_of_mem _ (mem_singleton_self _), rfl, ?_, by decide, ?_⟩
  · decide +kernel
  · decide +kernel

end samples

end RendezvousStore

end Server

end Roammand
