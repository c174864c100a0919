import Roammand.Host.PressedInput

/-!
# The order of input on the Host

Every envelope of the reliable channel carries the number that follows the one before
it, and every envelope of the fast channel carries a number above all before it.  A
session keeps the last number of each channel and advances it only once the envelope
has been applied.

The number that is expected next is computed with a saturating addition, so after
the largest number of all the same number is expected once more.

Main results:

- Definition `SequenceDiscipline`: the numbers of a run, and what a refused envelope
  leaves behind.
- Definition `Repeats`: the largest number arrives a second time.
- Theorem `input_sequence_discipline`: a run in which the largest number does not arrive
  twice keeps the discipline.
- Theorem `last_sequence_repeated`: the largest number is applied twice.
-/

namespace Roammand

namespace Host

namespace HostPeerSession

open Library Protocol Fallible

variable {s s' : HostPeerSession}

/-! ## What one envelope does -/

/-- The sink has been called. -/
def Called (s s' : HostPeerSession) : Prop := s.input.calls.length < s'.input.calls.length

/-- The counters are the same, and no call of the sink has been lost. -/
structure Steady (s s' : HostPeerSession) : Prop where
  reliable : s'.lastReliableSequence = s.lastReliableSequence
  pointer : s'.lastPointerSequence = s.lastPointerSequence
  calls : s.input.calls.length ≤ s'.input.calls.length

instance : IsPreorder HostPeerSession Steady where
  refl _ := ⟨rfl, rfl, Nat.le_refl _⟩
  trans _ _ _ h h' := ⟨h'.reliable.trans h.reliable, h'.pointer.trans h.pointer,
    Nat.le_trans h.calls h'.calls⟩

theorem Steady.of_untouched (h : Untouched s s') : Steady s s' :=
  ⟨h.reliable, h.pointer, by rw [h.input]⟩

theorem callInput_called (call : SinkCall) (s : HostPeerSession) :
    wp (callInput call) (fun _ s' => Called s s' ∧ Steady s s') s := by
  refine ⟨?_, rfl, rfl, ?_⟩
  · simp [callInput, Called]
  · simp [callInput]

theorem releaseAll_called (s : HostPeerSession) :
    wp releaseAll (fun _ s' => Called s s' ∧ Steady s s') s := by
  refine ⟨?_, rfl, rfl, ?_⟩
  · simp [releaseAll, callInput, outcome, ofResult, Called, bind, modify, modifyGet,
      MonadStateOf.modifyGet]
  · simp [releaseAll, callInput, outcome, ofResult, bind, modify, modifyGet, MonadStateOf.modifyGet]

theorem close_steady : Keeps Steady close := by
  have hrelease : Keeps Steady releaseAll := fun s => (releaseAll_called s).2
  refine .bind .get fun _ => .ite (.ite hrelease (.pure _)) ?_
  exact .bind (.modify fun _ => ⟨rfl, rfl, Nat.le_refl _⟩) fun _ =>
    .bind (.outcome hrelease) fun _ =>
    .bind (.outcome fun s => .of_untouched (callPeer_untouched _ s)) fun _ =>
    .bind (.modify fun _ => ⟨rfl, rfl, Nat.le_refl _⟩) fun _ => .bind .ofResult fun _ => .ofResult

/-- Closing an open session releases everything. -/
theorem close_called (hs : s.state ≠ .closed) :
    wp HostPeerSession.close (fun _ s' => Called s s' ∧ Steady s s' ∧ s'.state = .closed) s := by
  refine wp_mono (wp_and (close_spec s) (wp_and (close_steady s) (close_move s))) ?_
  rintro _ s' ⟨⟨_, hclosed⟩, hsteady, hmove⟩
  obtain ⟨made, hmade, hcalls⟩ := (hmove.closing hs hclosed).2.calls
  refine ⟨?_, hsteady, hclosed⟩
  have hlength := hmade.length_le
  rw [Called, hcalls, List.length_append, List.length_singleton]
  omega

variable (event : ReliableInputEvent)

theorem applyReliableEvent_steady :
    Keeps Steady (applyReliableEvent event) :=
  applyReliableEvent_keeps (fun _ _ => ⟨rfl, rfl, Nat.le_refl _⟩)
    (fun _ _ => ⟨rfl, rfl, Nat.le_refl _⟩) (fun call s => (callInput_called call s).2)
    (fun s => (releaseAll_called s).2) event

/-- The sink has been called, or nothing has happened and no failure of the sink is
reported. -/
def Checked {α : Type} (s : HostPeerSession) (r : Except HostWebRtcError α)
    (s' : HostPeerSession) : Prop :=
  Called s s' ∨ s' = s ∧ r ≠ .error .inputFailure

variable {α : Type}

theorem checked_throw {error : HostWebRtcError} (h : error ≠ .inputFailure) :
    wp (throw error : SessionM α) (Checked s) s :=
  Or.inr ⟨rfl, fun hthrow => h (Except.error.inj hthrow)⟩

theorem checked_return {α β : Type} {m : SessionM α} (b : β) (h : wp m (Checked s) s) :
    wp (do let _ ← m; return b) (Checked s) s := by
  rw [wp_bind]
  refine wp_mono h ?_
  rintro (error | a) s' (hcalled | ⟨hsame, herror⟩)
  · exact Or.inl hcalled
  · refine Or.inr ⟨hsame, fun h => herror ?_⟩
    cases h
    rfl
  · exact Or.inl hcalled
  · exact Or.inr ⟨hsame, fun h => by cases h⟩

theorem callInput_checked {s₁ : HostPeerSession} (call : SinkCall) (h : s₁.input = s.input) :
    wp (callInput call) (Checked s) s₁ := by
  refine wp_mono (callInput_called call s₁) ?_
  rintro _ s' ⟨hcalled, _⟩
  rw [Called, h] at hcalled
  exact Or.inl hcalled

theorem validateKeyboard_error (usage modifierBits : UInt32) :
    validateKeyboard usage modifierBits ≠ .error .inputFailure := by
  unfold validateKeyboard ensure
  split
  · split
    · exact fun h => by cases h
    · exact fun h => by cases h
  · exact fun h => by cases h

theorem applyKeyboard_checked (action : Int32) (usage modifierBits : UInt32)
    (s : HostPeerSession) : wp (applyKeyboard action usage modifierBits) (Checked s) s := by
  unfold applyKeyboard
  rw [wp_bind, wp_orThrow]
  refine ⟨fun action _ => ?_, fun _ => Or.inr ⟨rfl, by simp⟩⟩
  rw [andThen_ok, wp_bind, wp_ofResult]
  cases hvalid : validateKeyboard usage modifierBits with
  | error error =>
    have herror := validateKeyboard_error usage modifierBits
    rw [hvalid] at herror
    exact Or.inr ⟨rfl, by simpa using herror⟩
  | ok _ =>
    rw [andThen_ok, wp_get_bind]
    cases action with
    | unspecified => exact checked_throw (by simp)
    | down =>
      dsimp only
      rw [wp_bind, wp_require]
      exact ⟨fun _ => callInput_checked _ rfl, fun _ => Or.inr ⟨rfl, by simp⟩⟩
    | up =>
      dsimp only
      rw [wp_onlyIf]
      exact ⟨fun _ => callInput_checked _ rfl, fun _ => Or.inr ⟨rfl, by simp⟩⟩

theorem applyPointerButton_checked (button action x y : Int32) (s : HostPeerSession) :
    wp (applyPointerButton button action x y) (Checked s) s := by
  unfold applyPointerButton validateCoordinates ensure
  rw [wp_bind, wp_ofResult]
  split
  · rw [andThen_ok, wp_bind, wp_orThrow]
    refine ⟨fun pointerButton _ => ?_, fun _ => Or.inr ⟨rfl, by simp⟩⟩
    rw [andThen_ok, wp_bind, wp_orThrow]
    refine ⟨fun action _ => ?_, fun _ => Or.inr ⟨rfl, by simp⟩⟩
    rw [andThen_ok, wp_get_bind]
    cases action with
    | unspecified => exact checked_throw (by simp)
    | down =>
      dsimp only
      rw [wp_bind, wp_require]
      exact ⟨fun _ => callInput_checked _ rfl, fun _ => Or.inr ⟨rfl, by simp⟩⟩
    | up =>
      dsimp only
      rw [wp_onlyIf]
      exact ⟨fun _ => callInput_checked _ rfl, fun _ => Or.inr ⟨rfl, by simp⟩⟩
    | click => exact callInput_checked _ rfl
    | doubleClick => exact callInput_checked _ rfl
  · exact Or.inr ⟨rfl, by simp⟩

/-- An event that fails before it reaches the sink has changed nothing, and what it
fails with is not a failure of the sink. -/
theorem applyReliableEvent_checked (s : HostPeerSession) :
    wp (applyReliableEvent event) (Checked s) s := by
  cases event with
  | keyboard action usage modifierBits =>
    exact checked_return _ (applyKeyboard_checked action usage modifierBits s)
  | pointerButton button action x y =>
    exact checked_return _ (applyPointerButton_checked button action x y s)
  | text text =>
    unfold applyReliableEvent
    rw [wp_bind, wp_require]
    refine ⟨fun _ => ?_, fun _ => Or.inr ⟨rfl, by simp⟩⟩
    exact checked_return _ (callInput_checked _ rfl)
  | releaseAllInput =>
    refine checked_return _ (wp_mono (releaseAll_called s) ?_)
    rintro _ s' ⟨hcalled, _⟩
    exact Or.inl hcalled
  | sessionControl action =>
    unfold applyReliableEvent
    rw [wp_bind, wp_orThrow]
    refine ⟨fun action _ => ?_, fun _ => Or.inr ⟨rfl, by simp⟩⟩
    cases action with
    | unspecified => exact checked_throw (by simp)
    | close => exact Or.inr ⟨rfl, by simp⟩
    | emergencyStop => exact Or.inr ⟨rfl, by simp⟩

/-- Closing after a failure of the sink changes no counter. -/
theorem closeOnInputFailure_checked {m : SessionM α} (hm : wp m (Checked s) s)
    (hsteady : Keeps Steady m) :
    wp (closeOnInputFailure m) (fun r s' => Steady s s' ∧
      (r.isOk = false → Called s s' ∨ s' = s)) s := by
  unfold closeOnInputFailure
  rw [wp_bind, wp_outcome]
  refine wp_mono (wp_and hm (hsteady s)) ?_
  rintro (error | a) s' ⟨hchecked, hsteady⟩
  · simp only [andThen_ok, wp_bind, wp_onlyIf, wp_outcome, wp_throw]
    refine ⟨fun herror => wp_mono (close_steady s') ?_, fun _ => ⟨hsteady, fun _ => ?_⟩⟩
    · intro _ s'' hclosed
      refine ⟨Trans.trans hsteady hclosed, fun _ => ?_⟩
      rcases hchecked with hcalled | ⟨_, hne⟩
      · exact .inl (Nat.lt_of_lt_of_le hcalled hclosed.calls)
      · exact absurd (by rw [herror]) hne
    · rcases hchecked with hcalled | ⟨hsame, _⟩
      · exact .inl hcalled
      · exact .inr hsame
  · exact ⟨hsteady, fun h => by cases h⟩

/-- What an envelope of the reliable channel comes to. -/
inductive ReliableOutcome (decoded : Option ReliableInputEnvelope) (s : HostPeerSession) :
    Except HostWebRtcError InputDisposition → HostPeerSession → Prop
  /-- It was refused before the sink was called. -/
  | rejected (error : HostWebRtcError) : ReliableOutcome decoded s (.error error) s
  /-- The sink has failed; a session that has counted the envelope is closed. -/
  | failed (error : HostWebRtcError) (s' : HostPeerSession) (called : Called s s')
      (reliable : s'.lastReliableSequence = s.lastReliableSequence ∨ s'.state = .closed)
      (pointer : s'.lastPointerSequence = s.lastPointerSequence) :
      ReliableOutcome decoded s (.error error) s'
  /-- It has been applied. -/
  | applied (envelope : ReliableInputEnvelope) (s' : HostPeerSession)
      (isSome : decoded = some envelope) (ready : Ready s)
      (sessionId : envelope.sessionId = s.sessionId)
      (sequence : envelope.sequence.toNat = saturatingAdd s.lastReliableSequence.toNat 1)
      (reliable : s'.lastReliableSequence = envelope.sequence)
      (pointer : s'.lastPointerSequence = s.lastPointerSequence) :
      ReliableOutcome decoded s (.ok .applied) s'

theorem handleReliable_outcome (decoded : Option ReliableInputEnvelope) (s : HostPeerSession) :
    wp (handleReliable decoded) (ReliableOutcome decoded s) s := by
  unfold handleReliable
  rw [wp_bind]
  refine wp_mono (requireInputReady_spec s) ?_
  rintro (error | _) s ⟨rfl, hready⟩
  · exact ReliableOutcome.rejected error
  have hready := hready.mp rfl
  simp only [andThen_ok, wp_bind, wp_orThrow, wp_get, wp_require, andThen_error]
  refine ⟨fun envelope henvelope => ⟨fun hsession => ⟨fun hsequence => ⟨fun event _ => ?_,
    fun _ => .rejected _⟩, fun _ => .rejected _⟩, fun _ => .rejected _⟩, fun _ => .rejected _⟩
  refine wp_mono (wp_and (closeOnInputFailure_checked (applyReliableEvent_checked event s)
    (applyReliableEvent_steady event)) (closeOnInputFailure_move (applyReliableEvent_grows event)
    hready.connected)) ?_
  rintro (error | shouldClose) s₁ ⟨⟨hsteady, hfailed⟩, _, hgrows⟩
  · rcases hfailed rfl with hcalled | rfl
    · exact ReliableOutcome.failed error s₁ hcalled (.inl hsteady.reliable) hsteady.pointer
    · exact ReliableOutcome.rejected error
  · rw [andThen_ok, wp_modify_bind, wp_bind, wp_onlyIf]
    have hopen : s₁.state ≠ .closed := by
      rw [(hgrows rfl).state, hready.connected]
      decide
    refine ⟨fun _ => ?_, fun _ => ?_⟩
    · refine wp_mono (close_called (s := { s₁ with lastReliableSequence := envelope.sequence })
        hopen) ?_
      rintro (error | _) s₂ ⟨hcalled, hsteady₂, hclosed⟩
      · exact ReliableOutcome.failed error s₂ (Nat.lt_of_le_of_lt hsteady.calls hcalled)
          (.inr hclosed) (hsteady₂.pointer.trans hsteady.pointer)
      · exact ReliableOutcome.applied envelope s₂ henvelope hready hsession hsequence
          hsteady₂.reliable (hsteady₂.pointer.trans hsteady.pointer)
    · exact ReliableOutcome.applied envelope _ henvelope hready hsession hsequence rfl
        hsteady.pointer

/-- What an envelope of the fast channel comes to. -/
inductive PointerOutcome (decoded : Option PointerFastEnvelope) (s : HostPeerSession) :
    Except HostWebRtcError PointerDisposition → HostPeerSession → Prop
  /-- It was refused before the sink was called. -/
  | rejected (error : HostWebRtcError) : PointerOutcome decoded s (.error error) s
  /-- It was too old. -/
  | stale : PointerOutcome decoded s (.ok .droppedStale) s
  /-- The sink has failed. -/
  | failed (error : HostWebRtcError) (s' : HostPeerSession) (called : Called s s')
      (steady : Steady s s') : PointerOutcome decoded s (.error error) s'
  /-- It has been applied. -/
  | applied (envelope : PointerFastEnvelope) (s' : HostPeerSession)
      (isSome : decoded = some envelope) (ready : Ready s)
      (newer : s.lastPointerSequence < envelope.sequence)
      (reliable : s'.lastReliableSequence = s.lastReliableSequence)
      (pointer : s'.lastPointerSequence = envelope.sequence) :
      PointerOutcome decoded s (.ok .applied) s'

theorem handlePointerFast_outcome (decoded : Option PointerFastEnvelope) (s : HostPeerSession) :
    wp (handlePointerFast decoded) (PointerOutcome decoded s) s := by
  unfold handlePointerFast
  rw [wp_bind]
  refine wp_mono (requireInputReady_spec s) ?_
  rintro (error | _) s ⟨rfl, hready⟩
  · exact PointerOutcome.rejected error
  have hready := hready.mp rfl
  simp only [andThen_ok, wp_bind, wp_orThrow, wp_get, wp_require, andThen_error, wp_ite, wp_pure]
  refine ⟨fun envelope henvelope => ⟨fun _ => ⟨fun _ => .stale, fun hnewer => ⟨fun event _ => ?_,
    fun _ => .rejected _⟩⟩, fun _ => .rejected _⟩, fun _ => .rejected _⟩
  rw [wp_ofResult]
  cases pointerFastCall event with
  | error error => exact PointerOutcome.rejected error
  | ok call =>
    rw [andThen_ok, wp_bind]
    refine wp_mono (closeOnInputFailure_checked (callInput_checked (s := s) call rfl)
      fun s => (callInput_called call s).2) ?_
    rintro (error | _) s₁ ⟨hsteady, hfailed⟩
    · rcases hfailed rfl with hcalled | rfl
      · exact PointerOutcome.failed error s₁ hcalled hsteady
      · exact PointerOutcome.rejected error
    · exact PointerOutcome.applied envelope _ henvelope hready (UInt64.not_le.mp hnewer)
        hsteady.reliable rfl

/-! ## The discipline -/

/-- What happens in a run of a session. -/
abbrev SessionEvent := Occurrence HostPeerSession SessionCall SessionResult

/-- The number of the reliable envelope that an event applies. -/
def appliedReliable? (e : SessionEvent) : Option Nat :=
  match e.input, e.output with
  | .handleReliable (some envelope), .reliable (.ok .applied) => some envelope.sequence.toNat
  | _, _ => none

/-- The number of the fast envelope that an event applies. -/
def appliedPointer? (e : SessionEvent) : Option Nat :=
  match e.input, e.output with
  | .handlePointerFast (some envelope), .pointer (.ok .applied) => some envelope.sequence.toNat
  | _, _ => none

/-- The event refuses an envelope. -/
def Refuses (e : SessionEvent) : Prop :=
  ∃ error, e.output = .reliable (.error error) ∨ e.output = .pointer (.error error)

/-- The numbers of the envelopes of a run. -/
structure SequenceDiscipline (events : List SessionEvent) : Prop where
  /-- The reliable envelopes are applied in order, each once and none left out. -/
  reliable : events.filterMap appliedReliable? =
    List.range' 1 (events.filterMap appliedReliable?).length
  /-- The numbers of the fast envelopes increase. -/
  pointer : (events.filterMap appliedPointer?).Pairwise (· < ·)
  /-- An envelope of the fast channel that is too old changes nothing; in a session
  that is ready for it, it is dropped. -/
  stale : ∀ e ∈ events, ∀ envelope, e.input = .handlePointerFast (some envelope) →
    envelope.sequence ≤ e.before.lastPointerSequence → e.after = e.before ∧
      (Ready e.before → envelope.sessionId = e.before.sessionId →
        e.output = .pointer (.ok .droppedStale))
  /-- An envelope that is refused before the sink is called changes nothing. -/
  refused : ∀ e ∈ events, Refuses e → e.after.input.calls = e.before.input.calls →
    e.after = e.before

/-- The largest number reaches a session that has already applied it. -/
def Repeats (s : HostPeerSession) (call : SessionCall) : Prop :=
  ∃ envelope, call = .handleReliable (some envelope) ∧ Ready s ∧
    envelope.sessionId = s.sessionId ∧ s.lastReliableSequence.toNat = u64Max ∧
    envelope.sequence.toNat = u64Max

theorem handlePointerFast_stale {envelope : PointerFastEnvelope}
    (h : envelope.sequence ≤ s.lastPointerSequence) :
    wp (handlePointerFast (some envelope)) (fun r s' => s' = s ∧
      (Ready s → envelope.sessionId = s.sessionId → r = .ok .droppedStale)) s := by
  unfold handlePointerFast
  rw [wp_bind]
  refine wp_mono (requireInputReady_spec s) ?_
  rintro (error | _) s ⟨rfl, hready⟩
  · refine ⟨rfl, fun h => ?_⟩
    cases hready.mpr h
  · simp only [andThen_ok, wp_bind, wp_orThrow, wp_get, wp_require, andThen_error, wp_ite, wp_pure]
    refine ⟨fun found hfound => ⟨fun _ => ⟨fun _ => ⟨trivial, fun _ _ => trivial⟩,
      fun hnewer => ?_⟩, fun hother => ⟨trivial, fun _ hsame => ?_⟩⟩, fun hnone => ?_⟩
    · cases hfound
      exact absurd h hnewer
    · cases hfound
      exact absurd hsame hother
    · cases hnone

/-- Only the two channels of input move the counters. -/
theorem makeCall_steady {call : SessionCall} (hreliable : ∀ decoded, call ≠ .handleReliable decoded)
    (hpointer : ∀ decoded, call ≠ .handlePointerFast decoded) : Steady s (makeCall s call).1 := by
  have hrelease : Keeps Steady releaseAll := fun s => (releaseAll_called s).2
  have hstate : ∀ (s : HostPeerSession) state, Steady s { s with state } :=
    fun _ _ => ⟨rfl, rfl, Nat.le_refl _⟩
  cases call with
  | acceptOffer offerSdp =>
    have h : Keeps Steady (HostPeerSession.acceptOffer offerSdp) := by
      refine .bind .get fun _ => .bind .require fun _ => .bind .require fun _ =>
        .bind (.outcome fun s => .of_untouched (callNegotiate_untouched _ s)) fun result => ?_
      cases result with
      | error error => exact .bind (.outcome close_steady) fun _ => .throw _
      | ok answer =>
        exact .ite (.bind (.modify fun s => hstate s _) fun _ => .pure _)
          (.bind (.outcome close_steady) fun _ => .throw _)
    exact h s
  | markConnected =>
    have h : Keeps Steady HostPeerSession.markConnected :=
      .bind .get fun _ => .bind .require fun _ => .modify fun s => hstate s _
    exact h s
  | beginReconnect =>
    have h : Keeps Steady HostPeerSession.beginReconnect :=
      .bind .get fun _ => .ite (.pure _) (.bind .require fun _ => .bind hrelease fun _ =>
        .modify fun s => hstate s _)
    exact h s
  | acceptReconnectOffer offerSdp =>
    exact .of_untouched (acceptReconnectOffer_untouched offerSdp s)
  | addRemoteIceCandidate candidate =>
    have h : Keeps Steady (HostPeerSession.addRemoteIceCandidate candidate) :=
      .bind .get fun _ => .bind .require fun _ => fun s =>
        .of_untouched (callPeer_untouched _ s)
    exact h s
  | handleReliable decoded => exact absurd rfl (hreliable decoded)
  | handlePointerFast decoded => exact absurd rfl (hpointer decoded)
  | close => exact close_steady s

theorem makeCall_stays_closed (hs : s.state = .closed) (call : SessionCall) :
    (makeCall s call).1.state = .closed := by
  by_cases hcall : call = .close
  · rw [hcall]
    exact (close_closed hs).1
  · rw [makeCall_closed hs hcall]
    exact hs

/-- The counters agree with the envelopes that have been applied. -/
structure Ordered (past : List SessionEvent) (s : HostPeerSession) : Prop where
  reliable : past.filterMap appliedReliable? =
    List.range' 1 (past.filterMap appliedReliable?).length
  counter : s.state = .closed ∨
    s.lastReliableSequence.toNat = (past.filterMap appliedReliable?).length
  pointer : (past.filterMap appliedPointer?).Pairwise (· < ·)
  newest : ∀ sequence ∈ past.filterMap appliedPointer?, sequence ≤ s.lastPointerSequence.toNat

variable {past : List SessionEvent} {e : SessionEvent}

/-- An event that applies nothing. -/
theorem Ordered.idle (h : Ordered past s)
    (hreliable : appliedReliable? e = none) (hpointer : appliedPointer? e = none)
    (hstays : s.state = .closed → s'.state = .closed)
    (hcounter : s'.lastReliableSequence = s.lastReliableSequence ∨ s'.state = .closed)
    (hnewest : s'.lastPointerSequence = s.lastPointerSequence) : Ordered (past ++ [e]) s' := by
  have hfilter : ∀ {f : SessionEvent → Option Nat}, f e = none →
      (past ++ [e]).filterMap f = past.filterMap f := by
    intro f hf
    simp [hf]
  refine ⟨?_, ?_, ?_, ?_⟩
  · rw [hfilter hreliable]
    exact h.reliable
  · rw [hfilter hreliable]
    rcases hcounter with hsame | hclosed
    · rw [hsame]
      exact h.counter.imp_left hstays
    · exact .inl hclosed
  · rw [hfilter hpointer]
    exact h.pointer
  · rw [hfilter hpointer, hnewest]
    exact h.newest

/-- The next envelope of the reliable channel is applied. -/
theorem Ordered.applyReliable (h : Ordered past s)
    (hopen : s.state ≠ .closed) {sequence : UInt64} (hlast : s.lastReliableSequence.toNat < u64Max)
    (hsequence : sequence.toNat = saturatingAdd s.lastReliableSequence.toNat 1)
    (hreliable : appliedReliable? e = some sequence.toNat) (hpointer : appliedPointer? e = none)
    (hcounter : s'.lastReliableSequence = sequence)
    (hnewest : s'.lastPointerSequence = s.lastPointerSequence) : Ordered (past ++ [e]) s' := by
  have hlength := h.counter.resolve_left hopen
  have hnext : sequence.toNat = 1 + (past.filterMap appliedReliable?).length := by
    rw [hsequence, saturatingAdd, ← hlength]
    omega
  refine ⟨?_, .inr ?_, ?_, ?_⟩
  · rw [List.filterMap_append, List.filterMap_cons, hreliable, hnext, List.filterMap_nil,
      List.length_append, List.length_singleton, List.range'_1_concat, ← h.reliable]
  · rw [hcounter, hnext]
    simp [hreliable]
    omega
  · simpa [hpointer] using h.pointer
  · rw [hnewest]
    simpa [hpointer] using h.newest

/-- A newer envelope of the fast channel is applied. -/
theorem Ordered.applyPointer (h : Ordered past s)
    (hopen : s.state ≠ .closed) {sequence : UInt64} (hnewer : s.lastPointerSequence < sequence)
    (hreliable : appliedReliable? e = none) (hpointer : appliedPointer? e = some sequence.toNat)
    (hcounter : s'.lastReliableSequence = s.lastReliableSequence)
    (hnewest : s'.lastPointerSequence = sequence) : Ordered (past ++ [e]) s' := by
  have hnewer : s.lastPointerSequence.toNat < sequence.toNat := UInt64.lt_iff_toNat_lt.mp hnewer
  refine ⟨?_, .inr ?_, ?_, ?_⟩
  · simpa [hreliable] using h.reliable
  · rw [hcounter, h.counter.resolve_left hopen]
    simp [hreliable]
  · rw [List.filterMap_append, List.filterMap_cons, hpointer, List.filterMap_nil,
      List.pairwise_append]
    refine ⟨h.pointer, List.pairwise_singleton _ _, fun older holder newer hmem => ?_⟩
    rw [List.mem_singleton.mp hmem]
    exact Nat.lt_of_le_of_lt (h.newest older holder) hnewer
  · rw [hnewest]
    intro older holder
    rw [List.filterMap_append, List.filterMap_cons, hpointer, List.filterMap_nil,
      List.mem_append, List.mem_singleton] at holder
    rcases holder with holder | rfl
    · exact Nat.le_trans (h.newest older holder) (Nat.le_of_lt hnewer)
    · exact Nat.le_refl _

variable {decoded : Option ReliableInputEnvelope}

theorem Ordered.handleReliable {r : Except HostWebRtcError InputDisposition}
    (h : Ordered past s) (hinput : e.input = .handleReliable decoded)
    (houtput : e.output = .reliable r) (houtcome : ReliableOutcome decoded s r s')
    (hstays : s.state = .closed → s'.state = .closed)
    (hguard : ¬ Repeats s (.handleReliable decoded)) : Ordered (past ++ [e]) s' := by
  have hpointer : appliedPointer? e = none := by simp [appliedPointer?, hinput]
  cases houtcome with
  | rejected error =>
    exact h.idle (by simp [appliedReliable?, houtput]) hpointer hstays (.inl rfl) rfl
  | failed error s' hcalled hcounter hnewest =>
    exact h.idle (by simp [appliedReliable?, houtput]) hpointer hstays hcounter hnewest
  | applied envelope s' hsome hready hsession hsequence hcounter hnewest =>
    have hlast : s.lastReliableSequence.toNat < u64Max := by
      by_contra hmax
      have hlt := s.lastReliableSequence.toNat_lt
      have heq : s.lastReliableSequence.toNat = u64Max := by
        unfold u64Max at hmax ⊢
        omega
      refine hguard ⟨envelope, by rw [hsome], hready, hsession, heq, ?_⟩
      rw [hsequence, heq]
      rfl
    refine h.applyReliable ?_ hlast hsequence ?_ hpointer hcounter hnewest
    · rw [hready.connected]
      decide
    · simp [appliedReliable?, hinput, houtput, hsome]

theorem Ordered.handlePointerFast
    {decoded : Option PointerFastEnvelope} {r : Except HostWebRtcError PointerDisposition}
    (h : Ordered past s) (hinput : e.input = .handlePointerFast decoded)
    (houtput : e.output = .pointer r) (houtcome : PointerOutcome decoded s r s')
    (hstays : s.state = .closed → s'.state = .closed) : Ordered (past ++ [e]) s' := by
  have hreliable : appliedReliable? e = none := by simp [appliedReliable?, hinput]
  cases houtcome with
  | rejected error =>
    exact h.idle hreliable (by simp [appliedPointer?, houtput]) hstays (.inl rfl) rfl
  | stale =>
    exact h.idle hreliable (by simp [appliedPointer?, houtput]) hstays (.inl rfl) rfl
  | failed error s' hcalled hsteady =>
    exact h.idle hreliable (by simp [appliedPointer?, houtput]) hstays (.inl hsteady.reliable)
      hsteady.pointer
  | applied envelope s' hsome hready hnewer hcounter hnewest =>
    refine h.applyPointer ?_ hnewer hreliable ?_ hcounter hnewest
    · rw [hready.connected]
      decide
    · simp [appliedPointer?, hinput, houtput, hsome]

theorem Ordered.step (h : Ordered past s) (call : SessionCall) (hguard : ¬ Repeats s call) :
    Ordered (past ++ [machine.occurrence s call]) (makeCall s call).1 := by
  have hstays := fun hclosed => makeCall_stays_closed (s := s) hclosed call
  have hother : (∀ decoded, call ≠ .handleReliable decoded) →
      (∀ decoded, call ≠ .handlePointerFast decoded) →
      Ordered (past ++ [machine.occurrence s call]) (makeCall s call).1 := by
    intro hreliable hpointer
    have hsteady := makeCall_steady (s := s) hreliable hpointer
    refine h.idle ?_ ?_ hstays (.inl hsteady.reliable) hsteady.pointer
    · unfold appliedReliable?
      split
      · next heq _ => exact absurd heq (hreliable _)
      · rfl
    · unfold appliedPointer?
      split
      · next heq _ => exact absurd heq (hpointer _)
      · rfl
  cases call with
  | handleReliable decoded =>
    exact h.handleReliable rfl rfl (handleReliable_outcome decoded s) hstays hguard
  | handlePointerFast decoded =>
    exact h.handlePointerFast rfl rfl (handlePointerFast_outcome decoded s) hstays
  | acceptOffer offerSdp => exact hother (by simp) (by simp)
  | markConnected => exact hother (by simp) (by simp)
  | beginReconnect => exact hother (by simp) (by simp)
  | acceptReconnectOffer offerSdp => exact hother (by simp) (by simp)
  | addRemoteIceCandidate candidate => exact hother (by simp) (by simp)
  | close => exact hother (by simp) (by simp)

theorem not_called (h : s'.input.calls = s.input.calls) : ¬ Called s s' := by
  intro hcalled
  rw [Called, h] at hcalled
  exact Nat.lt_irrefl _ hcalled

theorem ReliableOutcome.refused {error : HostWebRtcError}
    (h : ReliableOutcome decoded s (.error error) s')
    (hcalls : s'.input.calls = s.input.calls) : s' = s := by
  cases h with
  | rejected => rfl
  | failed _ _ hcalled _ _ => exact absurd hcalled (not_called hcalls)

theorem PointerOutcome.refused {decoded : Option PointerFastEnvelope} {error : HostWebRtcError}
    (h : PointerOutcome decoded s (.error error) s')
    (hcalls : s'.input.calls = s.input.calls) : s' = s := by
  cases h with
  | rejected => rfl
  | failed _ _ hcalled _ => exact absurd hcalled (not_called hcalls)

theorem makeCall_refused {call : SessionCall} (hrefuses : Refuses (machine.occurrence s call))
    (hcalls : (makeCall s call).1.input.calls = s.input.calls) : (makeCall s call).1 = s := by
  obtain ⟨error, hreliable | hpointer⟩ := hrefuses
  · cases call with
    | handleReliable decoded =>
      have houtcome := handleReliable_outcome decoded s
      rw [wp, SessionResult.reliable.inj hreliable] at houtcome
      exact houtcome.refused hcalls
    | _ => cases hreliable
  · cases call with
    | handlePointerFast decoded =>
      have houtcome := handlePointerFast_outcome decoded s
      rw [wp, SessionResult.pointer.inj hpointer] at houtcome
      exact houtcome.refused hcalls
    | _ => cases hpointer

/-- A run in which the largest number does not arrive twice keeps the discipline. -/
theorem input_sequence_discipline (sessionId : Bytes) (permissions : List SessionPermission)
    (peer : PeerBackend) (input : RemoteInputSink) (s : HostPeerSession)
    (hnew : new sessionId permissions peer input = .ok s) (calls : List SessionCall)
    (hguard : machine.Guarded (fun s call => ¬ Repeats s call) s calls) :
    SequenceDiscipline (machine.trace s calls) := by
  have hinit : Ordered [] s := by
    unfold new at hnew
    simp only [bind_eq_ok, pure, Except.pure, Except.ok.injEq] at hnew
    obtain ⟨_, _, _, _, rfl⟩ := hnew
    exact ⟨rfl, .inr rfl, .nil, by simp⟩
  have hordered : Ordered (machine.trace s calls) (machine.run s calls) :=
    Machine.history_invariant (M := machine) Ordered (fun _ _ call h hguard => h.step call hguard)
      [] hinit hguard
  have hoccurs : ∀ e ∈ machine.trace s calls, e = machine.occurrence e.before e.input :=
    fun e he => (Machine.trace_invariant (M := machine) (fun _ => True) (fun _ _ _ _ => trivial)
      trivial hguard he).2.2.2
  refine ⟨hordered.reliable, hordered.pointer, fun e he envelope hinput hstale => ?_,
    fun e he hrefuses hcalls => ?_⟩
  · obtain ⟨hsame, hdropped⟩ := handlePointerFast_stale hstale
    have heq := hoccurs e he
    rw [hinput] at heq
    rw [heq]
    exact ⟨hsame, fun hready hsession => congrArg SessionResult.pointer (hdropped hready hsession)⟩
  · have heq := hoccurs e he
    rw [heq] at hrefuses hcalls ⊢
    exact makeCall_refused hrefuses hcalls

/-- A text, a move and a repeated move of a session. -/
theorem input_sequence_discipline_sample :
    let calls := [.acceptOffer "offer", .markConnected,
      .handleReliable (some ⟨List.replicate 16 0, 1, some (.text "a")⟩),
      .handlePointerFast (some ⟨List.replicate 16 0, 7, some (.move 0 0 0)⟩),
      .handlePointerFast (some ⟨List.replicate 16 0, 7, some (.move 1 1 0)⟩)]
    SequenceDiscipline (machine.trace (controlledSession fun _ => .ok ()) calls) ∧
      ((machine.trace (controlledSession fun _ => .ok ()) calls).filterMap appliedReliable? = [1] ∧
        (machine.run (controlledSession fun _ => .ok ()) calls).input.calls =
          [.text "a", .pointerMove 0 0 0]) := by
  refine ⟨input_sequence_discipline _ _ _ _ _ (controlledSession_new _) _ ?_, by decide +kernel⟩
  have hlast : ∀ {s : HostPeerSession} {call : SessionCall}, s.lastReliableSequence.toNat ≠ u64Max →
      ¬ Repeats s call := by
    rintro s call hlast ⟨_, _, _, _, heq, _⟩
    exact hlast heq
  exact ⟨hlast (by decide +kernel), hlast (by decide +kernel), hlast (by decide +kernel),
    hlast (by decide +kernel), hlast (by decide +kernel), trivial⟩

/-! ## The end of the range -/

/-- A text with a number. -/
def textCall (sequence : UInt64) : SessionCall :=
  .handleReliable (some ⟨List.replicate 16 0, sequence, some (.text "a")⟩)

/-- The session has applied all texts up to a number. -/
structure Typed (s : HostPeerSession) (sequence : Nat) : Prop where
  ready : Ready s
  sessionId : s.sessionId = List.replicate 16 0
  respond : s.input.respond = fun _ => .ok ()
  last : s.lastReliableSequence.toNat = sequence

theorem textCall_applied {n : Nat} (hs : Typed s n) {sequence : UInt64}
    (hsequence : sequence.toNat = saturatingAdd n 1) :
    Typed (makeCall s (textCall sequence)).1 sequence.toNat ∧
      appliedReliable? (machine.occurrence s (textCall sequence)) = some sequence.toNat := by
  have hcall : wp (callInput (.text "a")) (fun r s' => r = .ok () ∧ s' = s.called (.text "a")) s :=
    ⟨congrFun hs.respond _, rfl⟩
  have hresult : wp (handleReliable (some ⟨List.replicate 16 0, sequence, some (.text "a")⟩))
      (fun r s' => r = .ok .applied ∧ Typed s' sequence.toNat) s := by
    unfold handleReliable requireInputReady closeOnInputFailure applyReliableEvent
    simp only [wp_bind, wp_get, andThen_ok, wp_require, wp_orThrow, wp_outcome, hs.ready.connected,
      hs.ready.allowed, hs.sessionId, hs.last, hsequence]
    refine ⟨fun _ => ⟨fun _ => ⟨fun envelope henvelope => ?_, ?_⟩, ?_⟩, ?_⟩
    · cases henvelope
      refine ⟨fun _ => ⟨fun _ => ⟨fun event hevent => ?_, ?_⟩, ?_⟩, ?_⟩
      · cases hevent
        dsimp only
        rw [wp_bind, wp_require]
        refine ⟨fun _ => ?_, fun h => absurd ⟨by decide, by decide⟩ h⟩
        rw [andThen_ok, wp_bind]
        refine wp_mono hcall ?_
        rintro _ s' ⟨rfl, rfl⟩
        exact ⟨rfl, ⟨hs.ready.connected, hs.ready.allowed⟩, hs.sessionId, hs.respond, hsequence⟩
      · simp
      · simp [hsequence]
      · simp
    · simp
    · simp
    · simp
  refine ⟨hresult.2, ?_⟩
  have houtput : (machine.occurrence s (textCall sequence)).output = .reliable (.ok .applied) :=
    congrArg SessionResult.reliable hresult.1
  rw [appliedReliable?, houtput]
  rfl

/-- The texts with the numbers up to `n`. -/
def textCalls (n : Nat) : List SessionCall := (List.range' 1 n).map fun i => textCall (.ofNat i)

theorem textCalls_applied (hs : Typed s 0) {n : Nat} (hn : n ≤ u64Max) :
    Typed (machine.run s (textCalls n)) n ∧
      ((machine.trace s (textCalls n)).filterMap appliedReliable?).length = n := by
  induction n with
  | zero => exact ⟨hs, rfl⟩
  | succ n ih =>
    obtain ⟨htyped, hlength⟩ := ih (by omega)
    have hcalls : textCalls (n + 1) = textCalls n ++ [textCall (.ofNat (1 + n))] := by
      rw [textCalls, List.range'_1_concat, List.map_append]
      rfl
    have htoNat : (UInt64.ofNat (1 + n)).toNat = n + 1 := by
      unfold u64Max at hn
      rw [UInt64.toNat_ofNat']
      omega
    have hsequence : (UInt64.ofNat (1 + n)).toNat = saturatingAdd n 1 := by
      rw [htoNat, saturatingAdd]
      omega
    obtain ⟨htyped', happlied⟩ := textCall_applied htyped hsequence
    rw [hcalls, Machine.run_snoc, Machine.trace_snoc, List.filterMap_append]
    refine ⟨htoNat ▸ htyped', ?_⟩
    rw [List.length_append, hlength, List.filterMap_cons, happlied]
    rfl

/-- A session that is connected and has applied nothing. -/
def typingSession : HostPeerSession :=
  machine.run (controlledSession fun _ => .ok ()) [.acceptOffer "offer", .markConnected]

theorem typingSession_typed : Typed typingSession 0 := by
  refine ⟨⟨?_, ?_⟩, ?_, rfl, ?_⟩
  · decide +kernel
  · decide +kernel
  · decide +kernel
  · decide +kernel

theorem typingSession_silent : (machine.trace (controlledSession fun _ => .ok ())
    [.acceptOffer "offer", .markConnected]).filterMap appliedReliable? = [] := by
  decide +kernel

/-- The last number of an unbroken sequence is its length. -/
theorem last_eq_length {sequences : List Nat} {last : Nat}
    (h : sequences ++ [last] = List.range' 1 (sequences ++ [last]).length) :
    last = sequences.length + 1 := by
  rw [List.length_append, List.length_singleton, List.range'_1_concat] at h
  have hlast := (List.append_inj' h rfl).2
  rw [List.cons.inj hlast |>.1, Nat.add_comm]

/-- The largest number is applied a second time. -/
theorem last_sequence_repeated :
    ¬ ∀ (sessionId : Bytes) (permissions : List SessionPermission) (peer : PeerBackend)
      (input : RemoteInputSink) (s : HostPeerSession) (calls : List SessionCall),
      new sessionId permissions peer input = .ok s →
        SequenceDiscipline (machine.trace s calls) := by
  intro h
  have hdiscipline := h _ _ _ _ _ ([.acceptOffer "offer", .markConnected] ++
    (textCalls u64Max ++ [textCall (.ofNat u64Max)])) (controlledSession_new fun _ => .ok ())
  obtain ⟨htyped, hlength⟩ := textCalls_applied typingSession_typed (Nat.le_refl u64Max)
  have hsaturated : (UInt64.ofNat u64Max).toNat = saturatingAdd u64Max 1 := by decide
  obtain ⟨_, happlied⟩ := textCall_applied htyped hsaturated
  have hsequences : (machine.trace (controlledSession fun _ => .ok ())
      ([.acceptOffer "offer", .markConnected] ++
        (textCalls u64Max ++ [textCall (.ofNat u64Max)]))).filterMap appliedReliable? =
      (machine.trace typingSession (textCalls u64Max)).filterMap appliedReliable? ++
        [(UInt64.ofNat u64Max).toNat] := by
    rw [Machine.trace_append, ← typingSession, Machine.trace_snoc, List.filterMap_append,
      typingSession_silent, List.filterMap_append, List.filterMap_cons, happlied, List.nil_append,
      List.filterMap_nil]
  have hreliable := hdiscipline.reliable
  rw [hsequences] at hreliable
  have hlast := last_eq_length hreliable
  rw [hlength] at hlast
  exact absurd hlast (by decide)

end HostPeerSession

end Host

end Roammand
