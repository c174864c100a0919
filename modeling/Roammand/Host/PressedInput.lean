import Roammand.Host.PeerSession
import Roammand.Library.Run

/-!
# What is pressed on the Host

A peer session keeps the keys and buttons that its controller holds down, so that it
can refuse a second press and can release everything when the peer is lost.  The sets
are changed before the sink is called, the sink may fail at any call, and a failed
release is carried in a flag of its own.  This module compares what the session keeps
with the calls that have reached the sink, over every sequence of calls of the
session.

A click is a call of a button too, but it neither presses nor releases it.

Main results:

- Definition `HostPeerSession.machine`: the session as a machine, one input for each of
  its methods.
- Definition `InputSafety`: the pressed sets, the calls and the releases of a run.
- Theorem `pressed_input_safety`: every run is safe.
- Theorem `clicked_while_pressed`: the last call of a pressed button may be a click.
-/

namespace Roammand

namespace Host

open Library Protocol Fallible SinkCall HostPeerSession

/-! ## What the calls say -/

/-- The last value that `f` finds in the calls since the last release of everything. -/
def lastSince {α : Type} (f : SinkCall → Option α) (calls : List SinkCall) : Option α :=
  calls.foldl (fun last call => if call = .releaseAll then none else (f call).or last) none

variable {α : Type} (f : SinkCall → Option α)

/-- The last call decides, if `f` knows it or it releases everything. -/
theorem lastSince_append (calls : List SinkCall) (call : SinkCall) : lastSince f (calls ++ [call]) =
      if call = .releaseAll then none else (f call).or (lastSince f calls) := by
  unfold lastSince
  rw [List.foldl_append]
  rfl

/-- After a release nothing is found. -/
theorem lastSince_release (calls : List SinkCall) :
    lastSince f (calls ++ [.releaseAll]) = none := by
  rw [lastSince_append, if_pos rfl]

/-- A call that `f` does not know changes nothing. -/
theorem lastSince_other {f : SinkCall → Option α} {calls : List SinkCall}
    {call : SinkCall} (hcall : call ≠ .releaseAll) (h : f call = none) :
    lastSince f (calls ++ [call]) = lastSince f calls := by
  rw [lastSince_append, if_neg hcall, h, Option.none_or]

/-- A call that `f` knows is what it finds. -/
theorem lastSince_found {f : SinkCall → Option α} {calls : List SinkCall}
    {call : SinkCall} {a : α} (hcall : call ≠ .releaseAll) (h : f call = some a) :
    lastSince f (calls ++ [call]) = some a := by
  rw [lastSince_append, if_neg hcall, h, Option.some_or]

namespace SinkCall

/-- What a call does to a key. -/
def key? (usbHidUsage : UInt32) : SinkCall → Option KeyboardAction
  | .keyboard action usage _ => if usage = usbHidUsage then some action else none
  | _ => none

variable (call : SinkCall) (value : Int32)

/-- What a call does to the button of a wire value. -/
def button? : SinkCall → Option ButtonAction
  | .pointerButton button action _ _ =>
    if PointerButton.ofInt32? value = some button then some action else none
  | _ => none

/-- The call presses or releases the button of a wire value. -/
def press? (call : SinkCall) : Option ButtonAction :=
  (call.button? value).filter fun action => action = .down ∨ action = .up

/-- The call presses a key or a button. -/
def isDown : SinkCall → Bool
  | .keyboard .down _ _ => true
  | .pointerButton _ .down _ _ => true
  | _ => false

/-- The key or the button goes down. -/
def down? : Option Unit := if call.isDown then some () else none

/-- The call has nothing to do with what is pressed. -/
def Neutral : Prop :=
  call ≠ .releaseAll ∧ (∀ usage, call.key? usage = none) ∧ ∀ value, call.press? value = none

end SinkCall

/-- A press reaches the sink for what is not pressed, and a release for what is. -/
structure Fitting (calls : List SinkCall) (call : SinkCall) : Prop where
  keyUp : ∀ usage, call.key? usage = some .up → lastSince (key? usage) calls = some .down
  keyDown : ∀ usage, call.key? usage = some .down →
    lastSince (key? usage) calls ≠ some .down
  buttonUp : ∀ value, call.press? value = some .up →
    lastSince (press? value) calls = some .down
  buttonDown : ∀ value, call.press? value = some .down →
    lastSince (press? value) calls ≠ some .down

/-- Every call fits those before it. -/
def Disciplined (calls : List SinkCall) : Prop :=
  ∀ pre call post, calls = pre ++ call :: post → Fitting pre call

/-- A fitting call keeps the discipline. -/
theorem Disciplined.append {calls : List SinkCall} {call : SinkCall} (h : Disciplined calls)
    (hcall : Fitting calls call) : Disciplined (calls ++ [call]) := by
  intro pre next post hsplit
  rcases List.eq_nil_or_concat post with rfl | ⟨post, last, rfl⟩
  · obtain ⟨rfl, hlast⟩ := List.append_inj' hsplit rfl
    cases hlast
    exact hcall
  · have hsplit' : calls ++ [call] = (pre ++ next :: post) ++ [last] := by simpa using hsplit
    obtain ⟨rfl, _⟩ := List.append_inj' hsplit' rfl
    exact h pre next post rfl

/-- A call that presses nothing always fits. -/
theorem Fitting.of_neutral {calls : List SinkCall} {call : SinkCall} (h : call.Neutral) :
    Fitting calls call := by
  refine ⟨fun usage h' => ?_, fun usage h' => ?_, fun value h' => ?_, fun value h' => ?_⟩
  · rw [h.2.1] at h'
    cases h'
  · rw [h.2.1] at h'
    cases h'
  · rw [h.2.2] at h'
    cases h'
  · rw [h.2.2] at h'
    cases h'

/-- Nothing has been pressed since the last release. -/
def Released (calls : List SinkCall) : Prop := lastSince down? calls = none

namespace HostPeerSession

variable {s s' : HostPeerSession}

/-! ## The pressed sets -/

/-- The session keeps what the calls say. -/
structure Tracks (s : HostPeerSession) : Prop where
  keys : ∀ usage, usage ∈ s.pressedKeys ↔
    lastSince (key? usage) s.input.calls = some .down
  buttons : ∀ value, value ∈ s.pressedButtons ↔
    lastSince (press? value) s.input.calls = some .down
  disciplined : Disciplined s.input.calls

/-- The session after one more call of the sink. -/
def called (s : HostPeerSession) (call : SinkCall) : HostPeerSession :=
  { s with input := { s.input with calls := s.input.calls ++ [call] } }

variable {call : SinkCall}

/-- A call that presses nothing keeps the sets right. -/
theorem Tracks.call_neutral (h : call.Neutral) (hs : Tracks s) :
    Tracks (s.called call) where
  keys usage := by
    rw [called, lastSince_other h.1 (h.2.1 usage)]
    exact hs.keys usage
  buttons value := by
    rw [called, lastSince_other h.1 (h.2.2 value)]
    exact hs.buttons value
  disciplined := hs.disciplined.append (.of_neutral h)

/-- A release of everything empties the sets, whether or not it succeeds. -/
theorem Tracks.release (hs : Tracks s) (pending : Bool) :
    Tracks { s.called .releaseAll with
      inputCleanupPending := pending, pressedKeys := ∅, pressedButtons := ∅ } where
  keys usage := by
    simp [called, lastSince_release]
  buttons value := by
    simp [called, lastSince_release]
  disciplined := by
    refine hs.disciplined.append ⟨fun _ h => ?_, fun _ h => ?_, fun _ h => ?_, fun _ h => ?_⟩
    all_goals cases h

/-- A key goes down or up. -/
theorem Tracks.call_key {action : KeyboardAction} {usage modifierBits : UInt32}
    (hs : Tracks s) (keys : Finset UInt32)
    (hup : action = .up → usage ∈ s.pressedKeys) (hdown : action = .down → usage ∉ s.pressedKeys)
    (hkeys : ∀ other, other ∈ keys ↔
      (other = usage ∧ action = .down) ∨ (other ≠ usage ∧ other ∈ s.pressedKeys)) :
    Tracks ({ s with pressedKeys := keys }.called (.keyboard action usage modifierBits)) where
  keys other := by
    by_cases heq : usage = other
    · subst heq
      rw [called, lastSince_found (a := action) (by simp) (by simp [key?]), hkeys]
      simp
    · rw [called, lastSince_other (by simp) (by simp [key?, heq]), hkeys]
      simp [Ne.symm heq, hs.keys other]
  buttons value := by
    rw [called, lastSince_other (by simp) rfl]
    exact hs.buttons value
  disciplined := by
    refine hs.disciplined.append ⟨fun other h => ?_, fun other h => ?_, fun _ h => ?_,
      fun _ h => ?_⟩
    · obtain ⟨rfl, haction⟩ : usage = other ∧ action = .up := by
        simpa [key?] using h
      exact (hs.keys usage).mp (hup haction)
    · obtain ⟨rfl, haction⟩ : usage = other ∧ action = .down := by
        simpa [key?] using h
      exact fun hpressed => hdown haction ((hs.keys usage).mpr hpressed)
    · cases h
    · cases h

/-- A button goes down or up. -/
theorem Tracks.call_button {button : PointerButton} {action : ButtonAction} {value x y : Int32}
    (hs : Tracks s) (hbutton : PointerButton.ofInt32? value = some button)
    (haction : action = .down ∨ action = .up) (buttons : Finset Int32)
    (hup : action = .up → value ∈ s.pressedButtons)
    (hdown : action = .down → value ∉ s.pressedButtons)
    (hbuttons : ∀ other, other ∈ buttons ↔
      (other = value ∧ action = .down) ∨ (other ≠ value ∧ other ∈ s.pressedButtons)) :
    Tracks ({ s with pressedButtons := buttons }.called (.pointerButton button action x y)) := by
  have hpress : press? value (.pointerButton button action x y) = some action := by
    simp [press?, button?, hbutton, haction]
  have hfound : ∀ other found, press? other (.pointerButton button action x y) =
      some found → value = other ∧ action = found := by
    intro other found h
    have hother : PointerButton.ofInt32? other = some button := by
      by_contra hne
      simp [press?, button?, hne] at h
    obtain rfl : value = other :=
      (PointerButton.eq_toInt32 hbutton).trans (PointerButton.eq_toInt32 hother).symm
    rw [hpress] at h
    exact ⟨rfl, Option.some.inj h⟩
  refine ⟨fun usage => ?_, fun other => ?_, ?_⟩
  · rw [called, lastSince_other (by simp) rfl]
    exact hs.keys usage
  · by_cases heq : value = other
    · subst heq
      rw [called, lastSince_found (by simp) hpress, hbuttons]
      simp
    · have hother : press? other (.pointerButton button action x y) = none := by
        cases hcase : press? other (.pointerButton button action x y) with
        | none => rfl
        | some found => exact absurd (hfound other found hcase).1 heq
      rw [called, lastSince_other (by simp) hother, hbuttons]
      simp [Ne.symm heq, hs.buttons other]
  · refine hs.disciplined.append ⟨fun _ h => ?_, fun _ h => ?_, fun other h => ?_,
      fun other h => ?_⟩
    · cases h
    · cases h
    · obtain ⟨rfl, haction⟩ := hfound other _ h
      exact (hs.buttons value).mp (hup haction)
    · obtain ⟨rfl, haction⟩ := hfound other _ h
      exact fun hpressed => hdown haction ((hs.buttons value).mpr hpressed)

/-! ## What one method does to the sink -/

/-- Nothing has happened to the input, the pressed sets and the counters. -/
structure Untouched (s s' : HostPeerSession) : Prop where
  input : s'.input = s.input
  pressedKeys : s'.pressedKeys = s.pressedKeys
  pressedButtons : s'.pressedButtons = s.pressedButtons
  cleanup : s'.inputCleanupPending = s.inputCleanupPending
  reliable : s'.lastReliableSequence = s.lastReliableSequence
  pointer : s'.lastPointerSequence = s.lastPointerSequence

instance : IsPreorder HostPeerSession Untouched where
  refl _ := ⟨rfl, rfl, rfl, rfl, rfl, rfl⟩
  trans _ _ _ h h' := ⟨h'.input.trans h.input, h'.pressedKeys.trans h.pressedKeys,
    h'.pressedButtons.trans h.pressedButtons, h'.cleanup.trans h.cleanup,
    h'.reliable.trans h.reliable, h'.pointer.trans h.pointer⟩

/-- Where the sink is not called the sets stay right. -/
theorem Untouched.tracks (h : Untouched s s') (hs : Tracks s) : Tracks s' := by
  refine ⟨?_, ?_, ?_⟩
  · rw [h.pressedKeys, h.input]
    exact hs.keys
  · rw [h.pressedButtons, h.input]
    exact hs.buttons
  · rw [h.input]
    exact hs.disciplined

/-- Calling the sink with a call that presses nothing keeps the sets right. -/
theorem callInput_tracks (hcall : call.Neutral) :
    Keeps (Carried Tracks) (callInput call) :=
  fun _ hs => hs.call_neutral hcall

/-- Releasing everything keeps the sets right. -/
theorem releaseAll_tracks : Keeps (Carried Tracks) releaseAll :=
  fun _ hs => hs.release _

/-- Closing keeps the sets right. -/
theorem close_tracks : Keeps (Carried Tracks) close := by
  refine .bind .get fun s => .ite (.ite releaseAll_tracks (.pure _)) ?_
  exact .bind (.modify fun _ hs => ⟨hs.keys, hs.buttons, hs.disciplined⟩) fun _ =>
    .bind (.outcome releaseAll_tracks) fun _ =>
    .bind (.outcome fun _ hs => ⟨hs.keys, hs.buttons, hs.disciplined⟩) fun _ =>
    .bind (.modify fun _ hs => ⟨hs.keys, hs.buttons, hs.disciplined⟩) fun _ =>
    .bind .ofResult fun _ => .ofResult

/-- A key event changes the set as its call says. -/
theorem applyKeyboard_tracks (action : Int32) (usage modifierBits : UInt32) :
    Keeps (Carried Tracks) (applyKeyboard action usage modifierBits) := by
  refine .bind .orThrow fun action => .bind .ofResult fun _ => .of_carried fun s hs => ?_
  rw [wp_get_bind]
  cases action with
  | unspecified => exact hs
  | down =>
    dsimp only
    rw [wp_bind, wp_require]
    refine ⟨fun hfree => ?_, fun _ => hs⟩
    refine hs.call_key _ (fun h => by cases h) (fun _ => hfree) fun other => ?_
    by_cases heq : other = usage <;> simp [heq]
  | up =>
    dsimp only
    rw [wp_onlyIf]
    refine ⟨fun hpressed => ?_, fun _ => hs⟩
    refine hs.call_key _ (fun _ => hpressed) (fun h => by cases h) fun other => ?_
    by_cases heq : other = usage <;> simp [heq]

/-- A button event changes the set as its call says. -/
theorem applyPointerButton_tracks (button action x y : Int32) :
    Keeps (Carried Tracks) (applyPointerButton button action x y) := by
  refine .bind .ofResult fun _ => .of_carried fun s hs => ?_
  rw [wp_bind, wp_orThrow]
  refine ⟨fun pointerButton hbutton => ?_, fun _ => hs⟩
  rw [andThen_ok, wp_bind, wp_orThrow]
  refine ⟨fun action _ => ?_, fun _ => hs⟩
  rw [andThen_ok, wp_get_bind]
  have hclick : ∀ action : ButtonAction, action ≠ .down → action ≠ .up →
      (SinkCall.pointerButton pointerButton action x y).Neutral := by
    intro action hdown hup
    refine ⟨by simp, fun _ => rfl, fun value => ?_⟩
    simp only [SinkCall.press?, SinkCall.button?]
    split
    · simp [Option.filter, hdown, hup]
    · rfl
  cases action with
  | unspecified => exact hs
  | down =>
    dsimp only
    rw [wp_bind, wp_require]
    refine ⟨fun hfree => ?_, fun _ => hs⟩
    refine hs.call_button hbutton (.inl rfl) _ (fun h => by cases h) (fun _ => hfree)
      fun other => ?_
    by_cases heq : other = button <;> simp [heq]
  | up =>
    dsimp only
    rw [wp_onlyIf]
    refine ⟨fun hpressed => ?_, fun _ => hs⟩
    refine hs.call_button hbutton (.inr rfl) _ (fun _ => hpressed) (fun h => by cases h)
      fun other => ?_
    by_cases heq : other = button <;> simp [heq]
  | click => exact hs.call_neutral (hclick .click (by simp) (by simp))
  | doubleClick => exact hs.call_neutral (hclick .doubleClick (by simp) (by simp))

variable (decoded : Option ReliableInputEnvelope) (event : ReliableInputEvent)

/-- Every reliable event keeps the sets right. -/
theorem applyReliableEvent_tracks :
    Keeps (Carried Tracks) (applyReliableEvent event) := by
  cases event with
  | keyboard action usage modifierBits =>
    exact .bind (applyKeyboard_tracks _ _ _) fun _ => .pure _
  | pointerButton button action x y =>
    exact .bind (applyPointerButton_tracks _ _ _ _) fun _ => .pure _
  | text text =>
    exact .bind .require fun _ => .bind (callInput_tracks ⟨by simp, fun _ => rfl, fun _ => rfl⟩)
      fun _ => .pure _
  | releaseAllInput => exact .bind releaseAll_tracks fun _ => .pure _
  | sessionControl action =>
    refine .bind .orThrow fun action => ?_
    cases action with
    | unspecified => exact .throw _
    | close => exact .pure _
    | emergencyStop => exact .pure _

/-- Closing after a failure keeps the sets right. -/
theorem closeOnInputFailure_tracks {α : Type} {m : SessionM α} (h : Keeps (Carried Tracks) m) :
    Keeps (Carried Tracks) (closeOnInputFailure m) :=
  closeOnInputFailure_keeps close_tracks h

/-- The fast channel presses nothing. -/
theorem pointerFastCall_neutral {event : PointerFastEvent} {call : SinkCall}
    (h : pointerFastCall event = .ok call) : call.Neutral := by
  cases event with
  | move x y pressedButtonBits =>
    simp only [pointerFastCall, bind_eq_ok] at h
    obtain ⟨_, _, _, _, h⟩ := h
    cases h
    exact ⟨by simp, fun _ => rfl, fun _ => rfl⟩
  | scroll deltaX deltaY =>
    simp only [pointerFastCall, bind_eq_ok] at h
    obtain ⟨_, _, h⟩ := h
    cases h
    exact ⟨by simp, fun _ => rfl, fun _ => rfl⟩

/-- A reliable frame keeps the sets right. -/
theorem handleReliable_tracks :
    Keeps (Carried Tracks) (handleReliable decoded) :=
  .bind requireInputReady_keeps fun _ => .bind .orThrow fun _ => .bind .get fun _ =>
    .bind .require fun _ => .bind .require fun _ => .bind .orThrow fun event =>
    .bind (closeOnInputFailure_tracks (applyReliableEvent_tracks event)) fun _ =>
    .bind (.modify fun _ hs => ⟨hs.keys, hs.buttons, hs.disciplined⟩) fun _ =>
    .bind (.onlyIf close_tracks) fun _ => .pure _

/-- A fast frame keeps the sets right. -/
theorem handlePointerFast_tracks (decoded : Option PointerFastEnvelope) :
    Keeps (Carried Tracks) (handlePointerFast decoded) := by
  refine .bind requireInputReady_keeps fun _ => .bind .orThrow fun _ =>
    .bind .get fun _ => .bind .require fun _ => .ite (.pure _) (.bind .orThrow fun event => ?_)
  refine .of_carried fun s hs => ?_
  rw [wp_bind, wp_ofResult]
  cases hcall : pointerFastCall event with
  | error error => exact hs
  | ok call =>
    rw [andThen_ok]
    refine Keeps.bind (R := Carried Tracks) (closeOnInputFailure_tracks
      (callInput_tracks (pointerFastCall_neutral hcall))) (fun _ => ?_) s hs
    exact .bind (.modify fun _ hs => ⟨hs.keys, hs.buttons, hs.disciplined⟩) fun _ => .pure _

variable (call : PeerCall)

/-- Negotiation does not reach the sink. -/
theorem callNegotiate_untouched : Keeps Untouched (callNegotiate call) :=
  fun _ => ⟨rfl, rfl, rfl, rfl, rfl, rfl⟩

/-- The peer connection does not reach the sink. -/
theorem callPeer_untouched : Keeps Untouched (callPeer call) :=
  fun _ => ⟨rfl, rfl, rfl, rfl, rfl, rfl⟩

/-! ## States and releases -/

/-- The sink may have been called, and the state is the same. -/
structure Grows (s s' : HostPeerSession) : Prop where
  respond : s'.input.respond = s.input.respond
  calls : s.input.calls <+: s'.input.calls
  state : s'.state = s.state

instance : IsPreorder HostPeerSession Grows where
  refl _ := ⟨rfl, List.prefix_rfl, rfl⟩
  trans _ _ _ h h' := ⟨h'.respond.trans h.respond, h.calls.trans h'.calls, h'.state.trans h.state⟩

/-- Everything has been released by the last call of the sink. -/
structure Releases (s s' : HostPeerSession) : Prop where
  respond : s'.input.respond = s.input.respond
  calls : ∃ made, s.input.calls <+: made ∧ s'.input.calls = made ++ [.releaseAll]
  pending : s'.inputCleanupPending = !(s'.input.respond s'.input.calls).isOk

/-- What one call of the session does to its state and to the sink. -/
inductive SessionMove (s s' : HostPeerSession) : Prop
  /-- The sink was not called.  A connected session stays connected. -/
  | untouched (untouched : Untouched s s') (state : s'.state = s.state ∨
      s.state ≠ .connected ∧ s.state ≠ .closed ∧ s'.state ≠ .closed)
  /-- Input may have passed. -/
  | passes (before : s.state = .connected) (grows : Grows s s')
  /-- Everything was released, and the session waits for its peer or goes on. -/
  | releases (before : s.state ≠ .closed) (releases : Releases s s')
      (state : s'.state = s.state ∨ s'.state = .reconnecting)
  /-- Everything was released, and the session is closed. -/
  | closes (before : s.state ≠ .closed) (releases : Releases s s') (after : s'.state = .closed)
  /-- A closed session has tried to release again. -/
  | retries (before : s.state = .closed) (pending : s.inputCleanupPending = true)
      (releases : Releases s s') (calls : s'.input.calls = s.input.calls ++ [.releaseAll])
      (after : s'.state = .closed)

/-- Releasing everything is one call, whose failure is kept in the flag. -/
theorem releaseAll_releases (s : HostPeerSession) :
    wp releaseAll (fun _ s' => Releases s s' ∧ s'.state = s.state ∧
      s'.input.calls = s.input.calls ++ [.releaseAll]) s :=
  ⟨⟨rfl, ⟨_, List.prefix_rfl, rfl⟩, rfl⟩, rfl, rfl⟩

/-- Calls may come before a release. -/
theorem Grows.releases {s'' : HostPeerSession} (h : Grows s s') (h' : Releases s' s'') :
    Releases s s'' := by
  obtain ⟨made, hmade, hcalls⟩ := h'.calls
  exact ⟨h'.respond.trans h.respond, ⟨made, h.calls.trans hmade, hcalls⟩, h'.pending⟩

/-- Closing releases everything. -/
theorem close_move (s : HostPeerSession) : wp close (fun _ s' => SessionMove s s') s := by
  unfold close
  rw [wp_get_bind, wp_ite]
  refine ⟨fun hclosed => ?_, fun hopen => ?_⟩
  · rw [wp_ite]
    refine ⟨fun hpending => wp_mono (releaseAll_releases s) ?_,
      fun _ => .untouched (Std.Refl.refl s) (.inl rfl)⟩
    rintro _ s' ⟨hreleases, hstate, hcalls⟩
    exact .retries hclosed hpending hreleases hcalls (hstate.trans hclosed)
  · rw [wp_modify_bind, wp_bind, wp_outcome]
    refine wp_mono (releaseAll_releases _) ?_
    rintro inputResult s₁ ⟨hreleases, _, _⟩
    rw [andThen_ok, wp_bind, wp_outcome]
    refine wp_mono (callPeer_untouched .close s₁) ?_
    intro peerResult s₂ huntouched
    have hmove : SessionMove s { s₂ with state := .closed } := by
      refine .closes hopen ⟨?_, ?_, ?_⟩ rfl
      · rw [huntouched.input]
        exact hreleases.respond
      · rw [huntouched.input]
        exact hreleases.calls
      · rw [huntouched.input, huntouched.cleanup]
        exact hreleases.pending
    rw [andThen_ok, wp_modify_bind, wp_bind, wp_ofResult]
    cases inputResult with
    | ok _ => exact hmove
    | error _ => exact hmove

/-- A call of the sink is added to those that were made. -/
theorem callInput_grows (call : SinkCall) : Keeps Grows (callInput call) :=
  fun _ => ⟨rfl, ⟨[call], rfl⟩, rfl⟩

/-- A release is added to the calls that were made. -/
theorem releaseAll_grows : Keeps Grows releaseAll :=
  fun _ => ⟨rfl, ⟨[.releaseAll], rfl⟩, rfl⟩

/-- A reliable event only adds calls. -/
theorem applyReliableEvent_grows :
    Keeps Grows (applyReliableEvent event) :=
  applyReliableEvent_keeps (fun _ _ => ⟨rfl, List.prefix_rfl, rfl⟩)
    (fun _ _ => ⟨rfl, List.prefix_rfl, rfl⟩) callInput_grows releaseAll_grows event

/-- A session that input has passed is still connected, or it has been closed. -/
theorem Grows.move (h : Grows s s') (hs : s.state = .connected) : SessionMove s s' := .passes hs h

/-- A connected session may make calls and close. -/
theorem Grows.close (h : Grows s s') (hs : s.state = .connected) :
    wp close (fun _ s'' => SessionMove s s'') s' := by
  have hstate : s'.state = .connected := h.state.trans hs
  refine wp_mono (close_move s') ?_
  intro _ s'' hmove
  cases hmove with
  | untouched huntouched hcases =>
    refine .passes hs ⟨?_, ?_, ?_⟩
    · rw [huntouched.input]
      exact h.respond
    · rw [huntouched.input]
      exact h.calls
    · rcases hcases with hsame | ⟨hne, _⟩
      · exact hsame.trans h.state
      · exact absurd hstate hne
  | passes _ hgrows => exact .passes hs (Trans.trans h hgrows)
  | releases _ hreleases hcases =>
    refine .releases (by simp [hs]) (h.releases hreleases) ?_
    rcases hcases with hsame | hwaits
    · exact .inl (hsame.trans h.state)
    · exact .inr hwaits
  | closes _ hreleases hafter => exact .closes (by simp [hs]) (h.releases hreleases) hafter
  | retries hclosed =>
    rw [hstate] at hclosed
    cases hclosed

/-- Input passes, or fails and closes the session. -/
theorem closeOnInputFailure_move {α : Type} {m : SessionM α} (h : Keeps Grows m)
    (hs : s.state = .connected) :
    wp (closeOnInputFailure m) (fun r s' => SessionMove s s' ∧ (r.isOk → Grows s s')) s := by
  unfold closeOnInputFailure
  rw [wp_bind, wp_outcome]
  refine wp_mono (h s) ?_
  rintro (error | a) s' hgrows
  · simp only [andThen_ok, wp_bind, wp_onlyIf, wp_outcome, wp_throw]
    refine ⟨fun _ => wp_mono (hgrows.close hs) fun _ _ hmove => ⟨hmove, fun h => ?_⟩,
      fun _ => ⟨hgrows.move hs, fun h => ?_⟩⟩
    · cases h
    · cases h
  · exact ⟨hgrows.move hs, fun _ => hgrows⟩

/-- A reliable frame passes input, changes nothing or closes. -/
theorem handleReliable_move (s : HostPeerSession) :
    wp (handleReliable decoded) (fun _ s' => SessionMove s s') s := by
  have hsame : SessionMove s s := .untouched (Std.Refl.refl s) (.inl rfl)
  unfold handleReliable
  rw [wp_bind]
  refine wp_mono (requireInputReady_spec s) ?_
  rintro (error | _) s ⟨rfl, hready⟩
  · exact hsame
  have hs := (hready.mp rfl).connected
  simp only [andThen_ok, wp_bind, wp_orThrow, wp_get, wp_require, andThen_error]
  refine ⟨fun envelope _ => ⟨fun _ => ⟨fun _ => ⟨fun event _ => ?_, fun _ => hsame⟩,
    fun _ => hsame⟩, fun _ => hsame⟩, fun _ => hsame⟩
  refine wp_mono (closeOnInputFailure_move (applyReliableEvent_grows event) hs) ?_
  rintro (error | shouldClose) s₁ ⟨hmove, hgrows⟩
  · exact hmove
  rw [andThen_ok, wp_modify_bind, wp_bind, wp_onlyIf]
  have hgrows₁ := hgrows rfl
  have hgrows₂ : Grows s { s₁ with lastReliableSequence := envelope.sequence } :=
    ⟨hgrows₁.respond, hgrows₁.calls, hgrows₁.state⟩
  refine ⟨fun _ => wp_mono (hgrows₂.close hs) ?_, fun _ => hgrows₂.move hs⟩
  rintro (error | _) s₂ hmove
  · exact hmove
  · exact hmove

/-- A fast frame passes input, changes nothing or closes. -/
theorem handlePointerFast_move (decoded : Option PointerFastEnvelope) (s : HostPeerSession) :
    wp (handlePointerFast decoded) (fun _ s' => SessionMove s s') s := by
  have hsame : SessionMove s s := .untouched (Std.Refl.refl s) (.inl rfl)
  unfold handlePointerFast
  rw [wp_bind]
  refine wp_mono (requireInputReady_spec s) ?_
  rintro (error | _) s ⟨rfl, hready⟩
  · exact hsame
  have hs := (hready.mp rfl).connected
  simp only [andThen_ok, wp_bind, wp_orThrow, wp_get, wp_require, andThen_error, wp_ite, wp_pure]
  refine ⟨fun envelope _ => ⟨fun _ => ⟨fun _ => hsame, fun _ => ⟨fun event _ => ?_,
    fun _ => hsame⟩⟩, fun _ => hsame⟩, fun _ => hsame⟩
  rw [wp_ofResult]
  cases pointerFastCall event with
  | error error => exact hsame
  | ok call => ?_
  rw [andThen_ok, wp_bind]
  refine wp_mono (closeOnInputFailure_move (callInput_grows call) hs) ?_
  rintro (error | _) s₁ ⟨hmove, hgrows⟩
  · exact hmove
  · have hgrows₁ := hgrows rfl
    exact SessionMove.passes hs ⟨hgrows₁.respond, hgrows₁.calls, hgrows₁.state⟩

variable (offerSdp : String)

/-- An offer connects nothing yet, and a failed one closes. -/
theorem acceptOffer_move (s : HostPeerSession) :
    wp (acceptOffer offerSdp) (fun _ s' => SessionMove s s') s := by
  have hsame : SessionMove s s := .untouched (Std.Refl.refl s) (.inl rfl)
  unfold acceptOffer
  simp only [wp_bind, wp_get, andThen_ok, wp_require, wp_outcome, andThen_error]
  refine ⟨fun hnew => ⟨fun _ => ?_, fun _ => hsame⟩, fun _ => hsame⟩
  have hstart : wp (callNegotiate (.start offerSdp))
      (fun _ s' => Untouched s s' ∧ s'.state = .new) s :=
    ⟨callNegotiate_untouched _ s, hnew⟩
  have hclose : ∀ {s₁}, Untouched s s₁ → s₁.state = .new →
      wp close (fun _ s' => SessionMove s s') s₁ := by
    intro s₁ huntouched hstate
    refine wp_mono (close_move s₁) ?_
    intro _ s₂ hmove
    cases hmove with
    | untouched huntouched' hcases =>
      refine .untouched (Trans.trans huntouched huntouched') ?_
      rw [hnew]
      rcases hcases with hsame | ⟨_, _, hopen⟩
      · exact .inl (hsame.trans hstate)
      · exact .inr ⟨by simp, by simp, hopen⟩
    | passes hconnected =>
      rw [hstate] at hconnected
      cases hconnected
    | releases _ hreleases hcases =>
      refine .releases (by simp [hnew]) ⟨?_, ?_, hreleases.pending⟩ ?_
      · rw [hreleases.respond, huntouched.input]
      · rw [← huntouched.input]
        exact hreleases.calls
      · rw [hnew, ← hstate]
        exact hcases
    | closes _ hreleases hafter =>
      refine .closes (by simp [hnew]) ⟨?_, ?_, hreleases.pending⟩ hafter
      · rw [hreleases.respond, huntouched.input]
      · rw [← huntouched.input]
        exact hreleases.calls
    | retries hclosed =>
      rw [hstate] at hclosed
      cases hclosed
  refine wp_mono hstart ?_
  rintro (error | answer) s₁ ⟨huntouched, hstate⟩
  · simp only [andThen_ok, wp_bind, wp_outcome]
    exact wp_mono (hclose huntouched hstate) fun _ _ h => h
  · simp only [andThen_ok, wp_ite, wp_bind, wp_modify, wp_outcome]
    refine ⟨fun _ => .untouched ⟨huntouched.input, huntouched.pressedKeys,
      huntouched.pressedButtons, huntouched.cleanup, huntouched.reliable, huntouched.pointer⟩
      (.inr ⟨by simp [hnew], by simp [hnew], by simp⟩), fun _ => ?_⟩
    exact wp_mono (hclose huntouched hstate) fun _ _ h => h

/-- Connecting does not reach the sink. -/
theorem markConnected_move (s : HostPeerSession) :
    wp markConnected (fun _ s' => SessionMove s s') s := by
  unfold markConnected
  simp only [wp_bind, wp_get, andThen_ok, wp_require, andThen_error, wp_modify]
  refine ⟨fun hstate => .untouched ⟨rfl, rfl, rfl, rfl, rfl, rfl⟩ ?_,
    fun _ => .untouched (Std.Refl.refl s) (.inl rfl)⟩
  rcases hstate with hstate | hstate | hstate
  · exact .inr ⟨by simp [hstate], by simp [hstate], by simp⟩
  · exact .inl hstate.symm
  · exact .inr ⟨by simp [hstate], by simp [hstate], by simp⟩

/-- A lost peer leads to a release, and the session waits if it succeeds. -/
theorem beginReconnect_move (s : HostPeerSession) :
    wp beginReconnect (fun _ s' => SessionMove s s') s := by
  have hsame : SessionMove s s := .untouched (Std.Refl.refl s) (.inl rfl)
  unfold beginReconnect
  rw [wp_get_bind, wp_ite]
  refine ⟨fun _ => hsame, fun _ => ?_⟩
  rw [wp_bind, wp_require]
  refine ⟨fun hstate => ?_, fun _ => hsame⟩
  have hopen : s.state ≠ .closed := by
    rcases hstate with hstate | hstate <;> simp [hstate]
  rw [andThen_ok, wp_bind]
  refine wp_mono (releaseAll_releases s) ?_
  rintro (error | _) s' ⟨hreleases, hstate', _⟩
  · exact .releases hopen hreleases (.inl hstate')
  · exact .releases hopen ⟨hreleases.respond, hreleases.calls, hreleases.pending⟩ (.inr rfl)

/-- An offer to reconnect does not reach the sink. -/
theorem acceptReconnectOffer_untouched :
    Keeps Untouched (acceptReconnectOffer offerSdp) :=
  .bind .get fun _ => .bind .require fun _ => .bind .require fun _ =>
    .bind (.modify fun _ => ⟨rfl, rfl, rfl, rfl, rfl, rfl⟩) fun _ =>
    .bind (callNegotiate_untouched _) fun _ => .bind .require fun _ =>
    .bind (.modify fun _ => ⟨rfl, rfl, rfl, rfl, rfl, rfl⟩) fun _ => .pure _

/-- An offer to reconnect is only accepted by a session that waits. -/
theorem acceptReconnectOffer_move (s : HostPeerSession) :
    wp (acceptReconnectOffer offerSdp) (fun _ s' => SessionMove s s') s := by
  have hsame : SessionMove s s := .untouched (Std.Refl.refl s) (.inl rfl)
  refine wp_mono (wp_and (acceptReconnectOffer_spec offerSdp s)
    (acceptReconnectOffer_untouched offerSdp s)) ?_
  rintro _ s' ⟨⟨_, hstate⟩, huntouched⟩
  rcases hstate with hstate | ⟨hbefore, hafter⟩
  · exact .untouched huntouched (.inl hstate)
  · refine .untouched huntouched (.inr ⟨?_, ?_, ?_⟩)
    · rcases hbefore with h | h <;> simp [h]
    · rcases hbefore with h | h <;> simp [h]
    · rcases hafter with h | h <;> simp [h]

variable (respond : List SinkCall → Except HostWebRtcError Unit) (candidate : PeerIceCandidate)

/-- A candidate does not reach the sink. -/
theorem addRemoteIceCandidate_move (s : HostPeerSession) :
    wp (addRemoteIceCandidate candidate) (fun _ s' => SessionMove s s') s := by
  unfold addRemoteIceCandidate
  rw [wp_get_bind, wp_bind, wp_require]
  refine ⟨fun _ => ?_, fun _ => .untouched (Std.Refl.refl s) (.inl rfl)⟩
  exact SessionMove.untouched (callPeer_untouched _ s) (.inl rfl)

/-! ## Every method follows the calls -/

/-- A method that does not touch the input keeps what the session tracks. -/
theorem tracks_of_untouched {α : Type} {m : SessionM α} (h : Keeps Untouched m) :
    Keeps (Carried Tracks) m :=
  fun s hs => (h s).tracks hs

/-- An offer keeps the sets right. -/
theorem acceptOffer_tracks :
    Keeps (Carried Tracks) (acceptOffer offerSdp) := by
  refine .bind .get fun _ => .bind .require fun _ => .bind .require fun _ =>
    .bind (.outcome (tracks_of_untouched (callNegotiate_untouched _))) fun result => ?_
  cases result with
  | error error => exact .bind (.outcome close_tracks) fun _ => .throw _
  | ok answer =>
    refine .ite (.bind (.modify fun _ hs => ⟨hs.keys, hs.buttons, hs.disciplined⟩) fun _ =>
      .pure _) ?_
    exact .bind (.outcome close_tracks) fun _ => .throw _

/-- Connecting keeps the sets right. -/
theorem markConnected_tracks : Keeps (Carried Tracks) markConnected :=
  .bind .get fun _ => .bind .require fun _ =>
    .modify fun _ hs => ⟨hs.keys, hs.buttons, hs.disciplined⟩

/-- Losing the peer keeps the sets right. -/
theorem beginReconnect_tracks : Keeps (Carried Tracks) beginReconnect :=
  .bind .get fun _ => .ite (.pure _) (.bind .require fun _ => .bind releaseAll_tracks fun _ =>
    .modify fun _ hs => ⟨hs.keys, hs.buttons, hs.disciplined⟩)

/-- A candidate keeps the sets right. -/
theorem addRemoteIceCandidate_tracks :
    Keeps (Carried Tracks) (addRemoteIceCandidate candidate) :=
  .bind .get fun _ => .bind .require fun _ => tracks_of_untouched (callPeer_untouched _)

/-! ## Runs of a session -/

/-- A call of a method of the session.  Dropping the session closes it. -/
inductive SessionCall where
  | acceptOffer (offerSdp : String)
  | markConnected
  | beginReconnect
  | acceptReconnectOffer (offerSdp : String)
  | addRemoteIceCandidate (candidate : PeerIceCandidate)
  | handleReliable (decoded : Option ReliableInputEnvelope)
  | handlePointerFast (decoded : Option PointerFastEnvelope)
  | close
  deriving DecidableEq

/-- What a method returns. -/
inductive SessionResult where
  | answered (result : Except HostWebRtcError PeerAnswer)
  | done (result : Except HostWebRtcError Unit)
  | reliable (result : Except HostWebRtcError InputDisposition)
  | pointer (result : Except HostWebRtcError PointerDisposition)

/-- Make a call. -/
def makeCall (s : HostPeerSession) : SessionCall → HostPeerSession × SessionResult
  | .acceptOffer offerSdp => ((acceptOffer offerSdp s).2, .answered (acceptOffer offerSdp s).1)
  | .markConnected => ((markConnected s).2, .done (markConnected s).1)
  | .beginReconnect => ((beginReconnect s).2, .done (beginReconnect s).1)
  | .acceptReconnectOffer offerSdp =>
    ((acceptReconnectOffer offerSdp s).2, .answered (acceptReconnectOffer offerSdp s).1)
  | .addRemoteIceCandidate candidate =>
    ((addRemoteIceCandidate candidate s).2, .done (addRemoteIceCandidate candidate s).1)
  | .handleReliable decoded =>
    ((handleReliable decoded s).2, .reliable (handleReliable decoded s).1)
  | .handlePointerFast decoded =>
    ((handlePointerFast decoded s).2, .pointer (handlePointerFast decoded s).1)
  | .close => ((close s).2, .done (close s).1)

/-- The session as a machine. -/
def machine : Machine HostPeerSession SessionCall SessionResult where
  step := makeCall

/-- Every call of the session is one of the moves. -/
theorem makeCall_move (s : HostPeerSession) (call : SessionCall) :
    SessionMove s (makeCall s call).1 := by
  cases call with
  | acceptOffer offerSdp => exact acceptOffer_move offerSdp s
  | markConnected => exact markConnected_move s
  | beginReconnect => exact beginReconnect_move s
  | acceptReconnectOffer offerSdp => exact acceptReconnectOffer_move offerSdp s
  | addRemoteIceCandidate candidate => exact addRemoteIceCandidate_move candidate s
  | handleReliable decoded => exact handleReliable_move decoded s
  | handlePointerFast decoded => exact handlePointerFast_move decoded s
  | close => exact close_move s

/-- Every call of the session keeps the sets right. -/
theorem makeCall_tracks (call : SessionCall) (hs : Tracks s) : Tracks (makeCall s call).1 := by
  cases call with
  | acceptOffer offerSdp => exact acceptOffer_tracks offerSdp s hs
  | markConnected => exact markConnected_tracks s hs
  | beginReconnect => exact beginReconnect_tracks s hs
  | acceptReconnectOffer offerSdp =>
    exact tracks_of_untouched (acceptReconnectOffer_untouched offerSdp) s hs
  | addRemoteIceCandidate candidate => exact addRemoteIceCandidate_tracks candidate s hs
  | handleReliable decoded => exact handleReliable_tracks decoded s hs
  | handlePointerFast decoded => exact handlePointerFast_tracks decoded s hs
  | close => exact close_tracks s hs

/-- A closed session refuses every call but another one to close it. -/
theorem makeCall_closed {call : SessionCall} (hs : s.state = .closed) (hcall : call ≠ .close) :
    (makeCall s call).1 = s := by
  have hready : ¬ Ready s := fun h => absurd (hs.symm.trans h.connected) (by decide)
  cases call with
  | acceptOffer offerSdp =>
    change wp (acceptOffer offerSdp) (fun _ s' => s' = s) s
    simp [acceptOffer, hs]
  | markConnected =>
    change wp markConnected (fun _ s' => s' = s) s
    simp [markConnected, hs]
  | beginReconnect =>
    change wp beginReconnect (fun _ s' => s' = s) s
    simp [beginReconnect, hs]
  | acceptReconnectOffer offerSdp =>
    change wp (acceptReconnectOffer offerSdp) (fun _ s' => s' = s) s
    simp [acceptReconnectOffer, hs]
  | addRemoteIceCandidate candidate =>
    change wp (addRemoteIceCandidate candidate) (fun _ s' => s' = s) s
    simp [addRemoteIceCandidate, hs]
  | handleReliable decoded => exact ((handleReliable_spec decoded s).2 hready).1
  | handlePointerFast decoded => exact ((handlePointerFast_spec decoded s).2 hready).1
  | close => exact absurd rfl hcall

/-- Closing again retries a release that has failed, and does nothing after one that
has succeeded. -/
theorem close_closed (hs : s.state = .closed) :
    wp close (fun _ s' => s'.state = .closed ∧ s'.input.calls =
      if s.inputCleanupPending then s.input.calls ++ [.releaseAll] else s.input.calls) s := by
  unfold close
  rw [wp_get_bind, wp_ite]
  refine ⟨fun _ => ?_, fun hopen => absurd hs hopen⟩
  rw [wp_ite]
  refine ⟨fun hpending => ?_, fun hdone => ?_⟩
  · refine wp_mono (releaseAll_releases s) ?_
    rintro _ s' ⟨_, hstate, hcalls⟩
    exact ⟨hstate.trans hs, hcalls.trans (if_pos hpending).symm⟩
  · exact ⟨hs, (if_neg hdone).symm⟩

/-- What a session keeps while its methods are called. -/
structure Sound (s : HostPeerSession) : Prop where
  tracks : Tracks s
  /-- Only a connected session may have something pressed. -/
  released : s.state ≠ .connected → Released s.input.calls
  /-- The last call of a closed session was a release, and whether it has failed is
  remembered. -/
  closed : s.state = .closed → s.input.calls.getLast? = some .releaseAll ∧
    s.inputCleanupPending = !(s.input.respond s.input.calls).isOk

/-- A release of everything is the last call. -/
theorem Releases.released (h : Releases s s') : Released s'.input.calls := by
  obtain ⟨made, _, hcalls⟩ := h.calls
  rw [hcalls]
  exact lastSince_release _ made

/-- The last call is a release, and the flag says whether it failed. -/
theorem Releases.closed (h : Releases s s') :
    s'.input.calls.getLast? = some .releaseAll ∧
      s'.inputCleanupPending = !(s'.input.respond s'.input.calls).isOk := by
  obtain ⟨made, _, hcalls⟩ := h.calls
  exact ⟨by rw [hcalls]; simp, h.pending⟩

/-- Every call keeps the session sound. -/
theorem Sound.makeCall (call : SessionCall) (hs : Sound s) :
    Sound (makeCall s call).1 := by
  refine ⟨makeCall_tracks call hs.tracks, ?_, ?_⟩
  · intro hother
    cases makeCall_move s call with
    | untouched huntouched hstate =>
      rw [huntouched.input]
      refine hs.released ?_
      rcases hstate with hsame | ⟨hne, _⟩
      · rwa [hsame] at hother
      · exact hne
    | passes hconnected hgrows => exact absurd (hgrows.state.trans hconnected) hother
    | releases _ hreleases _ => exact hreleases.released
    | closes _ hreleases _ => exact hreleases.released
    | retries _ _ hreleases _ _ => exact hreleases.released
  · intro hclosed
    cases makeCall_move s call with
    | untouched huntouched hstate =>
      rw [huntouched.input, huntouched.cleanup]
      refine hs.closed ?_
      rcases hstate with hsame | ⟨_, _, hne⟩
      · exact hsame.symm.trans hclosed
      · exact absurd hclosed hne
    | passes hconnected hgrows =>
      rw [hgrows.state, hconnected] at hclosed
      cases hclosed
    | releases _ hreleases _ => exact hreleases.closed
    | closes _ hreleases _ => exact hreleases.closed
    | retries _ _ hreleases _ _ => exact hreleases.closed

/-- A session that has just been made has called nothing. -/
theorem new_sound {sessionId : Bytes} {permissions : List SessionPermission}
    {peer : PeerBackend} {respond : List SinkCall → Except HostWebRtcError Unit}
    (h : new sessionId permissions peer ⟨respond, []⟩ = .ok s) : Sound s := by
  unfold new at h
  simp only [bind_eq_ok, pure, Except.pure, Except.ok.injEq] at h
  obtain ⟨_, _, _, _, rfl⟩ := h
  refine ⟨⟨fun usage => ?_, fun value => ?_, ?_⟩, fun _ => rfl, ?_⟩
  · simp [lastSince]
  · simp [lastSince]
  · intro pre call post hsplit
    simp at hsplit
  · intro hclosed
    cases hclosed

/-! ## Safety of the input -/

/-- What is pressed, and what is released, in a run of a session. -/
structure InputSafety (events : List (Occurrence HostPeerSession SessionCall SessionResult)) :
    Prop where
  /-- The pressed keys and buttons are those whose last press or release was a press,
  a press reaches the sink only for what is not pressed, and a release only for what
  is. -/
  tracks : ∀ e ∈ events, Tracks e.after
  /-- Nothing is pressed in a session that starts to wait for its peer; one that was
  connected has just released everything. -/
  waiting : ∀ e ∈ events, e.before.state ≠ .reconnecting → e.after.state = .reconnecting →
    Released e.after.input.calls ∧ (e.before.state = .connected → Releases e.before e.after)
  /-- A session that is closed has just released everything. -/
  closing : ∀ e ∈ events, e.before.state ≠ .closed → e.after.state = .closed →
    Released e.after.input.calls ∧ Releases e.before e.after
  /-- A closed session stays closed.  Each call to close it releases again as long as
  the last release has failed, and no other call reaches the sink. -/
  closed : ∀ e ∈ events, e.before.state = .closed →
    e.before.input.calls.getLast? = some .releaseAll ∧ e.after.state = .closed ∧
    (e.input = .close → (e.before.input.respond e.before.input.calls).isOk = false →
      e.after.input.calls = e.before.input.calls ++ [.releaseAll]) ∧
    (e.input = .close → (e.before.input.respond e.before.input.calls).isOk = true →
      e.after.input.calls = e.before.input.calls) ∧
    (e.input ≠ .close → e.after = e.before)

/-- A session that begins to wait has released everything. -/
theorem SessionMove.waiting (h : SessionMove s s') (hs : Sound s')
    (hbefore : s.state ≠ .reconnecting)
    (hafter : s'.state = .reconnecting) :
    Released s'.input.calls ∧ (s.state = .connected → Releases s s') := by
  refine ⟨hs.released (by simp [hafter]), fun hconnected => ?_⟩
  cases h with
  | untouched _ hstate =>
    rcases hstate with hsame | ⟨hne, _⟩
    · exact absurd (hsame.symm.trans hafter) hbefore
    · exact absurd hconnected hne
  | passes _ hgrows => exact absurd (hgrows.state.symm.trans hafter) hbefore
  | releases _ hreleases _ => exact hreleases
  | closes _ hreleases _ => exact hreleases
  | retries _ _ hreleases _ _ => exact hreleases

/-- A session that closes releases everything. -/
theorem SessionMove.closing (h : SessionMove s s') (hbefore : s.state ≠ .closed)
    (hafter : s'.state = .closed) : Released s'.input.calls ∧ Releases s s' := by
  have hreleases : Releases s s' := by
    cases h with
    | untouched _ hstate =>
      rcases hstate with hsame | ⟨_, _, hne⟩
      · exact absurd (hsame.symm.trans hafter) hbefore
      · exact absurd hafter hne
    | passes _ hgrows => exact absurd (hgrows.state.symm.trans hafter) hbefore
    | releases _ hreleases _ => exact hreleases
    | closes _ hreleases _ => exact hreleases
    | retries _ _ hreleases _ _ => exact hreleases
  exact ⟨hreleases.released, hreleases⟩

/-- The input of a session is safe over every sequence of calls. -/
theorem pressed_input_safety (sessionId : Bytes) (permissions : List SessionPermission)
    (peer : PeerBackend) (respond : List SinkCall → Except HostWebRtcError Unit)
    (s : HostPeerSession) (hnew : new sessionId permissions peer ⟨respond, []⟩ = .ok s)
    (calls : List SessionCall) : InputSafety (machine.trace s calls) := by
  have hsound : ∀ e ∈ machine.trace s calls, Sound e.before ∧ True ∧ Sound e.after ∧
      e = machine.occurrence e.before e.input :=
    fun e he => Machine.trace_invariant (M := machine) (G := fun _ _ => True) Sound
      (fun _ call hs _ => hs.makeCall call) (new_sound hnew) (Machine.guarded_true _ _) he
  have hmove : ∀ e ∈ machine.trace s calls, SessionMove e.before e.after := by
    intro e he
    obtain ⟨_, _, _, heq⟩ := hsound e he
    rw [heq]
    exact makeCall_move e.before e.input
  refine ⟨fun e he => (hsound e he).2.2.1.tracks,
    fun e he => (hmove e he).waiting (hsound e he).2.2.1, fun e he => (hmove e he).closing, ?_⟩
  intro e he hclosed
  obtain ⟨hbefore, _, _, heq⟩ := hsound e he
  obtain ⟨hlast, hpending⟩ := hbefore.closed hclosed
  have hafter : e.after = (makeCall e.before e.input).1 := by rw [heq]; rfl
  by_cases hinput : e.input = .close
  · have hclose := close_closed hclosed
    rw [hinput] at hafter
    rw [show e.after = (close e.before).2 from hafter]
    refine ⟨hlast, hclose.1, fun _ hfailed => ?_, fun _ hdone => ?_, fun h => absurd hinput h⟩
    · exact hclose.2.trans (if_pos (by rw [hpending, hfailed]; rfl))
    · exact hclose.2.trans (if_neg (by rw [hpending, hdone]; simp))
  · have hsame : e.after = e.before := hafter.trans (makeCall_closed hclosed hinput)
    rw [hsame]
    exact ⟨hlast, hclosed, fun h => absurd h hinput, fun h => absurd h hinput, fun _ => rfl⟩

/-- A peer that answers every offer. -/
def answeringPeer : PeerBackend where
  negotiate _ := .ok { sdp := "answer", dtlsFingerprintSha256 := List.replicate 32 0 }
  acknowledge _ := .ok ()
  calls := []

/-- A session whose controller may control, before its first call. -/
def controlledSession :
    HostPeerSession where
  sessionId := List.replicate 16 0
  inputAllowed := true
  peer := answeringPeer
  input := ⟨respond, []⟩
  state := .new
  lastReliableSequence := 0
  lastPointerSequence := 0
  pressedKeys := ∅
  pressedButtons := ∅
  inputCleanupPending := false

/-- The session of the examples is a new one. -/
theorem controlledSession_new :
    new (List.replicate 16 0) [.viewScreen, .controlInput] answeringPeer ⟨respond, []⟩ =
      .ok (controlledSession respond) := rfl

/-- A key that is down when the session closes is released by the second attempt. -/
theorem pressed_input_safety_sample :
    let respond := fun calls => if calls.length = 2 then .error .inputFailure else .ok ()
    let calls := [.acceptOffer "offer", .markConnected,
      .handleReliable (some ⟨List.replicate 16 0, 1, some (.keyboard 1 4 0)⟩), .close, .close,
      .close]
    InputSafety (machine.trace (controlledSession respond) calls) ∧
      (machine.run (controlledSession respond) calls).input.calls =
        [.keyboard .down 4 0, .releaseAll, .releaseAll] :=
  ⟨pressed_input_safety _ _ _ _ _ (controlledSession_new _) _, by decide +kernel⟩

/-- A click is the last call of a button that is still held down. -/
theorem clicked_while_pressed :
    ¬ ∀ (sessionId : Bytes) (permissions : List SessionPermission) (peer : PeerBackend)
      (respond : List SinkCall → Except HostWebRtcError Unit) (s : HostPeerSession)
      (calls : List SessionCall), new sessionId permissions peer ⟨respond, []⟩ = .ok s →
        ∀ value, value ∈ (machine.run s calls).pressedButtons ↔
          lastSince (button? value) (machine.run s calls).input.calls = some .down := by
  intro h
  have hclicked := h _ _ _ (fun _ => .ok ()) _ [.acceptOffer "offer", .markConnected,
    .handleReliable (some ⟨List.replicate 16 0, 1, some (.pointerButton 1 1 0 0)⟩),
    .handleReliable (some ⟨List.replicate 16 0, 2, some (.pointerButton 1 3 0 0)⟩)]
    (controlledSession_new _) 1
  revert hclicked
  decide +kernel

end HostPeerSession

end Host

end Roammand
