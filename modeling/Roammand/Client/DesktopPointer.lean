import Roammand.Host.PeerSession
import Roammand.Library.Run

/-!
# Mouse buttons on the remote desktop page

The page turns the mouse events of its surface into button input for the Host.  The
first button that is pressed arrives as a contact, the last one that is released as its
end, and every other change of the buttons only as part of a move.  The page remembers the
buttons it has seen last and sends the first one that a contact or its end has changed.

What the mouse holds is part of the state, so that only events are considered that the
surface delivers.  Where a position falls on the video, if it does, comes with the event.
The Host handles what is sent in order, and ends the session when it refuses input.

Main results:

- Definition `DesktopPointer.machine`: the page together with the Host's session.
- Theorem `DesktopPointer.step_held`: what every event leaves pressed at the Host.
- Theorem `DesktopPointer.pointer_button_balance`: buttons are pressed once and released
  with the last local one exactly if the end of every contact reaches the Host for the
  button that is down there.
-/

namespace Roammand

namespace Client

open Library Protocol Fallible Host HostPeerSession

/-! ## The page -/

/-- A position on the video, in the range the Host accepts. -/
structure RemotePointerPosition where
  x : Int32
  y : Int32
  inRange : validateCoordinates x y = .ok ()

/-- The buttons of a mouse event as the protocol numbers them: the first, the second and
the middle button of the mouse. -/
def protocolButtonBits (buttons : Nat) : UInt32 :=
  (if buttons.testBit 0 then 1 else 0) ||| (if buttons.testBit 1 then 2 else 0) |||
    (if buttons.testBit 2 then 4 else 0)

/-- The first of the buttons that have changed. -/
def pointerButton? (changedBits : UInt32) : Option PointerButton :=
  if changedBits &&& 1 ≠ 0 then some .left
  else if changedBits &&& 2 ≠ 0 then some .right
  else if changedBits &&& 4 ≠ 0 then some .middle
  else none

/-- The page, the mouse and the Host's session. -/
structure DesktopPointer where
  pressedButtonBits : UInt32
  connected : Bool
  held : Nat
  host : HostPeerSession

/-- A session with no button down, as every new or resumed one is. -/
abbrev ReleasedSession := { s : HostPeerSession // s.pressedButtons = ∅ }

/-- What happens to the page: events of the mouse, the loss of the focus, and changes of
the connection. -/
inductive PointerInput where
  | hover (position : Option RemotePointerPosition)
  | down (position : Option RemotePointerPosition) (buttons : Nat)
  | move (position : Option RemotePointerPosition) (buttons : Nat)
  | up (position : Option RemotePointerPosition)
  | cancel
  | focusLost
  | disconnected
  | connected (session : ReleasedSession)

/-- What the page has sent, on either channel. -/
structure PointerOutput where
  reliable : Option ReliableInputEvent
  fast : Option PointerFastEvent

namespace DesktopPointer

/-! ## The Host -/

variable {s : HostPeerSession} (position : Option RemotePointerPosition)
  (event : ReliableInputEvent)

/-- The Host applies an input event; the rest of the envelope is not looked at here. -/
def receive : SessionM Unit := do
  requireInputReady
  let shouldClose ← closeOnInputFailure (applyReliableEvent event)
  onlyIf (shouldClose = true) close

/-- The Host handles an input event; it ends a session whose input it refuses. -/
def deliver : SessionM Unit := do
  let result ← outcome (receive event)
  match result with
  | .ok () => return ()
  | .error error => do
    let _ ← outcome close
    throw error

/-! ## Events -/

/-- Nothing was sent. -/
def quiet : PointerOutput := ⟨none, none⟩

/-- Send an input event. -/
def send (s : DesktopPointer) : DesktopPointer × PointerOutput :=
  ({ s with host := (deliver event s.host).2 }, { reliable := some event, fast := none })

/-- Send the position of the pointer. -/
def sendMove (s : DesktopPointer) : PointerOutput :=
  match position with
  | none => quiet
  | some position =>
    if s.connected then
      { reliable := none, fast := some (.move position.x position.y s.pressedButtonBits) }
    else quiet

/-- The event of a button. -/
def buttonEvent (button : PointerButton) (down : Bool) (position : RemotePointerPosition) :
    ReliableInputEvent :=
  .pointerButton button.toInt32 (if down then ButtonAction.down else .up).toInt32
    position.x position.y

/-- The buttons that a contact or its end has changed. -/
def changedBits (nextBits pressedButtonBits : UInt32) (down : Bool) : UInt32 :=
  if down then nextBits &&& ~~~pressedButtonBits else pressedButtonBits &&& ~~~nextBits

/-- A contact, or its end.  Without a connection or outside the video it is not looked at. -/
def button (position : Option RemotePointerPosition) (buttons : Nat) (down : Bool)
    (s : DesktopPointer) : DesktopPointer × PointerOutput :=
  match position with
  | none => (s, quiet)
  | some position =>
    if s.connected then
      let nextBits := protocolButtonBits buttons
      let changed := changedBits nextBits s.pressedButtonBits down
      let s := { s with pressedButtonBits := nextBits }
      match pointerButton? changed with
      | none => (s, quiet)
      | some button => send (buttonEvent button down position) s
    else (s, quiet)

/-- Release all input. -/
def releaseAll (s : DesktopPointer) : DesktopPointer × PointerOutput :=
  let s := { s with pressedButtonBits := 0 }
  if s.connected then send .releaseAllInput s else (s, quiet)

/-- One event.  A mouse event that does not fit what the mouse holds is not delivered. -/
def step (s : DesktopPointer) : PointerInput → DesktopPointer × PointerOutput
  | .hover position => if s.held = 0 then (s, sendMove position s) else (s, quiet)
  | .down position buttons =>
    if s.held = 0 ∧ buttons ≠ 0 then button position buttons true { s with held := buttons }
    else (s, quiet)
  | .move position buttons =>
    if s.held ≠ 0 ∧ buttons ≠ 0 then
      let s := { s with held := buttons, pressedButtonBits := protocolButtonBits buttons }
      (s, sendMove position s)
    else (s, quiet)
  | .up position =>
    if s.held ≠ 0 then button position 0 false { s with held := 0 } else (s, quiet)
  | .cancel => releaseAll { s with held := 0 }
  | .focusLost => releaseAll s
  | .disconnected =>
    ({ s with connected := false, host := (HostPeerSession.releaseAll s.host).2 }, quiet)
  | .connected session => ({ s with connected := true, host := session.1 }, quiet)

/-- The page as a machine. -/
def machine : Machine DesktopPointer PointerInput PointerOutput := ⟨step⟩

variable (session : ReleasedSession)

/-- The page before it is connected. -/
def initial : DesktopPointer where
  pressedButtonBits := 0
  connected := false
  held := 0
  host := session.1

/-! ## What is pressed at the Host -/

/-- A closed session has nothing pressed. -/
def ClosedEmpty (s : HostPeerSession) : Prop := s.state = .closed → s.pressedButtons = ∅

theorem ClosedEmpty.of_connected (h : s.state = .connected) :
    ClosedEmpty s :=
  fun hclosed => nomatch h.symm.trans hclosed

theorem releaseAll_pressed (s : HostPeerSession) :
    wp HostPeerSession.releaseAll (fun _ s' => s'.pressedButtons = ∅ ∧ s'.state = s.state ∧
      s'.inputAllowed = s.inputAllowed) s :=
  ⟨rfl, rfl, rfl⟩

/-- Closing a session releases its buttons. -/
theorem close_pressed (h : ClosedEmpty s) :
    wp HostPeerSession.close (fun _ s' => s'.pressedButtons = ∅) s := by
  simp only [HostPeerSession.close, wp_bind, wp_get, andThen_ok, wp_ite, wp_pure, wp_modify,
    wp_outcome]
  refine ⟨fun hclosed => ⟨fun _ => ?_, fun _ => h hclosed⟩, fun _ => ?_⟩
  · exact wp_mono (releaseAll_pressed s) fun _ _ h => h.1
  · refine wp_mono (releaseAll_pressed _) fun inputResult s₁ hs₁ => ?_
    simp only [andThen_ok, wp_bind, wp_outcome]
    have hpeer : wp (HostPeerSession.callPeer .close) (fun _ s₂ => s₂.pressedButtons = ∅) s₁ :=
      hs₁.1
    refine wp_mono hpeer fun peerResult s₂ hs₂ => ?_
    simp only [andThen_ok, wp_modify, wp_bind, wp_ofResult]
    cases inputResult with
    | error e => exact hs₂
    | ok _ => exact hs₂

/-- Input that cannot be injected closes the session, which releases its buttons. -/
theorem closeOnInputFailure_pressed {α : Type} {m : SessionM α} {s : HostPeerSession}
    {Q : α → HostPeerSession → Prop}
    (h : wp m (fun r s' => s'.state = .connected ∧ ∀ a, r = .ok a → Q a s') s) :
    wp (closeOnInputFailure m)
      (fun r s' => ClosedEmpty s' ∧ ∀ a, r = .ok a → Q a s') s := by
  unfold closeOnInputFailure
  rw [wp_bind, wp_outcome]
  refine wp_mono h ?_
  rintro (e | a) s' ⟨hstate, hok⟩
  · simp only [andThen_ok, wp_bind, wp_onlyIf, wp_outcome, wp_throw]
    refine ⟨fun _ => ?_, fun _ => ⟨.of_connected hstate, by intros; contradiction⟩⟩
    exact wp_mono (close_pressed (.of_connected hstate)) fun _ _ hpressed =>
      ⟨fun _ => hpressed, by intros; contradiction⟩
  · exact ⟨.of_connected hstate, hok⟩

/-- An event that the Host applies without closing leaves its session as `Q` says. -/
theorem receive_pressed {event : ReliableInputEvent} {s : HostPeerSession}
    {Q : HostPeerSession → Prop} (hready : Ready s)
    (h : wp (applyReliableEvent event)
      (fun r s' => s'.state = .connected ∧ ∀ a, r = .ok a → a = false ∧ Q s') s) :
    wp (receive event) (fun r s' => ClosedEmpty s' ∧ (r = .ok () → Q s')) s := by
  unfold receive
  rw [wp_bind]
  refine wp_mono (requireInputReady_spec s) ?_
  rintro (e | _) _ ⟨rfl, hok⟩
  · cases hok.mpr hready
  rw [andThen_ok, wp_bind]
  refine wp_mono (closeOnInputFailure_pressed h) ?_
  rintro (e | shouldClose) s' ⟨hclosed, hok⟩
  · exact ⟨hclosed, nofun⟩
  · obtain ⟨rfl, hQ⟩ := hok shouldClose rfl
    rw [andThen_ok]
    exact ⟨hclosed, fun _ => hQ⟩

/-- What the Host refuses ends the session, which releases its buttons. -/
theorem deliver_pressed {event : ReliableInputEvent} {s : HostPeerSession}
    {Q : HostPeerSession → Prop}
    (h : wp (receive event) (fun r s' => ClosedEmpty s' ∧ (r = .ok () → Q s')) s) :
    wp (deliver event) (fun _ s' => Q s' ∨ s'.pressedButtons = ∅) s := by
  unfold deliver
  rw [wp_bind, wp_outcome]
  refine wp_mono h ?_
  rintro (e | _) s' ⟨hclosed, hok⟩
  · simp only [andThen_ok, wp_bind, wp_outcome]
    exact wp_mono (close_pressed hclosed) fun _ _ hpressed => .inr hpressed
  · exact .inl (hok rfl)

theorem PointerButton.ofInt32?_toInt32 (button : PointerButton) :
    PointerButton.ofInt32? button.toInt32 = some button := by
  cases button <;> decide

/-- A session that is not ready for input refuses it. -/
theorem receive_not_ready {event : ReliableInputEvent} {s : HostPeerSession}
    {Q : HostPeerSession → Prop} (hready : ¬ Ready s) (hclosed : ClosedEmpty s) :
    wp (receive event) (fun r s' => ClosedEmpty s' ∧ (r = .ok () → Q s')) s := by
  unfold receive
  refine wp_mono (not_ready_spec hready) ?_
  rintro (e | _) _ ⟨rfl, hok⟩
  · exact ⟨hclosed, nofun⟩
  · exact nomatch hok

/-- A sink call keeps everything but the record of the calls, and its success is not the
end of the session. -/
theorem callInput_then {Q : Except HostWebRtcError Bool → HostPeerSession → Prop}
    {s : HostPeerSession} (call : SinkCall)
    (h : ∀ (r : Except HostWebRtcError Bool) (input : RemoteInputSink),
      (∀ a, r = .ok a → a = false) → Q r { s with input }) :
    wp (callInput call) (andThen (fun _ => pure false) Q) s := by
  change andThen _ Q (s.input.respond (s.input.calls ++ [call]))
    { s with input := { s.input with calls := s.input.calls ++ [call] } }
  cases s.input.respond (s.input.calls ++ [call]) with
  | error e => exact h (.error e) _ nofun
  | ok _ => exact h _ _ fun _ hok => (Except.ok.inj hok).symm

theorem applyButton_down (button : PointerButton)
    (position : RemotePointerPosition) (hfree : button.toInt32 ∉ s.pressedButtons)
    {Q : Except HostWebRtcError Bool → HostPeerSession → Prop}
    (h : ∀ (r : Except HostWebRtcError Bool) (input : RemoteInputSink),
      (∀ a, r = .ok a → a = false) →
      Q r { s with pressedButtons := insert button.toInt32 s.pressedButtons, input }) :
    wp (applyReliableEvent (buttonEvent button true position)) Q s := by
  have haction : ButtonAction.ofInt32? (ButtonAction.toInt32 .down) = some .down := by decide
  simp only [buttonEvent, if_pos, applyReliableEvent,
    applyPointerButton, wp_bind, position.inRange, wp_ofResult, andThen_ok,
    PointerButton.ofInt32?_toInt32, haction, wp_orThrow, wp_get, Option.some.injEq, forall_eq',
    reduceCtorEq, false_implies, and_true, wp_require, wp_modify]
  exact ⟨fun _ => callInput_then _ h, fun hpressed => absurd hfree hpressed⟩

theorem applyButton_up (button : PointerButton) (position : RemotePointerPosition)
    {Q : Except HostWebRtcError Bool → HostPeerSession → Prop}
    (hdown : button.toInt32 ∈ s.pressedButtons →
      ∀ (r : Except HostWebRtcError Bool) (input : RemoteInputSink),
      (∀ a, r = .ok a → a = false) →
      Q r { s with pressedButtons := s.pressedButtons.erase button.toInt32, input })
    (hup : button.toInt32 ∉ s.pressedButtons → Q (.ok false) s) :
    wp (applyReliableEvent (buttonEvent button false position)) Q s := by
  have haction : ButtonAction.ofInt32? (ButtonAction.toInt32 .up) = some .up := by decide
  simp only [buttonEvent, Bool.false_eq_true, if_false, applyReliableEvent,
    applyPointerButton, wp_bind, position.inRange, wp_ofResult, andThen_ok,
    PointerButton.ofInt32?_toInt32, haction, wp_orThrow, wp_get, Option.some.injEq, forall_eq',
    reduceCtorEq, false_implies, and_true, wp_onlyIf, wp_modify]
  exact ⟨fun hpressed => callInput_then _ (hdown hpressed), hup⟩

/-- A button that is up goes down. -/
theorem deliver_down (hfree : s.pressedButtons = ∅) (button : PointerButton)
    (position : RemotePointerPosition) :
    wp (deliver (buttonEvent button true position)) (fun _ s' =>
      (Ready s' ∧ s'.pressedButtons = {button.toInt32}) ∨
        s'.pressedButtons = ∅) s := by
  refine deliver_pressed ?_
  by_cases hready : Ready s
  · refine receive_pressed hready (applyButton_down button position (by simp [hfree]) ?_)
    intro r input hr
    refine ⟨hready.connected, fun a ha => ⟨hr a ha, ⟨hready.connected, hready.allowed⟩, ?_⟩⟩
    rw [hfree]
    rfl
  · exact receive_not_ready hready fun _ => hfree

/-- The button that is down goes up. -/
theorem deliver_up (hready : Ready s)
    {button : PointerButton} (hdown : s.pressedButtons = {button.toInt32})
    (position : RemotePointerPosition) :
    wp (deliver (buttonEvent button false position)) (fun _ s' => s'.pressedButtons = ∅) s := by
  have hdelivered : wp (deliver (buttonEvent button false position))
      (fun _ s' => s'.pressedButtons = ∅ ∨ s'.pressedButtons = ∅) s := by
    refine deliver_pressed (receive_pressed hready (applyButton_up button position ?_ ?_))
    · intro _ r input hr
      refine ⟨hready.connected, fun a ha => ⟨hr a ha, ?_⟩⟩
      rw [hdown, Finset.erase_singleton]
    · intro hup
      exact absurd (by rw [hdown]; exact Finset.mem_singleton_self _) hup
  exact wp_mono hdelivered fun _ _ h => h.elim id id

/-- Releasing another button changes nothing. -/
theorem deliver_other (hready : Ready s)
    {button : PointerButton} (hup : button.toInt32 ∉ s.pressedButtons)
    (position : RemotePointerPosition) :
    wp (deliver (buttonEvent button false position)) (fun _ s' => s' = s) s := by
  unfold deliver receive
  rw [wp_bind, wp_outcome, wp_bind]
  refine wp_mono (requireInputReady_spec s) ?_
  rintro (e | _) _ ⟨rfl, hok⟩
  · cases hok.mpr hready
  rw [andThen_ok, wp_bind, closeOnInputFailure, wp_bind, wp_outcome]
  refine applyButton_up button position (fun hdown => absurd hdown hup) fun _ => ?_
  simp only [andThen_ok, wp_pure, wp_onlyIf]
  exact ⟨by intros; contradiction, fun _ => trivial⟩

/-- A release leaves nothing pressed. -/
theorem deliver_release (hclosed : ClosedEmpty s) :
    wp (deliver .releaseAllInput) (fun _ s' => s'.pressedButtons = ∅) s := by
  have hdelivered : wp (deliver .releaseAllInput)
      (fun _ s' => s'.pressedButtons = ∅ ∨ s'.pressedButtons = ∅) s := by
    refine deliver_pressed ?_
    by_cases hready : HostPeerSession.Ready s
    · refine receive_pressed hready ?_
      rw [HostPeerSession.applyReliableEvent, wp_bind]
      refine wp_mono (releaseAll_pressed s) ?_
      rintro (e | _) s' ⟨hpressed, hstate, -⟩
      · exact ⟨hstate.trans hready.connected, nofun⟩
      · exact ⟨hstate.trans hready.connected, fun a ha => ⟨(Except.ok.inj ha).symm, hpressed⟩⟩
    · exact receive_not_ready hready hclosed
  exact wp_mono hdelivered fun _ _ h => h.elim id id

/-! ## Runs -/

/-- At most one button is down at the Host, and its session takes input then. -/
inductive HostHolds (host : HostPeerSession) : Prop where
  | nothing (h : host.pressedButtons = ∅)
  | one (button : PointerButton) (hready : Ready host)
      (h : host.pressedButtons = {button.toInt32})

theorem HostHolds.closedEmpty {host : HostPeerSession} (h : HostHolds host) : ClosedEmpty host := by
  cases h with
  | nothing h => exact fun _ => h
  | one button hready h => exact .of_connected hready.connected

/-- Nothing is down at the Host without a connection or a local button. -/
structure Sound (s : DesktopPointer) : Prop where
  holds : HostHolds s.host
  disconnected : s.connected = false → s.host.pressedButtons = ∅
  released : s.held = 0 → s.host.pressedButtons = ∅

/-- The end of a contact does not release the button that is down at the Host: it falls
outside the video, or another button is the first one that the page has seen last. -/
def UpMisses (s : DesktopPointer) : PointerInput → Prop
  | .up position => s.held ≠ 0 ∧ ∃ button : PointerButton,
      s.host.pressedButtons = {button.toInt32} ∧
      ¬ (position.isSome ∧ pointerButton? s.pressedButtonBits = some button)
  | _ => False

/-- A button goes down only while none is. -/
def DownFree (s : DesktopPointer) (output : PointerOutput) : Prop :=
  ∀ button x y,
    output.reliable = some (.pointerButton button (ButtonAction.toInt32 .down) x y) →
    s.host.pressedButtons = ∅

theorem changedBits_up (bits : UInt32) : changedBits (protocolButtonBits 0) bits false = bits := by
  have hbits : protocolButtonBits 0 = 0 := by decide
  rw [hbits]
  simp [changedBits]

theorem sendMove_reliable (s : DesktopPointer) :
    (sendMove position s).reliable = none := by
  unfold sendMove
  cases position with
  | none => rfl
  | some position =>
    dsimp only
    split
    · rfl
    · rfl

theorem DownFree.of_none {s : DesktopPointer} {output : PointerOutput}
    (h : output.reliable = none) : DownFree s output := by
  intro button x y heq
  rw [h] at heq
  cases heq

/-- A release leaves nothing down. -/
theorem releaseAll_sound {s : DesktopPointer} (holds : HostHolds s.host)
    (hdisconnected : s.connected = false → s.host.pressedButtons = ∅) :
    Sound (releaseAll s).1 ∧ DownFree s (releaseAll s).2 := by
  unfold releaseAll
  dsimp only
  split
  · have hpressed : (deliver .releaseAllInput s.host).2.pressedButtons = ∅ :=
      deliver_release holds.closedEmpty
    exact ⟨⟨.nothing hpressed, fun _ => hpressed, fun _ => hpressed⟩, nofun⟩
  · next hconnected =>
    have hpressed := hdisconnected (Bool.eq_false_iff.mpr hconnected)
    exact ⟨⟨.nothing hpressed, fun _ => hpressed, fun _ => hpressed⟩, .of_none rfl⟩

/-- The start of a contact presses a button while none is down. -/
theorem down_sound {s : DesktopPointer} (hs : Sound s) (hheld : s.held = 0)
    (position : Option RemotePointerPosition) {buttons : Nat} (hbuttons : buttons ≠ 0) :
    Sound (button position buttons true { s with held := buttons }).1 ∧
      DownFree s (button position buttons true { s with held := buttons }).2 := by
  have hempty := hs.released hheld
  have hsame : Sound { s with held := buttons } := ⟨hs.holds, hs.disconnected, fun _ => hempty⟩
  unfold button
  cases position with
  | none => exact ⟨hsame, .of_none rfl⟩
  | some position =>
    dsimp only
    split
    · split
      · exact ⟨⟨hs.holds, hs.disconnected, fun _ => hempty⟩, .of_none rfl⟩
      · next hconnected _ pressed _ =>
        refine ⟨?_, fun _ _ _ _ => hempty⟩
        have hdelivered := deliver_down hempty pressed position
        refine ⟨?_, fun hdisconnected => ?_, fun hzero => absurd hzero hbuttons⟩
        · rcases hdelivered with ⟨hready, hpressed⟩ | hpressed
          · exact .one pressed hready hpressed
          · exact .nothing hpressed
        · exact nomatch hconnected.symm.trans hdisconnected
    · exact ⟨hsame, .of_none rfl⟩

theorem toInt32_injective {b b' : PointerButton} (h : b.toInt32 = b'.toInt32) : b = b' := by
  have hb := PointerButton.ofInt32?_toInt32 b
  rw [h, PointerButton.ofInt32?_toInt32] at hb
  exact (Option.some.inj hb).symm

/-- Releasing a button while none is down leaves none. -/
theorem deliver_up_nothing (hempty : s.pressedButtons = ∅)
    (button : PointerButton) (position : RemotePointerPosition) :
    wp (deliver (buttonEvent button false position)) (fun _ s' => s'.pressedButtons = ∅) s := by
  by_cases hready : Ready s
  · refine wp_mono (deliver_other hready (by simp [hempty]) position) ?_
    rintro _ _ rfl
    exact hempty
  · have hrefused : wp (deliver (buttonEvent button false position))
        (fun _ s' => s'.pressedButtons = ∅ ∨ s'.pressedButtons = ∅) s :=
      deliver_pressed (receive_not_ready hready fun _ => hempty)
    exact wp_mono hrefused fun _ _ h => h.elim id id

/-- What the end of a contact on the video sends. -/
theorem button_up {s : DesktopPointer} (hconnected : s.connected = true)
    (position : RemotePointerPosition) :
    button (some position) 0 false s =
      match pointerButton? s.pressedButtonBits with
      | none => ({ s with pressedButtonBits := 0 }, quiet)
      | some button =>
        send (buttonEvent button false position) { s with pressedButtonBits := 0 } := by
  have hbits : protocolButtonBits 0 = 0 := by decide
  unfold button
  dsimp only
  rw [if_pos hconnected, changedBits_up, hbits]

/-- The end of a contact sends no button that goes down. -/
theorem up_downFree (s s' : DesktopPointer) (position : Option RemotePointerPosition) :
    DownFree s (button position 0 false s').2 := by
  cases position with
  | none => exact .of_none rfl
  | some position =>
    by_cases hconnected : s'.connected = true
    · rw [button_up hconnected]
      split
      · exact .of_none rfl
      · intro button x y heq
        simp only [send, buttonEvent, Option.some.injEq, ReliableInputEvent.pointerButton.injEq]
          at heq
        exact absurd heq.2.1 (by decide)
    · rw [button, if_neg hconnected]
      exact .of_none rfl

/-- Without a button down at the Host the end of a contact leaves none. -/
theorem up_nothing {s : DesktopPointer} (hempty : s.host.pressedButtons = ∅)
    (position : Option RemotePointerPosition) :
    (button position 0 false s).1.host.pressedButtons = ∅ := by
  cases position with
  | none => exact hempty
  | some position =>
    by_cases hconnected : s.connected = true
    · rw [button_up hconnected]
      split
      · exact hempty
      · exact deliver_up_nothing hempty _ position
    · rw [button, if_neg hconnected]
      exact hempty

theorem button_held (buttons : Nat) (down : Bool)
    (s : DesktopPointer) : (button position buttons down s).1.held = s.held := by
  unfold button
  cases position with
  | none => rfl
  | some position =>
    dsimp only
    split
    · split
      · rfl
      · rfl
    · rfl

/-- The end of a contact releases the button that is down unless it misses. -/
theorem up_released {s : DesktopPointer} (hs : Sound s) (hheld : s.held ≠ 0)
    (position : Option RemotePointerPosition) :
    UpMisses s (.up position) ↔
      (button position 0 false { s with held := 0 }).1.host.pressedButtons ≠ ∅ := by
  cases hs.holds with
  | nothing hempty =>
    refine iff_of_false ?_ fun hne => hne (up_nothing (s := { s with held := 0 }) hempty position)
    rintro ⟨-, down, hdown, -⟩
    rw [hempty] at hdown
    exact Finset.singleton_ne_empty _ hdown.symm
  | one down hready hdown =>
    have hne : s.host.pressedButtons ≠ ∅ := by
      rw [hdown]
      exact Finset.singleton_ne_empty _
    have hconnected : s.connected = true := by
      by_contra hdisconnected
      exact hne (hs.disconnected (Bool.eq_false_iff.mpr hdisconnected))
    have hmisses : UpMisses s (.up position) ↔
        ¬ (position.isSome ∧ pointerButton? s.pressedButtonBits = some down) := by
      refine ⟨fun ⟨_, down', hdown', hmiss⟩ => ?_, fun hmiss => ⟨hheld, down, hdown, hmiss⟩⟩
      obtain rfl := toInt32_injective (Finset.singleton_injective (hdown.symm.trans hdown'))
      exact hmiss
    rw [hmisses]
    cases position with
    | none => exact iff_of_true (fun h => nomatch h.1) hne
    | some position =>
      rw [button_up (s := { s with held := 0 }) hconnected]
      cases hbutton : pointerButton? s.pressedButtonBits with
      | none => exact iff_of_true (fun h => nomatch h.2) hne
      | some released =>
        by_cases hsame : released = down
        · subst hsame
          refine iff_of_false (fun h => h ⟨rfl, rfl⟩) fun hpressed => hpressed ?_
          exact deliver_up hready hdown position
        · refine iff_of_true (fun h => hsame (Option.some.inj h.2)) ?_
          have hother : (deliver (buttonEvent released false position) s.host).2 =
              s.host := by
            refine deliver_other hready (fun hmem => ?_) position
            rw [hdown, Finset.mem_singleton] at hmem
            exact hsame (toInt32_injective hmem)
          change (deliver (buttonEvent released false position) s.host).2.pressedButtons ≠ ∅
          rwa [hother]

/-- One event: a button goes down only while none is, and nothing stays down without a
local button exactly if the end of a contact does not miss. -/
theorem step_held {s : DesktopPointer} (hs : Sound s) (input : PointerInput) :
    DownFree s (step s input).2 ∧
      (¬ UpMisses s input → Sound (step s input).1) ∧
      (UpMisses s input → (step s input).1.held = 0 ∧
        (step s input).1.host.pressedButtons ≠ ∅) := by
  cases input with
  | hover position =>
    unfold step
    dsimp only
    split
    · exact ⟨.of_none (sendMove_reliable position s), fun _ => hs, fun h => h.elim⟩
    · exact ⟨.of_none rfl, fun _ => hs, fun h => h.elim⟩
  | down position buttons =>
    unfold step
    dsimp only
    split
    · next hfirst =>
      obtain ⟨hsound, hdown⟩ := down_sound hs hfirst.1 position hfirst.2
      exact ⟨hdown, fun _ => hsound, fun h => h.elim⟩
    · exact ⟨.of_none rfl, fun _ => hs, fun h => h.elim⟩
  | move position buttons =>
    unfold step
    dsimp only
    split
    · next hmove =>
      exact ⟨.of_none (sendMove_reliable position _), fun _ => ⟨hs.holds, hs.disconnected,
        fun hzero => absurd hzero hmove.2⟩, fun h => h.elim⟩
    · exact ⟨.of_none rfl, fun _ => hs, fun h => h.elim⟩
  | up position =>
    by_cases hheld : s.held = 0
    · rw [step, if_neg fun hne => hne hheld]
      exact ⟨.of_none rfl, fun _ => hs, fun h => absurd hheld h.1⟩
    · rw [step, if_pos hheld]
      have hreleased := up_released hs hheld position
      refine ⟨up_downFree _ _ _, fun hmiss => ?_, fun hmiss =>
        ⟨button_held _ _ _ _, hreleased.mp hmiss⟩⟩
      rw [hreleased, not_not] at hmiss
      exact ⟨.nothing hmiss, fun _ => hmiss, fun _ => hmiss⟩
  | cancel =>
    obtain ⟨hsound, hdown⟩ := releaseAll_sound (s := { s with held := 0 }) hs.holds
      hs.disconnected
    exact ⟨hdown, fun _ => hsound, fun h => h.elim⟩
  | focusLost =>
    obtain ⟨hsound, hdown⟩ := releaseAll_sound hs.holds hs.disconnected
    exact ⟨hdown, fun _ => hsound, fun h => h.elim⟩
  | disconnected =>
    have hpressed : (HostPeerSession.releaseAll s.host).2.pressedButtons = ∅ :=
      (releaseAll_pressed s.host).1
    exact ⟨.of_none rfl, fun _ => ⟨.nothing hpressed, fun _ => hpressed, fun _ => hpressed⟩,
      fun h => h.elim⟩
  | connected session =>
    exact ⟨.of_none rfl, fun _ => ⟨.nothing session.2, fun _ => session.2, fun _ => session.2⟩,
      fun h => h.elim⟩

/-- An event that presses only what is up and leaves nothing down without a local
button. -/
structure Balanced (e : Occurrence DesktopPointer PointerInput PointerOutput) : Prop where
  down : ∀ button x y,
    e.output.reliable = some (.pointerButton button (ButtonAction.toInt32 .down) x y) →
    button ∉ e.before.host.pressedButtons
  released : e.after.held = 0 → e.after.host.pressedButtons = ∅

theorem trace_balanced {s : DesktopPointer} (hs : Sound s) (inputs : List PointerInput) :
    (∀ e ∈ machine.trace s inputs, Balanced e) ↔
      ∀ e ∈ machine.trace s inputs, ¬ UpMisses e.before e.input := by
  induction inputs generalizing s with
  | nil => exact iff_of_true (fun _ h => nomatch h) fun _ h => nomatch h
  | cons input inputs ih =>
    obtain ⟨hdown, hkept, hmissed⟩ := step_held hs input
    rw [Machine.trace_cons, List.forall_mem_cons, List.forall_mem_cons]
    by_cases hmiss : UpMisses s input
    · obtain ⟨hheld, hpressed⟩ := hmissed hmiss
      exact iff_of_false (fun h => hpressed (h.1.released hheld)) fun h => h.1 hmiss
    · have hsound := hkept hmiss
      refine and_congr (iff_of_true ⟨?_, hsound.released⟩ hmiss) (ih hsound)
      intro button x y heq
      have hempty : s.host.pressedButtons = ∅ := hdown button x y heq
      change button ∉ s.host.pressedButtons
      rw [hempty]
      exact Finset.notMem_empty _

/-- Over every run of mouse events, positions and connections: no button is sent down that
is down at the Host and none stays down there after the last local one, exactly if every
end of a contact is on the video and the button that is down is then the first one of the
buttons seen last. -/
theorem pointer_button_balance (inputs : List PointerInput) :
    (∀ e ∈ machine.trace (initial session) inputs, Balanced e) ↔
      ∀ e ∈ machine.trace (initial session) inputs, ¬ UpMisses e.before e.input :=
  trace_balanced ⟨.nothing session.2, fun _ => session.2, fun _ => session.2⟩ inputs

/-- A session of a controller that may control, with a sink that takes everything. -/
def sampleSession : ReleasedSession where
  val :=
    { sessionId := List.replicate 16 1
      inputAllowed := true
      peer :=
        { negotiate := fun _ => .error .peerFailure, acknowledge := fun _ => .ok (), calls := [] }
      input := { respond := fun _ => .ok (), calls := [] }
      state := .connected
      lastReliableSequence := 0
      lastPointerSequence := 0
      pressedKeys := ∅
      pressedButtons := ∅
      inputCleanupPending := false }
  property := rfl

/-- A position in the middle of the video. -/
def samplePosition : RemotePointerPosition := ⟨5000, 5000, rfl⟩

/-- The second button joins the first one and outlasts it. -/
def sampleChord : List PointerInput :=
  [.connected sampleSession, .down (some samplePosition) 1, .move (some samplePosition) 3,
    .move (some samplePosition) 2, .up (some samplePosition)]

/-- The first button is still down at the Host after the chord, and it is sent down once
more. -/
theorem pressed_twice :
    (machine.run (initial sampleSession) sampleChord).held = 0 ∧
    (machine.run (initial sampleSession) sampleChord).host.pressedButtons = {1} ∧
    ¬ ∀ e ∈ machine.trace (initial sampleSession)
      (sampleChord ++ [.down (some samplePosition) 1]), Balanced e := by
  have hdown : (machine.run (initial sampleSession) sampleChord).host.pressedButtons = {1} := by
    decide +kernel
  refine ⟨by decide +kernel, hdown, fun h => ?_⟩
  rw [Machine.trace_snoc] at h
  have hlast := h _ (List.mem_append_right _ (List.mem_singleton_self _))
  refine hlast.down 1 5000 5000 (by decide +kernel) ?_
  rw [Machine.occurrence_before, hdown]
  exact Finset.mem_singleton_self _

end DesktopPointer

end Client

end Roammand
