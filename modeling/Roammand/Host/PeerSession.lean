import Mathlib.Data.Finset.Basic
import Roammand.Library.Fallible
import Roammand.Library.UInt
import Roammand.Protocol.Messages

/-!
# The peer session of the Host

A peer session owns the peer connection of one remote session and the sink that
injects its input.  It follows the connection through negotiation, connection,
reconnection and closing, and it lets input through to the sink only while it is
connected and the controller may control the Host.

Sink and peer are the platform's.  Each is embedded as a function from the calls
made so far to the answer to the last one, so that it may answer every call as it
likes.

Main results:

- Definition `HostPeerSession` with its operations.
- Theorem `beginReconnect_spec`: a session waits for its peer only after the release
  of what is pressed has succeeded.
- Theorems `handleReliable_spec` and `handlePointerFast_spec`: an envelope reaches
  the sink only in a session that is ready for input.
- Theorem `close_spec`: closing always ends in the closed state.
-/

namespace Roammand

namespace Host

open Library Protocol

/-! ## Input messages -/

/-- Largest normalized pointer coordinate. -/
def normalizedPointerMax : Int32 := 10000

/-- Smallest keyboard usage that is injected. -/
def minimumUsbHidKeyboardUsage : UInt32 := 0x04

/-- Largest keyboard usage that is injected. -/
def maximumUsbHidKeyboardUsage : UInt32 := 0xe7

/-- Largest set of modifier bits. -/
def maximumModifierBits : UInt32 := 0xff

/-- Largest set of pointer buttons. -/
def maximumPointerButtonBits : UInt32 := 0x07

/-- Largest scroll distance in either direction. -/
def maximumScrollDelta : Nat := 10000

/-- Largest text of one input event, in bytes. -/
def maximumTextInputBytes : Nat := 1024

/-- Largest session description, in bytes. -/
def maximumSdpBytes : Nat := 131072

/-- What a key does. -/
inductive KeyboardAction where
  | unspecified
  | down
  | up
  deriving DecidableEq

/-- The value of a keyboard action on the wire. -/
def KeyboardAction.toInt32 : KeyboardAction → Int32
  | .unspecified => 0
  | .down => 1
  | .up => 2

variable (value : Int32)

/-- The keyboard action of a wire value. -/
def KeyboardAction.ofInt32? : Option KeyboardAction :=
  if value = 0 then some .unspecified
  else if value = 1 then some .down
  else if value = 2 then some .up
  else none

/-- The buttons of a pointer. -/
inductive PointerButton where
  | unspecified
  | left
  | right
  | middle
  deriving DecidableEq

/-- The value of a pointer button on the wire. -/
def PointerButton.toInt32 : PointerButton → Int32
  | .unspecified => 0
  | .left => 1
  | .right => 2
  | .middle => 3

/-- The pointer button of a wire value. -/
def PointerButton.ofInt32? : Option PointerButton :=
  if value = 0 then some .unspecified
  else if value = 1 then some .left
  else if value = 2 then some .right
  else if value = 3 then some .middle
  else none

theorem PointerButton.eq_toInt32 {value : Int32} {button : PointerButton}
    (h : ofInt32? value = some button) : value = button.toInt32 := by
  unfold ofInt32? at h
  split_ifs at h with h0 h1 h2 h3
  · cases h; exact h0
  · cases h; exact h1
  · cases h; exact h2
  · cases h; exact h3

/-- What a pointer button does. -/
inductive ButtonAction where
  | unspecified
  | down
  | up
  | click
  | doubleClick
  deriving DecidableEq

/-- The value of a button action on the wire. -/
def ButtonAction.toInt32 : ButtonAction → Int32
  | .unspecified => 0
  | .down => 1
  | .up => 2
  | .click => 3
  | .doubleClick => 4

/-- The button action of a wire value. -/
def ButtonAction.ofInt32? : Option ButtonAction :=
  if value = 0 then some .unspecified
  else if value = 1 then some .down
  else if value = 2 then some .up
  else if value = 3 then some .click
  else if value = 4 then some .doubleClick
  else none

/-- What a controller asks of the session as a whole. -/
inductive SessionControlAction where
  | unspecified
  | close
  | emergencyStop

/-- The value of a session control action on the wire. -/
def SessionControlAction.ofInt32? : Option SessionControlAction :=
  if value = 0 then some .unspecified
  else if value = 1 then some .close
  else if value = 2 then some .emergencyStop
  else none

/-- The events of the reliable input channel. -/
inductive ReliableInputEvent where
  | keyboard (action : Int32) (usbHidUsage modifierBits : UInt32)
  | pointerButton (button action : Int32) (x y : Int32)
  | text (text : String)
  | releaseAllInput
  | sessionControl (action : Int32)
  deriving DecidableEq

/-- An envelope of the reliable input channel. -/
structure ReliableInputEnvelope where
  sessionId : Bytes
  sequence : UInt64
  event : Option ReliableInputEvent
  deriving DecidableEq

/-- The events of the fast pointer channel. -/
inductive PointerFastEvent where
  | move (x y : Int32) (pressedButtonBits : UInt32)
  | scroll (deltaX deltaY : Int32)
  deriving DecidableEq

/-- An envelope of the fast pointer channel. -/
structure PointerFastEnvelope where
  sessionId : Bytes
  sequence : UInt64
  event : Option PointerFastEvent
  deriving DecidableEq

/-! ## The platform -/

/-- The errors of a peer session. -/
inductive HostWebRtcError where
  | invalidSession
  | invalidPermissions
  | invalidState
  | invalidSdp
  | invalidAnswer
  | peerFailure
  | inputFailure
  | inputPermissionDenied
  | invalidInputEnvelope
  | sessionMismatch
  | reliableSequence
  | invalidCoordinates
  | invalidKeyboardUsage
  | invalidModifierBits
  | invalidPointerButtons
  | invalidScrollDelta
  | pressedInputState
  | deviceBusy
  | invalidLease
  deriving DecidableEq

/-- A call of the input sink. -/
inductive SinkCall where
  | keyboard (action : KeyboardAction) (usbHidUsage modifierBits : UInt32)
  | pointerButton (button : PointerButton) (action : ButtonAction) (x y : Int32)
  | pointerMove (x y : Int32) (pressedButtonBits : UInt32)
  | pointerScroll (deltaX deltaY : Int32)
  | text (text : String)
  | releaseAll
  deriving DecidableEq

/-- Whether a call injects input of the controller: every call but the release of
what is pressed. -/
def SinkCall.isInput : SinkCall → Bool
  | .releaseAll => false
  | _ => true

/-- An input sink: its answer to the last of the calls made to it. -/
structure RemoteInputSink where
  respond : List SinkCall → Except HostWebRtcError Unit
  calls : List SinkCall

/-- A candidate address of a peer. -/
structure PeerIceCandidate where
  candidate : String
  sdpMid : String
  sdpMLineIndex : UInt32
  deriving DecidableEq

/-- The answer of a peer to an offer. -/
structure PeerAnswer where
  sdp : String
  dtlsFingerprintSha256 : Bytes

/-- A call of the peer backend. -/
inductive PeerCall where
  | start (offerSdp : String)
  | restart (offerSdp : String)
  | addRemoteIceCandidate (candidate : PeerIceCandidate)
  | close
  deriving DecidableEq

/-- A peer backend: its answer to the last of the calls made to it, for the calls
that negotiate and for those that do not. -/
structure PeerBackend where
  negotiate : List PeerCall → Except HostWebRtcError PeerAnswer
  acknowledge : List PeerCall → Except HostWebRtcError Unit
  calls : List PeerCall

/-! ## The session -/

/-- How far a session has come. -/
inductive HostSessionState where
  | new
  | negotiating
  | connected
  | reconnecting
  | closing
  | closed
  deriving DecidableEq

/-- An envelope of the reliable channel has been applied. -/
inductive InputDisposition where
  | applied

/-- An envelope of the fast channel has been applied, or was too old. -/
inductive PointerDisposition where
  | applied
  | droppedStale

/-- The peer session of one remote session. -/
structure HostPeerSession where
  sessionId : Bytes
  inputAllowed : Bool
  peer : PeerBackend
  input : RemoteInputSink
  state : HostSessionState
  lastReliableSequence : UInt64
  lastPointerSequence : UInt64
  pressedKeys : Finset UInt32
  pressedButtons : Finset Int32
  inputCleanupPending : Bool

/-- A method of the peer session. -/
abbrev SessionM := Fallible HostPeerSession HostWebRtcError

/-- View is granted, nothing is granted twice, and nothing is unspecified. -/
def validatePermissions (permissions : List SessionPermission) : Except HostWebRtcError Unit := do
  ensure (permissions ≠ [] ∧ .viewScreen ∈ permissions ∧ .unspecified ∉ permissions)
    .invalidPermissions
  ensure permissions.Nodup .invalidPermissions

/-- Both coordinates are in the normalized range. -/
def validateCoordinates (x y : Int32) : Except HostWebRtcError Unit :=
  ensure ((0 ≤ x ∧ x ≤ normalizedPointerMax) ∧ 0 ≤ y ∧ y ≤ normalizedPointerMax)
    .invalidCoordinates

/-- Usage and modifiers are ones that a keyboard has. -/
def validateKeyboard (usage modifierBits : UInt32) : Except HostWebRtcError Unit := do
  ensure (minimumUsbHidKeyboardUsage ≤ usage ∧ usage ≤ maximumUsbHidKeyboardUsage)
    .invalidKeyboardUsage
  ensure (modifierBits ≤ maximumModifierBits) .invalidModifierBits

/-- A description that is neither empty nor too long. -/
def validSdp (sdp : String) : Bool :=
  sdp ≠ "" ∧ sdp.utf8ByteSize ≤ maximumSdpBytes

/-- An answer that can be sent. -/
def validAnswer (answer : PeerAnswer) : Bool :=
  validSdp answer.sdp ∧ answer.dtlsFingerprintSha256.length = nonceOrHashBytes

namespace HostPeerSession

open Fallible

/-- A session that has not been negotiated. -/
def new (sessionId : Bytes) (permissions : List SessionPermission) (peer : PeerBackend)
    (input : RemoteInputSink) : Except HostWebRtcError HostPeerSession := do
  ensure (sessionId.length = sessionIdBytes) .invalidSession
  validatePermissions permissions
  return {
    sessionId
    inputAllowed := permissions.contains .controlInput
    peer
    input
    state := .new
    lastReliableSequence := 0
    lastPointerSequence := 0
    pressedKeys := ∅
    pressedButtons := ∅
    inputCleanupPending := false }

/-- Call the sink. -/
def callInput (call : SinkCall) : SessionM Unit := fun s =>
  let calls := s.input.calls ++ [call]
  (s.input.respond calls, { s with input := { s.input with calls } })

variable (offerSdp : String) (call : PeerCall)

/-- Call the peer for an answer. -/
def callNegotiate : SessionM PeerAnswer := fun s =>
  let calls := s.peer.calls ++ [call]
  (s.peer.negotiate calls, { s with peer := { s.peer with calls } })

/-- Call the peer for something it only acknowledges. -/
def callPeer : SessionM Unit := fun s =>
  let calls := s.peer.calls ++ [call]
  (s.peer.acknowledge calls, { s with peer := { s.peer with calls } })

/-- Release everything that is pressed. -/
def releaseAll : SessionM Unit := do
  let result ← outcome (callInput .releaseAll)
  modify fun s => { s with
    inputCleanupPending := !result.isOk
    pressedKeys := ∅
    pressedButtons := ∅ }
  ofResult result

/-- Release all input and close the peer.  A closed session only retries a release
that has failed. -/
def close : SessionM Unit := do
  let s ← get
  if s.state = .closed then
    if s.inputCleanupPending then releaseAll else pure ()
  else do
    modify fun s => { s with state := .closing }
    let inputResult ← outcome releaseAll
    let peerResult ← outcome (callPeer .close)
    modify fun s => { s with state := .closed }
    ofResult inputResult
    ofResult peerResult

/-- Start the peer on the first offer. -/
def acceptOffer : SessionM PeerAnswer := do
  let s ← get
  require (s.state = .new) .invalidState
  require (validSdp offerSdp) .invalidSdp
  let result ← outcome (callNegotiate (.start offerSdp))
  match result with
  | .error error => do
    let _ ← outcome close
    throw error
  | .ok answer =>
    if validAnswer answer then do
      modify fun s => { s with state := .negotiating }
      return answer
    else do
      let _ ← outcome close
      throw .invalidAnswer

/-- The peer is connected.  A repeated notice changes nothing. -/
def markConnected : SessionM Unit := do
  let s ← get
  require (s.state = .negotiating ∨ s.state = .connected ∨ s.state = .reconnecting) .invalidState
  modify fun s => { s with state := .connected }

/-- Release what is pressed and wait for the peer to come back. -/
def beginReconnect : SessionM Unit := do
  let s ← get
  if s.state = .reconnecting then pure ()
  else do
    require (s.state = .connected ∨ s.state = .negotiating) .invalidState
    releaseAll
    modify fun s => { s with state := .reconnecting }

/-- Apply a new offer to the peer that is there. -/
def acceptReconnectOffer : SessionM PeerAnswer := do
  let s ← get
  require (s.state = .reconnecting ∨ s.state = .negotiating) .invalidState
  require (validSdp offerSdp) .invalidSdp
  modify fun s => { s with state := .reconnecting }
  let answer ← callNegotiate (.restart offerSdp)
  require (validAnswer answer) .invalidAnswer
  modify fun s => { s with state := .negotiating }
  return answer

/-- Hand a candidate to the peer. -/
def addRemoteIceCandidate (candidate : PeerIceCandidate) : SessionM Unit := do
  let s ← get
  require (s.state = .negotiating ∨ s.state = .connected) .invalidState
  callPeer (.addRemoteIceCandidate candidate)

/-- Input is let through in a connected session of a controller that may control. -/
def requireInputReady : SessionM Unit := do
  let s ← get
  require (s.state = .connected) .invalidState
  require (s.inputAllowed = true) .inputPermissionDenied

/-- A key goes down once; releasing a key that is up does nothing. -/
def applyKeyboard (action : Int32) (usbHidUsage modifierBits : UInt32) : SessionM Unit := do
  let action ← orThrow (KeyboardAction.ofInt32? action) .invalidInputEnvelope
  ofResult (validateKeyboard usbHidUsage modifierBits)
  let s ← get
  match action with
  | .down => do
    require (usbHidUsage ∉ s.pressedKeys) .pressedInputState
    modify fun s => { s with pressedKeys := insert usbHidUsage s.pressedKeys }
    callInput (.keyboard action usbHidUsage modifierBits)
  | .up =>
    onlyIf (usbHidUsage ∈ s.pressedKeys) do
      modify fun s => { s with pressedKeys := s.pressedKeys.erase usbHidUsage }
      callInput (.keyboard action usbHidUsage modifierBits)
  | .unspecified => throw .invalidInputEnvelope

/-- A button goes down once; releasing a button that is up does nothing. -/
def applyPointerButton (button action : Int32) (x y : Int32) : SessionM Unit := do
  ofResult (validateCoordinates x y)
  let pointerButton ← orThrow (PointerButton.ofInt32? button) .invalidInputEnvelope
  let action ← orThrow (ButtonAction.ofInt32? action) .invalidInputEnvelope
  let s ← get
  match action with
  | .down => do
    require (button ∉ s.pressedButtons) .pressedInputState
    modify fun s => { s with pressedButtons := insert button s.pressedButtons }
    callInput (.pointerButton pointerButton action x y)
  | .up =>
    onlyIf (button ∈ s.pressedButtons) do
      modify fun s => { s with pressedButtons := s.pressedButtons.erase button }
      callInput (.pointerButton pointerButton action x y)
  | .click | .doubleClick => callInput (.pointerButton pointerButton action x y)
  | .unspecified => throw .invalidInputEnvelope

/-- Apply an event; the result says whether the session is to be closed. -/
def applyReliableEvent : ReliableInputEvent → SessionM Bool
  | .keyboard action usbHidUsage modifierBits => do
    applyKeyboard action usbHidUsage modifierBits
    return false
  | .pointerButton button action x y => do
    applyPointerButton button action x y
    return false
  | .text text => do
    require (text ≠ "" ∧ text.utf8ByteSize ≤ maximumTextInputBytes) .invalidInputEnvelope
    callInput (.text text)
    return false
  | .releaseAllInput => do
    releaseAll
    return false
  | .sessionControl action => do
    let action ← orThrow (SessionControlAction.ofInt32? action) .invalidInputEnvelope
    match action with
    | .close | .emergencyStop => return true
    | .unspecified => throw .invalidInputEnvelope

/-- Input that the platform fails to inject closes the session. -/
def closeOnInputFailure {α : Type} (m : SessionM α) : SessionM α := do
  let result ← outcome m
  match result with
  | .ok a => return a
  | .error error => do
    onlyIf (error = .inputFailure) do
      let _ ← outcome close
    throw error

/-- Apply the next envelope of the reliable channel.  `decoded` is what the decoder
makes of the received bytes. -/
def handleReliable (decoded : Option ReliableInputEnvelope) : SessionM InputDisposition := do
  requireInputReady
  let envelope ← orThrow decoded .invalidInputEnvelope
  let s ← get
  require (envelope.sessionId = s.sessionId) .sessionMismatch
  require (envelope.sequence.toNat = saturatingAdd s.lastReliableSequence.toNat 1)
    .reliableSequence
  let event ← orThrow envelope.event .invalidInputEnvelope
  let shouldClose ← closeOnInputFailure (applyReliableEvent event)
  modify fun s => { s with lastReliableSequence := envelope.sequence }
  onlyIf (shouldClose = true) close
  return .applied

/-- The sink call of an event of the fast channel. -/
def pointerFastCall : PointerFastEvent → Except HostWebRtcError SinkCall
  | .move x y pressedButtonBits => do
    validateCoordinates x y
    ensure (pressedButtonBits ≤ maximumPointerButtonBits) .invalidPointerButtons
    return .pointerMove x y pressedButtonBits
  | .scroll deltaX deltaY => do
    ensure (deltaX.toInt.natAbs ≤ maximumScrollDelta ∧ deltaY.toInt.natAbs ≤ maximumScrollDelta)
      .invalidScrollDelta
    return .pointerScroll deltaX deltaY

/-- Apply an envelope of the fast channel, if it is the newest one. -/
def handlePointerFast (decoded : Option PointerFastEnvelope) : SessionM PointerDisposition := do
  requireInputReady
  let envelope ← orThrow decoded .invalidInputEnvelope
  let s ← get
  require (envelope.sessionId = s.sessionId) .sessionMismatch
  if envelope.sequence ≤ s.lastPointerSequence then return .droppedStale
  else do
    let event ← orThrow envelope.event .invalidInputEnvelope
    let call ← ofResult (pointerFastCall event)
    closeOnInputFailure (callInput call)
    modify fun s => { s with lastPointerSequence := envelope.sequence }
    return .applied

/-! ## What the operations keep -/

/-- The input that has reached the sink. -/
def inputs (s : HostPeerSession) : List SinkCall := s.input.calls.filter SinkCall.isInput

/-- The session lets input through. -/
structure Ready (s : HostPeerSession) : Prop where
  connected : s.state = .connected
  allowed : s.inputAllowed = true

/-- Nothing has reached the sink, and the session is still the same one. -/
structure Quiet (s s' : HostPeerSession) : Prop where
  sessionId : s'.sessionId = s.sessionId
  inputAllowed : s'.inputAllowed = s.inputAllowed
  inputs : s'.inputs = s.inputs

/-- A session that input may have passed through: it is in the state it was in, or
it is closed. -/
structure Passed (s s' : HostPeerSession) : Prop where
  sessionId : s'.sessionId = s.sessionId
  inputAllowed : s'.inputAllowed = s.inputAllowed
  state : s'.state = s.state ∨ s'.state = .closed

variable {s s' s'' : HostPeerSession}

theorem Quiet.refl (s : HostPeerSession) : Quiet s s := ⟨rfl, rfl, rfl⟩

theorem Quiet.trans (h : Quiet s s') (h' : Quiet s' s'') : Quiet s s'' :=
  ⟨h'.sessionId.trans h.sessionId, h'.inputAllowed.trans h.inputAllowed,
    h'.inputs.trans h.inputs⟩

theorem new_inputAllowed {sessionId : Bytes} {permissions : List SessionPermission}
    {peer : PeerBackend} {input : RemoteInputSink}
    (h : new sessionId permissions peer input = .ok s) :
    s.state = .new ∧ s.sessionId = sessionId ∧ s.input = input ∧
      (s.inputAllowed = true ↔ .controlInput ∈ permissions) := by
  unfold new at h
  simp only [bind_eq_ok, pure, Except.pure, Except.ok.injEq] at h
  obtain ⟨_, _, _, _, rfl⟩ := h
  exact ⟨rfl, rfl, rfl, by simp⟩

theorem releaseAll_spec (s : HostPeerSession) :
    wp releaseAll (fun r s' => Quiet s s' ∧ s'.state = s.state ∧
      r = s.input.respond (s.input.calls ++ [.releaseAll])) s := by
  unfold releaseAll
  simp only [wp_bind, wp_outcome]
  unfold callInput wp
  simp only [andThen_ok, wp_modify, wp_ofResult, wp_bind]
  refine ⟨⟨rfl, rfl, ?_⟩, trivial, trivial⟩
  simp [inputs, SinkCall.isInput]

theorem callPeer_spec (call : PeerCall) (s : HostPeerSession) :
    wp (callPeer call) (fun _ s' => Quiet s s' ∧ s'.state = s.state) s :=
  ⟨⟨rfl, rfl, rfl⟩, rfl⟩

theorem close_spec (s : HostPeerSession) :
    wp close (fun _ s' => Quiet s s' ∧ s'.state = .closed) s := by
  unfold close
  simp only [wp_bind, wp_get, andThen_ok, wp_ite]
  refine ⟨fun hclosed => ⟨fun _ => ?_, fun _ => ?_⟩, fun _ => ?_⟩
  · refine wp_mono (releaseAll_spec s) ?_
    rintro _ _ ⟨hquiet, hstate, _⟩
    exact ⟨hquiet, hstate.trans hclosed⟩
  · exact ⟨.refl s, hclosed⟩
  · simp only [wp_modify, andThen_ok, wp_bind, wp_outcome]
    refine wp_mono (releaseAll_spec _) ?_
    rintro inputResult s₁ ⟨hquiet₁, _, _⟩
    simp only [andThen_ok, wp_bind, wp_outcome]
    refine wp_mono (callPeer_spec .close s₁) ?_
    rintro peerResult s₂ ⟨hquiet₂, _⟩
    have hquiet : Quiet s { s₂ with state := .closed } := by
      have h := hquiet₁.trans hquiet₂
      exact ⟨h.sessionId, h.inputAllowed, h.inputs⟩
    simp only [andThen_ok, wp_modify, wp_bind, wp_ofResult]
    cases inputResult with
    | ok _ => exact ⟨hquiet, rfl⟩
    | error _ => exact ⟨hquiet, rfl⟩

variable (offerSdp : String)

theorem acceptOffer_spec (s : HostPeerSession) :
    wp (acceptOffer offerSdp) (fun r s' => Quiet s s' ∧
      ∀ answer, r = .ok answer → s'.state = .negotiating ∧ validAnswer answer = true) s := by
  unfold acceptOffer
  simp only [wp_bind, wp_get, andThen_ok, wp_require, wp_outcome]
  refine ⟨fun _ => ⟨fun _ => ?_, fun _ => ⟨.refl s, by intros; contradiction⟩⟩,
    fun _ => ⟨.refl s, by intros; contradiction⟩⟩
  have hcall : wp (callNegotiate (.start offerSdp)) (fun _ s' => Quiet s s') s :=
    ⟨rfl, rfl, rfl⟩
  refine wp_mono hcall ?_
  rintro (error | answer) s₁ hquiet₁
  · simp only [andThen_ok, wp_bind, wp_outcome]
    refine wp_mono (close_spec s₁) ?_
    rintro _ _ ⟨hquiet, _⟩
    exact ⟨hquiet₁.trans hquiet, (by intros; contradiction)⟩
  · simp only [andThen_ok, wp_ite, wp_bind, wp_modify, wp_pure, wp_outcome]
    refine ⟨fun hvalid => ⟨⟨hquiet₁.sessionId, hquiet₁.inputAllowed, hquiet₁.inputs⟩, ?_⟩,
      fun _ => ?_⟩
    · rintro _ ⟨⟩
      exact ⟨trivial, hvalid⟩
    refine wp_mono (close_spec s₁) ?_
    rintro _ _ ⟨hquiet, _⟩
    exact ⟨hquiet₁.trans hquiet, (by intros; contradiction)⟩

theorem markConnected_spec (s : HostPeerSession) :
    wp markConnected (fun r s' =>
      (r = .ok () ∧ s' = { s with state := .connected }) ∨ (r.isOk = false ∧ s' = s)) s := by
  unfold markConnected
  simp only [wp_bind, wp_get, andThen_ok, wp_require, wp_modify]
  exact ⟨fun _ => .inl ⟨trivial, trivial⟩, fun _ => .inr ⟨rfl, rfl⟩⟩

/-- Waiting for the peer begins exactly if the release succeeds. -/
theorem beginReconnect_spec (s : HostPeerSession) :
    wp beginReconnect (fun r s' => Quiet s s' ∧
      ((r = .ok () ∧ s'.state = .reconnecting) ∨ (r.isOk = false ∧ s'.state = s.state)) ∧
      ((s.state = .connected ∨ s.state = .negotiating) →
        (r.isOk ↔ s.input.respond (s.input.calls ++ [.releaseAll]) = .ok ()))) s := by
  unfold beginReconnect
  simp only [wp_bind, wp_get, andThen_ok, wp_ite, wp_require, wp_pure]
  refine ⟨fun hstate => ⟨.refl s, .inl ⟨trivial, hstate⟩, ?_⟩, fun _ => ⟨fun _ => ?_, ?_⟩⟩
  · rw [hstate]
    rintro (h | h) <;> cases h
  · refine wp_mono (releaseAll_spec s) ?_
    rintro r s' ⟨hquiet, hstate, hresult⟩
    rw [← hresult]
    cases r with
    | ok _ =>
      simp only [andThen_ok, wp_modify]
      exact ⟨⟨hquiet.sessionId, hquiet.inputAllowed, hquiet.inputs⟩, .inl ⟨trivial, trivial⟩,
        fun _ => ⟨fun _ => trivial, fun _ => rfl⟩⟩
    | error _ =>
      exact ⟨hquiet, .inr ⟨rfl, hstate⟩,
        fun _ => ⟨by intros; contradiction, by intros; contradiction⟩⟩
  · intro hstate
    exact ⟨.refl s, .inr ⟨rfl, rfl⟩, fun h => absurd h hstate⟩

theorem acceptReconnectOffer_spec (s : HostPeerSession) :
    wp (acceptReconnectOffer offerSdp) (fun _ s' => Quiet s s' ∧
      (s'.state = s.state ∨ (s.state = .reconnecting ∨ s.state = .negotiating) ∧
        (s'.state = .reconnecting ∨ s'.state = .negotiating))) s := by
  unfold acceptReconnectOffer
  simp only [wp_bind, wp_get, andThen_ok, wp_require, wp_modify]
  refine ⟨fun hstate => ⟨fun _ => ?_, fun _ => ⟨.refl s, .inl rfl⟩⟩, fun _ => ⟨.refl s, .inl rfl⟩⟩
  have hcall : wp (callNegotiate (.restart offerSdp))
      (fun _ s' => Quiet s s' ∧ s'.state = .reconnecting) { s with state := .reconnecting } :=
    ⟨⟨rfl, rfl, rfl⟩, rfl⟩
  refine wp_mono hcall ?_
  rintro (error | answer) s₁ ⟨hquiet, hstate₁⟩
  · exact ⟨hquiet, .inr ⟨hstate, .inl hstate₁⟩⟩
  · simp only [andThen_ok, wp_bind, wp_require, wp_modify, wp_pure, andThen_error]
    exact ⟨fun _ => ⟨⟨hquiet.sessionId, hquiet.inputAllowed, hquiet.inputs⟩,
      .inr ⟨hstate, .inr trivial⟩⟩, fun _ => ⟨hquiet, .inr ⟨hstate, .inl hstate₁⟩⟩⟩

theorem addRemoteIceCandidate_spec (candidate : PeerIceCandidate) (s : HostPeerSession) :
    wp (addRemoteIceCandidate candidate) (fun _ s' => Quiet s s' ∧ s'.state = s.state) s := by
  unfold addRemoteIceCandidate
  simp only [wp_bind, wp_get, andThen_ok, wp_require]
  exact ⟨fun _ => callPeer_spec _ s, fun _ => ⟨.refl s, rfl⟩⟩

/-! ## Input -/

instance : IsPreorder HostPeerSession Passed where
  refl _ := ⟨rfl, rfl, .inl rfl⟩
  trans s s' s'' h h' := by
    refine ⟨h'.sessionId.trans h.sessionId, h'.inputAllowed.trans h.inputAllowed, ?_⟩
    rcases h'.state with hsame | hclosed
    · rw [hsame]
      exact h.state
    · exact .inr hclosed

theorem Passed.of_quiet (h : Quiet s s') (hstate : s'.state = s.state ∨ s'.state = .closed) :
    Passed s s' :=
  ⟨h.sessionId, h.inputAllowed, hstate⟩

theorem callInput_passed (call : SinkCall) : Keeps Passed (callInput call) :=
  fun _ => ⟨rfl, rfl, .inl rfl⟩

theorem releaseAll_passed : Keeps Passed releaseAll := by
  intro s
  refine wp_mono (releaseAll_spec s) ?_
  rintro _ _ ⟨hquiet, hstate, _⟩
  exact .of_quiet hquiet (.inl hstate)

theorem close_passed : Keeps Passed close := by
  intro s
  refine wp_mono (close_spec s) ?_
  rintro _ _ ⟨hquiet, hstate⟩
  exact .of_quiet hquiet (.inr hstate)

section Traversal

variable {R : HostPeerSession → HostPeerSession → Prop} [IsPreorder HostPeerSession R]

/-- An event writes the pressed sets and calls the sink; what these keep, it keeps. -/
theorem applyReliableEvent_keeps (hkeys : ∀ s keys, R s { s with pressedKeys := keys })
    (hbuttons : ∀ s buttons, R s { s with pressedButtons := buttons })
    (hcall : ∀ call, Keeps R (callInput call)) (hrelease : Keeps R releaseAll)
    (event : ReliableInputEvent) : Keeps R (applyReliableEvent event) := by
  cases event with
  | keyboard action usbHidUsage modifierBits =>
    refine .bind (.bind .orThrow fun action => .bind .ofResult fun _ => .bind .get fun _ => ?_)
      fun _ => .pure _
    cases action with
    | unspecified => exact .throw _
    | down =>
      exact .bind .require fun _ => .bind (.modify fun s => hkeys s _) fun _ => hcall _
    | up => exact .onlyIf (.bind (.modify fun s => hkeys s _) fun _ => hcall _)
  | pointerButton button action x y =>
    refine .bind (.bind .ofResult fun _ => .bind .orThrow fun _ => .bind .orThrow fun action =>
      .bind .get fun _ => ?_) fun _ => .pure _
    cases action with
    | unspecified => exact .throw _
    | down =>
      exact .bind .require fun _ => .bind (.modify fun s => hbuttons s _) fun _ => hcall _
    | up => exact .onlyIf (.bind (.modify fun s => hbuttons s _) fun _ => hcall _)
    | click => exact hcall _
    | doubleClick => exact hcall _
  | text text => exact .bind .require fun _ => .bind (hcall _) fun _ => .pure _
  | releaseAllInput => exact .bind hrelease fun _ => .pure _
  | sessionControl action =>
    refine .bind .orThrow fun action => ?_
    cases action with
    | unspecified => exact .throw _
    | close => exact .pure _
    | emergencyStop => exact .pure _

theorem closeOnInputFailure_keeps {α : Type} {m : SessionM α} (hclose : Keeps R close)
    (h : Keeps R m) : Keeps R (closeOnInputFailure m) := by
  refine .bind (.outcome h) fun result => ?_
  cases result with
  | ok a => exact .pure a
  | error error =>
    exact .bind (.onlyIf (.bind (.outcome hclose) fun _ => .pure _)) fun _ => .throw _

theorem requireInputReady_keeps : Keeps R requireInputReady :=
  .bind .get fun _ => .bind .require fun _ => .require

end Traversal

theorem applyReliableEvent_passed (event : ReliableInputEvent) :
    Keeps Passed (applyReliableEvent event) :=
  applyReliableEvent_keeps (fun _ _ => ⟨rfl, rfl, .inl rfl⟩) (fun _ _ => ⟨rfl, rfl, .inl rfl⟩)
    callInput_passed releaseAll_passed event

variable (decoded : Option PointerFastEnvelope) {α : Type}

variable {m : SessionM α}

theorem closeOnInputFailure_passed (h : Keeps Passed m) :
    Keeps Passed (closeOnInputFailure m) :=
  closeOnInputFailure_keeps close_passed h

/-- Nothing gets past this check in a session that is not ready for input. -/
theorem requireInputReady_spec (s : HostPeerSession) :
    wp requireInputReady (fun r s' => s' = s ∧ (r.isOk ↔ Ready s)) s := by
  unfold requireInputReady
  simp only [wp_bind, wp_get, andThen_ok, wp_require, andThen_error]
  refine ⟨fun hconnected => ⟨fun hallowed => ⟨trivial, ?_⟩, fun hdenied => ⟨trivial, ?_⟩⟩,
    fun hstate => ⟨trivial, ?_⟩⟩
  · exact ⟨fun _ => ⟨hconnected, hallowed⟩, fun _ => rfl⟩
  · exact ⟨(by intros; contradiction), fun h => absurd h.allowed hdenied⟩
  · exact ⟨(by intros; contradiction), fun h => absurd h.connected hstate⟩

/-- What follows the check does not run in a session that is not ready for input. -/
theorem not_ready_spec {m : Unit → SessionM α} (h : ¬ Ready s) :
    wp (requireInputReady >>= m) (fun r s' => s' = s ∧ r.isOk = false) s := by
  rw [wp_bind]
  refine wp_mono (requireInputReady_spec s) ?_
  rintro (error | _) s' ⟨hs, hready⟩
  · exact ⟨hs, rfl⟩
  · exact absurd (hready.mp rfl) h

/-- An envelope of the reliable channel passes a session that is ready for input,
and fails without an effect in any other one. -/
theorem handleReliable_spec (decoded : Option ReliableInputEnvelope) (s : HostPeerSession) :
    wp (handleReliable decoded) (fun r s' => Passed s s' ∧
      (¬ Ready s → s' = s ∧ r.isOk = false)) s := by
  have hpassed : Keeps Passed (handleReliable decoded) := by
    refine .bind requireInputReady_keeps fun _ => .bind .orThrow fun envelope => .bind .get fun _ =>
      .bind .require fun _ => .bind .require fun _ => .bind .orThrow fun event =>
      .bind (closeOnInputFailure_passed (applyReliableEvent_passed event)) fun _ =>
      .bind (.modify fun _ => ⟨rfl, rfl, .inl rfl⟩) fun _ =>
      .bind (.onlyIf close_passed) fun _ => .pure _
  exact ⟨hpassed s, fun h => not_ready_spec h⟩

/-- The same for the fast channel. -/
theorem handlePointerFast_spec (s : HostPeerSession) :
    wp (handlePointerFast decoded) (fun r s' => Passed s s' ∧
      (¬ Ready s → s' = s ∧ r.isOk = false)) s := by
  have hpassed : Keeps Passed (handlePointerFast decoded) := by
    refine .bind requireInputReady_keeps fun _ => .bind .orThrow fun envelope =>
    .bind .get fun _ => .bind .require fun _ =>
      .ite (.pure _) (.bind .orThrow fun event => .bind .ofResult fun call =>
        .bind (closeOnInputFailure_passed (callInput_passed call)) fun _ =>
        .bind (.modify fun _ => ⟨rfl, rfl, .inl rfl⟩) fun _ => .pure _)
  exact ⟨hpassed s, fun h => not_ready_spec h⟩

/-- A failure is what closes the session here. -/
theorem closeOnInputFailure_ok {Q : HostPeerSession → Prop}
    (h : wp m (fun r s' => r.isOk → Q s') s) :
    wp (closeOnInputFailure m) (fun r s' => r.isOk → Q s') s := by
  unfold closeOnInputFailure
  rw [wp_bind, wp_outcome]
  refine wp_mono h ?_
  rintro (error | a) s' hs'
  · simp only [andThen_ok, wp_bind, wp_onlyIf, wp_outcome, wp_throw]
    exact ⟨fun _ => wp_mono (close_spec s') fun _ _ _ hok => absurd hok Bool.false_ne_true,
      fun _ hok => absurd hok Bool.false_ne_true⟩
  · exact fun _ => hs' rfl

/-- An envelope of the fast channel that is applied leaves the state as it is. -/
theorem handlePointerFast_ok (s : HostPeerSession) :
    wp (handlePointerFast decoded) (fun r s' => r.isOk → s'.state = s.state) s := by
  unfold handlePointerFast
  rw [wp_bind]
  refine wp_mono (requireInputReady_spec s) ?_
  rintro (error | _) s' ⟨rfl, _⟩
  · exact fun hok => absurd hok Bool.false_ne_true
  simp only [andThen_ok, wp_bind, wp_orThrow, wp_get, wp_require, wp_ite, wp_pure, andThen_error]
  refine ⟨fun envelope _ => ⟨fun _ => ⟨fun _ _ => trivial, fun _ => ⟨fun event _ => ?_,
    fun _ hok => absurd hok Bool.false_ne_true⟩⟩, fun _ hok => absurd hok Bool.false_ne_true⟩,
    fun _ hok => absurd hok Bool.false_ne_true⟩
  rw [wp_ofResult]
  cases pointerFastCall event with
  | error error => exact fun hok => absurd hok Bool.false_ne_true
  | ok call =>
    rw [andThen_ok, wp_bind]
    have hcall : wp (callInput call) (fun r s'' => r.isOk → s''.state = s'.state) s' :=
      fun _ => rfl
    refine wp_mono (closeOnInputFailure_ok hcall) ?_
    rintro (error | _) s'' hs''
    · exact fun hok => absurd hok Bool.false_ne_true
    · simp only [andThen_ok, wp_bind, wp_modify, wp_pure]
      exact fun _ => hs'' rfl

end HostPeerSession

end Host

end Roammand
